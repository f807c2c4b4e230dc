import Salutation.Proofs.Session.Answers
import Salutation.Proofs.Session.Course

/-!
# Sessions on an output that is too small

The same steps are taken on two terminals that are alike but for their output: on one it has room
for so many bytes, on the other for any number. `session_truncated_by_limit` says that the limit
cuts off what is written there and does nothing else. The bytes written are the first of those
written without a limit, a step fails for want of room where these exceed it, and on the other
streams and in the log nothing shows which of the two terminals it was.

The invariant is `Terminal.Lags`: the room left is the whole room less what the terminal without a
limit has taken so far, be it more than there is room for or not.

## Main definitions

* `Step.Truncates` — what a step comes to on one terminal, beside the other.

## Main statements

* `Terminal.Lags.outcome`, `Terminal.Lags.truncates` — one step.
* `Terminal.Lags.after` — what a session preserves.
* `session_truncated_by_limit` — sessions.
-/
namespace Salutation

open Log (Record Threshold)
open Program (lineBytes)

/-! ## What tells that a text was written whole -/

namespace Activity

/-- Whether an activity is a flush of a stream of output. -/
def isFlush (c : Channel) : Activity → Bool
  | flushed c' _ => c' = c
  | _ => false

variable (c c' : Channel) (s : Sink) (bytes : List UInt8)

/-- A stream is flushed behind a text that was written whole, and only there. -/
theorem any_isFlush_saying :
    (Terminal.saying c' s bytes).any (isFlush c) =
      (decide (c' = c) && (s.shortage? bytes).isNone) := by
  rw [Terminal.saying, Terminal.writing]
  cases s.shortage? bytes with
  | none => split <;> simp [isFlush, Terminal.flushing]
  | some f => split <;> simp [isFlush]

theorem any_isFlush_shown (threshold : Threshold) (record? : Option Record) :
    (Terminal.shown threshold record?).any (isFlush c) = false := by
  rw [Terminal.shown]
  cases record?.filter fun r => threshold.admits r.level <;> rfl

end Activity

namespace Outcome

/-- Whether a step wrote the whole of a text on a stream. It is flushed then, and only then. -/
def completes (c : Channel) (o : Outcome) : Bool := o.terminal.journal.any (·.isFlush c)

end Outcome

/-! ## One step -/

namespace Step

variable (t : Terminal) (step : Step)

theorem any_isFlush_reading (c : Channel) : (step.reading t).any (·.isFlush c) = false := by
  rw [reading]
  split
  · exact Activity.any_isFlush_shown c _ _
  · rfl

theorem any_isFlush_saying (c c' : Channel) :
    (step.saying t c').any (·.isFlush c) =
      (decide (c' = c) &&
        (step.text? t c').any fun text => ((t.sink c').shortage? (lineBytes text)).isNone) := by
  rw [saying]
  cases step.text? t c' with
  | none => simp
  | some text => exact Activity.any_isFlush_saying c c' _ _

/-- A text is written whole where there is room for it. -/
theorem completes_outcome (c : Channel) :
    (step.outcome t).completes c =
      (step.text? t c).any fun text => ((t.sink c).shortage? (lineBytes text)).isNone := by
  rw [Outcome.completes, journal_outcome, List.any_append, List.any_append, any_isFlush_saying,
    any_isFlush_reading, any_isFlush_saying]
  cases c <;> simp

end Step

/-- A line is never without a byte. -/
theorem length_lineBytes_pos (text : String) : 0 < (lineBytes text).length := by
  rw [Program.lineBytes, List.length_append]
  exact Nat.lt_of_lt_of_le Nat.zero_lt_one (Nat.le_add_left 1 _)

/-! ## One step on two terminals -/

/-- Two terminals that are alike but for their output, where one has a limit and the other has none,
after so many bytes were written on the latter. -/
structure Terminal.Lags (limit : Limit) (total : Nat) (t free : Terminal) : Prop where
  source_eq : t.source = free.source
  err_eq : t.err = free.err
  threshold_eq : t.threshold = free.threshold
  limit?_eq : t.out.limit? = some { limit with room := limit.room - total }
  limit?_free_eq : free.out.limit? = none
  flushFault?_eq : t.out.flushFault? = free.out.flushFault?

/-- What a step comes to on an output with a limit, beside what it comes to on one without, where
`total` bytes have been written on the latter up to the end of the step. -/
structure Step.Truncates (limit : Limit) (total : Nat) (step : Step) (o free : Outcome) : Prop where
  /-- On the other streams and in the log nothing differs. -/
  elsewhere_eq : o.elsewhere .out = free.elsewhere .out
  /-- What is left of the source does not differ, to the last event. -/
  source_eq : o.terminal.source = free.terminal.source
  /-- A text is written whole where there is room for all that was to be written by then. -/
  completes_eq : o.completes .out = (free.completes .out && decide (total ≤ limit.room))
  /-- Elsewhere the step fails for want of room. -/
  answer_eq : o.answer =
    if free.completes .out ∧ limit.room < total then
      step.refused (limit.refusal?.getD .nothingTaken)
    else free.answer

namespace Terminal.Lags

variable {limit : Limit} {total : Nat} {t free : Terminal} (h : Lags limit total t free)
include h

theorem line_eq : t.source.line = free.source.line := congrArg Source.line h.source_eq

theorem written_outcome (step : Step) :
    (step.outcome t).written .out =
      ((step.outcome free).written .out).take (limit.room - total) := by
  rw [Step.written_outcome, Step.written_outcome, step.text?_congr h.err_eq h.line_eq]
  cases step.text? free .out with
  | none => exact List.take_nil.symm
  | some text =>
    have hfree := Sink.accepted_of_unlimited (lineBytes text) h.limit?_free_eq
    have hlimited := Sink.accepted_of_limit (lineBytes text) h.limit?_eq
    simp only [sink_out, hfree, hlimited]

theorem source_outcome (step : Step) :
    (step.outcome t).terminal.source = (step.outcome free).terminal.source := by
  rw [Step.source_outcome, Step.source_outcome, step.reads_congr h.err_eq, h.source_eq]

theorem elsewhere_outcome (step : Step) :
    (step.outcome t).elsewhere .out = (step.outcome free).elsewhere .out := by
  have hsaying : step.saying t .err = step.saying free .err := by
    rw [Step.saying, Step.saying, step.text?_congr h.err_eq h.line_eq, sink_err, sink_err,
      h.err_eq]
  have hreading : step.reading t = step.reading free := by
    rw [Step.reading, Step.reading, step.reads_congr h.err_eq, h.source_eq, h.threshold_eq]
  rw [Step.elsewhere_outcome, Step.elsewhere_outcome, hsaying, hreading]
  rfl

/-- **What a step preserves**: the terminal with the limit lags behind by what it did not write. -/
theorem outcome {step : Step} (hstep : step.replacement? .out = none) :
    Lags limit (total + ((step.outcome free).written .out).length) (step.outcome t).terminal
      (step.outcome free).terminal := by
  have htext := step.text?_congr h.err_eq h.line_eq .out
  have hout := step.sink_outcome t .out
  have hfree := step.sink_outcome free .out
  rw [hstep, htext, sink_out, sink_out] at hout
  rw [hstep, sink_out, sink_out] at hfree
  refine ⟨?_, ?_, ?_, ?_, ?_, ?_⟩
  · exact h.source_outcome step
  · have herr := step.sink_outcome t .err
    rw [step.text?_congr h.err_eq h.line_eq, sink_err, sink_err, h.err_eq] at herr
    exact herr.trans (step.sink_outcome free .err).symm
  · rw [Step.threshold_outcome, Step.threshold_outcome, h.threshold_eq]
  · rw [hout, Step.written_outcome]
    cases step.text? free .out with
    | none => exact h.limit?_eq
    | some text =>
      have hwritten := Sink.accepted_of_unlimited (lineBytes text) h.limit?_free_eq
      simp only [sink_out, hwritten, Sink.limit?_offered, h.limit?_eq, Option.map_some,
        Nat.sub_sub]
  · rw [hfree]
    cases step.text? free .out with
    | none => exact h.limit?_free_eq
    | some text => simp only [Sink.limit?_offered, h.limit?_free_eq, Option.map_none]
  · rw [hout, hfree]
    cases step.text? free .out with
    | none => exact h.flushFault?_eq
    | some text => simp only [Sink.flushFault?_offered, h.flushFault?_eq]

/-- A text falls short on the output with a limit where all that was to be written exceeds it. -/
theorem shortage?_out {bytes : List UInt8} (hbytes : 0 < bytes.length) :
    t.out.shortage? bytes =
      if limit.room < total + bytes.length then some (limit.refusal?.getD .nothingTaken)
      else none := by
  have hroom : bytes.length ≤ limit.room - total ↔ ¬ limit.room < total + bytes.length := by omega
  rw [Sink.shortage?_of_limit bytes h.limit?_eq]
  simp only [hroom, ite_not]

theorem completes_outcome (step : Step) :
    (step.outcome t).completes .out =
      ((step.outcome free).completes .out &&
        decide (total + ((step.outcome free).written .out).length ≤ limit.room)) := by
  rw [Step.completes_outcome, Step.completes_outcome, Step.written_outcome,
    step.text?_congr h.err_eq h.line_eq]
  cases step.text? free .out with
  | none => rfl
  | some text =>
    have hfree := Sink.shortage?_of_unlimited (lineBytes text) h.limit?_free_eq
    have hwritten := Sink.accepted_of_unlimited (lineBytes text) h.limit?_free_eq
    simp only [Option.any_some, sink_out, hfree, hwritten,
      h.shortage?_out (length_lineBytes_pos text)]
    by_cases hexceeds : limit.room < total + (lineBytes text).length
    · simp [hexceeds]
    · simp [hexceeds, Nat.le_of_not_lt hexceeds]

theorem answer_outcome (step : Step) :
    (step.outcome t).answer =
      if (step.outcome free).completes .out ∧
          limit.room < total + ((step.outcome free).written .out).length then
        step.refused (limit.refusal?.getD .nothingTaken)
      else (step.outcome free).answer := by
  have htext := step.text?_congr h.err_eq h.line_eq .out
  rw [Step.completes_outcome, Step.written_outcome]
  cases hsays : step.text? free .out with
  | none =>
    -- Without a text for the output a step does not look at it.
    rw [Option.any_none, if_neg (fun hcuts => Bool.false_ne_true hcuts.1)]
    exact step.answer_outcome_congr h.err_eq h.source_eq (htext.trans hsays)
  | some text =>
    have hfree := Sink.shortage?_of_unlimited (lineBytes text) h.limit?_free_eq
    have hwritten := Sink.accepted_of_unlimited (lineBytes text) h.limit?_free_eq
    rw [step.answer_outcome_of_text? t (htext.trans hsays), step.answer_outcome_of_text? free hsays]
    simp only [Sink.lineFault?, Option.any_some, sink_out, hfree, hwritten, h.flushFault?_eq,
      h.shortage?_out (length_lineBytes_pos text)]
    by_cases hexceeds : limit.room < total + (lineBytes text).length
    · simp [hexceeds]
    · simp [hexceeds]

/-- **What a step comes to** on the two terminals. -/
theorem truncates (step : Step) :
    step.Truncates limit (total + ((step.outcome free).written .out).length) (step.outcome t)
      (step.outcome free) :=
  ⟨h.elsewhere_outcome step, h.source_outcome step, h.completes_outcome step, h.answer_outcome step⟩

/-- **What a session preserves**: the terminal with the limit still lags behind, and it has written
the first of what the other one has. -/
theorem after {steps : List Step} (hsteps : ∀ step ∈ steps, step.replacement? .out = none) :
    transcript .out (session t steps) =
      (transcript .out (session free steps)).take (limit.room - total) ∧
    Lags limit (total + (transcript .out (session free steps)).length)
      (leaving t (session t steps)) (leaving free (session free steps)) := by
  induction steps generalizing total t free with
  | nil => exact ⟨List.take_nil.symm, h⟩
  | cons step steps ih =>
    have hwritten := h.written_outcome step
    have hstep := h.outcome (hsteps step (List.mem_cons_self ..))
    obtain ⟨htranscript, hlags⟩ :=
      ih hstep fun later hlater => hsteps later (List.mem_cons_of_mem _ hlater)
    simp only [session, transcript_cons, leaving_cons]
    refine ⟨?_, ?_⟩
    · rw [hwritten, htranscript, List.take_append, Nat.sub_sub]
    · rw [List.length_append, ← Nat.add_assoc]
      exact hlags

end Terminal.Lags

/-! ## Sessions on two terminals -/

/-- The terminal with another limit on its output, or none. -/
def Terminal.limiting (t : Terminal) (limit? : Option Limit) : Terminal :=
  { t with out := { t.out with limit? } }

theorem Terminal.lags_limiting (t : Terminal) (limit : Limit) :
    Lags limit 0 (t.limiting (some limit)) (t.limiting none) :=
  ⟨rfl, rfl, rfl, rfl, rfl, rfl⟩

theorem length_transcript_take_le (c : Channel) (outcomes : List Outcome) {m n : Nat} (h : m ≤ n) :
    (transcript c (outcomes.take m)).length ≤ (transcript c (outcomes.take n)).length := by
  obtain ⟨k, rfl⟩ := Nat.exists_eq_add_of_le h
  rw [List.take_add, transcript_append, List.length_append]
  exact Nat.le_add_right _ _

theorem transcript_take_succ (c : Channel) {outcomes : List Outcome} {n : Nat} {o : Outcome}
    (h : outcomes[n]? = some o) :
    transcript c (outcomes.take (n + 1)) = transcript c (outcomes.take n) ++ o.written c := by
  rw [List.take_add_one, h, transcript_append, Option.toList_some, transcript_cons, transcript_nil,
    List.append_nil]

/-- **A limit on the output cuts off what is written there, and does nothing else.** At every point
the bytes written are the first of those written without a limit, as many as there is room for. Each
step does the same on the other streams and in the log, and leaves the same of the source; its text
is cut off where all the bytes written without a limit up to its end exceed the room, and only then
its answer differs. Behind a text that was cut off no step writes a byte. -/
theorem session_truncated_by_limit (t : Terminal) (limit : Limit) (steps : List Step)
    (hsteps : ∀ step ∈ steps, step.replacement? .out = none) :
    let outcomes := session (t.limiting (some limit)) steps
    let free := session (t.limiting none) steps
    let total (n : Nat) := transcript .out (free.take n)
    (∀ n, transcript .out (outcomes.take n) = (total n).take limit.room) ∧
    (∀ (n : Nat) (step : Step) (o o' : Outcome),
      steps[n]? = some step → outcomes[n]? = some o → free[n]? = some o' →
        step.Truncates limit (total (n + 1)).length o o') ∧
    (∀ (m n : Nat) (o o' later : Outcome),
      outcomes[m]? = some o → free[m]? = some o' → m < n → outcomes[n]? = some later →
        o'.completes .out = true → o.completes .out = false →
          later.completes .out = false ∧ later.written .out = []) := by
  intro outcomes free total
  have hlags := t.lags_limiting limit
  have hearlier : ∀ n, ∀ step ∈ steps.take n, step.replacement? .out = none := fun n step hstep =>
    hsteps step (List.mem_of_mem_take hstep)
  have htake : ∀ n, total n = transcript .out (session (t.limiting none) (steps.take n)) :=
    fun n => congrArg (transcript .out) (take_session _ steps n)
  have hbefore : ∀ n, transcript .out (outcomes.take n) = (total n).take limit.room := by
    intro n
    rw [htake, take_session]
    exact (hlags.after (hearlier n)).1
  have htruncates : ∀ (n : Nat) (step : Step) (o o' : Outcome),
      steps[n]? = some step → outcomes[n]? = some o → free[n]? = some o' →
        step.Truncates limit (total (n + 1)).length o o' := by
    intro n step o o' hstep ho ho'
    have htotal : total (n + 1) = total n ++ o'.written .out := transcript_take_succ .out ho'
    have hafter := (hlags.after (hearlier n)).2.truncates step
    rw [getElem?_session, hstep, Option.map_some, Option.some_inj] at ho ho'
    rw [Nat.zero_add, ho, ho'] at hafter
    rw [htotal, List.length_append, htake]
    exact hafter
  refine ⟨hbefore, htruncates, ?_⟩
  intro m n o o' later ho ho' hmn hlater hcompletes hcut
  -- All that was to be written exceeds the room from the cut on.
  have hexceeds : limit.room < (total (m + 1)).length := by
    have hm : m < steps.length := by
      rw [← length_session (t.limiting (some limit))]
      exact (List.getElem?_eq_some_iff.1 ho).1
    have heq := (htruncates m steps[m] o o' (List.getElem?_eq_getElem hm) ho ho').completes_eq
    rw [hcompletes, hcut, Bool.true_and, eq_comm, decide_eq_false_iff_not] at heq
    exact Nat.lt_of_not_le heq
  have hn : n < steps.length := by
    rw [← length_session (t.limiting (some limit))]
    exact (List.getElem?_eq_some_iff.1 hlater).1
  have hmono : (total (m + 1)).length ≤ (total n).length := length_transcript_take_le .out free hmn
  have hmono' : (total n).length ≤ (total (n + 1)).length :=
    length_transcript_take_le .out free (Nat.le_succ n)
  refine ⟨?_, ?_⟩
  · have hfree : n < free.length := by rwa [length_session]
    rw [(htruncates n steps[n] later free[n] (List.getElem?_eq_getElem hn) hlater
      (List.getElem?_eq_getElem hfree)).completes_eq]
    have : ¬ (total (n + 1)).length ≤ limit.room := by omega
    simp [this]
  · have hlengths := congrArg List.length (transcript_take_succ .out hlater)
    rw [hbefore, hbefore, List.length_append, List.length_take, List.length_take] at hlengths
    rw [← List.length_eq_zero_iff]
    omega

/-- Room for ten bytes ends inside a character of the first greeting, and the notice behind it finds
none. -/
theorem session_truncated_inside_character :
    let t : Terminal := { source := [.chunk [0x5A, 0x6F, 0xC3, 0xAB, 0x0A]] }
    let steps : List Step := [.greet, .announce .out]
    let outcomes := session (t.limiting (some { room := 10 })) steps
    (∀ step ∈ steps, step.replacement? .out = none) ∧
    transcript .out outcomes = [0x48, 0x65, 0x6C, 0x6C, 0x6F, 0x2C, 0x20, 0x5A, 0x6F, 0xC3] ∧
    (∀ o ∈ outcomes[0]?, o.answer = .failed ⟨.greeting, .nothingTaken⟩) ∧
    (∀ o ∈ outcomes[1]?, o.completes .out = false ∧ o.written .out = []) := by
  intro t steps outcomes
  have hsteps : ∀ step ∈ steps, step.replacement? .out = none := by decide
  obtain ⟨hbytes, htruncates, hbehind⟩ := session_truncated_by_limit t { room := 10 } steps hsteps
  refine ⟨hsteps, (hbytes 2).trans (by decide +kernel), ?_, ?_⟩
  · intro o ho
    exact (htruncates 0 .greet o _ rfl ho rfl).answer_eq.trans (by decide +kernel)
  · intro o ho
    exact hbehind 0 1 _ _ o rfl rfl Nat.zero_lt_one ho (by decide +kernel) (by decide +kernel)

end Salutation
