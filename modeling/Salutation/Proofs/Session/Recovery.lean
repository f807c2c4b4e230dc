import Salutation.Proofs.Session.Course
import Salutation.Proofs.Session.Framing
import Salutation.Proofs.Stream.Faults

/-!
# Reading on after faults

A source may fail and go on. A step that meets a lasting fault answers with it and loses the bytes
that it has taken; the next step begins behind the fault, with nothing left over from before. So a
reader that asks again after every failure fails once for each fault ahead of the end of the line,
in their order, and then gets what it would have got had the source begun behind the last of them.
`session_recovers_from_faults` says so of steps that only take names and of whole conversations.

The invariant is `Step.Left`: after so many failures as many faults are gone, and nothing else has
changed that a reader can tell.

## Main statements

* `Step.Persists.outcome_of_faultsAhead` — one step with a fault ahead.
* `Step.Persists.left` — what a number of them leaves.
* `session_recovers_from_faults` — the failures, and the success behind them.
-/
namespace Salutation

open Program (lineBytes)

variable {t t' : Terminal} {step : Step} {f : Fault} {later : List Fault}

/-! ## A step with a fault ahead -/

namespace Step

/-- How a step answers when a fault cuts its line short. -/
def cutShort (f : Fault) : Step → Answer
  | greet => .failed ⟨.naming, f⟩
  | _ => .faulted f

/-- A step gets as far as to take a line, and so does another one like it afterwards. -/
def Persists (t : Terminal) (step : Step) : Prop :=
  step = takeName ∨ step = greet ∧ t.err.Healthy

namespace Persists

theorem reads (h : step.Persists t) : step.reads t = true := by
  obtain rfl | ⟨rfl, herr⟩ := h
  · rfl
  · rw [Step.reads, herr.lineFault?_eq]
    rfl

theorem arrivals_eq (h : step.Persists t) : step.arrivals = [] := by
  obtain rfl | ⟨rfl, -⟩ := h <;> rfl

theorem replacement?_eq (h : step.Persists t) (c : Channel) : step.replacement? c = none := by
  obtain rfl | ⟨rfl, -⟩ := h <;> rfl

theorem threshold?_eq (h : step.Persists t) : step.threshold? = none := by
  obtain rfl | ⟨rfl, -⟩ := h <;> rfl

theorem outcome (h : step.Persists t) : step.Persists (step.outcome t).terminal := by
  obtain rfl | ⟨rfl, herr⟩ := h
  · exact .inl rfl
  · exact .inr ⟨rfl, healthy_outcome t greet (c := .err) herr rfl⟩

/-- A step whose line is cut short says nothing on the stream of output. -/
theorem text?_out_of_fault (h : step.Persists t) (hfault : t.source.line.fault? = some f) :
    step.text? t .out = none := by
  obtain rfl | ⟨rfl, -⟩ := h
  · rfl
  · simp [text?, hfault]

theorem answer_of_fault (h : step.Persists t) (hfault : t.source.line.fault? = some f) :
    (step.outcome t).answer = step.cutShort f := by
  obtain rfl | ⟨rfl, herr⟩ := h
  · rw [outcome_takeName, FlatLine.result_eq t.source.lineFeed_notMem_line, hfault]
    rfl
  · rw [answer_outcome_greet, herr.lineFault?_eq, hfault]
    rfl

/-- **A step that has a fault ahead** answers with the first of them. It takes the bytes before the
fault and goes no further, and neither the log nor the stream of output shows anything of it. -/
theorem outcome_of_faultsAhead (h : step.Persists t) (hahead : t.source.faultsAhead = f :: later) :
    let o := step.outcome t
    o.answer = step.cutShort f ∧ o.taken = t.source.beforeFault.bytes ∧ o.records = [] ∧
      o.elsewhere .out = o.terminal.journal ∧ o.terminal.source = t.source.behindFault := by
  obtain ⟨hreading, -⟩ := Source.readLine_of_faultsAhead hahead
  obtain ⟨htaken, hfault, -⟩ := t.source.readLine_line
  rw [hreading] at htaken hfault
  have htext := h.text?_out_of_fault hfault.symm
  refine ⟨h.answer_of_fault hfault.symm, ?_, ?_, ?_, ?_⟩
  · rw [taken_outcome, if_pos h.reads, ← htaken]
  · rw [records_outcome, if_pos h.reads, FlatLine.record?_of_fault hfault.symm]
    rfl
  · rw [elsewhere_outcome, journal_outcome, saying, saying, htext]
    rfl
  · rw [source_outcome, if_pos h.reads, hreading, h.arrivals_eq, List.append_nil]

end Persists

/-! ## Any number of them -/

/-- What so many steps that met a fault leave of a terminal. -/
structure Left (step : Step) (t : Terminal) (n : Nat) (t' : Terminal) : Prop where
  source_eq : t'.source = Source.behindFault^[n] t.source
  faultsAhead_eq : t'.source.faultsAhead = t.source.faultsAhead.drop n
  threshold_eq : t'.threshold = t.threshold
  healthy : ∀ c, (t.sink c).Healthy → (t'.sink c).Healthy
  /-- Steps that only take names leave the sinks as they are. -/
  sink_eq : step = takeName → ∀ c, t'.sink c = t.sink c

/-- **What a number of steps leaves** that is no greater than that of the faults ahead. -/
theorem Persists.left (h : step.Persists t) {n : Nat} (hn : n ≤ t.source.faultsAhead.length) :
    step.Persists (leaving t (session t (List.replicate n step))) ∧
      step.Left t n (leaving t (session t (List.replicate n step))) := by
  induction n generalizing t with
  | zero => exact ⟨h, ⟨rfl, rfl, rfl, fun _ hc => hc, fun _ _ => rfl⟩⟩
  | succ n ih =>
    obtain ⟨f, later, hahead⟩ := List.exists_cons_of_length_pos (Nat.lt_of_lt_of_le n.succ_pos hn)
    obtain ⟨-, hlater⟩ := Source.readLine_of_faultsAhead hahead
    obtain ⟨-, -, -, -, hsource⟩ := h.outcome_of_faultsAhead hahead
    have hn' : n ≤ (step.outcome t).terminal.source.faultsAhead.length := by
      rw [hahead, List.length_cons] at hn
      rw [hsource, hlater]
      exact Nat.le_of_succ_le_succ hn
    obtain ⟨hpersists, hleft⟩ := ih h.outcome hn'
    rw [List.replicate_succ, session, leaving_cons]
    refine ⟨hpersists, ?_, ?_, ?_, ?_, ?_⟩
    · rw [hleft.source_eq, hsource, Function.iterate_succ_apply]
    · rw [hleft.faultsAhead_eq, hsource, hlater, hahead, List.drop_succ_cons]
    · rw [hleft.threshold_eq, threshold_outcome, h.threshold?_eq]
      rfl
    · intro c hc
      exact hleft.healthy c (healthy_outcome t step hc (h.replacement?_eq c))
    · intro hstep c
      subst hstep
      rw [hleft.sink_eq rfl, sink_outcome]
      rfl

/-- **Each failure is that of one fault**: the first step meets the first of the faults ahead, the
next one the next, and each of them loses the bytes since the one before. -/
theorem Persists.outcome_of_getElem? (h : step.Persists t) {n : Nat} {o : Outcome}
    (hf : t.source.faultsAhead[n]? = some f)
    (ho : (session t (List.replicate t.source.faultsAhead.length step))[n]? = some o) :
    o.answer = step.cutShort f ∧ o.taken = (Source.behindFault^[n] t.source).beforeFault.bytes ∧
      o.records = [] ∧ o.elsewhere .out = o.terminal.journal := by
  obtain ⟨hn, -⟩ := List.getElem?_eq_some_iff.1 hf
  obtain ⟨hpersists, hleft⟩ := h.left hn.le
  have hahead : (leaving t (session t (List.replicate n step))).source.faultsAhead =
      f :: t.source.faultsAhead.drop (n + 1) := by
    rw [hleft.faultsAhead_eq, List.drop_eq_getElem?_toList_append, hf]
    rfl
  rw [getElem?_session, List.getElem?_replicate_of_lt hn, Option.map_some, Option.some_inj,
    List.take_replicate, Nat.min_eq_left hn.le] at ho
  obtain ⟨hanswer, htaken, hrecords, helsewhere, -⟩ := hpersists.outcome_of_faultsAhead hahead
  rw [ho] at hanswer htaken hrecords helsewhere
  rw [hleft.source_eq] at htaken
  exact ⟨hanswer, htaken, hrecords, helsewhere⟩

/-! ## The step behind the last of them -/

/-- A line without a fault ahead has a name. -/
theorem result_of_faultsAhead (h : t.source.faultsAhead = []) :
    t.source.line.result = .ok t.person := by
  have hfault := Source.fault?_readLine_of_faultsAhead h
  rw [t.source.readLine_line.2.1] at hfault
  rw [FlatLine.result_eq t.source.lineFeed_notMem_line, hfault]
  rfl

/-- A line that has ended before any byte is that of a user who gives no name. -/
theorem person_of_ended
    (h : t.source.flat = [] ∨ ∃ rest, t.source.flat = .pause :: rest) : t.person = anonymous := by
  have htaken : t.source.line.taken = [] := by
    obtain hflat | ⟨rest, hflat⟩ := h
    · rw [Source.line, hflat]
      rfl
    · rw [Source.line, hflat, FlatLine.ofSigns_stop_cons (show Sign.pause.ending? = _ from rfl)]
      rfl
  exact if_pos htaken

/-- What a line leaves in the journal where a healthy sink takes it. -/
theorem saying_of_healthy {s : Sink} (h : s.Healthy) (c : Channel) (text : String) :
    Terminal.saying c s (lineBytes text) =
      Terminal.writing c (lineBytes text) ++ [.flushed c true] := by
  rw [Terminal.saying, h.accepted_eq, Sink.shortage?_of_unlimited _ h.limit?_eq, if_pos rfl,
    Terminal.flushing, h.flushFault?_eq]
  rfl

/-- Conversations on healthy sinks do the same, whatever sinks these are. -/
theorem outcome_greet_congr (h : ∀ c, (t.sink c).Healthy) (h' : ∀ c, (t'.sink c).Healthy)
    (hsource : t.source = t'.source) (hthreshold : t.threshold = t'.threshold) :
    (greet.outcome t).answer = (greet.outcome t').answer ∧
      (greet.outcome t).terminal.journal = (greet.outcome t').terminal.journal ∧
      (greet.outcome t).terminal.source = (greet.outcome t').terminal.source := by
  have hnotice : t.err.lineFault? (lineBytes notice) = none := (h .err).lineFault?_eq _
  have hnotice' : t'.err.lineFault? (lineBytes notice) = none := (h' .err).lineFault?_eq _
  have hreads : greet.reads t = greet.reads t' := by rw [reads, reads, hnotice, hnotice']
  have hperson : t.person = t'.person := by rw [Terminal.person, Terminal.person, hsource]
  have hgreeting (text : String) :
      t.out.lineFault? (lineBytes text) = t'.out.lineFault? (lineBytes text) := by
    have hout : t.out.Healthy := h .out
    have hout' : t'.out.Healthy := h' .out
    rw [hout.lineFault?_eq, hout'.lineFault?_eq]
  have htext (c : Channel) : greet.text? t c = greet.text? t' c := by
    simp only [text?, hnotice, hnotice', hsource, hperson]
  have hsaying (c : Channel) : greet.saying t c = greet.saying t' c := by
    rw [saying, saying, htext]
    cases greet.text? t' c with
    | none => rfl
    | some text => simp only [saying_of_healthy (h c), saying_of_healthy (h' c)]
  refine ⟨?_, ?_, ?_⟩
  · rw [answer_outcome_greet, answer_outcome_greet, hnotice, hnotice', hsource, hgreeting, hperson]
  · rw [journal_outcome, journal_outcome, hsaying, hsaying, reading, reading, hreads, hsource,
      hthreshold]
  · rw [source_outcome, source_outcome, hreads, hsource]

end Step

/-- **A reader that asks again gets behind the faults.** Steps that take names fail once for each
lasting fault ahead of the end of the line, with these faults in their order. Each of them takes the
bytes since the fault before, which are in no name, and shows no record. The next step succeeds, and
it does what it would do on the source behind the last of the faults: with no byte there before an
end of the stream, it answers with the default name. On healthy sinks the same holds of
conversations, and those that fail leave the stream of output alone. -/
theorem session_recovers_from_faults (t : Terminal) :
    let faults := t.source.faultsAhead
    let behind (n : Nat) := Source.behindFault^[n] t.source
    let fresh : Terminal := { t with source := behind faults.length }
    let readings := session t (List.replicate faults.length .takeName)
    let conversations := session t (List.replicate faults.length .greet)
    ((∀ (n : Nat) (f : Fault) (o : Outcome), faults[n]? = some f → readings[n]? = some o →
        o.answer = .faulted f ∧ o.taken = (behind n).beforeFault.bytes ∧ o.records = []) ∧
      Step.takeName.outcome (leaving t readings) = Step.takeName.outcome fresh ∧
      (Step.takeName.outcome fresh).answer = .text fresh.person ∧
      (fresh.source.flat = [] ∨ (∃ rest, fresh.source.flat = .pause :: rest) →
        fresh.person = anonymous)) ∧
    ((∀ c, (t.sink c).Healthy) →
      (∀ (n : Nat) (f : Fault) (o : Outcome), faults[n]? = some f → conversations[n]? = some o →
        (∃ failure, o.answer = .failed failure ∧ failure.fault = f ∧
          failure.message = "Reading name from stdin failed!" ++ ": " ++ f.text) ∧
        o.taken = (behind n).beforeFault.bytes ∧ o.records = [] ∧
        o.elsewhere .out = o.terminal.journal) ∧
      let o := Step.greet.outcome (leaving t conversations)
      let o' := Step.greet.outcome fresh
      (o.answer = o'.answer ∧ o.terminal.journal = o'.terminal.journal ∧
        o.terminal.source = o'.terminal.source) ∧
      o.answer = .done ∧ o.written .out = lineBytes (salutation fresh.person)) := by
  intro faults behind fresh readings conversations
  have hpersists : Step.takeName.Persists t := .inl rfl
  obtain ⟨-, hleft⟩ := hpersists.left (Nat.le_refl faults.length)
  have hahead : fresh.source.faultsAhead = [] := by
    have hdrop := hleft.faultsAhead_eq
    rw [hleft.source_eq, List.drop_length] at hdrop
    exact hdrop
  have hresult := Step.result_of_faultsAhead hahead
  refine ⟨⟨?_, ?_, ?_, Step.person_of_ended⟩, ?_⟩
  · intro n f o hf ho
    obtain ⟨hanswer, htaken, hrecords, -⟩ := hpersists.outcome_of_getElem? hf ho
    exact ⟨hanswer, htaken, hrecords⟩
  · have hfresh : (leaving t readings).fresh = fresh.fresh := by
      have hout : (leaving t readings).out = t.out := hleft.sink_eq rfl .out
      have herr : (leaving t readings).err = t.err := hleft.sink_eq rfl .err
      rw [Terminal.fresh, hout, herr, hleft.source_eq, hleft.threshold_eq]
      rfl
    rw [Step.outcome_takeName, Step.outcome_takeName, hleft.source_eq, hfresh]
  · rw [Step.outcome_takeName, hresult]
    rfl
  · intro hsinks
    have hpersists : Step.greet.Persists t := .inr ⟨rfl, hsinks .err⟩
    obtain ⟨-, hleft⟩ := hpersists.left (Nat.le_refl faults.length)
    have hleft_sinks : ∀ c, ((leaving t conversations).sink c).Healthy := fun c =>
      hleft.healthy c (hsinks c)
    have hfresh_sinks : ∀ c, (fresh.sink c).Healthy := by
      intro c
      cases c with
      | out => exact hsinks .out
      | err => exact hsinks .err
    obtain ⟨hanswer, hjournal, hsource⟩ :=
      Step.outcome_greet_congr hleft_sinks hfresh_sinks hleft.source_eq hleft.threshold_eq
    obtain ⟨hdone, -, -, hwritten, -⟩ := Step.outcome_greet_of_healthy hfresh_sinks hresult
    refine ⟨?_, ⟨hanswer, hjournal, hsource⟩, hanswer.trans hdone, ?_⟩
    · intro n f o hf ho
      obtain ⟨hcut, htaken, hrecords, helsewhere⟩ := hpersists.outcome_of_getElem? hf ho
      exact ⟨⟨_, hcut, rfl, rfl⟩, htaken, hrecords, helsewhere⟩
    · rw [Outcome.written, hjournal]
      exact hwritten

/-- Two bytes are lost with the first fault, one with the second and none with the third; transient
faults stand beside a lasting one and inside the line that is read. -/
theorem session_recovers_from_three_faults :
    let t : Terminal :=
      { source := [.chunk [0x61, 0x62], .fault (.ofKind .inputOutput),
          .fault (.ofKind .interrupted), .chunk [0x63], .fault (.ofKind .wouldBlock),
          .fault (.ofKind .timedOut), .chunk [0x42, 0x6F], .fault (.ofKind .interrupted),
          .chunk [0x62, 0x0A, 0x64], .fault (.ofKind .brokenPipe)] }
    let conversations := session t (List.replicate 3 .greet)
    (∀ c, (t.sink c).Healthy) ∧
    t.source.faultsAhead = [.ofKind .inputOutput, .ofKind .wouldBlock, .ofKind .timedOut] ∧
    (∀ o ∈ conversations[1]?, o.taken = [0x63] ∧ o.records = []) ∧
    (Step.greet.outcome (leaving t conversations)).written .out = lineBytes "Hello, Bob!" := by
  intro t conversations
  have hsinks : ∀ c, (t.sink c).Healthy := by
    intro c
    cases c <;> exact ⟨rfl, rfl⟩
  obtain ⟨-, hconversations⟩ := session_recovers_from_faults t
  obtain ⟨hfailures, -, -, hwritten⟩ := hconversations hsinks
  refine ⟨hsinks, by decide, ?_, hwritten.trans (by decide +kernel)⟩
  intro o ho
  obtain ⟨-, htaken, hrecords, -⟩ := hfailures 1 (.ofKind .wouldBlock) o (by decide) ho
  exact ⟨htaken, hrecords⟩

end Salutation
