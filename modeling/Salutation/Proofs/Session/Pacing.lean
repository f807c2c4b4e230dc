import Salutation.Proofs.Session.Course
import Salutation.Proofs.Session.Traffic
import Salutation.Proofs.Stream.Calls

/-!
# How a text gets to its sink

A line goes to a sink in pieces, and each piece in calls that the sink may interrupt or answer with
a part. None of this is to be seen in what a session does: `writing_ignores_cut` says of the calls
that they take what there is room for and nothing else, however the text is cut, and of sessions
that they are the same on sinks that take it at another pace.

The program itself writes a line as its text and its end. `Cut` is any other way to cut lines, and
`Cut.session` holds the same conversations with lines that are cut so.

## Main definitions

* `Sink.AlikeButPace` — sinks that differ in their stride and their interruptions.
* `Cut`, `Cut.session` — lines in other pieces, and sessions with them.

## Main statements

* `Cut.session_eq` — the pieces of a line are not to be seen in a session.
* `session_alikeButPace` — neither is the pace of a sink.
* `writing_ignores_cut` — both, with what the calls come to.
-/
namespace Salutation

open Log (Record Threshold)
open Program (lineBytes)
open Text (Utf8.encode)
open Text.Line (lineFeed)

/-! ## Lines in other pieces -/

/-- A way to cut lines into pieces, some of them empty perhaps. It may be another one for each line
and at each time. -/
structure Cut where
  pieces : Terminal → Channel → String → List (List UInt8)
  flatten_pieces : ∀ t c text, (pieces t c text).flatten = lineBytes text

namespace Cut

variable (cut : Cut)

/-- Writes a line in the pieces of a cut. -/
def writeLine (c : Channel) (text : String) (t : Terminal) : Except Fault Unit × Terminal :=
  let pieces := cut.pieces t c text
  let delivery := (t.sink c).writeAllOf pieces
  let after := t.withSink c delivery.sink
  (Terminal.resultOf delivery.fault? (),
    if delivery.sent = 0 then after
    else after.noting (.wrote c (pieces.flatten.take delivery.sent)))

/-- A scripted terminal with lines that are cut so. -/
abbrev console : Console (StateM Terminal) where
  writeLine c text := ExceptT.mk (cut.writeLine c text)
  flush c := Console.flush c
  readLine := Console.readLine
  log r := Console.log r

/-- What a step does where lines are cut so. No other steps write a line. -/
def perform : Step → StateM Terminal Answer
  | .announce c =>
    Answer.ofUnit .faulted <$> (@announce (StateM Terminal) inferInstance cut.console c).run
  | .greet => Answer.ofUnit .failed <$> (@greet (StateM Terminal) inferInstance cut.console).run
  | step => step.perform

/-- The outcomes of the steps of a session where lines are cut so. -/
def session (t : Terminal) : List Step → List Outcome
  | [] => []
  | step :: steps =>
    let (answer, terminal) := (cut.perform step).run { t with journal := [] }
    ⟨answer, terminal⟩ :: session terminal steps

/-- A line comes to the same in any pieces. -/
theorem writeLine_eq : cut.writeLine = Terminal.writeLine := by
  funext c text t
  have hcut := (t.sink c).writeAllOf_delivers (cut.pieces t c text)
  have hplain := (t.sink c).writeAllOf_delivers [Utf8.encode text, [lineFeed]]
  have hpieces : [Utf8.encode text, [lineFeed]].flatten = lineBytes text := by simp [lineBytes]
  rw [cut.flatten_pieces] at hcut
  rw [hpieces] at hplain
  simp only [writeLine, Terminal.writeLine, hcut.fault?_eq, hcut.sink_eq, hcut.sent_eq,
    hplain.fault?_eq, hplain.sink_eq, hplain.sent_eq, hpieces, cut.flatten_pieces]

theorem console_eq : cut.console = (inferInstance : Console (StateM Terminal)) := by
  rw [console, writeLine_eq]
  rfl

theorem perform_eq (step : Step) : cut.perform step = step.perform := by
  cases step with
  | announce c => rw [perform, console_eq]; rfl
  | greet => rw [perform, console_eq]; rfl
  | _ => rfl

/-- **A session is the same in any pieces.** -/
theorem session_eq (t : Terminal) (steps : List Step) :
    cut.session t steps = Salutation.session t steps := by
  induction steps generalizing t with
  | nil => rfl
  | cons step steps ih =>
    rw [session, Salutation.session, perform_eq]
    exact congrArg _ (ih _)

end Cut

/-! ## Sinks at another pace -/

/-- Two sinks with the same room and the same faults. One may take fewer bytes at a time than the
other, or be interrupted more often. -/
structure Sink.AlikeButPace (s s' : Sink) : Prop where
  limit?_eq : s.limit? = s'.limit?
  flushFault?_eq : s.flushFault? = s'.flushFault?

namespace Sink.AlikeButPace

variable {s s' : Sink} (h : s.AlikeButPace s') (bytes : List UInt8)
include h

theorem accepted_eq : s.accepted bytes = s'.accepted bytes := by
  rw [accepted, accepted, h.limit?_eq]

theorem shortage?_eq : s.shortage? bytes = s'.shortage? bytes := by
  rw [shortage?, shortage?, h.limit?_eq]

theorem lineFault?_eq : s.lineFault? bytes = s'.lineFault? bytes := by
  rw [lineFault?, lineFault?, h.shortage?_eq, h.flushFault?_eq]

theorem saying_eq (c : Channel) : Terminal.saying c s bytes = Terminal.saying c s' bytes := by
  rw [Terminal.saying, Terminal.saying, Terminal.flushing, Terminal.flushing, h.accepted_eq,
    h.shortage?_eq, h.flushFault?_eq]

/-- They stay alike with everything that is written to both. -/
theorem offered : (s.offered bytes).AlikeButPace (s'.offered bytes) := by
  refine ⟨?_, ?_⟩
  · rw [limit?_offered, limit?_offered, h.limit?_eq]
  · rw [flushFault?_offered, flushFault?_offered, h.flushFault?_eq]

end Sink.AlikeButPace

theorem Sink.alikeButPace_refl (s : Sink) : s.AlikeButPace s := ⟨rfl, rfl⟩

/-- Two terminals that are alike but for the pace of their sinks and what has been noted. -/
structure Terminal.AlikeButPace (t t' : Terminal) : Prop where
  source_eq : t.source = t'.source
  threshold_eq : t.threshold = t'.threshold
  sink : ∀ c, (t.sink c).AlikeButPace (t'.sink c)

/-- Two outcomes that are the same but for the pace of the sinks that are left: the answer, what
was done on the streams with the records between, and what is left of the source. -/
structure Outcome.AlikeButPace (o o' : Outcome) : Prop where
  answer_eq : o.answer = o'.answer
  journal_eq : o.terminal.journal = o'.terminal.journal
  terminal : o.terminal.AlikeButPace o'.terminal

/-- Two steps that are the same, or put sinks in the place of one that differ in their pace. -/
inductive Step.Repaced : Step → Step → Prop where
  | same (step : Step) : Repaced step step
  | replace (c : Channel) {s s' : Sink} (h : s.AlikeButPace s') :
      Repaced (.replace c s) (.replace c s')

namespace Terminal.AlikeButPace

variable {t t' : Terminal} (h : t.AlikeButPace t') (step : Step)
include h

theorem line_eq : t.source.line = t'.source.line := congrArg Source.line h.source_eq

theorem notice_eq :
    t.err.lineFault? (lineBytes notice) = t'.err.lineFault? (lineBytes notice) :=
  (h.sink .err).lineFault?_eq (lineBytes notice)

theorem text?_eq (c : Channel) : step.text? t c = step.text? t' c :=
  step.text?_congr_of_lineFault? h.notice_eq h.line_eq c

theorem answer_outcome : (step.outcome t).answer = (step.outcome t').answer := by
  cases step with
  | announce c =>
    rw [Step.outcome_announce, Step.outcome_announce, (h.sink c).lineFault?_eq]
  | takeName => rw [Step.answer_outcome_takeName, Step.answer_outcome_takeName, h.source_eq]
  | greet =>
    have hperson : t.person = t'.person := by rw [person, person, h.line_eq]
    have hgreeting := (h.sink .out).lineFault?_eq (lineBytes (Salutation.salutation t'.person))
    rw [sink_out, sink_out] at hgreeting
    rw [Step.answer_outcome_greet, Step.answer_outcome_greet, h.notice_eq, h.line_eq, hperson,
      hgreeting]
  | _ => rfl

theorem journal_outcome :
    (step.outcome t).terminal.journal = (step.outcome t').terminal.journal := by
  have hsaying (c : Channel) : step.saying t c = step.saying t' c := by
    rw [Step.saying, Step.saying, h.text?_eq]
    cases step.text? t' c with
    | none => rfl
    | some text => exact (h.sink c).saying_eq (lineBytes text) c
  have hreading : step.reading t = step.reading t' := by
    rw [Step.reading, Step.reading, step.reads_congr_of_lineFault? h.notice_eq, h.source_eq,
      h.threshold_eq]
  rw [Step.journal_outcome, Step.journal_outcome, hsaying, hsaying, hreading]

theorem sink_outcome (c : Channel) :
    ((step.outcome t).terminal.sink c).AlikeButPace ((step.outcome t').terminal.sink c) := by
  rw [Step.sink_outcome, Step.sink_outcome, h.text?_eq]
  cases step.replacement? c with
  | some s => exact s.alikeButPace_refl
  | none =>
    cases step.text? t' c with
    | none => exact h.sink c
    | some text => exact (h.sink c).offered (lineBytes text)

/-- **What a step does** on two terminals whose sinks have another pace. -/
theorem outcome : (step.outcome t).AlikeButPace (step.outcome t') where
  answer_eq := h.answer_outcome step
  journal_eq := h.journal_outcome step
  terminal := by
    refine ⟨?_, ?_, h.sink_outcome step⟩
    · rw [Step.source_outcome, Step.source_outcome, step.reads_congr_of_lineFault? h.notice_eq,
        h.source_eq]
    · rw [Step.threshold_outcome, Step.threshold_outcome, h.threshold_eq]

theorem outcome_of_repaced {step step' : Step} (hstep : step.Repaced step') :
    (step.outcome t).AlikeButPace (step'.outcome t') := by
  cases hstep with
  | same => exact h.outcome step
  | @replace c s s' hs =>
    -- The other sink stays in its place.
    have hsink (c' : Channel) : (((Step.replace c s).outcome t).terminal.sink c').AlikeButPace
        (((Step.replace c s').outcome t').terminal.sink c') := by
      rw [Step.sink_outcome, Step.sink_outcome]
      by_cases hc : c = c'
      · simpa [Step.replacement?, hc] using hs
      · simpa [Step.replacement?, Step.text?, hc] using h.sink c'
    refine ⟨rfl, ?_, ⟨?_, ?_, hsink⟩⟩
    · rw [Step.journal_outcome, Step.journal_outcome]
      rfl
    · rw [Step.source_outcome, Step.source_outcome]
      exact congrArg (· ++ []) h.source_eq
    · rw [Step.threshold_outcome, Step.threshold_outcome]
      exact h.threshold_eq

end Terminal.AlikeButPace

/-- **Two sessions on sinks of another pace** are the same. -/
theorem session_alikeButPace {t t' : Terminal} {steps steps' : List Step} (h : t.AlikeButPace t')
    (hsteps : List.Forall₂ Step.Repaced steps steps') :
    List.Forall₂ Outcome.AlikeButPace (session t steps) (session t' steps') := by
  induction hsteps generalizing t t' with
  | nil => exact .nil
  | cons hstep _ ih =>
    have hfirst := h.outcome_of_repaced hstep
    exact .cons hfirst (ih hfirst.terminal)

/-! ## Both -/

/-- **The way in which a text is written is not to be seen.** However a text is cut into pieces,
writing them one after the other comes to an end, and the calls take the first of its bytes that
there is room for; it succeeds where there is room for all of them, and elsewhere ends with the
fault of the sink, or with that of a call that takes nothing. There are no more calls than
interruptions and bytes, and the room is less by the bytes taken. Two sessions whose lines are cut
in other ways, on sinks that take them in other parts or are interrupted elsewhere, have the same
answers and do the same on every stream. -/
theorem writing_ignores_cut :
    (∀ (s : Sink) (pieces : List (List UInt8)),
      let text := pieces.flatten
      (∃ calls fault? last, s.WritesPieces pieces calls fault? last) ∧
      ∀ (calls : List Call) (fault? : Option Fault) (last : Sink),
        s.WritesPieces pieces calls fault? last →
          let taken := Sink.takenBy calls
          s.writeAllOf pieces = ⟨taken.length, calls.length, fault?, last⟩ ∧
          calls.length ≤ s.interrupts + text.length ∧
          match s.limit? with
          | none => taken = text ∧ fault? = none ∧ last.limit? = none
          | some limit =>
            taken = text.take (min limit.room text.length) ∧
            (fault? = none ↔ text.length ≤ limit.room) ∧
            (limit.room < text.length → fault? =
              some (limit.refusal?.getD ⟨.writeZero, "failed to write whole buffer"⟩)) ∧
            last.limit? = some { limit with room := limit.room - taken.length }) ∧
    (∀ (cut : Cut) (t : Terminal) (steps : List Step), cut.session t steps = session t steps) ∧
    ∀ (t t' : Terminal) (steps steps' : List Step),
      t.AlikeButPace t' → List.Forall₂ Step.Repaced steps steps' →
        List.Forall₂ Outcome.AlikeButPace (session t steps) (session t' steps') := by
  refine ⟨?_, Cut.session_eq, fun t t' steps steps' => session_alikeButPace⟩
  · intro s pieces text
    refine ⟨s.exists_writesPieces pieces, ?_⟩
    intro calls fault? last hwrites taken
    have hdelivers := s.writeAllOf_delivers pieces
    have htaken : taken = s.accepted text := hwrites.takenBy_eq
    rw [hwrites.writeAllOf_eq] at hdelivers
    have hfault : fault? = s.shortage? text := hdelivers.fault?_eq
    have hlast : last.limit? = _ := hdelivers.sink_eq ▸ s.limit?_offered text
    refine ⟨hwrites.writeAllOf_eq, ?_, ?_⟩
    · have hcalls : calls.length + last.interrupts ≤ 0 + s.interrupts + text.length :=
        hdelivers.calls_le
      omega
    · rw [htaken, hfault, hlast]
      cases hlimit : s.limit? with
      | none =>
        exact ⟨Sink.accepted_of_unlimited text hlimit, Sink.shortage?_of_unlimited text hlimit, rfl⟩
      | some limit =>
        have hroom : limit.room - text.length = limit.room - min limit.room text.length := by omega
        rw [Sink.accepted_of_limit text hlimit, Sink.shortage?_of_limit text hlimit]
        refine ⟨List.take_eq_take_min, ?_, ?_, ?_⟩
        · simp
        · intro hshort
          exact if_neg (Nat.not_le.2 hshort)
        · rw [List.length_take, Option.map_some, hroom]

/-- A sink with little room that is interrupted and takes two bytes at a time, and one with the same
room that takes them at once. -/
theorem writing_ignores_cut_of_trickle :
    let s : Sink :=
      { limit? := some { room := 4, refusal? := some .pipeBroken }, stride? := some 2
        interrupts := 1 }
    let s' : Sink := { limit? := s.limit? }
    let t : Terminal := { source := [.chunk [0x41, 0x0A]], out := s }
    let t' : Terminal := { t with out := s' }
    (∀ (calls : List Call) (fault? : Option Fault) (last : Sink),
      s.WritesPieces [[1], [], [2, 3, 4, 5, 6]] calls fault? last →
        Sink.takenBy calls = [1, 2, 3, 4] ∧ fault? = some .pipeBroken ∧ calls.length ≤ 7) ∧
    t.AlikeButPace t' ∧
    List.Forall₂ Outcome.AlikeButPace (session t [.greet, .replace .out s', .announce .out])
      (session t' [.greet, .replace .out s, .announce .out]) := by
  intro s s' t t'
  obtain ⟨hwrites, -, hsessions⟩ := writing_ignores_cut
  have hsinks : s.AlikeButPace s' := ⟨rfl, rfl⟩
  have hterminals : t.AlikeButPace t' := by
    refine ⟨rfl, rfl, ?_⟩
    intro c
    cases c with
    | out => exact hsinks
    | err => exact Sink.alikeButPace_refl _
  refine ⟨?_, hterminals, ?_⟩
  · intro calls fault? last h
    obtain ⟨-, hcalls, htaken, -, hfault, -⟩ := (hwrites s _).2 calls fault? last h
    exact ⟨htaken, hfault (by decide), hcalls⟩
  · apply hsessions t t' _ _ hterminals
    exact .cons (.same _) (.cons (.replace _ ⟨rfl, rfl⟩) (.cons (.same _) .nil))

end Salutation
