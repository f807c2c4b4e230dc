import Salutation.Proofs.Session.Answers
import Salutation.Proofs.Session.Course

/-!
# What a threshold decides

The threshold of a terminal decides which records are shown, and nothing else: two sessions with
other thresholds, at the beginning or set on the way, do the same on every stream, answer alike and
leave the same. Each step shows at most one record, of what it has read, so that the records of a
step are known from its answer, the bytes that it took and the threshold in force.

## Main definitions

* `Step.hasRead` — whether an answer tells that a name was read.
* `Step.Retuned` — steps that differ in no more than the threshold that they set.
* `Outcome.AlikeButLog` — outcomes that differ in no more than the records shown.

## Main statements

* `Step.records_eq` — the records of a step.
* `threshold_leaving` — the threshold that a step finds.
* `session_alikeButLog` — two sessions with other thresholds.
-/
namespace Salutation

open Log (Record Threshold)
open Program (lineBytes)

/-! ## Records -/

/-- The record of a name is told from the record that there was none by its first letter. -/
theorem nameRead_ne_inputEnded (name : String) : nameRead name ≠ inputEnded := by
  intro h
  have hmessage := congrArg (fun r => r.message.toList.head?) h
  simp [nameRead, inputEnded] at hmessage

namespace Step

/-- Whether the answer of a step tells that it has read a name: it answers with the name, or it is a
conversation that got as far as its greeting. -/
def hasRead (step : Step) (answer : Answer) : Bool :=
  match step, answer with
  | takeName, .text _ => true
  | greet, .done => true
  | greet, .failed failure => failure.stage = .greeting
  | _, _ => false

variable (t : Terminal) (step : Step)

/-- A name was read where a line was taken and no fault cut it short. -/
theorem hasRead_outcome :
    step.hasRead (step.outcome t).answer =
      (step.reads t && t.source.line.fault?.isNone) := by
  cases step with
  | takeName =>
    rw [outcome_takeName, FlatLine.result_eq t.source.lineFeed_notMem_line]
    cases t.source.line.fault? <;> rfl
  | greet =>
    rw [answer_outcome_greet, reads]
    cases t.err.lineFault? (lineBytes notice) with
    | some f => rfl
    | none =>
      cases t.source.line.fault? with
      | some f => rfl
      | none => cases t.out.lineFault? (lineBytes (Salutation.salutation t.person)) <;> rfl
  | _ => rfl

/-- **The records of a step**: one of the name that it read, where the threshold admits it. -/
theorem records_eq :
    (step.outcome t).records =
      if t.threshold.admits .debug && step.hasRead (step.outcome t).answer then
        [if (step.outcome t).taken = [] then inputEnded
          else nameRead (FlatLine.nameOf (step.outcome t).taken)]
      else [] := by
  rw [records_outcome, hasRead_outcome, taken_outcome]
  cases hreads : step.reads t with
  | false => simp
  | true =>
    cases hfault : t.source.line.fault? with
    | some f => simp [FlatLine.record?_of_fault hfault]
    | none =>
      have hlevel : (if t.source.line.taken = [] then inputEnded
          else nameRead (FlatLine.nameOf t.source.line.taken)).level = .debug := by
        split <;> rfl
      rw [FlatLine.record?_eq t.source.lineFeed_notMem_line hfault, Option.filter, hlevel]
      cases t.threshold.admits .debug <;> rfl

end Step

/-- The level of these records is admitted by two thresholds. -/
theorem admits_debug_iff {threshold : Threshold} :
    threshold.admits .debug = true ↔ threshold = .upTo .debug ∨ threshold = .upTo .trace := by
  cases threshold with
  | off => decide
  | upTo level => cases level <;> decide

/-! ## The threshold in force -/

/-- The threshold after some steps: the last that they set, or the one before them. -/
def inForce (threshold : Threshold) (steps : List Step) : Threshold :=
  (steps.filterMap Step.threshold?).getLast?.getD threshold

theorem inForce_cons (threshold : Threshold) (step : Step) (steps : List Step) :
    inForce threshold (step :: steps) = inForce (step.threshold?.getD threshold) steps := by
  rw [inForce, inForce, List.filterMap_cons]
  cases step.threshold? with
  | none => rfl
  | some th => rw [List.getLast?_cons]; rfl

/-- A session leaves the threshold that is in force after its steps. -/
theorem threshold_leaving (t : Terminal) (steps : List Step) :
    (leaving t (session t steps)).threshold = inForce t.threshold steps := by
  induction steps generalizing t with
  | nil => rfl
  | cons step steps ih => rw [session, leaving_cons, ih, Step.threshold_outcome, inForce_cons]

/-! ## Two thresholds -/

namespace Activity

/-- What is left of a journal without its records: what was done on the streams, in order. -/
def trace (journal : List Activity) : List Activity := journal.filter (·.record?.isNone)

@[simp] theorem trace_append (as bs : List Activity) : trace (as ++ bs) = trace as ++ trace bs :=
  List.filter_append as bs

theorem trace_shown (threshold : Threshold) (record? : Option Record) :
    trace (Terminal.shown threshold record?) = [] := by
  rw [Terminal.shown]
  cases record?.filter fun r => threshold.admits r.level <;> rfl

end Activity

/-- What a step did on the streams, in order. -/
def Outcome.trace (o : Outcome) : List Activity := Activity.trace o.terminal.journal

/-- Two terminals with the same source and the same sinks. -/
structure Terminal.AlikeButThreshold (t t' : Terminal) : Prop where
  source_eq : t.source = t'.source
  out_eq : t.out = t'.out
  err_eq : t.err = t'.err

/-- Two outcomes that tell the same, except in the log: the answer, what was done on the streams,
and what is left of the source and of the sinks. -/
structure Outcome.AlikeButLog (o o' : Outcome) : Prop where
  answer_eq : o.answer = o'.answer
  trace_eq : o.trace = o'.trace
  terminal : o.terminal.AlikeButThreshold o'.terminal

/-- Two steps that are the same, or both set a threshold. -/
inductive Step.Retuned : Step → Step → Prop where
  | same (step : Step) : Retuned step step
  | setThreshold (threshold threshold' : Threshold) :
    Retuned (.setThreshold threshold) (.setThreshold threshold')

namespace Terminal.AlikeButThreshold

variable {t t' : Terminal} (h : t.AlikeButThreshold t') (step : Step)
include h

theorem sink_eq (c : Channel) : t.sink c = t'.sink c := by
  cases c with
  | out => exact h.out_eq
  | err => exact h.err_eq

theorem line_eq : t.source.line = t'.source.line := congrArg Source.line h.source_eq

theorem answer_outcome : (step.outcome t).answer = (step.outcome t').answer := by
  cases step with
  | announce c => rw [Step.outcome_announce, Step.outcome_announce, h.sink_eq]
  | takeName => rw [Step.outcome_takeName, Step.outcome_takeName, h.source_eq]
  | greet =>
    rw [Step.answer_outcome_greet, Step.answer_outcome_greet, person, h.err_eq, h.out_eq, h.line_eq]
    rfl
  | _ => rfl

theorem trace_outcome : (step.outcome t).trace = (step.outcome t').trace := by
  have hsaying (c : Channel) : step.saying t c = step.saying t' c := by
    rw [Step.saying, Step.saying, step.text?_congr h.err_eq h.line_eq, h.sink_eq]
  -- The records are the only part of a journal that the threshold has a hand in.
  have hreading : Activity.trace (step.reading t) = Activity.trace (step.reading t') := by
    have htook (line : List UInt8) (shown : List Activity) :
        Activity.trace (.took line :: shown) = .took line :: Activity.trace shown := rfl
    rw [Step.reading, Step.reading, step.reads_congr h.err_eq, h.source_eq]
    split
    · rw [htook, htook, Activity.trace_shown, Activity.trace_shown]
    · rfl
  rw [Outcome.trace, Outcome.trace, Step.journal_outcome, Step.journal_outcome]
  simp only [Activity.trace_append, hsaying, hreading]

theorem sink_outcome (c : Channel) :
    (step.outcome t).terminal.sink c = (step.outcome t').terminal.sink c := by
  rw [Step.sink_outcome, Step.sink_outcome, step.text?_congr h.err_eq h.line_eq, h.sink_eq]

/-- **What a step does** on two terminals with other thresholds. -/
theorem outcome : (step.outcome t).AlikeButLog (step.outcome t') where
  answer_eq := h.answer_outcome step
  trace_eq := h.trace_outcome step
  terminal := by
    refine ⟨?_, h.sink_outcome step .out, h.sink_outcome step .err⟩
    rw [Step.source_outcome, Step.source_outcome, step.reads_congr h.err_eq, h.source_eq]

theorem outcome_of_retuned {step step' : Step} (hstep : step.Retuned step') :
    (step.outcome t).AlikeButLog (step'.outcome t') := by
  cases hstep with
  | same => exact h.outcome step
  | setThreshold threshold threshold' => exact ⟨rfl, rfl, h.source_eq, h.out_eq, h.err_eq⟩

end Terminal.AlikeButThreshold

/-- **Two sessions with other thresholds** differ in no more than the records shown. -/
theorem session_alikeButLog {t t' : Terminal} {steps steps' : List Step}
    (h : t.AlikeButThreshold t') (hsteps : List.Forall₂ Step.Retuned steps steps') :
    List.Forall₂ Outcome.AlikeButLog (session t steps) (session t' steps') := by
  induction hsteps generalizing t t' with
  | nil => exact .nil
  | cons hstep _ ih =>
    have hfirst := h.outcome_of_retuned hstep
    exact .cons hfirst (ih hfirst.terminal)

end Salutation
