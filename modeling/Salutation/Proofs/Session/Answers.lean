import Salutation.Proofs.Session.Traffic

/-!
# What an answer tells

The answer of a step tells how far it got: a conversation that fails at its notice has met a fault
on the stream of errors, one that gets as far as its greeting has read a name, and a step that has a
text for the output answers with what becomes of the text there.

## Main statements

* `Step.answer_outcome_of_text?`, `Step.answer_outcome_congr` — the answer and the output.
* `Step.lineFault?_of_noticing`, `Step.reads_of_ne_noticing` — a conversation and its notice.
* `Step.text?_of_answer` — a conversation and its greeting.
-/
namespace Salutation.Step

open Program (lineBytes)

/-- How a step answers when its text meets a fault on the stream of output. -/
def refused (f : Fault) : Step → Answer
  | greet => .failed ⟨.greeting, f⟩
  | _ => .faulted f

variable (t : Terminal) (step : Step)

/-- A step that has a text for the stream of output answers with the fault that the text meets. -/
theorem answer_outcome_of_text? {text : String} (h : step.text? t .out = some text) :
    (step.outcome t).answer =
      match t.out.lineFault? (lineBytes text) with
      | some f => step.refused f
      | none => .done := by
  cases step with
  | announce c =>
    cases c with
    | out =>
      cases h
      rw [outcome_announce]
      cases hfault : t.out.lineFault? (lineBytes notice) <;>
        simp [Terminal.resultOf, Answer.ofUnit, refused, hfault]
    | err => cases h
  | greet =>
    rw [answer_outcome_greet]
    simp only [text?] at h
    split at h
    · rename_i hstages
      rw [Bool.and_eq_true, Option.isNone_iff_eq_none, Option.isNone_iff_eq_none] at hstages
      cases h
      rw [hstages.1, hstages.2]
      rfl
    · cases h
  | _ => cases h

/-- A step without such a text does not look at the stream of output. -/
theorem answer_outcome_congr {t t' : Terminal} (herr : t.err = t'.err)
    (hsource : t.source = t'.source) (h : step.text? t .out = none) :
    (step.outcome t).answer = (step.outcome t').answer := by
  cases step with
  | announce c =>
    cases c with
    | out => cases h
    | err =>
      rw [outcome_announce, outcome_announce, Terminal.sink_err, Terminal.sink_err, herr]
  | takeName => rw [outcome_takeName, outcome_takeName, hsource]
  | salutation name => rfl
  | greet =>
    rw [answer_outcome_greet, answer_outcome_greet, ← herr, ← hsource]
    simp only [text?] at h
    cases hnotice : t.err.lineFault? (lineBytes notice) with
    | some f => rfl
    | none =>
      cases hread : t.source.line.fault? with
      | some f => rfl
      | none => simp [hnotice, hread] at h
  | feed events => rfl
  | replace c s => rfl
  | setThreshold threshold => rfl

/-- A conversation succeeds or fails. -/
theorem answer_greet_cases :
    (greet.outcome t).answer = .done ∨ ∃ failure, (greet.outcome t).answer = .failed failure := by
  rw [outcome_greet]
  cases t.fresh.conversation.1 with
  | ok value => exact .inl rfl
  | error failure => exact .inr ⟨failure, rfl⟩

/-- The fault of a conversation that fails is that of one of its streams. -/
theorem fault_of_failed {failure : Failure} (h : (greet.outcome t).answer = .failed failure) :
    t.err.lineFault? (lineBytes notice) = some failure.fault ∨
    t.source.line.fault? = some failure.fault ∨
    t.out.lineFault? (lineBytes (Salutation.salutation t.person)) = some failure.fault := by
  rw [answer_outcome_greet] at h
  cases hnotice : t.err.lineFault? (lineBytes notice) with
  | some f =>
    rw [hnotice] at h
    cases h
    exact .inl rfl
  | none =>
    rw [hnotice] at h
    cases hread : t.source.line.fault? with
    | some f =>
      rw [hread] at h
      cases h
      exact .inr (.inl rfl)
    | none =>
      rw [hread] at h
      simp only at h
      split at h
      · rename_i f hgreeting
        cases h
        exact .inr (.inr hgreeting)
      · cases h

/-- A conversation fails at its notice where the stream of errors does not take it. -/
theorem lineFault?_of_noticing {f : Fault} (h : (greet.outcome t).answer = .failed ⟨.noticing, f⟩) :
    t.err.lineFault? (lineBytes notice) = some f := by
  rw [answer_outcome_greet] at h
  cases hnotice : t.err.lineFault? (lineBytes notice) with
  | some g =>
    rw [hnotice] at h
    cases h
    rfl
  | none =>
    cases hread : t.source.line.fault? with
    | some g => simp [hnotice, hread] at h
    | none =>
      rw [hnotice, hread] at h
      simp only at h
      split at h
      · cases h
      · cases h

/-- A conversation reads where it does not fail at its notice. -/
theorem reads_of_ne_noticing (h : ∀ f, (greet.outcome t).answer ≠ .failed ⟨.noticing, f⟩) :
    greet.reads t = true := by
  rw [reads, Option.isNone_iff_eq_none, Option.eq_none_iff_forall_ne_some]
  intro f hf
  apply h f
  rw [answer_outcome_greet, hf]

/-- A conversation that got as far as its greeting says it to the name of the bytes taken. -/
theorem text?_of_answer
    (h : (greet.outcome t).answer = .done ∨
      ∃ f, (greet.outcome t).answer = .failed ⟨.greeting, f⟩) :
    greet.text? t .out = some (Salutation.salutation t.person) ∧
      t.person = FlatLine.nameOf (greet.outcome t).taken := by
  have hstages : t.err.lineFault? (lineBytes notice) = none ∧ t.source.line.fault? = none := by
    rw [answer_outcome_greet] at h
    cases hnotice : t.err.lineFault? (lineBytes notice) with
    | none =>
      cases hread : t.source.line.fault? with
      | none => exact ⟨rfl, rfl⟩
      | some f => simp [hnotice, hread] at h
    | some f => simp [hnotice] at h
  obtain ⟨hnotice, hread⟩ := hstages
  have hreads : greet.reads t = true := by
    rw [reads, hnotice]
    rfl
  refine ⟨?_, ?_⟩
  · rw [text?, hnotice, hread]
    rfl
  · rw [taken_outcome, if_pos hreads]
    rfl

end Salutation.Step
