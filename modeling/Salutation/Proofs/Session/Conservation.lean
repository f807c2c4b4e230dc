import Mathlib.Algebra.GroupWithZero.Nat
import Salutation.Proofs.Session.Answers
import Salutation.Proofs.Session.Course
import Salutation.Proofs.Terminal.Outcome

/-!
# Where the input goes

Input is there before a session and comes in its course, behind ends of the stream and faults too.
Steps take it line by line, and some of them fail before they take anything or after.
`session_conserves_input` says that at every point the bytes supplied are those that the steps took,
in order, and after them those still unread: none is lost, none is taken twice. It says too what a
single step takes, a line or nothing, and that the name it goes on with depends on these bytes
alone.

## Main definitions

* `Step.supply` — the bytes that a step brings.
* `Step.TakesLine` — what the bytes that a step took tell of its outcome.

## Main statements

* `Step.conserves`, `Step.takesLine` — one step, whatever it is and however it ends.
* `session_conserves_input` — sessions.
-/
namespace Salutation

open Program (lineBytes)
open Text.Line (lineFeed)

/-! ## One step -/

/-- What the bytes that a step took tell of its outcome. -/
structure Step.TakesLine (step : Step) (o : Outcome) : Prop where
  /-- Only names and conversations take input. -/
  taken_eq_nil : step ≠ .takeName → step ≠ .greet → o.taken = []
  /-- A line feed is the last byte taken. -/
  lineFeed_notMem : lineFeed ∉ o.taken.dropLast
  /-- A name is that of the bytes taken. -/
  name_eq : step = .takeName → ∀ name, o.answer = .text name → name = FlatLine.nameOf o.taken
  /-- What is written of a greeting is for the name of the bytes taken. -/
  greeting_prefix : step = .greet → (o.answer = .done ∨ ∃ f, o.answer = .failed ⟨.greeting, f⟩) →
    o.written .out <+: lineBytes (Salutation.salutation (FlatLine.nameOf o.taken))
  /-- A conversation that succeeds writes the whole of it. -/
  greeting_eq : step = .greet → o.answer = .done →
    o.written .out = lineBytes (Salutation.salutation (FlatLine.nameOf o.taken))
  /-- A record tells of the bytes taken. -/
  record_eq : ∀ r ∈ o.records,
    r = if o.taken = [] then inputEnded else nameRead (FlatLine.nameOf o.taken)

namespace Step

/-- The bytes that a step brings. -/
def supply (step : Step) : List UInt8 := step.arrivals.bytes

variable (t : Terminal) (step : Step)

/-- **A step loses no byte**: those unread and those that it brings are those that it takes and
those that it leaves unread. -/
theorem conserves :
    t.unread ++ step.supply = (step.outcome t).taken ++ (step.outcome t).terminal.unread := by
  rw [Terminal.unread, Terminal.unread, supply, taken_outcome, source_outcome, Source.bytes_append,
    ← List.append_assoc]
  by_cases hreads : step.reads t = true
  · have hline := t.source.taken_append_bytes_rest
    rw [t.source.readLine_line.1] at hline
    rw [if_pos hreads, if_pos hreads, hline]
  · rw [if_neg hreads, if_neg hreads, List.nil_append]

/-- **What a step says and records of a name comes from the bytes that it took.** -/
theorem takesLine : step.TakesLine (step.outcome t) where
  taken_eq_nil := by
    intro htakeName hgreet
    rw [taken_outcome]
    cases step with
    | takeName => exact absurd rfl htakeName
    | greet => exact absurd rfl hgreet
    | _ => rfl
  lineFeed_notMem := by
    rw [taken_outcome]
    split
    · exact FlatLine.lineFeed_notMem_dropLast_taken t.source.lineFeed_notMem_line
    · exact List.not_mem_nil
  name_eq := by
    rintro rfl name hname
    have hresult : t.source.line.result = .ok name := by
      rw [outcome_takeName] at hname
      cases hline : t.source.line.result with
      | ok name' =>
        rw [hline] at hname
        cases hname
        rfl
      | error f =>
        rw [hline] at hname
        cases hname
    rw [taken_outcome]
    exact (FlatLine.eq_nameOf_of_result t.source.lineFeed_notMem_line hresult).2
  greeting_prefix := by
    rintro rfl hanswer
    obtain ⟨htext, hperson⟩ := text?_of_answer t hanswer
    rw [← hperson, written_outcome, htext]
    exact t.out.accepted_prefix _
  greeting_eq := by
    rintro rfl hdone
    obtain ⟨htext, hperson⟩ := text?_of_answer t (.inl hdone)
    obtain ⟨-, -, hgreeting⟩ := answer_greet_eq_done_iff.1 hdone
    obtain ⟨hfits, -⟩ := Sink.lineFault?_eq_none_iff.1 hgreeting
    rw [← hperson, written_outcome, htext]
    exact Sink.accepted_of_fits hfits
  record_eq := by
    intro r hr
    rw [records_outcome] at hr
    rw [taken_outcome]
    by_cases hreads : step.reads t = true
    · rw [if_pos hreads] at hr ⊢
      have hrecord : t.source.line.record? = some r := by
        rw [Option.mem_toList] at hr
        exact Option.eq_some_of_filter_eq_some hr
      exact FlatLine.eq_of_record? t.source.lineFeed_notMem_line hrecord
    · rw [if_neg hreads] at hr
      cases hr

end Step

/-! ## Sessions -/

/-- A session loses no byte. -/
theorem unread_append_supply (t : Terminal) (steps : List Step) :
    t.unread ++ steps.flatMap Step.supply =
      (session t steps).flatMap Outcome.taken ++ (leaving t (session t steps)).unread := by
  induction steps generalizing t with
  | nil => simp [session]
  | cons step steps ih =>
    rw [session, List.flatMap_cons, List.flatMap_cons, leaving_cons, ← List.append_assoc,
      step.conserves t, List.append_assoc, ih, List.append_assoc]

/-- **A session conserves its input.** At every point the bytes that were unread before it, followed
by those that its steps have brought, are the bytes that the steps have taken, in their order,
followed by those still unread; so the numbers of these bytes agree as well. Each step takes a line
or nothing, and what it says and records of a name comes from the bytes that it took. -/
theorem session_conserves_input (t : Terminal) (steps : List Step) :
    (∀ n,
      let outcomes := (session t steps).take n
      let unread := (leaving t outcomes).unread
      t.unread ++ (steps.take n).flatMap Step.supply = outcomes.flatMap Outcome.taken ++ unread ∧
      t.unread.length + ((steps.take n).map fun step => step.supply.length).sum =
        (outcomes.map fun o => o.taken.length).sum + unread.length) ∧
    List.Forall₂ Step.TakesLine steps (session t steps) := by
  refine ⟨?_, forall₂_session Step.takesLine t steps⟩
  intro n
  have hbytes := unread_append_supply t (steps.take n)
  have hlengths := congrArg List.length hbytes
  rw [List.length_append, List.length_append, List.length_flatMap, List.length_flatMap] at hlengths
  rw [take_session]
  exact ⟨hbytes, hlengths⟩

end Salutation
