import Mathlib.Data.List.Forall2
import Salutation.Session

/-!
# The course of a session

What came before a point of a session is a session itself, and it leaves the terminal that the next
step finds. So a session is known from what single steps do, and what holds of every step holds all
along.

## Main statements

* `take_session`, `getElem?_session` — the parts of a session.
* `forall₂_session` — what holds of every step.
-/
namespace Salutation

/-- The terminal after some outcomes. -/
def leaving (t : Terminal) (outcomes : List Outcome) : Terminal :=
  (outcomes.getLast?.map Outcome.terminal).getD t

@[simp] theorem leaving_nil (t : Terminal) : leaving t [] = t := rfl

@[simp] theorem leaving_cons (t : Terminal) (o : Outcome) (later : List Outcome) :
    leaving t (o :: later) = leaving o.terminal later := by
  rw [leaving, leaving, List.getLast?_cons]
  cases later.getLast? with
  | none => rfl
  | some o' => rfl

/-- A session is the same up to any point, whatever comes behind. -/
theorem take_session (t : Terminal) (steps : List Step) (n : Nat) :
    (session t steps).take n = session t (steps.take n) := by
  induction steps generalizing t n with
  | nil => simp [session]
  | cons step steps ih =>
    cases n with
    | zero => rfl
    | succ n => rw [session, List.take_succ_cons, List.take_succ_cons, session, ih]

/-- Each step finds the terminal that those before it left. -/
theorem getElem?_session (t : Terminal) (steps : List Step) (n : Nat) :
    (session t steps)[n]? =
      steps[n]?.map fun step => step.outcome (leaving t (session t (steps.take n))) := by
  induction steps generalizing t n with
  | nil => rfl
  | cons step steps ih =>
    cases n with
    | zero => rfl
    | succ n =>
      rw [session, List.getElem?_cons_succ, List.getElem?_cons_succ, ih, List.take_succ_cons,
        session, leaving_cons]

/-- What holds of every step holds all along a session. -/
theorem forall₂_session {P : Step → Outcome → Prop}
    (h : ∀ (t : Terminal) (step : Step), P step (step.outcome t)) (t : Terminal)
    (steps : List Step) : List.Forall₂ P steps (session t steps) := by
  induction steps generalizing t with
  | nil => exact .nil
  | cons step steps ih => exact .cons (h t step) (ih _)

end Salutation
