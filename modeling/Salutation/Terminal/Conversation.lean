import Salutation.Greeting
import Salutation.Terminal

/-!
# The conversation on a scripted terminal

What each part of the conversation does on a scripted terminal, as a function of the terminal. The
equations say in which order the streams are used and that nothing is done after a failure; no proof
has to look into the monads behind them.
-/
namespace Salutation

variable {α β ε ε' σ : Type}

/-- After a success the next act goes on from the state that the first one left. -/
theorem run_bind_of_ok {x : ExceptT ε (StateM σ) α} {f : α → ExceptT ε (StateM σ) β} {s s' : σ}
    {a : α} (h : x.run.run s = (.ok a, s')) : (x >>= f).run.run s = (f a).run.run s' := by
  rw [ExceptT.run_bind, StateT.run_bind, h]
  rfl

/-- After a failure nothing more is done. -/
theorem run_bind_of_error {x : ExceptT ε (StateM σ) α} {f : α → ExceptT ε (StateM σ) β} {s s' : σ}
    {e : ε} (h : x.run.run s = (.error e, s')) : (x >>= f).run.run s = (.error e, s') := by
  rw [ExceptT.run_bind, StateT.run_bind, h]
  rfl

/-- Naming the stage changes the failure and nothing else. -/
theorem run_during (stage : Stage) (x : ExceptT Fault (StateM σ) α) (s : σ) :
    (during stage x).run.run s =
      ((x.run.run s).1.mapError (Failure.mk stage), (x.run.run s).2) := by
  rw [during, ExceptT.run_adapt, StateT.run_map]
  rfl

namespace Terminal

variable (t : Terminal)

/-- Says a line on a stream and, where it was taken whole, flushes the stream. -/
def say (c : Channel) (text : String) : Except Fault Unit × Terminal :=
  match writeLine c text t with
  | (.ok (), t') => flush c t'
  | (.error fault, t') => (.error fault, t')

/-- Takes a line for a name and shows a record of what was read. -/
def takeName : Except Fault String × Terminal :=
  match readLine t with
  | (.ok [], t') => (.ok anonymous, t'.log inputEnded)
  | (.ok line, t') =>
    (.ok (Text.Line.ofBytes line), t'.log (nameRead (Text.Line.ofBytes line)))
  | (.error fault, t') => (.error fault, t')

/-- The three stages, of which each is reached only if the one before it succeeds. -/
def conversation : Except Failure Unit × Terminal :=
  match say t .err notice with
  | (.error fault, t₁) => (.error ⟨.noticing, fault⟩, t₁)
  | (.ok (), t₁) =>
    match takeName t₁ with
    | (.error fault, t₂) => (.error ⟨.naming, fault⟩, t₂)
    | (.ok person, t₂) =>
      match say t₂ .out (salutation person) with
      | (.error fault, t₃) => (.error ⟨.greeting, fault⟩, t₃)
      | (.ok (), t₃) => (.ok (), t₃)

end Terminal

variable (t : Terminal)

theorem run_announce (c : Channel) :
    (announce c : ExceptT Fault (StateM Terminal) Unit).run.run t = t.say c notice := by
  unfold Terminal.say
  rcases h : Terminal.writeLine c notice t with ⟨_ | _, t'⟩
  · exact run_bind_of_error h
  · exact run_bind_of_ok h

theorem run_salute (person : String) :
    (salute person : ExceptT Fault (StateM Terminal) Unit).run.run t =
      t.say .out (salutation person) := by
  unfold Terminal.say
  rcases h : Terminal.writeLine .out (salutation person) t with ⟨_ | _, t'⟩
  · exact run_bind_of_error h
  · exact run_bind_of_ok h

theorem run_takeName :
    (takeName : ExceptT Fault (StateM Terminal) String).run.run t = t.takeName := by
  unfold Terminal.takeName
  rcases h : Terminal.readLine t with ⟨_ | _ | _, t'⟩
  · exact run_bind_of_error h
  · exact run_bind_of_ok h
  · exact run_bind_of_ok h

theorem run_greet :
    (greet : ExceptT Failure (StateM Terminal) Unit).run.run t = t.conversation := by
  unfold greet Terminal.conversation
  have announced := run_during .noticing (announce .err) t
  rw [run_announce] at announced
  rcases h₁ : t.say .err notice with ⟨_ | _, t₁⟩ <;> rw [h₁] at announced
  · exact run_bind_of_error announced
  · rw [run_bind_of_ok announced]
    have named := run_during .naming takeName t₁
    rw [run_takeName] at named
    rcases h₂ : t₁.takeName with ⟨_ | person, t₂⟩ <;> rw [h₂] at named <;> simp only [h₂]
    · exact run_bind_of_error named
    · rw [run_bind_of_ok named, run_during, run_salute]
      dsimp only
      rcases t₂.say .out (salutation person) with ⟨_ | _, t₃⟩ <;> rfl

theorem run_converse :
    (converse : StateM Terminal Unit).run t =
      match t.conversation with
      | (.ok (), t') => ((), t')
      | (.error failure, t') => ((), t'.log failure.record) := by
  rw [converse, StateT.run_bind, run_greet]
  rcases t.conversation with ⟨_ | _, t'⟩ <;> rfl

end Salutation
