import Salutation.Greeting
import Salutation.Terminal

/-!
# Sessions

A session is a list of steps on one terminal. A step is a part of the conversation, the whole of
it, or a change of the terminal from outside. Each is answered with what it came to and with the
terminal as it left it; the journal there holds the activity of that step alone.
-/
namespace Salutation

open Log (Threshold)

/-- One step of a session. -/
inductive Step where
  | announce (channel : Channel)
  | takeName
  | salutation (name : String)
  | greet
  /-- More input arrives. -/
  | feed (events : Source)
  /-- Another sink takes the place of one. -/
  | replace (channel : Channel) (sink : Sink)
  /-- Records are shown up to another level. -/
  | setThreshold (threshold : Threshold)
  deriving DecidableEq

/-- What a step came to. -/
inductive Answer where
  | done
  | text (text : String)
  | faulted (fault : Fault)
  | failed (failure : Failure)
  deriving DecidableEq, Repr

/-- What a step came to, and the terminal after it. -/
structure Outcome where
  answer : Answer
  terminal : Terminal
  deriving DecidableEq

namespace Answer

/-- The answer of an operation that has no value. -/
def ofUnit {ε : Type} (failed : ε → Answer) : Except ε Unit → Answer
  | .ok () => done
  | .error e => failed e

/-- The answer of an operation whose value is a text. -/
def ofText : Except Fault String → Answer
  | .ok value => .text value
  | .error fault => faulted fault

end Answer

namespace Step

/-- What a step does on a terminal. -/
def perform : Step → StateM Terminal Answer
  | announce channel => Answer.ofUnit .faulted <$> (Salutation.announce channel).run
  | takeName => Answer.ofText <$> Salutation.takeName.run
  | salutation name => pure (.text (Salutation.salutation name))
  | greet => Answer.ofUnit .failed <$> Salutation.greet.run
  | feed events => do
    modify fun t => { t with source := t.source ++ events }
    return .done
  | replace channel sink => do
    modify fun t => t.withSink channel sink
    return .done
  | setThreshold threshold => do
    modify fun t => { t with threshold }
    return .done

/-- The outcome of a step on a terminal, with a journal of its own. -/
def outcome (step : Step) (t : Terminal) : Outcome :=
  let (answer, terminal) := step.perform.run { t with journal := [] }
  ⟨answer, terminal⟩

end Step

/-- The outcomes of the steps of a session, one after the other. -/
def session (t : Terminal) : List Step → List Outcome
  | [] => []
  | step :: steps =>
    let first := step.outcome t
    first :: session first.terminal steps

@[simp] theorem length_session (t : Terminal) (steps : List Step) :
    (session t steps).length = steps.length := by
  induction steps generalizing t with
  | nil => rfl
  | cons step steps ih => simp [session, ih]

end Salutation
