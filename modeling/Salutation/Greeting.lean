import Salutation.Console
import Salutation.Text.Line
import Salutation.Text.Quoted

/-!
# Greetings

The conversation: a notice on one stream, a name from the input, a greeting for it on the other
stream. Each part is written for every console. `greet` holds the whole, and says of a fault at
which stage it came up; `converse` makes a record of such a failure and itself never fails.
-/
namespace Salutation

open Log (Record)
open Text (quote)

/-- What is said before anything is read. -/
def notice : String := "Processing input on stderr..."

/-- The name for a user who gives none. -/
def anonymous : String := "No one"

/-- The greeting for a name. -/
def salutation (name : String) : String := "Hello, " ++ name ++ "!"

/-- The stages of the conversation. -/
inductive Stage where
  | noticing
  | naming
  | greeting
  deriving DecidableEq, Repr

namespace Stage

/-- What is told of a failure at a stage. -/
def context : Stage → String
  | noticing => "Writing notice to stderr failed!"
  | naming => "Reading name from stdin failed!"
  | greeting => "Writing greeting to stdout failed!"

end Stage

/-- A fault that ended the conversation, and the stage that it came up at. -/
structure Failure where
  stage : Stage
  fault : Fault
  deriving DecidableEq, Repr

namespace Failure

/-- The stage and the fault in one line. -/
def message (f : Failure) : String := f.stage.context ++ ": " ++ f.fault.text

/-- The record of a failure. -/
def record (f : Failure) : Record := ⟨.error, "Error: " ++ f.message⟩

end Failure

/-- The record that the input had ended. -/
def inputEnded : Record := ⟨.debug, "No input, using default name."⟩

/-- The record of a name that was read. -/
def nameRead (name : String) : Record := ⟨.debug, "Read name: " ++ quote name⟩

variable {m : Type → Type} [Monad m] [Console m]

/-- Says the notice on a stream. -/
def announce (channel : Channel) : ExceptT Fault m Unit := do
  Console.writeLine channel notice
  Console.flush channel

/-- Takes a line of input for a name. Where the input has ended, the name is `anonymous`. -/
def takeName : ExceptT Fault m String := do
  match ← Console.readLine with
  | [] =>
    (Console.log inputEnded : m Unit)
    return anonymous
  | line =>
    let name := Text.Line.ofBytes line
    (Console.log (nameRead name) : m Unit)
    return name

/-- Says the greeting for a name. -/
def salute (name : String) : ExceptT Fault m Unit := do
  Console.writeLine .out (salutation name)
  Console.flush .out

/-- Tells at which stage a fault came up. -/
def during {α : Type} (stage : Stage) (act : ExceptT Fault m α) : ExceptT Failure m α :=
  act.adapt (Failure.mk stage)

/-- The conversation. -/
def greet : ExceptT Failure m Unit := do
  during .noticing (announce .err)
  let name ← during .naming takeName
  during .greeting (salute name)

/-- The conversation, with a record of what made it fail. -/
def converse : m Unit := do
  match ← greet.run with
  | .ok () => return ()
  | .error failure => Console.log failure.record

end Salutation
