import Salutation.Program
import Std.Time.Format

/-!
# Command line

The conversation on the streams of the operating system. The environment variable `RUST_LOG` holds
the specification of the filter; the arguments mean nothing. What is done here for each operation
is what the operating system does: nothing is decided.
-/
namespace Salutation.Main

open Log (Record)
open Program (Setting)

/-- The number of a fault of the operating system, where it has one, and the words for it. -/
def describe : IO.Error → Option UInt32 × String
  | .alreadyExists _ code details => (some code, details)
  | .otherError code details => (some code, details)
  | .resourceBusy code details => (some code, details)
  | .resourceVanished code details => (some code, details)
  | .unsupportedOperation code details => (some code, details)
  | .hardwareFault code details => (some code, details)
  | .unsatisfiedConstraints code details => (some code, details)
  | .illegalOperation code details => (some code, details)
  | .protocolError code details => (some code, details)
  | .timeExpired code details => (some code, details)
  | .interrupted _ code details => (some code, details)
  | .noFileOrDirectory _ code details => (some code, details)
  | .invalidArgument _ code details => (some code, details)
  | .permissionDenied _ code details => (some code, details)
  | .resourceExhausted _ code details => (some code, details)
  | .inappropriateType _ code details => (some code, details)
  | .noSuchThing _ code details => (some code, details)
  | .unexpectedEof => (none, FaultKind.unexpectedEnd.description)
  | .userError words => (none, words)

/-- The fault that an error of the operating system is. -/
def faultOf (e : IO.Error) : Fault :=
  match describe e with
  | (some code, details) =>
    (Fault.ofNumber? code.toNat).getD ⟨.other, details ++ " (os error " ++ toString code ++ ")"⟩
  | (none, words) => ⟨.other, words⟩

/-- Carries out an operation and catches its error as a fault. -/
def attempt {α : Type} (act : IO α) : IO (Except Fault α) := do
  match ← act.toBaseIO with
  | .ok value => return .ok value
  | .error e => return .error (faultOf e)

/-- The stream of the operating system for a channel. -/
def stream : Channel → IO IO.FS.Stream
  | .out => IO.getStdout
  | .err => IO.getStderr

/-- Reads bytes up to and with a line feed, or to the end. -/
partial def readLine (input : IO.FS.Stream) (line : Array UInt8) : IO (List UInt8) := do
  let bytes ← input.read 1
  match bytes.toList with
  | [] => return line.toList
  | b :: _ =>
    let line := line.push b
    if b = Text.Line.lineFeed then return line.toList else readLine input line

/-- The time of a record. -/
def stamp : IO String := do
  let now ← Std.Time.Timestamp.now
  let time := Std.Time.PlainDateTime.ofWallTime (Std.Time.WallTime.ofTimestamp now .zero)
  return time.format "uuuu-MM-dd'T'HH:mm:ss'Z'"

/-- The streams of the operating system, with a setting that says what the log shows, are a
console. -/
instance : Console (ReaderT Setting IO) where
  writeLine c text := ExceptT.mk fun _ => attempt do (← stream c).putStr (text ++ "\n")
  flush c := ExceptT.mk fun _ => attempt do (← stream c).flush
  readLine := ExceptT.mk fun _ => attempt do readLine (← IO.getStdin) #[]
  log r := fun s => do
    if s.shows r then
      let line := r.line (← stamp)
      discard <| attempt do (← IO.getStderr).putStr (line ++ "\n")

/-- Warns of what is wrong with the specification, then holds the conversation. -/
def program : IO UInt32 := do
  let spec? ← IO.getEnv "RUST_LOG"
  let s : Setting := { spec? }
  let warned ← attempt do
    for warning in s.warnings do
      (← IO.getStderr).putStr (warning ++ "\n")
  match warned with
  | .error _ => return Program.warningFailure.toUInt32
  | .ok () =>
    (converse : ReaderT Setting IO Unit).run s
    return 0

end Salutation.Main

def main (_ : List String) : IO UInt32 := Salutation.Main.program
