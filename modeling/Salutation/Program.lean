import Salutation.Greeting
import Salutation.Log.Filter
import Salutation.Terminal

/-!
# The program

The program is the conversation on its standard streams, with a log on the stream of errors. Which
records are shown there is left to a library, by the specification of a filter. `Program.run` says
what comes out of it: the bytes that arrive where the streams are captured, and the exit code. The
code is 0 whatever becomes of the conversation; it is 101 where the library warns of the
specification and the warning cannot be written.
-/
namespace Salutation.Program

open Log (Library Record)
open Text (Utf8.encode)

/-- What a standard stream of output is connected to. -/
inductive Device where
  /-- A pipe that takes everything. -/
  | pipe
  /-- A device without room. -/
  | full
  /-- A pipe whose reader has gone. -/
  | broken
  deriving DecidableEq, Repr

/-- What the standard input is connected to. -/
inductive Input where
  | bytes (bytes : List UInt8)
  | directory
  deriving DecidableEq, Repr

/-- What the stream of errors is connected to. -/
inductive ErrorOutput where
  | own (device : Device)
  /-- What the stream of output is connected to, and is captured with it. -/
  | merged
  deriving DecidableEq, Repr

/-- All that the program depends on. Its arguments are no part of this. -/
structure Setting where
  input : Input := .bytes []
  output : Device := .pipe
  errors : ErrorOutput := .own .pipe
  /-- The specification of the filter, if there is one. -/
  spec? : Option String := none
  /-- What reads the specification and judges the records. -/
  library : Library := .plain

/-- What comes out of the program. -/
structure Result where
  exitCode : Nat
  output : List UInt8
  errors : List UInt8
  deriving DecidableEq, Repr

/-- The sink that a device is. -/
def Device.sink : Device → Sink
  | pipe => {}
  | full => { limit? := some { room := 0, refusal? := some .deviceFull } }
  | broken => { limit? := some { room := 0, refusal? := some .pipeBroken } }

/-- The source that an input is. A directory fails once, and no conversation reads on after that. -/
def Input.source : Input → Source
  | bytes bs => Source.putBack bs []
  | directory => [.fault .directory]

namespace Setting

/-- What the stream of errors is connected to in the end. -/
def errorDevice (s : Setting) : Device :=
  match s.errors with
  | .own device => device
  | .merged => s.output

/-- The specification that holds where none is given. -/
def defaultSpec : String := "warn"

/-- The specification in force. -/
def spec (s : Setting) : String := s.spec?.getD defaultSpec

/-- The lines that tell what is ignored of the specification. -/
def warnings (s : Setting) : List String := s.library.warnings s.spec

/-- Whether the log shows a record. -/
def shows (s : Setting) (r : Record) : Bool := s.library.shows s.spec r

/-- The terminal that the program works on. It notes all records; the filter comes later. -/
def terminal (s : Setting) : Terminal where
  source := s.input.source
  out := s.output.sink
  err := s.errorDevice.sink
  threshold := .all

/-- The terminal after the conversation. -/
def finished (s : Setting) : Terminal := ((converse : StateM Terminal Unit).run s.terminal).2

end Setting

/-- A text and an end of line, in bytes. -/
def lineBytes (text : String) : List UInt8 := Utf8.encode text ++ [Text.Line.lineFeed]

/-- The bytes of an activity that reach one of the streams of output. A record is written to the
stream of errors if it is to be shown and the stream takes anything at all; otherwise it is dropped
without a word. -/
def written (shows : Record → Bool) (stamp : String) (errorsOpen : Bool) (channel : Channel) :
    Activity → List UInt8
  | .logged r =>
    if channel = .err ∧ shows r ∧ errorsOpen then lineBytes (r.line stamp) else []
  | activity => activity.bytesWritten channel

/-- The exit code where a warning cannot be written. -/
def warningFailure : Nat := 101

/-- What comes out of the program, when `stamp` is written for the time of a record. -/
def run (stamp : String) (s : Setting) : Result :=
  let errorsOpen := decide (s.errorDevice = .pipe)
  if s.warnings ≠ [] ∧ errorsOpen = false then ⟨warningFailure, [], []⟩
  else
    let journal := s.finished.journal
    let written := written s.shows stamp errorsOpen
    let warnings := s.warnings.flatMap lineBytes
    match s.errors with
    | .own _ =>
      ⟨0, journal.flatMap (written .out), warnings ++ journal.flatMap (written .err)⟩
    | .merged =>
      ⟨0, warnings ++ journal.flatMap (fun a => written .out a ++ written .err a), []⟩

end Salutation.Program
