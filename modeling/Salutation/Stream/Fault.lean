/-!
# Faults

What a stream reports in place of bytes: a kind, which tells whether the operation may be tried
again, and the words for the reader. The words are those of the kind, those of a numbered error of
the operating system, or any others.
-/
namespace Salutation

/-- The kinds of faults. -/
inductive FaultKind where
  | notFound | permissionDenied | connectionRefused | connectionReset | connectionAborted
  | notConnected | addressInUse | brokenPipe | alreadyExists | wouldBlock | isADirectory
  | invalidInput | invalidData | timedOut | writeZero | storageFull | interrupted | unsupported
  | unexpectedEnd | outOfMemory | inputOutput | other
  deriving DecidableEq, Repr

namespace FaultKind

/-- The words for a fault of which only the kind is known. -/
def description : FaultKind → String
  | notFound => "entity not found"
  | permissionDenied => "permission denied"
  | connectionRefused => "connection refused"
  | connectionReset => "connection reset"
  | connectionAborted => "connection aborted"
  | notConnected => "not connected"
  | addressInUse => "address in use"
  | brokenPipe => "broken pipe"
  | alreadyExists => "entity already exists"
  | wouldBlock => "operation would block"
  | isADirectory => "is a directory"
  | invalidInput => "invalid input parameter"
  | invalidData => "invalid data"
  | timedOut => "timed out"
  | writeZero => "write zero"
  | storageFull => "no storage space"
  | interrupted => "operation interrupted"
  | unsupported => "unsupported"
  | unexpectedEnd => "unexpected end of file"
  | outOfMemory => "out of memory"
  | inputOutput => "input/output error"
  | other => "other error"

end FaultKind

/-- A fault of a stream. -/
structure Fault where
  kind : FaultKind
  text : String
  deriving DecidableEq, Repr

namespace Fault

/-- The fault of a kind, in the words for the kind. -/
def ofKind (kind : FaultKind) : Fault := ⟨kind, kind.description⟩

/-- The kind and the words of the operating system for the numbered errors that streams meet. -/
def numbered? : Nat → Option (FaultKind × String)
  | 2 => some (.notFound, "No such file or directory")
  | 4 => some (.interrupted, "Interrupted system call")
  | 5 => some (.inputOutput, "Input/output error")
  | 11 => some (.wouldBlock, "Resource temporarily unavailable")
  | 12 => some (.outOfMemory, "Cannot allocate memory")
  | 13 => some (.permissionDenied, "Permission denied")
  | 17 => some (.alreadyExists, "File exists")
  | 21 => some (.isADirectory, "Is a directory")
  | 22 => some (.invalidInput, "Invalid argument")
  | 28 => some (.storageFull, "No space left on device")
  | 32 => some (.brokenPipe, "Broken pipe")
  | 104 => some (.connectionReset, "Connection reset by peer")
  | 110 => some (.timedOut, "Connection timed out")
  | 111 => some (.connectionRefused, "Connection refused")
  | _ => none

/-- The fault for a numbered error of the operating system; its words name the number. -/
def ofNumber? (number : Nat) : Option Fault :=
  (numbered? number).map fun (kind, words) => ⟨kind, words ++ s!" (os error {number})"⟩

/-- A fault after which the same operation is tried again, without a word to anyone. -/
def isTransient (fault : Fault) : Bool := fault.kind = .interrupted

/-- The fault of a sink that takes no byte although one was offered. -/
def nothingTaken : Fault := ⟨.writeZero, "failed to write whole buffer"⟩

@[simp] theorem isTransient_nothingTaken : nothingTaken.isTransient = false := rfl

/-- The fault of a standard stream that is an open directory. -/
def directory : Fault := ⟨.isADirectory, "Is a directory (os error 21)"⟩

/-- The fault of a device without any room. -/
def deviceFull : Fault := ⟨.storageFull, "No space left on device (os error 28)"⟩

/-- The fault of a pipe whose reader has gone. -/
def pipeBroken : Fault := ⟨.brokenPipe, "Broken pipe (os error 32)"⟩

end Fault

example : Fault.ofNumber? 21 = some Fault.directory := by decide +kernel

example : Fault.ofNumber? 28 = some Fault.deviceFull := by decide +kernel

example : Fault.ofNumber? 32 = some Fault.pipeBroken := by decide +kernel

end Salutation
