import Salutation.Stream.Fault
import Salutation.Text.Line

/-!
# Sources

A source is what is still to come from a stream of input: chunks of bytes and faults, in order.
`readLine` takes the next line. It looks at one event after the other and at none behind the end of
the line, and a line also ends where the stream does, for good or for the moment.
-/
namespace Salutation

open Text.Line (lineFeed)

/-- What one look at a stream of input finds. An empty chunk is an end of the stream that does not
last: the events behind it are found by later looks. -/
inductive Event where
  | chunk (bytes : List UInt8)
  | fault (fault : Fault)
  deriving DecidableEq, Repr

/-- A stream of input, as the events to come. After the last of them the stream has ended. -/
abbrev Source := List Event

/-- What taking a line comes to: the bytes taken, the fault that cut it short, and what is left of
the source. The bytes taken before a fault are gone from the source. -/
structure Reading where
  taken : List UInt8
  fault? : Option Fault
  rest : Source
  deriving DecidableEq, Repr

namespace Event

/-- The bytes that an event brings. -/
def bytes : Event → List UInt8
  | chunk bytes => bytes
  | fault _ => []

@[simp] theorem bytes_chunk (bytes : List UInt8) : (chunk bytes).bytes = bytes := rfl

@[simp] theorem bytes_fault (f : Fault) : (fault f).bytes = [] := rfl

end Event

namespace Source

/-- The bytes still to come. -/
def bytes (source : Source) : List UInt8 := source.flatMap Event.bytes

@[simp] theorem bytes_nil : bytes [] = [] := rfl

@[simp] theorem bytes_cons (event : Event) (source : Source) :
    bytes (event :: source) = event.bytes ++ bytes source := rfl

@[simp] theorem bytes_append (source later : Source) :
    bytes (source ++ later) = bytes source ++ bytes later := by
  simp [bytes]

/-- The source with a chunk put back in front; no bytes leave no chunk. -/
def putBack (bytes : List UInt8) (source : Source) : Source :=
  if bytes = [] then source else .chunk bytes :: source

@[simp] theorem putBack_nil (source : Source) : putBack [] source = source := rfl

@[simp] theorem bytes_putBack (bs : List UInt8) (source : Source) :
    bytes (putBack bs source) = bs ++ bytes source := by
  by_cases h : bs = [] <;> simp [putBack, h]

/-- Takes a line: the bytes up to and with the first line feed, or all before the end of the stream.
A transient fault is passed over; any other ends the reading. -/
def readLine : Source → Reading
  | [] => ⟨[], none, []⟩
  | .fault f :: rest => if f.isTransient then readLine rest else ⟨[], some f, rest⟩
  | .chunk [] :: rest => ⟨[], none, rest⟩
  | .chunk (b :: bs) :: rest =>
    let head := (b :: bs).takeWhile (· != lineFeed)
    match (b :: bs).dropWhile (· != lineFeed) with
    | feed :: later => ⟨head ++ [feed], none, putBack later rest⟩
    | [] =>
      let reading := readLine rest
      { reading with taken := head ++ reading.taken }

/-- No byte is lost: those taken and those left are those that were to come. -/
theorem taken_append_bytes_rest (source : Source) :
    source.readLine.taken ++ bytes source.readLine.rest = bytes source := by
  fun_induction readLine source with
  | case1 => rfl
  | case2 f rest h ih => simpa [readLine, h] using ih
  | case3 f rest h => simp
  | case4 rest => simp
  | case5 b bs rest head feed later h =>
    have := List.takeWhile_append_dropWhile (p := (· != lineFeed)) (l := b :: bs)
    rw [h] at this
    rw [bytes_putBack, bytes_cons, Event.bytes_chunk, ← this]
    simp [head]
  | case6 b bs rest head h reading ih =>
    have := List.takeWhile_append_dropWhile (p := (· != lineFeed)) (l := b :: bs)
    rw [h, List.append_nil] at this
    rw [bytes_cons, List.append_assoc, ih]
    exact congrArg (· ++ bytes rest) this

end Source

end Salutation
