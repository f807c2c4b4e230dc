import Salutation.Text.Utf8

/-!
# Lines

A line of input ends with a line feed, which a carriage return may precede. `chomp` takes this
ending off; it is written for any symbols, so that bytes and characters lose it by the same rule.
`ofBytes` is the text of a line of bytes: the ending goes first, then the rest is read as text.
-/
namespace Salutation.Text.Line

/-- The byte that ends a line. -/
def lineFeed : UInt8 := 0x0A

/-- The byte that may stand before it. -/
def carriageReturn : UInt8 := 0x0D

section
variable {α : Type} [DecidableEq α]

/-- A line without one final `feed` and then, where that was there, without one final `ret`. -/
def chomp (feed ret : α) (line : List α) : List α :=
  if line.getLast? = some feed then
    let body := line.dropLast
    if body.getLast? = some ret then body.dropLast else body
  else line

variable {feed ret : α}

/-- A line without an ending is kept whole, whatever stands last in it. -/
theorem chomp_eq_self {line : List α} (h : line.getLast? ≠ some feed) :
    chomp feed ret line = line := by simp [chomp, h]

/-- A `feed` alone is taken off, and nothing else. -/
theorem chomp_append_feed {body : List α} (h : body.getLast? ≠ some ret) :
    chomp feed ret (body ++ [feed]) = body := by simp [chomp, h]

/-- Of several `ret` before the `feed` only the last belongs to the ending. -/
@[simp] theorem chomp_append_ret_feed (body : List α) :
    chomp feed ret (body ++ [ret, feed]) = body := by
  rw [show body ++ [ret, feed] = (body ++ [ret]) ++ [feed] by simp]
  simp [chomp]

end

/-- The text of a line of bytes. -/
def ofBytes (line : List UInt8) : String :=
  Utf8.decode (chomp lineFeed carriageReturn line)

end Salutation.Text.Line
