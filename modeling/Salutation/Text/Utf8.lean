/-!
# UTF-8 bytes and texts

`encode` writes a text as bytes. `decode` reads any bytes as a text: well-formed characters are
read as they stand, and each maximal part of an ill-formed sequence is read as one `replacement`.
The decoder is a fold over the bytes, so what it has read of a beginning never changes with what
follows; all that crosses from one byte to the next is a `Partial` character.
-/
namespace Salutation.Text.Utf8

/-- The character read in place of an ill-formed part. -/
def replacement : Char := '\uFFFD'

/-- The bytes of a text, one to four for each character. -/
def encode (text : String) : List UInt8 := text.toList.flatMap String.utf8EncodeChar

/-- A character whose first bytes have been read: their bits, how many bytes are due after the
next one, and the values that the next one may have. Every such value is a continuation byte. -/
structure Partial where
  bits : Nat
  more : Nat
  low : Nat := 0x80
  high : Nat := 0xBF
  low_ge : 0x80 ≤ low := by decide
  high_le : high ≤ 0xBF := by decide

namespace Partial

/-- What a first byte of a longer character begins. The bounds on the second byte leave out
overlong forms (after `E0` and `F0`), surrogates (after `ED`) and values above the last character
(after `F4`); a byte that begins no longer character begins nothing. -/
def ofLead? (byte : UInt8) : Option Partial :=
  let value := byte.toNat
  if value < 0xC2 then none
  else if value < 0xE0 then some { bits := value - 0xC0, more := 0 }
  else if value = 0xE0 then some { bits := 0, more := 1, low := 0xA0 }
  else if value = 0xED then some { bits := 0xD, more := 1, high := 0x9F }
  else if value < 0xF0 then some { bits := value - 0xE0, more := 1 }
  else if value = 0xF0 then some { bits := 0, more := 2, low := 0x90 }
  else if value < 0xF4 then some { bits := value - 0xF0, more := 2 }
  else if value = 0xF4 then some { bits := 4, more := 2, high := 0x8F }
  else none

/-- Whether the character goes on with this byte. -/
def accepts (part : Partial) (byte : UInt8) : Bool :=
  decide (part.low ≤ byte.toNat) && decide (byte.toNat ≤ part.high)

/-- The bits with those of one more continuation byte. -/
def shifted (part : Partial) (byte : UInt8) : Nat := part.bits * 0x40 + (byte.toNat - 0x80)

end Partial

/-- What has been read so far: the characters, last one first, and the one that is under way. -/
structure Decoder where
  reversed : List Char := []
  pending : Option Partial := none

namespace Decoder

/-- Adds a finished character. -/
def emit (d : Decoder) (c : Char) : Decoder := { reversed := c :: d.reversed }

/-- Reads a byte where a character begins. -/
def begin (d : Decoder) (byte : UInt8) : Decoder :=
  if byte.toNat < 0x80 then d.emit (Char.ofNat byte.toNat)
  else
    match Partial.ofLead? byte with
    | some part => { d with pending := some part }
    | none => d.emit replacement

/-- Gives up the character that is under way, if there is one. -/
def finish (d : Decoder) : Decoder :=
  match d.pending with
  | some _ => d.emit replacement
  | none => d

/-- Reads one byte. A byte that does not continue the character under way ends it and is read
again as the beginning of the next. -/
def feed (d : Decoder) (byte : UInt8) : Decoder :=
  match d.pending with
  | none => d.begin byte
  | some part =>
    if part.accepts byte then
      match part.more with
      | 0 => d.emit (Char.ofNat (part.shifted byte))
      | more + 1 => { d with pending := some { bits := part.shifted byte, more } }
    else d.finish.begin byte

/-- The characters read. -/
def text (d : Decoder) : String := String.ofList d.reversed.reverse

end Decoder

/-- The text of any bytes, with a `replacement` for each maximal ill-formed part. -/
def decode (bytes : List UInt8) : String := (bytes.foldl Decoder.feed {}).finish.text

/-- Nothing that could go on is kept: a byte that breaks a character off begins the next. -/
example : decode [0xE2, 0x82, 0x41] = "\uFFFDA" := by decide +kernel

/-- An overlong form, a surrogate and a value above the last character are broken off at their
second byte; a character whose bytes merely stop is one ill-formed part. -/
example : decode [0xE0, 0x80] = "\uFFFD\uFFFD" ∧
    decode [0xED, 0xA0, 0x80] = "\uFFFD\uFFFD\uFFFD" ∧
    decode [0xF4, 0x90, 0x80, 0x80] = "\uFFFD\uFFFD\uFFFD\uFFFD" ∧
    decode [0xF0, 0x9F, 0x98] = "\uFFFD" := by decide +kernel

/-- The longest characters are read. -/
example : decode [0xF0, 0x9F, 0x98, 0x80] = "😀" ∧ encode "😀" = [0xF0, 0x9F, 0x98, 0x80] := by
  decide +kernel

end Salutation.Text.Utf8
