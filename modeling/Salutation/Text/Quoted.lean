import Salutation.Text.Unprintable

/-!
# Quoted texts

`quote` shows a text on one line between double quotes. A backslash, a quote and the commonest
controls have an escape of two characters; every other character that does not print is written as
its value in hexadecimal, so nothing in the text can end the line or the quotes.
-/
namespace Salutation.Text

/-- The characters that stand after a backslash for characters of their own. -/
def shortEscape? : Char → Option Char
  | '\x00' => some '0'
  | '\t' => some 't'
  | '\n' => some 'n'
  | '\r' => some 'r'
  | '"' => some '"'
  | '\\' => some '\\'
  | _ => none

/-- One character of a quoted text. -/
def escape (c : Char) : List Char :=
  match shortEscape? c with
  | some letter => ['\\', letter]
  | none =>
    if isPrintable c then [c]
    else ['\\', 'u', '\x7b'] ++ Nat.toDigits 16 c.toNat ++ ['\x7d']

/-- A text between double quotes, with escapes. -/
def quote (text : String) : String :=
  String.ofList ('"' :: text.toList.flatMap escape ++ ['"'])

/-- Text that looks like an escape is told from an escape by the backslash before it. -/
example : quote "a\n\x1b\\" = "\"a\\n\\u\x7b1b\x7d\\\\\"" := by decide +kernel

/-- A mark that extends the character before it is escaped, the character that stands for an
ill-formed part is not. -/
example : quote "é\u0301\uFFFD" = "\"é\\u\x7b301\x7d\uFFFD\"" := by decide +kernel

end Salutation.Text
