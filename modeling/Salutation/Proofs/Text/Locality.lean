import Salutation.Proofs.Text.Decoding

/-!
# How far damage reaches

A decoder carries no more than one character under way from byte to byte. A first byte gives that
character up, so a character that is written out is read whatever comes before it; and behind it
nothing is under way, so what follows is read as if nothing had come before. Ill-formed bytes
therefore do their damage where they stand: `decode_between` says that text between them is kept,
and that each side is read as it would be alone.

## Main statements

* `Decoder.text_foldl_feed` — what is read where no character is under way.
* `decode_between` — text with any bytes before it and behind it.
-/
namespace Salutation.Text.Utf8

namespace Decoder

/-- The decoder with other characters before those that it has read, the last of them first. -/
def after (d : Decoder) (reversed : List Char) : Decoder :=
  { d with reversed := d.reversed ++ reversed }

variable (d : Decoder) (reversed : List Char)

theorem emit_after (c : Char) : (d.after reversed).emit c = (d.emit c).after reversed := rfl

theorem text_after : (d.after reversed).text = String.ofList reversed.reverse ++ d.text := by
  rw [text, after, List.reverse_append, String.ofList_append]
  rfl

theorem finish_after : (d.after reversed).finish = d.finish.after reversed := by
  obtain ⟨read, pending⟩ := d
  cases pending <;> rfl

theorem begin_after (b : UInt8) : (d.after reversed).begin b = (d.begin b).after reversed := by
  rw [begin, begin]
  by_cases hb : b.toNat < 0x80
  · rw [if_pos hb, if_pos hb, emit_after]
  · rw [if_neg hb, if_neg hb]
    cases Partial.ofLead? b <;> rfl

/-- What has been read before has no part in how a byte is read. -/
theorem feed_after (b : UInt8) : (d.after reversed).feed b = (d.feed b).after reversed := by
  have hpending : (d.after reversed).pending = d.pending := rfl
  rw [feed, feed, hpending, begin_after, finish_after, begin_after]
  cases d.pending with
  | none => rfl
  | some part =>
    by_cases haccepts : part.accepts b = true
    · simp only [if_pos haccepts]
      cases part.more <;> rfl
    · simp only [if_neg haccepts]

theorem foldl_feed_after (bytes : List UInt8) :
    bytes.foldl feed (d.after reversed) = (bytes.foldl feed d).after reversed := by
  induction bytes generalizing d with
  | nil => rfl
  | cons b bytes ih => rw [List.foldl_cons, List.foldl_cons, feed_after, ih]

variable {d}

/-- **Where no character is under way** bytes are read as if nothing had come before them. -/
theorem text_foldl_feed (h : d.pending = none) (bytes : List UInt8) :
    (bytes.foldl feed d).finish.text = d.text ++ decode bytes := by
  have hfresh : d = ({} : Decoder).after d.reversed := by
    obtain ⟨read, pending⟩ := d
    cases h
    rfl
  rw [hfresh, foldl_feed_after, finish_after, text_after]
  rfl

end Decoder

/-- **Text is read as it stands between any bytes**, and the bytes on each side are read as they
would be alone. Without a character between them they would not be: the first bytes of a character
may stand on one side and those that continue it on the other. -/
theorem decode_between (before : List UInt8) {text : String} (h : text ≠ "")
    (behind : List UInt8) :
    decode (before ++ encode text ++ behind) = decode before ++ text ++ decode behind := by
  obtain ⟨c, chars, hchars⟩ : ∃ c chars, text.toList = c :: chars := by
    rw [← List.ne_nil_iff_exists_cons]
    exact fun hnil => h (String.toList_eq_nil_iff.1 hnil)
  -- The first character gives up what is under way before it, and the others follow it.
  have hread : (encode text).foldl Decoder.feed (before.foldl Decoder.feed {}) =
      { reversed := text.toList.reverse ++ (before.foldl Decoder.feed {}).finish.reversed } := by
    rw [encode, hchars, List.flatMap_cons, List.foldl_append, Decoder.foldl_feed_encodeChar,
      Decoder.foldl_feed_encodeChars rfl]
    simp [Decoder.emit]
  have htext : ((encode text).foldl Decoder.feed (before.foldl Decoder.feed {})).text =
      decode before ++ text := by
    rw [hread, decode, Decoder.text, Decoder.text, List.reverse_append, List.reverse_reverse,
      String.ofList_append, String.ofList_toList]
  rw [decode, List.foldl_append, List.foldl_append, Decoder.text_foldl_feed (by rw [hread]), htext]

/-- The bytes of a character in two parts are one character together, and two ill-formed parts with
a character between them. -/
example : decode [0xE2, 0x82, 0xAC] = "€" ∧
    decode ([0xE2, 0x82] ++ encode "a" ++ [0xAC]) = "\uFFFDa\uFFFD" := by decide +kernel

end Salutation.Text.Utf8
