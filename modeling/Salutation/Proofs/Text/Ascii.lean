import Mathlib.Algebra.Group.Nat.Defs
import Salutation.Proofs.Text.Decoding

/-!
# ASCII in decoded bytes

Bytes below `0x80` stand for themselves, and no other bytes stand for their characters, however
damaged a text is: the characters below `0x80` of a decoded text are these bytes, in their order.
The invariant is that whatever is under way will come to a character of `0x80` or more. This is
where the narrower bounds on second bytes matter, since they leave out the overlong forms.

## Main definitions

* `Partial.Proper` — the value that is under way is one of a character beyond ASCII.

## Main statements

* `Decoder.ascii_feed` — what one byte does to the ASCII characters read.
* `filter_isAscii_decode` — the ASCII characters of a decoded text.
-/
namespace Salutation.Text.Utf8

theorem toNat_ofNat_of_isValidChar {n : Nat} (h : n.isValidChar) : (Char.ofNat n).toNat = n := by
  rw [Char.ofNat, dif_pos h]
  rfl

/-- Whether a character is written as a byte of its own. -/
def isAscii (c : Char) : Bool := c.toNat < 0x80

theorem isAscii_replacement : isAscii replacement = false := by decide

/-! ## Characters under way -/

namespace Partial

/-- The least value that a character under way can come to. -/
def least (part : Partial) : Nat := (part.bits * 0x40 + (part.low - 0x80)) * 0x40 ^ part.more

/-- A bound on the values that it can come to. -/
def bound (part : Partial) : Nat := (part.bits * 0x40 + (part.high - 0x80) + 1) * 0x40 ^ part.more

/-- The values that a character under way can come to are those of characters beyond ASCII. -/
structure Proper (part : Partial) : Prop where
  least_ge : 0x80 ≤ part.least
  valid : part.bound ≤ 0xD800 ∨ 0xE000 ≤ part.least ∧ part.bound ≤ 0x110000

variable {part : Partial} {b : UInt8}

/-- A first byte of a longer character begins one beyond ASCII. -/
theorem proper_of_ofLead? (h : ofLead? b = some part) : part.Proper := by
  have hlow := le_of_ofLead? h
  by_cases h2 : b.toNat < 0xE0
  · obtain ⟨part', hpart, hbits, hmore, hlow, hhigh⟩ := ofLead?_of_two hlow h2
    cases h.symm.trans hpart
    constructor
    · rw [least, hmore, hbits, hlow]
      omega
    · rw [least, bound, hmore, hbits, hlow, hhigh]
      omega
  · by_cases h3 : b.toNat < 0xF0
    · obtain ⟨part', hpart, hbits, hmore, hlow, hhigh⟩ := ofLead?_of_three (by omega) h3
      cases h.symm.trans hpart
      constructor
      · rw [least, hmore, hbits, hlow]
        split <;> omega
      · rw [least, bound, hmore, hbits, hlow, hhigh]
        split <;> split <;> omega
    · have h4 := le_F4_of_ofLead? h
      obtain ⟨part', hpart, hbits, hmore, hlow, hhigh⟩ := ofLead?_of_four (by omega) h4
      cases h.symm.trans hpart
      constructor
      · rw [least, hmore, hbits, hlow]
        split <;> omega
      · rw [least, bound, hmore, hbits, hlow, hhigh]
        split <;> split <;> omega

/-- A character under way stays beyond ASCII with every byte that continues it. -/
theorem Proper.next (h : part.Proper) {more : Nat} (hmore : part.more = more + 1)
    (hb : part.accepts b = true) : ({ bits := part.shifted b, more } : Partial).Proper := by
  obtain ⟨hlow, hhigh⟩ := accepts_iff.1 hb
  have hlow' := part.low_ge
  obtain ⟨hleast, hvalid⟩ := h
  have hshifted : part.shifted b = part.bits * 0x40 + (b.toNat - 0x80) := rfl
  have hnext : ({ bits := part.shifted b, more } : Partial).least =
      (part.shifted b * 0x40 + (0x80 - 0x80)) * 0x40 ^ more := by simp only [least]
  have hnext' : ({ bits := part.shifted b, more } : Partial).bound =
      (part.shifted b * 0x40 + (0xBF - 0x80) + 1) * 0x40 ^ more := by simp only [bound]
  rw [least, bound, hmore, Nat.pow_succ', ← Nat.mul_assoc, ← Nat.mul_assoc] at hvalid
  rw [least, hmore, Nat.pow_succ', ← Nat.mul_assoc] at hleast
  -- One more byte narrows the values: the least does not fall, the bound does not rise.
  have hnarrow : (part.bits * 0x40 + (part.low - 0x80)) * 0x40 ≤
      part.shifted b * 0x40 + (0x80 - 0x80) := by omega
  have hnarrow' : part.shifted b * 0x40 + (0xBF - 0x80) + 1 ≤
      (part.bits * 0x40 + (part.high - 0x80) + 1) * 0x40 := by omega
  replace hnarrow := Nat.mul_le_mul_right (0x40 ^ more) hnarrow
  replace hnarrow' := Nat.mul_le_mul_right (0x40 ^ more) hnarrow'
  constructor
  · rw [hnext]
    omega
  · rw [hnext, hnext']
    omega

/-- The last byte of a character under way finishes one beyond ASCII. -/
theorem Proper.isAscii_last (h : part.Proper) (hmore : part.more = 0)
    (hb : part.accepts b = true) : isAscii (Char.ofNat (part.shifted b)) = false := by
  obtain ⟨hlow, hhigh⟩ := accepts_iff.1 hb
  have hlow' := part.low_ge
  obtain ⟨hleast, hvalid⟩ := h
  rw [bound, hmore] at hvalid
  rw [least, hmore] at hvalid hleast
  have hshifted : part.shifted b = part.bits * 0x40 + (b.toNat - 0x80) := rfl
  have hchar : (part.shifted b).isValidChar := by
    rw [Nat.isValidChar]
    omega
  rw [isAscii, toNat_ofNat_of_isValidChar hchar, decide_eq_false_iff_not]
  omega

end Partial

/-! ## Byte by byte -/

namespace Decoder

/-- The ASCII characters read so far, last one first. -/
def ascii (d : Decoder) : List Char := d.reversed.filter isAscii

/-- Whether what is under way will come to a character beyond ASCII. -/
def Proper (d : Decoder) : Prop := ∀ part ∈ d.pending, part.Proper

variable {d : Decoder} {b : UInt8}

theorem ascii_emit (c : Char) : (d.emit c).ascii = (if isAscii c then [c] else []) ++ d.ascii := by
  rw [ascii, ascii, emit, List.filter_cons]
  split <;> rfl

theorem proper_emit (c : Char) : (d.emit c).Proper := nofun

theorem ascii_finish : d.finish.ascii = d.ascii := by
  rw [finish]
  split
  · rw [ascii_emit, isAscii_replacement]
    rfl
  · rfl

/-- Where a character begins, an ASCII byte is read as its character, and no other byte is. -/
theorem ascii_begin :
    (d.begin b).ascii = (if b.toNat < 0x80 then [Char.ofNat b.toNat] else []) ++ d.ascii := by
  by_cases hb : b.toNat < 0x80
  · have hvalid : b.toNat.isValidChar := .inl (by omega)
    have hself : isAscii (Char.ofNat b.toNat) = true := by
      rw [isAscii, toNat_ofNat_of_isValidChar hvalid, decide_eq_true hb]
    rw [begin_of_ascii hb, ascii_emit, hself, if_pos hb, if_pos rfl]
  · rw [begin, if_neg hb, if_neg hb]
    cases ofLead : Partial.ofLead? b with
    | some part => rfl
    | none =>
      simp only
      rw [ascii_emit, isAscii_replacement]
      rfl

theorem proper_begin : (d.begin b).Proper := by
  by_cases hb : b.toNat < 0x80
  · rw [begin_of_ascii hb]
    exact proper_emit _
  · cases hlead : Partial.ofLead? b with
    | some part =>
      rw [begin_of_lead hlead]
      rintro _ ⟨⟩
      exact Partial.proper_of_ofLead? hlead
    | none =>
      rw [begin, if_neg hb, hlead]
      exact proper_emit _

/-- **What one byte does to the ASCII characters read**: it adds its own, or nothing. What is under
way stays beyond ASCII. -/
theorem ascii_feed (h : d.Proper) (b : UInt8) :
    (d.feed b).ascii = (if b.toNat < 0x80 then [Char.ofNat b.toNat] else []) ++ d.ascii ∧
      (d.feed b).Proper := by
  rw [feed]
  cases hpending : d.pending with
  | none => exact ⟨ascii_begin, proper_begin⟩
  | some part =>
    have hpart : part.Proper := h part hpending
    by_cases haccepts : part.accepts b = true
    · have hb : ¬ b.toNat < 0x80 := by
        have := part.low_ge
        have := (Partial.accepts_iff.1 haccepts).1
        omega
      simp only [haccepts, if_true, if_neg hb]
      cases hmore : part.more with
      | zero =>
        refine ⟨?_, proper_emit _⟩
        rw [ascii_emit, hpart.isAscii_last hmore haccepts]
        rfl
      | succ more =>
        refine ⟨rfl, ?_⟩
        intro next hnext
        rw [← Option.mem_some_iff.1 hnext]
        exact hpart.next hmore haccepts
    · rw [Bool.not_eq_true] at haccepts
      simp only [haccepts, Bool.false_eq_true, if_false]
      refine ⟨?_, proper_begin⟩
      rw [ascii_begin, ascii_finish]

/-- What any bytes do to the ASCII characters read. -/
theorem ascii_foldl_feed (h : d.Proper) (bytes : List UInt8) :
    (bytes.foldl feed d).ascii =
      ((bytes.filter (·.toNat < 0x80)).map fun b => Char.ofNat b.toNat).reverse ++ d.ascii := by
  induction bytes generalizing d with
  | nil => rfl
  | cons b bytes ih =>
    obtain ⟨hascii, hproper⟩ := ascii_feed h b
    rw [List.foldl_cons, ih hproper, hascii, List.filter_cons]
    by_cases hb : b.toNat < 0x80 <;> simp [hb]

end Decoder

/-- **The ASCII characters of a decoded text** are the bytes below `0x80`, in their order. -/
theorem filter_isAscii_decode (bytes : List UInt8) :
    (decode bytes).toList.filter isAscii =
      (bytes.filter (·.toNat < 0x80)).map fun b => Char.ofNat b.toNat := by
  have hread := Decoder.ascii_foldl_feed (d := {}) nofun bytes
  rw [← Decoder.ascii_finish] at hread
  rw [decode, Decoder.text, String.toList_ofList, List.filter_reverse]
  rw [Decoder.ascii] at hread
  rw [hread]
  simp [Decoder.ascii]

/-- A decoded text has an ASCII character where its byte is read. -/
theorem mem_decode_iff_of_ascii {c : Char} (h : c.toNat < 0x80) (bytes : List UInt8) :
    c ∈ (decode bytes).toList ↔ UInt8.ofNat c.toNat ∈ bytes := by
  have hfilter : c ∈ (decode bytes).toList ↔ c ∈ (decode bytes).toList.filter isAscii := by
    simp [isAscii, h]
  have hbyte := @toNat_ofNat_of_lt c.toNat (by omega)
  rw [hfilter, filter_isAscii_decode, List.mem_map]
  constructor
  · rintro ⟨b, hb, rfl⟩
    obtain ⟨hmem, hb⟩ := List.mem_filter.1 hb
    rw [decide_eq_true_eq] at hb
    rw [toNat_ofNat_of_isValidChar (.inl (by omega)), UInt8.ofNat_toNat]
    exact hmem
  · intro hmem
    refine ⟨_, List.mem_filter.2 ⟨hmem, ?_⟩, ?_⟩
    · rw [hbyte, decide_eq_true h]
    · rw [hbyte, Char.ofNat_toNat]

end Salutation.Text.Utf8
