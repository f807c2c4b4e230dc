import Salutation.Text.Line

/-!
# Decoding well-formed text

The decoder reads the bytes of one character as that character, whatever was under way before them:
a first byte never continues another character, and the bytes after it fill the bits in again.
Hence a text that is encoded and decoded comes back, of whatever characters it consists. Bytes below
`0x80` stand for themselves in an encoded text and occur in it for no other reason, so that a text
holds a line feed where its bytes do.

## Main statements

* `Decoder.foldl_feed_encodeChar` — one character, read after anything.
* `decode_encode` — every text comes back.
* `mem_encode_iff_of_ascii`, `getLast?_encode_of_ascii` — where an encoded text has an ASCII byte.
-/
namespace Salutation.Text.Utf8

/-- The value of a byte that is given by its value. -/
theorem toNat_ofNat_of_lt {n : Nat} (h : n < 256) : (UInt8.ofNat n).toNat = n :=
  UInt8.toNat_ofNat_of_lt' h

/-! ## First bytes -/

namespace Partial

variable {b : UInt8}

theorem ofLead?_of_two (h : 0xC2 ≤ b.toNat) (h' : b.toNat < 0xE0) :
    ∃ part, ofLead? b = some part ∧ part.bits = b.toNat - 0xC0 ∧ part.more = 0 ∧
      part.low = 0x80 ∧ part.high = 0xBF := by
  simp only [ofLead?]
  rw [if_neg (by omega), if_pos h']
  exact ⟨_, rfl, rfl, rfl, rfl, rfl⟩

theorem ofLead?_of_three (h : 0xE0 ≤ b.toNat) (h' : b.toNat < 0xF0) :
    ∃ part, ofLead? b = some part ∧ part.bits = b.toNat - 0xE0 ∧ part.more = 1 ∧
      part.low = (if b.toNat = 0xE0 then 0xA0 else 0x80) ∧
      part.high = (if b.toNat = 0xED then 0x9F else 0xBF) := by
  simp only [ofLead?]
  rw [if_neg (by omega), if_neg (by omega)]
  by_cases hE0 : b.toNat = 0xE0
  · rw [if_pos hE0]
    refine ⟨_, rfl, ?_, rfl, ?_, ?_⟩ <;> simp [hE0]
  · by_cases hED : b.toNat = 0xED
    · rw [if_neg hE0, if_pos hED]
      refine ⟨_, rfl, ?_, rfl, ?_, ?_⟩ <;> simp [hED]
    · rw [if_neg hE0, if_neg hED, if_pos h']
      refine ⟨_, rfl, rfl, rfl, ?_, ?_⟩ <;> simp [hE0, hED]

theorem ofLead?_of_four (h : 0xF0 ≤ b.toNat) (h' : b.toNat ≤ 0xF4) :
    ∃ part, ofLead? b = some part ∧ part.bits = b.toNat - 0xF0 ∧ part.more = 2 ∧
      part.low = (if b.toNat = 0xF0 then 0x90 else 0x80) ∧
      part.high = (if b.toNat = 0xF4 then 0x8F else 0xBF) := by
  simp only [ofLead?]
  rw [if_neg (by omega), if_neg (by omega), if_neg (by omega), if_neg (by omega), if_neg (by omega)]
  by_cases hF0 : b.toNat = 0xF0
  · rw [if_pos hF0]
    refine ⟨_, rfl, ?_, rfl, ?_, ?_⟩ <;> simp [hF0]
  · rw [if_neg hF0]
    by_cases hF4 : b.toNat = 0xF4
    · rw [if_neg (by omega), if_pos hF4]
      refine ⟨_, rfl, ?_, rfl, ?_, ?_⟩ <;> simp [hF4]
    · rw [if_pos (by omega)]
      refine ⟨_, rfl, rfl, rfl, ?_, ?_⟩ <;> simp [hF0, hF4]

/-- A first byte is none of the bytes that stand for themselves. -/
theorem le_of_ofLead? {part : Partial} (h : ofLead? b = some part) : 0xC2 ≤ b.toNat := by
  refine Nat.le_of_not_lt fun hlt => ?_
  simp only [ofLead?] at h
  rw [if_pos (by omega)] at h
  cases h

/-- No character begins with a byte above `0xF4`. -/
theorem le_F4_of_ofLead? {part : Partial} (h : ofLead? b = some part) : b.toNat ≤ 0xF4 := by
  refine Nat.le_of_not_lt fun hlt => ?_
  simp only [ofLead?] at h
  rw [if_neg (by omega), if_neg (by omega), if_neg (by omega), if_neg (by omega),
    if_neg (by omega), if_neg (by omega), if_neg (by omega), if_neg (by omega)] at h
  cases h

theorem accepts_iff {part : Partial} :
    part.accepts b = true ↔ part.low ≤ b.toNat ∧ b.toNat ≤ part.high := by
  simp [accepts]

/-- The bits of a byte stand below those before it. -/
theorem shifted_eq (part : Partial) {bits : Nat} (h : part.bits = bits) :
    part.shifted b = bits * 0x40 + (b.toNat - 0x80) := by
  unfold shifted
  rw [h]

end Partial

/-! ## Byte by byte -/

namespace Decoder

variable {d : Decoder} {b : UInt8} {part : Partial}

/-- A byte that continues no character gives up the one under way and begins another. -/
theorem feed_eq_begin (h : b.toNat < 0x80 ∨ 0xBF < b.toNat) : d.feed b = d.finish.begin b := by
  rw [feed, finish]
  rcases hpending : d.pending with _ | part
  · rfl
  · have hrefused : part.accepts b = false := by
      rw [Bool.eq_false_iff, ne_eq, Partial.accepts_iff]
      have := part.low_ge
      have := part.high_le
      omega
    simp [hrefused]

/-- A finished character ends what was under way. -/
@[simp] theorem emit_pending (d : Decoder) (pending : Option Partial) (c : Char) :
    ({ d with pending } : Decoder).emit c = d.emit c := rfl

theorem begin_of_ascii (h : b.toNat < 0x80) : d.begin b = d.emit (Char.ofNat b.toNat) := by
  rw [begin, if_pos h]

theorem begin_of_lead (h : Partial.ofLead? b = some part) :
    d.begin b = { d with pending := some part } := by
  have := Partial.le_of_ofLead? h
  rw [begin, if_neg (by omega), h]

/-- The last byte of a character finishes it. -/
theorem feed_last (hpending : d.pending = some part) (hmore : part.more = 0)
    (h : part.low ≤ b.toNat ∧ b.toNat ≤ part.high) :
    d.feed b = d.emit (Char.ofNat (part.shifted b)) := by
  rw [feed, hpending]
  simp only [Partial.accepts_iff.2 h, if_true]
  rw [hmore]

/-- Any other byte of a character after the first adds its bits. -/
theorem feed_more {more : Nat} (hpending : d.pending = some part) (hmore : part.more = more + 1)
    (h : part.low ≤ b.toNat ∧ b.toNat ≤ part.high) :
    d.feed b = { d with pending := some { bits := part.shifted b, more } } := by
  rw [feed, hpending]
  simp only [Partial.accepts_iff.2 h, if_true]
  rw [hmore]

/-! ## Characters of several bytes -/

variable {b₁ b₂ b₃ : UInt8}

/-- What the decoder makes of two bytes that form a character. -/
theorem foldl_feed_two (h : 0xC2 ≤ b.toNat ∧ b.toNat < 0xE0)
    (h₁ : 0x80 ≤ b₁.toNat ∧ b₁.toNat ≤ 0xBF) :
    [b, b₁].foldl feed d =
      d.finish.emit (Char.ofNat ((b.toNat - 0xC0) * 0x40 + (b₁.toNat - 0x80))) := by
  obtain ⟨part, hlead, hbits, hmore, hlow, hhigh⟩ := Partial.ofLead?_of_two h.1 h.2
  have hfirst : d.feed b = { d.finish with pending := some part } := by
    rw [feed_eq_begin (by omega), begin_of_lead hlead]
  have hbounds : part.low ≤ b₁.toNat ∧ b₁.toNat ≤ part.high := by
    rw [hlow, hhigh]
    exact h₁
  have hlast := feed_last (d := d.feed b) (b := b₁) (by rw [hfirst]) hmore hbounds
  rw [List.foldl_cons, List.foldl_cons, List.foldl_nil, hlast, hfirst, emit_pending,
    Partial.shifted_eq part hbits]

/-- What the decoder makes of three bytes that form a character. -/
theorem foldl_feed_three (h : 0xE0 ≤ b.toNat ∧ b.toNat < 0xF0)
    (h₁ : (if b.toNat = 0xE0 then 0xA0 else 0x80) ≤ b₁.toNat ∧
      b₁.toNat ≤ (if b.toNat = 0xED then 0x9F else 0xBF))
    (h₂ : 0x80 ≤ b₂.toNat ∧ b₂.toNat ≤ 0xBF) :
    [b, b₁, b₂].foldl feed d =
      d.finish.emit (Char.ofNat
        (((b.toNat - 0xE0) * 0x40 + (b₁.toNat - 0x80)) * 0x40 + (b₂.toNat - 0x80))) := by
  obtain ⟨part, hlead, hbits, hmore, hlow, hhigh⟩ := Partial.ofLead?_of_three h.1 h.2
  have hfirst : d.feed b = { d.finish with pending := some part } := by
    rw [feed_eq_begin (by omega), begin_of_lead hlead]
  have hbounds : part.low ≤ b₁.toNat ∧ b₁.toNat ≤ part.high := by
    rw [hlow, hhigh]
    exact h₁
  have hsecond := feed_more (d := d.feed b) (b := b₁) (by rw [hfirst]) hmore hbounds
  have hlast := feed_last (d := (d.feed b).feed b₁) (b := b₂) (by rw [hsecond]) rfl h₂
  have hshifted := Partial.shifted_eq (b := b₂) { bits := part.shifted b₁, more := 0 }
    (Partial.shifted_eq part hbits)
  rw [List.foldl_cons, List.foldl_cons, List.foldl_cons, List.foldl_nil, hlast, hsecond, hfirst,
    emit_pending, emit_pending, hshifted]

/-- What the decoder makes of four bytes that form a character. -/
theorem foldl_feed_four (h : 0xF0 ≤ b.toNat ∧ b.toNat ≤ 0xF4)
    (h₁ : (if b.toNat = 0xF0 then 0x90 else 0x80) ≤ b₁.toNat ∧
      b₁.toNat ≤ (if b.toNat = 0xF4 then 0x8F else 0xBF))
    (h₂ : 0x80 ≤ b₂.toNat ∧ b₂.toNat ≤ 0xBF) (h₃ : 0x80 ≤ b₃.toNat ∧ b₃.toNat ≤ 0xBF) :
    [b, b₁, b₂, b₃].foldl feed d =
      d.finish.emit (Char.ofNat
        ((((b.toNat - 0xF0) * 0x40 + (b₁.toNat - 0x80)) * 0x40 + (b₂.toNat - 0x80)) * 0x40 +
          (b₃.toNat - 0x80))) := by
  obtain ⟨part, hlead, hbits, hmore, hlow, hhigh⟩ := Partial.ofLead?_of_four h.1 h.2
  have hfirst : d.feed b = { d.finish with pending := some part } := by
    rw [feed_eq_begin (by omega), begin_of_lead hlead]
  have hbounds : part.low ≤ b₁.toNat ∧ b₁.toNat ≤ part.high := by
    rw [hlow, hhigh]
    exact h₁
  have hsecond := feed_more (d := d.feed b) (b := b₁) (by rw [hfirst]) hmore hbounds
  have hthird := feed_more (d := (d.feed b).feed b₁) (b := b₂) (by rw [hsecond]) rfl h₂
  have hlast := feed_last (d := ((d.feed b).feed b₁).feed b₂) (b := b₃) (by rw [hthird]) rfl h₃
  have hshifted₂ := Partial.shifted_eq (b := b₂) { bits := part.shifted b₁, more := 1 }
    (Partial.shifted_eq part hbits)
  have hshifted := Partial.shifted_eq (b := b₃)
    { bits := ({ bits := part.shifted b₁, more := 1 } : Partial).shifted b₂, more := 0 } hshifted₂
  rw [List.foldl_cons, List.foldl_cons, List.foldl_cons, List.foldl_cons, List.foldl_nil, hlast,
    hthird, hsecond, hfirst, emit_pending, emit_pending, emit_pending, hshifted]

/-- **The bytes of a character are read as that character**, whatever was under way. -/
theorem foldl_feed_encodeChar (d : Decoder) (c : Char) :
    (String.utf8EncodeChar c).foldl feed d = d.finish.emit c := by
  have hvalid : c.toNat < 0xD800 ∨ 0xDFFF < c.toNat ∧ c.toNat < 0x110000 := c.valid
  have hself : Char.ofNat c.toNat = c := c.ofNat_toNat
  rw [String.utf8EncodeChar]
  simp only [Char.toNat_val]
  generalize c.toNat = v at *
  split
  · have h := @toNat_ofNat_of_lt v (by omega)
    rw [List.foldl_cons, List.foldl_nil, feed_eq_begin (by omega), begin_of_ascii (by omega), h,
      hself]
  · split
    · have h := @toNat_ofNat_of_lt (v / 64 % 0x20 + 0xC0) (by omega)
      have h₁ := @toNat_ofNat_of_lt (v % 0x40 + 0x80) (by omega)
      have hvalue : (v / 64 % 0x20 + 0xC0 - 0xC0) * 0x40 + (v % 0x40 + 0x80 - 0x80) = v := by omega
      rw [foldl_feed_two (by omega) (by omega), h, h₁, hvalue, hself]
    · split
      · have h := @toNat_ofNat_of_lt (v / 4096 % 0x10 + 0xE0) (by omega)
        have h₁ := @toNat_ofNat_of_lt (v / 64 % 0x40 + 0x80) (by omega)
        have h₂ := @toNat_ofNat_of_lt (v % 0x40 + 0x80) (by omega)
        have hvalue : ((v / 4096 % 0x10 + 0xE0 - 0xE0) * 0x40 + (v / 64 % 0x40 + 0x80 - 0x80)) *
            0x40 + (v % 0x40 + 0x80 - 0x80) = v := by omega
        -- After `E0` and `ED` the second byte has narrower bounds. They leave out what has a
        -- shorter form and what is no character, and `v` is neither.
        have hbounds : (if v / 4096 % 0x10 + 0xE0 = 0xE0 then 0xA0 else 0x80) ≤
              v / 64 % 0x40 + 0x80 ∧
            v / 64 % 0x40 + 0x80 ≤ (if v / 4096 % 0x10 + 0xE0 = 0xED then 0x9F else 0xBF) := by
          constructor <;> split <;> omega
        rw [foldl_feed_three (by omega) (by rw [h, h₁]; exact hbounds) (by omega), h, h₁, h₂,
          hvalue, hself]
      · have h := @toNat_ofNat_of_lt (v / 262144 % 0x08 + 0xF0) (by omega)
        have h₁ := @toNat_ofNat_of_lt (v / 4096 % 0x40 + 0x80) (by omega)
        have h₂ := @toNat_ofNat_of_lt (v / 64 % 0x40 + 0x80) (by omega)
        have h₃ := @toNat_ofNat_of_lt (v % 0x40 + 0x80) (by omega)
        have hvalue : (((v / 262144 % 0x08 + 0xF0 - 0xF0) * 0x40 + (v / 4096 % 0x40 + 0x80 - 0x80))
            * 0x40 + (v / 64 % 0x40 + 0x80 - 0x80)) * 0x40 + (v % 0x40 + 0x80 - 0x80) = v := by
          omega
        have hbounds : (if v / 262144 % 0x08 + 0xF0 = 0xF0 then 0x90 else 0x80) ≤
              v / 4096 % 0x40 + 0x80 ∧
            v / 4096 % 0x40 + 0x80 ≤ (if v / 262144 % 0x08 + 0xF0 = 0xF4 then 0x8F else 0xBF) := by
          constructor <;> split <;> omega
        rw [foldl_feed_four (by omega) (by rw [h, h₁]; exact hbounds) (by omega) (by omega), h, h₁,
          h₂, h₃, hvalue, hself]

/-- Characters are read one after the other. -/
theorem foldl_feed_encodeChars {d : Decoder} (h : d.pending = none) (chars : List Char) :
    (chars.flatMap String.utf8EncodeChar).foldl feed d =
      { reversed := chars.reverse ++ d.reversed } := by
  induction chars generalizing d with
  | nil =>
    obtain ⟨reversed, pending⟩ := d
    cases h
    rfl
  | cons c chars ih =>
    have hfinish : d.finish = d := by rw [finish, h]
    rw [List.flatMap_cons, List.foldl_append, foldl_feed_encodeChar, hfinish, ih rfl]
    simp [emit]

end Decoder

/-- **Every text comes back** from its bytes. -/
theorem decode_encode (text : String) : decode (encode text) = text := by
  rw [decode, encode, Decoder.foldl_feed_encodeChars rfl]
  simp [Decoder.finish, Decoder.text]

/-! ## Bytes that stand for themselves -/

/-- A character below `0x80` is one byte, its own; any other is written without such bytes. -/
theorem encodeChar_cases (c : Char) :
    (c.toNat < 0x80 ∧ String.utf8EncodeChar c = [UInt8.ofNat c.toNat]) ∨
      (0x80 ≤ c.toNat ∧ ∀ b ∈ String.utf8EncodeChar c, 0x80 ≤ b.toNat) := by
  have hvalid : c.toNat < 0xD800 ∨ 0xDFFF < c.toNat ∧ c.toNat < 0x110000 := c.valid
  rw [String.utf8EncodeChar]
  simp only [Char.toNat_val]
  generalize c.toNat = v at *
  split
  · exact .inl ⟨by omega, rfl⟩
  · refine .inr ⟨by omega, ?_⟩
    split
    · intro b hb
      simp only [List.mem_cons, List.not_mem_nil, or_false] at hb
      rcases hb with rfl | rfl <;> rw [toNat_ofNat_of_lt (by omega)] <;> omega
    · split
      · intro b hb
        simp only [List.mem_cons, List.not_mem_nil, or_false] at hb
        rcases hb with rfl | rfl | rfl <;> rw [toNat_ofNat_of_lt (by omega)] <;> omega
      · intro b hb
        simp only [List.mem_cons, List.not_mem_nil, or_false] at hb
        rcases hb with rfl | rfl | rfl | rfl <;> rw [toNat_ofNat_of_lt (by omega)] <;> omega

variable {c : Char}

/-- An ASCII byte occurs in what is written for its own character only. -/
theorem mem_encodeChar_iff_of_ascii (h : c.toNat < 0x80) {c' : Char} :
    UInt8.ofNat c.toNat ∈ String.utf8EncodeChar c' ↔ c' = c := by
  constructor
  · intro hmem
    obtain ⟨h', hbytes⟩ | ⟨h', hhigh⟩ := encodeChar_cases c'
    · rw [hbytes, List.mem_singleton] at hmem
      have hsame : c.toNat = c'.toNat := by
        rw [← toNat_ofNat_of_lt (Nat.lt_trans h (by decide)), hmem,
          toNat_ofNat_of_lt (Nat.lt_trans h' (by decide))]
      exact Char.toNat_inj.1 hsame.symm
    · have := hhigh _ hmem
      rw [toNat_ofNat_of_lt (Nat.lt_trans h (by decide))] at this
      omega
  · rintro rfl
    obtain ⟨-, hbytes⟩ | ⟨h', -⟩ := encodeChar_cases c'
    · rw [hbytes]
      exact List.mem_singleton_self _
    · omega

/-- A text has an ASCII character where its bytes have that byte. -/
theorem mem_encode_iff_of_ascii (h : c.toNat < 0x80) (text : String) :
    UInt8.ofNat c.toNat ∈ encode text ↔ c ∈ text.toList := by
  rw [encode, List.mem_flatMap]
  constructor
  · rintro ⟨c', hc', hmem⟩
    exact (mem_encodeChar_iff_of_ascii h).1 hmem ▸ hc'
  · intro hc
    exact ⟨c, hc, (mem_encodeChar_iff_of_ascii h).2 rfl⟩

/-- A text ends in an ASCII character where its bytes end in that byte. -/
theorem getLast?_encode_of_ascii (h : c.toNat < 0x80) (text : String) :
    (encode text).getLast? = some (UInt8.ofNat c.toNat) ↔ text.toList.getLast? = some c := by
  rw [encode]
  rcases List.eq_nil_or_concat text.toList with hnil | ⟨chars, c', hchars⟩
  · rw [hnil]
    simp
  · have hlast : (encode text).getLast? = (String.utf8EncodeChar c').getLast? := by
      obtain ⟨b, hb⟩ := Option.isSome_iff_exists.1
        (List.getLast?_isSome.2 (String.utf8EncodeChar_ne_nil (c := c')))
      rw [encode, hchars, List.concat_eq_append, List.flatMap_append, List.flatMap_singleton,
        List.getLast?_append, hb, Option.some_or]
    rw [← encode, hlast, hchars, List.concat_eq_append, List.getLast?_concat]
    constructor
    · intro hlast
      rw [(mem_encodeChar_iff_of_ascii h).1 (List.mem_of_getLast? hlast)]
    · intro hlast
      cases hlast
      obtain ⟨-, hbytes⟩ | ⟨h', -⟩ := encodeChar_cases c
      · rw [hbytes]
        rfl
      · omega

end Salutation.Text.Utf8
