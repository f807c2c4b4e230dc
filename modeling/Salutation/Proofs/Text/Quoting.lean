import Salutation.Text.Quoted

/-!
# Quoted texts are told apart, and stay on their line

A quoted text gives back the text that it was made of: reading it from the left, each escape shows
where it ends and which character it stands for, also in a text that is itself full of backslashes
and braces. And it holds no character that would break its line. Neither depends on the details of
the table of unprintable characters; the second asks no more of a table than to hide the characters
that break lines, so the escapes are treated here for any table.

## Main definitions

* `isBreak` — the controls and the separators of lines and paragraphs.
* `Unbroken` — texts without any of them.
* `escapeBy`, `quoteBy` — escapes and quoted texts under any table; `quote` is the case of ours.
* `unescape` — reads one character of a quoted text back.

## Main statements

* `unescape_escapeBy` — an escape is read back, whatever follows it.
* `quoteBy_inj` — quoted texts are told apart.
* `unbroken_quoteBy` — no character of a quoted text breaks its line.
-/
namespace Salutation.Text

/-! ## Characters that break a line -/

/-- Whether a character is a control (Cc), the separator of lines (Zl) or that of paragraphs
(Zp). -/
def isBreak (c : Char) : Bool :=
  let n := c.toNat
  n ≤ 0x1F || (0x7F ≤ n && n ≤ 0x9F) || n == 0x2028 || n == 0x2029

/-- The text of a line that nothing in it breaks. -/
def Unbroken (text : String) : Prop := ∀ c ∈ text.toList, isBreak c = false

instance (text : String) : Decidable (Unbroken text) :=
  List.decidableBAll (fun c => isBreak c = false) text.toList

theorem Unbroken.append {text later : String} (h : Unbroken text) (hlater : Unbroken later) :
    Unbroken (text ++ later) := by
  intro c hc
  rw [String.toList_append, List.mem_append] at hc
  exact hc.elim (h c) (hlater c)

/-- A table of printable characters does not show those that break a line. -/
def HidesBreaks (printable : Char → Bool) : Prop := ∀ c, isBreak c = true → printable c = false

theorem isBreak_iff {c : Char} :
    isBreak c = true ↔
      c.toNat ≤ 0x1F ∨ (0x7F ≤ c.toNat ∧ c.toNat ≤ 0x9F) ∨ c.toNat = 0x2028 ∨ c.toNat = 0x2029 := by
  simp [isBreak, or_assoc]

/-- The characters of one range of the table are hidden. -/
theorem isPrintable_of_mem_unprintable {c : Char} {r : Nat × Nat} (hr : r ∈ unprintable)
    (hlow : r.1 ≤ c.toNat) (hhigh : c.toNat ≤ r.2) : isPrintable c = false := by
  have hcovers : covers unprintable c.toNat = true :=
    (covers_iff (by decide +kernel) c.toNat).2 ⟨r, hr, hlow, hhigh⟩
  rw [isPrintable, hcovers]
  rfl

/-- The table of the characters in use hides those that break a line. -/
theorem isPrintable_hidesBreaks : HidesBreaks isPrintable := by
  intro c hc
  obtain hlow | ⟨hlow, hhigh⟩ | hline | hparagraph := isBreak_iff.1 hc
  · exact isPrintable_of_mem_unprintable (r := (0x0, 0x1F)) (by decide +kernel) (Nat.zero_le _) hlow
  · exact isPrintable_of_mem_unprintable (r := (0x7F, 0xA0)) (by decide +kernel) hlow
      (Nat.le_succ_of_le hhigh)
  · exact isPrintable_of_mem_unprintable (r := (0x2028, 0x202F)) (by decide +kernel)
      (by simp [hline]) (by simp [hline])
  · exact isPrintable_of_mem_unprintable (r := (0x2028, 0x202F)) (by decide +kernel)
      (by simp [hparagraph]) (by simp [hparagraph])

/-! ## Hexadecimal digits -/

/-- The value of a hexadecimal digit. -/
def digitValue (digit : Char) : Nat :=
  if digit.toNat < 0x3A then digit.toNat - 0x30 else digit.toNat - 0x57

/-- The number that hexadecimal digits stand for. -/
def hexValue (digits : List Char) : Nat :=
  digits.foldl (fun value digit => 16 * value + digitValue digit) 0

theorem hexValue_concat (digits : List Char) (digit : Char) :
    hexValue (digits ++ [digit]) = 16 * hexValue digits + digitValue digit := by
  rw [hexValue, List.foldl_append]
  rfl

theorem digitValue_digitChar : ∀ n < 16, digitValue n.digitChar = n := by decide

/-- The digits of a number stand for it. -/
theorem hexValue_toDigits (n : Nat) : hexValue (Nat.toDigits 16 n) = n := by
  induction n using Nat.strongRecOn with
  | ind n ih =>
    by_cases hn : n < 16
    · rw [Nat.toDigits_of_lt_base hn, ← List.nil_append [_], hexValue_concat,
        digitValue_digitChar n hn]
      exact Nat.zero_add n
    · rw [Nat.toDigits_of_base_le (by decide) (Nat.le_of_not_lt hn), hexValue_concat,
        ih (n / 16) (by omega), digitValue_digitChar (n % 16) (Nat.mod_lt _ (by decide))]
      exact Nat.div_add_mod n 16

/-- The digits of a number are those of the numbers below the base. -/
theorem exists_digitChar_of_mem_toDigits {n : Nat} {digit : Char}
    (h : digit ∈ Nat.toDigits 16 n) : ∃ d < 16, digit = d.digitChar := by
  induction n using Nat.strongRecOn with
  | ind n ih =>
    by_cases hn : n < 16
    · rw [Nat.toDigits_of_lt_base hn, List.mem_singleton] at h
      exact ⟨n, hn, h⟩
    · rw [Nat.toDigits_of_base_le (by decide) (Nat.le_of_not_lt hn), List.mem_append,
        List.mem_singleton] at h
      obtain h | h := h
      · exact ih (n / 16) (by omega) h
      · exact ⟨n % 16, Nat.mod_lt _ (by decide), h⟩

/-! ## Escapes under any table -/

section
variable (printable : Char → Bool)

/-- One character of a quoted text, of which those that `printable` admits are shown as they
stand. -/
def escapeBy (c : Char) : List Char :=
  match shortEscape? c with
  | some letter => ['\\', letter]
  | none =>
    if printable c then [c]
    else ['\\', 'u', '\x7b'] ++ Nat.toDigits 16 c.toNat ++ ['\x7d']

/-- A text between double quotes, with escapes under a table. -/
def quoteBy (text : String) : String :=
  String.ofList ('"' :: text.toList.flatMap (escapeBy printable) ++ ['"'])

theorem quote_eq_quoteBy : quote = quoteBy isPrintable := rfl

theorem toList_quoteBy (text : String) :
    (quoteBy printable text).toList =
      '"' :: text.toList.flatMap (escapeBy printable) ++ ['"'] := String.toList_ofList

end

/-- The character that a letter behind a backslash stands for. -/
def ofLetter? : Char → Option Char
  | '0' => some '\x00'
  | 't' => some '\t'
  | 'n' => some '\n'
  | 'r' => some '\r'
  | '"' => some '"'
  | '\\' => some '\\'
  | _ => none

/-- Reads one character of a quoted text back, and gives what follows it. -/
def unescape : List Char → Option (Char × List Char)
  | [] => none
  | c :: text =>
    if c ≠ '\\' then some (c, text)
    else
      match text with
      | 'u' :: '\x7b' :: later =>
        some (Char.ofNat (hexValue (later.takeWhile (· ≠ '\x7d'))),
          (later.dropWhile (· ≠ '\x7d')).tail)
      | letter :: later => (ofLetter? letter).map (·, later)
      | [] => none

/-- Digits are read up to the brace that closes them. -/
theorem unescape_digits (later : List Char) :
    unescape ('\\' :: 'u' :: '\x7b' :: later) =
      some (Char.ofNat (hexValue (later.takeWhile (· ≠ '\x7d'))),
        (later.dropWhile (· ≠ '\x7d')).tail) := rfl

variable {printable : Char → Bool} {c : Char}

/-- The letter of a short escape stands for its character, and for no digits and no break. -/
theorem ofLetter?_of_shortEscape? {letter : Char} (h : shortEscape? c = some letter) :
    ofLetter? letter = some c ∧ letter ≠ 'u' ∧ isBreak letter = false := by
  unfold shortEscape? at h
  split at h <;> cases h <;> decide

/-- Any other letter than the one before digits is read alone. -/
theorem unescape_letter {letter : Char} (h : letter ≠ 'u') (later : List Char) :
    unescape ('\\' :: letter :: later) = (ofLetter? letter).map (·, later) := by
  rw [unescape.eq_def]
  simp only [ne_eq, not_true_eq_false, if_false]
  split
  · rename_i heq
    cases heq
    exact absurd rfl h
  · rename_i heq
    cases heq
    rfl
  · rename_i heq
    cases heq

/-- All that an escape can be: a backslash and a letter, the character itself, which is then
printable and no backslash, or its digits between braces. -/
theorem escapeBy_cases (printable : Char → Bool) (c : Char) :
    (∃ letter, shortEscape? c = some letter ∧ escapeBy printable c = ['\\', letter]) ∨
    (c ≠ '\\' ∧ printable c = true ∧ escapeBy printable c = [c]) ∨
    escapeBy printable c = '\\' :: 'u' :: '\x7b' :: (Nat.toDigits 16 c.toNat ++ ['\x7d']) := by
  rw [escapeBy]
  cases hshort : shortEscape? c with
  | some letter => exact .inl ⟨letter, rfl, rfl⟩
  | none =>
    have hne : c ≠ '\\' := by
      rintro rfl
      cases hshort
    by_cases hprint : printable c = true
    · exact .inr (.inl ⟨hne, hprint, if_pos hprint⟩)
    · exact .inr (.inr (if_neg hprint))

/-- **An escape is read back**, whatever follows it. -/
theorem unescape_escapeBy (printable : Char → Bool) (c : Char) (later : List Char) :
    unescape (escapeBy printable c ++ later) = some (c, later) := by
  obtain ⟨letter, hshort, hescape⟩ | ⟨hne, -, hescape⟩ | hescape := escapeBy_cases printable c
  · obtain ⟨hletter, hne, -⟩ := ofLetter?_of_shortEscape? hshort
    rw [hescape, List.cons_append, List.singleton_append, unescape_letter hne, hletter]
    rfl
  · rw [hescape]
    exact if_pos hne
  · have hdigits : ∀ digit ∈ Nat.toDigits 16 c.toNat, decide (digit ≠ '\x7d') = true := by
      intro digit hdigit
      obtain ⟨d, -, rfl⟩ := exists_digitChar_of_mem_toDigits hdigit
      exact decide_eq_true (Nat.digitChar_ne '\x7d' (by decide))
    rw [hescape, List.cons_append, List.cons_append, List.cons_append, List.append_assoc,
      List.singleton_append, unescape_digits, List.takeWhile_append_of_pos hdigits,
      List.dropWhile_append_of_pos hdigits, List.takeWhile_cons_of_neg (by decide),
      List.dropWhile_cons_of_neg (by decide), List.append_nil, hexValue_toDigits, Char.ofNat_toNat,
      List.tail_cons]

/-- The escapes of a text tell it. -/
theorem flatMap_escapeBy_inj {printable printable' : Char → Bool} {text text' : List Char}
    (h : text.flatMap (escapeBy printable) = text'.flatMap (escapeBy printable')) :
    text = text' := by
  have hread (printable : Char → Bool) (c : Char) (text : List Char) :
      unescape ((c :: text).flatMap (escapeBy printable)) =
        some (c, text.flatMap (escapeBy printable)) := by
    rw [List.flatMap_cons, unescape_escapeBy]
  induction text generalizing text' with
  | nil =>
    cases text' with
    | nil => rfl
    | cons c' text' =>
      have hnone := hread printable' c' text'
      rw [← h] at hnone
      cases hnone
  | cons c text ih =>
    have hfirst := hread printable c text
    rw [h] at hfirst
    cases text' with
    | nil => cases hfirst
    | cons c' text' =>
      rw [hread, Option.some_inj, Prod.mk.injEq] at hfirst
      rw [hfirst.1, ih hfirst.2.symm]

/-- **Quoted texts are told apart**, also where they are quoted under different tables. -/
theorem quoteBy_inj {printable printable' : Char → Bool} {text text' : String}
    (h : quoteBy printable text = quoteBy printable' text') : text = text' := by
  have hlists := congrArg String.toList h
  rw [toList_quoteBy, toList_quoteBy, List.append_left_inj, List.cons_inj_right] at hlists
  exact String.toList_inj.1 (flatMap_escapeBy_inj hlists)

theorem quote_inj {text text' : String} : quote text = quote text' ↔ text = text' :=
  ⟨quoteBy_inj, congrArg quote⟩

/-- A text that looks like an escape and the character that the escape stands for. -/
example : quote "\\u\x7ba\x7d" ≠ quote "\n" ∧ quote "\\n" ≠ quote "\n" := by
  decide +kernel

/-! ## Breaks in quoted texts -/

/-- An escape does not break a line. -/
theorem isBreak_of_mem_escapeBy (h : HidesBreaks printable) {d : Char}
    (hd : d ∈ escapeBy printable c) : isBreak d = false := by
  obtain ⟨letter, hshort, hescape⟩ | ⟨-, hprint, hescape⟩ | hescape := escapeBy_cases printable c
  · rw [hescape, List.mem_cons, List.mem_singleton] at hd
    rcases hd with rfl | rfl
    · rfl
    · exact (ofLetter?_of_shortEscape? hshort).2.2
  · rw [hescape, List.mem_singleton] at hd
    rw [hd, ← Bool.not_eq_true]
    intro hbreak
    rw [h c hbreak] at hprint
    cases hprint
  · rw [hescape] at hd
    simp only [List.mem_cons, List.mem_append, List.not_mem_nil, or_false] at hd
    rcases hd with rfl | rfl | rfl | hd | rfl
    · rfl
    · rfl
    · rfl
    · obtain ⟨n, hn, rfl⟩ := exists_digitChar_of_mem_toDigits hd
      have hdigits : ∀ n < 16, isBreak n.digitChar = false := by decide
      exact hdigits n hn
    · rfl

/-- **A quoted text does not break its line.** -/
theorem unbroken_quoteBy (h : HidesBreaks printable) (text : String) :
    Unbroken (quoteBy printable text) := by
  intro d hd
  rw [toList_quoteBy, List.mem_append, List.mem_cons, List.mem_flatMap, List.mem_singleton] at hd
  obtain (rfl | ⟨c, -, hd⟩) | rfl := hd
  · rfl
  · exact isBreak_of_mem_escapeBy h hd
  · rfl

end Salutation.Text
