/-!
# Fields of a text

`fields sep text` are the parts of a text between the occurrences of a separator. There is always
one more field than there are separators, so an empty text has one empty field.
-/
namespace Salutation.Text

/-- The parts between the separators, in order. -/
def fields (sep : Char) : List Char → List (List Char)
  | [] => [[]]
  | c :: rest =>
    if c = sep then [] :: fields sep rest
    else
      match fields sep rest with
      | [] => [[c]]
      | field :: others => (c :: field) :: others

variable {sep : Char}

@[simp] theorem fields_nil : fields sep [] = [[]] := rfl

@[simp] theorem fields_sep_cons (rest : List Char) :
    fields sep (sep :: rest) = [] :: fields sep rest := by simp [fields]

theorem fields_ne_nil (text : List Char) : fields sep text ≠ [] := by
  induction text with
  | nil => simp
  | cons c rest ih =>
    by_cases h : c = sep
    · simp [fields, h]
    · cases hr : fields sep rest with
      | nil => exact absurd hr ih
      | cons field others => simp [fields, h, hr]

/-- A text without separators is its own field. -/
theorem fields_eq_singleton {text : List Char} (h : sep ∉ text) : fields sep text = [text] := by
  induction text with
  | nil => rfl
  | cons c rest ih =>
    simp only [List.mem_cons, not_or] at h
    simp [fields, Ne.symm h.1, ih h.2]

/-- Cutting at any one separator cuts the fields apart there. -/
theorem fields_append_sep_cons (text later : List Char) :
    fields sep (text ++ sep :: later) = fields sep text ++ fields sep later := by
  induction text with
  | nil => simp
  | cons c rest ih =>
    by_cases h : c = sep
    · simp [fields, h, ih]
    · cases hr : fields sep rest with
      | nil => exact absurd hr (fields_ne_nil rest)
      | cons field others => simp [fields, h, ih, hr]

end Salutation.Text
