import Salutation.Program
import Salutation.Text.Fields

/-!
# Texts of lines

`unlines` is the text of some lines, each with its end. Its bytes are those of the lines one after
the other, and where no line holds an end of its own the text gives its lines back: they are the
fields between the ends, with nothing behind the last.

## Main statements

* `encode_unlines` — the bytes of a text of lines.
* `fields_unlines` — the lines that it gives back.
-/
namespace Salutation.Text

open Program (lineBytes)

/-- The text of some lines, each with its end. -/
def unlines (lines : List String) : String :=
  String.ofList (lines.flatMap fun line => line.toList ++ ['\n'])

theorem toList_unlines_cons (line : String) (lines : List String) :
    (unlines (line :: lines)).toList = line.toList ++ '\n' :: (unlines lines).toList := by
  rw [unlines, unlines, String.toList_ofList, String.toList_ofList, List.flatMap_cons,
    List.append_assoc]
  rfl

/-- The bytes of a text of lines are those of the lines. -/
theorem encode_unlines (lines : List String) :
    Utf8.encode (unlines lines) = lines.flatMap lineBytes := by
  induction lines with
  | nil => rfl
  | cons line lines ih =>
    rw [List.flatMap_cons, ← ih, lineBytes, Utf8.encode, Utf8.encode, Utf8.encode,
      toList_unlines_cons, List.flatMap_append, List.flatMap_cons, List.append_assoc]
    rfl

/-- A text of lines gives its lines back, where none of them holds an end. -/
theorem fields_unlines {lines : List String} (h : ∀ line ∈ lines, '\n' ∉ line.toList) :
    fields '\n' (unlines lines).toList = lines.map String.toList ++ [[]] := by
  induction lines with
  | nil => rfl
  | cons line lines ih =>
    rw [toList_unlines_cons, fields_append_sep_cons, fields_eq_singleton (h line List.mem_cons_self),
      ih fun other hother => h other (List.mem_cons_of_mem _ hother)]
    rfl

end Salutation.Text
