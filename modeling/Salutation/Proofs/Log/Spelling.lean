import Salutation.Log.Filter
import Salutation.Proofs.Log.Letters

/-!
# Lists of directives, spelled

A specification without a slash is a list of directives with commas between them. Each text between
two commas is read by itself, what is wrong with it included, so lists that are joined by a comma
are read as the lists one after the other, and a directive is read as it is written. Behind a slash
stands a text for the messages, and the list before it is read as it is without the slash.

## Main statements

* `Reading.ofSpec_of_slash_notMem` — a specification that is a list of directives.
* `Reading.ofSpec_of_ok`, `Reading.ofSpec_of_error` — one with a text for the messages.
* `Reading.directives_ofList_comma`, `Reading.errors_ofList_comma` — lists that are joined.
* `Reading.ofList_spelled` — a list of one directive.
-/
namespace Salutation.Log

open Text (fields fields_append_sep_cons fields_eq_singleton isBlank)

/-- A character between two texts. -/
theorem toList_between (sep : String) (c : Char) (h : sep.toList = [c]) {list later : String} :
    (list ++ sep ++ later).toList = list.toList ++ c :: later.toList := by
  rw [String.toList_append, String.toList_append, h, List.append_assoc, List.singleton_append]

/-! ## Items -/

namespace Directive

theorem items_append_comma (list later : List Char) :
    items (list ++ ',' :: later) = items list ++ items later := by
  rw [items, fields_append_sep_cons, List.map_append, List.filter_append]
  rfl

section
variable {text : String} {d : Directive} (h : Spelled text d)
include h

/-- A directive is one item. -/
theorem items_spelled : items text.toList = [text.toList] := by
  rw [items, fields_eq_singleton h.comma_notMem, List.map_singleton,
    Text.trim_eq_self fun _ => h.isBlank_of_mem]
  simp [h.toList_ne_nil]

/-- **A directive is read** as it is written. -/
theorem ofItem_spelled : ofItem text.toList = .ok d := by
  cases h with
  | level h =>
    have hequals := equals_notMem fun _ => isTargetChar_of_mem_name h
    simp only [ofItem, fields_eq_singleton hequals, h, Option.elim_some]
  | target _ hstart h =>
    have hequals := equals_notMem (List.all_eq_true.1 hstart)
    simp only [ofItem, fields_eq_singleton hequals, h, Option.elim_none, under,
      String.ofList_toList]
  | @assignment start name threshold hstart h =>
    have hequals := equals_notMem (List.all_eq_true.1 hstart)
    have hequals_name := equals_notMem fun _ => isTargetChar_of_mem_name h
    have htrim : Text.trim name.toList = name.toList :=
      Text.trim_eq_self fun _ hc => isBlank_of_isTargetChar (isTargetChar_of_mem_name h hc)
    rw [toList_between "=" '=' rfl, ofItem, fields_append_sep_cons, fields_eq_singleton hequals,
      fields_eq_singleton hequals_name]
    simp only [List.singleton_append, htrim, if_neg (name_ne_nil h), h, under,
      String.ofList_toList]

end

end Directive

/-! ## Lists -/

namespace Reading

theorem directives_ofList_comma (list later : List Char) :
    (ofList (list ++ ',' :: later)).directives =
      (ofList list).directives ++ (ofList later).directives := by
  rw [ofList, Directive.items_append_comma, List.map_append]
  exact List.filterMap_append

theorem errors_ofList_comma (list later : List Char) :
    (ofList (list ++ ',' :: later)).errors = (ofList list).errors ++ (ofList later).errors := by
  rw [ofList, Directive.items_append_comma, List.map_append]
  exact List.filterMap_append

theorem ofList_spelled {text : String} {d : Directive} (h : Directive.Spelled text d) :
    ofList text.toList = { directives := [d] } := by
  simp only [ofList, Directive.items_spelled h, List.map_singleton, Directive.ofItem_spelled h]
  rfl

/-! ## Specifications -/

variable (compile : String → Except String (String → Bool))

/-- A specification without a slash is a list of directives and no more. -/
theorem ofSpec_of_slash_notMem {spec : String} (h : '/' ∉ spec.toList) :
    ofSpec compile spec = ofList spec.toList := by
  rw [ofSpec, fields_eq_singleton h]

section
variable {compile} {list text : String} (hlist : '/' ∉ list.toList) (htext : '/' ∉ text.toList)
include hlist htext

theorem fields_slash : fields '/' (list ++ "/" ++ text).toList = [list.toList, text.toList] := by
  rw [toList_between "/" '/' rfl, fields_append_sep_cons, fields_eq_singleton hlist, fields_eq_singleton htext]
  rfl

/-- A text behind a slash is what the messages are searched for. -/
theorem ofSpec_of_ok {found : String → Bool} (h : compile text = .ok found) :
    ofSpec compile (list ++ "/" ++ text) =
      { ofList list.toList with search? := some found } := by
  simp only [ofSpec, fields_slash hlist htext, String.ofList_toList, h]

/-- If it means nothing that is one thing more that is wrong. -/
theorem ofSpec_of_error {reason : String} (h : compile text = .error reason) :
    ofSpec compile (list ++ "/" ++ text) =
      { ofList list.toList with errors := (ofList list.toList).errors ++ [.badSearch reason] } := by
  simp only [ofSpec, fields_slash hlist htext, String.ofList_toList, h]

end

end Reading

end Salutation.Log
