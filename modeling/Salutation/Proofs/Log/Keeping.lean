import Mathlib.Data.List.Basic
import Mathlib.Data.List.Induction
import Mathlib.Data.List.Nodup
import Mathlib.Data.List.Pairwise
import Salutation.Log.Directive

/-!
# What a filter keeps

Of the directives that it is made of a filter keeps one for each target. A directive takes the place
of an earlier one for its target, so the threshold that is kept is the last that was set, and the
place that of the first.

## Main definitions

* `Directive.LastFor` — the last directive for its target.
* `Directive.firstPlace` — where a target comes up first.
* `Directive.Keeps` — one directive for each target, in this order.

## Main statements

* `Directive.Keeps.concat`, `Directive.Keeps.replace` — what one more directive changes.
-/
namespace Salutation.Log.Directive

/-! ## Last and first -/

/-- A directive is the last for its target. -/
def LastFor (ds : List Directive) (d : Directive) : Prop :=
  ∃ before later, ds = before ++ d :: later ∧ ∀ e ∈ later, e.target? ≠ d.target?

/-- The place where a target comes up first. -/
def firstPlace (ds : List Directive) (target? : Option String) : Nat :=
  (ds.map Directive.target?).idxOf target?

section
variable {ds : List Directive} {d e x : Directive}

theorem LastFor.mem (h : LastFor ds d) : d ∈ ds := by
  obtain ⟨before, later, rfl, -⟩ := h
  simp

/-- One more directive is the last for its target, and leaves the others as they were. -/
theorem lastFor_concat :
    LastFor (ds ++ [x]) d ↔ d = x ∨ (d.target? ≠ x.target? ∧ LastFor ds d) := by
  constructor
  · rintro ⟨before, later, heq, hlater⟩
    obtain rfl | ⟨later, y, rfl⟩ := List.eq_nil_or_concat later
    · exact .inl (List.append_inj_right' heq rfl |> List.singleton_inj.1).symm
    · rw [List.concat_eq_append, ← List.cons_append, ← List.append_assoc] at heq
      obtain ⟨hds, hx⟩ := List.append_inj' heq rfl
      rw [List.singleton_inj] at hx
      refine .inr ⟨?_, before, later, hds, ?_⟩
      · rw [hx]
        exact (hlater y (by simp)).symm
      · intro e he
        exact hlater e (by simp [he])
  · rintro (rfl | ⟨hne, before, later, rfl, hlater⟩)
    · exact ⟨ds, [], rfl, nofun⟩
    · refine ⟨before, later ++ [x], by simp, ?_⟩
      intro e he
      obtain he | he := List.mem_append.1 he
      · exact hlater e he
      · rw [List.mem_singleton.1 he]
        exact hne.symm

/-- For every target that comes up there is a last directive. -/
theorem exists_lastFor (h : d ∈ ds) : ∃ e, LastFor ds e ∧ e.target? = d.target? := by
  induction ds using List.reverseRecOn with
  | nil => cases h
  | append_singleton ds x ih =>
    by_cases hx : d.target? = x.target?
    · exact ⟨x, lastFor_concat.2 (.inl rfl), hx.symm⟩
    · have hd : d ∈ ds := by
        obtain hd | hd := List.mem_append.1 h
        · exact hd
        · exact absurd (congrArg target? (List.mem_singleton.1 hd)) hx
      obtain ⟨e, he, htarget⟩ := ih hd
      exact ⟨e, lastFor_concat.2 (.inr ⟨htarget ▸ hx, he⟩), htarget⟩

/-- There is no more than one. -/
theorem LastFor.unique (hd : LastFor ds d) (he : LastFor ds e) (h : d.target? = e.target?) :
    d = e := by
  induction ds using List.reverseRecOn with
  | nil => exact absurd hd.mem List.not_mem_nil
  | append_singleton ds x ih =>
    obtain rfl | ⟨hdx, hd⟩ := lastFor_concat.1 hd
    · obtain rfl | ⟨hex, -⟩ := lastFor_concat.1 he
      · rfl
      · exact absurd h.symm hex
    · obtain rfl | ⟨-, he⟩ := lastFor_concat.1 he
      · exact absurd h hdx
      · exact ih hd he

/-- A target that has come up does so in the same place with one more directive. -/
theorem firstPlace_concat_of_mem {target? : Option String}
    (h : target? ∈ ds.map Directive.target?) :
    firstPlace (ds ++ [x]) target? = firstPlace ds target? := by
  rw [firstPlace, List.map_append, List.idxOf_append_of_mem h]
  rfl

/-- A target that has not come up does so behind all others. -/
theorem firstPlace_concat_self (h : x.target? ∉ ds.map Directive.target?) :
    firstPlace (ds ++ [x]) x.target? = ds.length := by
  rw [firstPlace, List.map_append, List.idxOf_append_of_notMem h]
  simp

theorem firstPlace_lt_length {target? : Option String} (h : target? ∈ ds.map Directive.target?) :
    firstPlace ds target? < ds.length := by
  have hlt := List.idxOf_lt_length_of_mem h
  rwa [List.length_map] at hlt

end

/-! ## What is kept -/

/-- What is kept of some directives: the last for each target, in the order in which the targets
come up first. -/
structure Keeps (ds kept : List Directive) : Prop where
  mem_iff : ∀ d, d ∈ kept ↔ LastFor ds d
  ordered : (kept.map Directive.target?).Pairwise (firstPlace ds · < firstPlace ds ·)

theorem keeps_nil : Keeps [] [] := by
  refine ⟨?_, List.Pairwise.nil⟩
  intro d
  refine ⟨nofun, ?_⟩
  intro hd
  exact absurd hd.mem List.not_mem_nil

namespace Keeps

variable {ds kept before later : List Directive} {e x : Directive}

section
variable (h : Keeps ds kept)
include h

theorem nodup : (kept.map Directive.target?).Nodup := by
  refine h.ordered.imp ?_
  rintro a b hlt rfl
  exact Nat.lt_irrefl _ hlt

/-- Every target has its directive among those that are kept. -/
theorem mem_map_iff (target? : Option String) :
    target? ∈ kept.map Directive.target? ↔ target? ∈ ds.map Directive.target? := by
  constructor
  · intro hmem
    obtain ⟨d, hd, rfl⟩ := List.mem_map.1 hmem
    exact List.mem_map_of_mem ((h.mem_iff d).1 hd).mem
  · intro hmem
    obtain ⟨d, hd, rfl⟩ := List.mem_map.1 hmem
    obtain ⟨e, he, htarget⟩ := exists_lastFor hd
    exact List.mem_map.2 ⟨e, (h.mem_iff e).2 he, htarget⟩

/-- With one more directive the targets that were kept are where they were. -/
theorem ordered_concat (x : Directive) : (kept.map Directive.target?).Pairwise
    (firstPlace (ds ++ [x]) · < firstPlace (ds ++ [x]) ·) := by
  refine h.ordered.imp_of_mem ?_
  intro a b ha hb hlt
  rwa [firstPlace_concat_of_mem ((h.mem_map_iff a).1 ha),
    firstPlace_concat_of_mem ((h.mem_map_iff b).1 hb)]

/-- A directive for another target comes behind those that are kept. -/
theorem concat (hx : x.target? ∉ ds.map Directive.target?) : Keeps (ds ++ [x]) (kept ++ [x]) := by
  refine ⟨?_, ?_⟩
  · intro d
    rw [lastFor_concat, List.mem_append, List.mem_singleton, h.mem_iff, or_comm]
    refine or_congr_right (and_iff_right_of_imp ?_).symm
    intro hd htarget
    exact hx (htarget ▸ List.mem_map_of_mem hd.mem)
  · rw [List.map_append]
    refine List.pairwise_append.2 ⟨h.ordered_concat x, List.pairwise_singleton _ _, ?_⟩
    intro a ha b hb
    have ha' := (h.mem_map_iff a).1 ha
    rw [List.mem_singleton.1 hb, firstPlace_concat_of_mem ha', firstPlace_concat_self hx]
    exact firstPlace_lt_length ha'

/-- The directive for a target that has come up stands in one place. -/
theorem exists_split (hx : x.target? ∈ ds.map Directive.target?) :
    ∃ before e later, kept = before ++ e :: later ∧ e.target? = x.target? ∧
      ∀ k ∈ before, k.target? ≠ x.target? := by
  obtain ⟨e, he, htarget⟩ := List.mem_map.1 ((h.mem_map_iff _).2 hx)
  obtain ⟨before, later, rfl⟩ := List.append_of_mem he
  refine ⟨before, e, later, rfl, htarget, ?_⟩
  intro k hk
  have hnodup := h.nodup
  rw [List.map_append, List.nodup_append] at hnodup
  rw [← htarget]
  exact hnodup.2.2 _ (List.mem_map_of_mem hk) _ (by simp)

end

/-- A directive for the same target takes the place of the one that is kept. -/
theorem replace (h : Keeps ds (before ++ e :: later)) (he : e.target? = x.target?) :
    Keeps (ds ++ [x]) (before ++ x :: later) := by
  have hsame : (before ++ x :: later).map Directive.target? =
      (before ++ e :: later).map Directive.target? := by simp [he]
  refine ⟨?_, hsame ▸ h.ordered_concat x⟩
  intro d
  -- All the others are for other targets.
  have hnodup := h.nodup
  rw [List.map_append, List.map_cons, List.nodup_middle, List.nodup_cons, ← List.map_append] at hnodup
  have hothers : d ∈ before ++ later → d.target? ≠ x.target? := by
    intro hd htarget
    exact hnodup.1 (he ▸ htarget ▸ List.mem_map_of_mem hd)
  have hmem : LastFor ds d ↔ d = e ∨ d ∈ before ++ later := by
    rw [← h.mem_iff]
    simp [or_left_comm]
  rw [lastFor_concat, hmem]
  constructor
  · intro hd
    obtain rfl | hd : d = x ∨ d ∈ before ++ later := by simpa [or_left_comm] using hd
    · exact .inl rfl
    · exact .inr ⟨hothers hd, .inr hd⟩
  · rintro (rfl | ⟨hne, rfl | hd⟩)
    · simp
    · exact absurd he hne
    · simpa [or_left_comm] using Or.inr hd

end Keeps

end Salutation.Log.Directive
