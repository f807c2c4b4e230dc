import Salutation.Log.Directive
import Salutation.Text.Blank

/-!
# What directives are written with

A directive is written with letters, digits and the signs of targets, and with a sign of equality at
most. The names of levels have letters only. So no directive has a comma, a slash or a blank in it,
which mean something else in a specification.

## Main statements

* `isTargetChar_of_mem_name` — the characters of the name of a level.
* `Directive.Spelled.isTargetChar_or_eq` — those of any directive.
-/
namespace Salutation.Log

open Directive (isTargetChar)
open Text (isBlank)

theorem toNat_of_isTargetChar {c : Char} (h : isTargetChar c = true) :
    48 ≤ c.toNat ∧ c.toNat ≤ 122 := by
  simp only [isTargetChar, Bool.or_eq_true, Bool.and_eq_true, decide_eq_true_eq, Char.le_def,
    UInt32.le_iff_toNat_le] at h
  obtain (((⟨hlow, hhigh⟩ | ⟨hlow, hhigh⟩) | ⟨hlow, hhigh⟩) | rfl) | rfl := h
  · exact ⟨Nat.le_trans (by decide) hlow, Nat.le_trans hhigh (by decide)⟩
  · exact ⟨Nat.le_trans (by decide) hlow, Nat.le_trans hhigh (by decide)⟩
  · exact ⟨Nat.le_trans (by decide) hlow, Nat.le_trans hhigh (by decide)⟩
  · decide
  · decide

theorem isBlank_of_isTargetChar {c : Char} (h : isTargetChar c = true) : isBlank c = false := by
  have hrange := toNat_of_isTargetChar h
  rw [← Bool.not_eq_true]
  simp only [isBlank, Bool.or_eq_true, Bool.and_eq_true, decide_eq_true_eq, beq_iff_eq]
  omega

/-- The sign of equality is no character of targets. -/
theorem equals_notMem {text : List Char} (h : ∀ c ∈ text, isTargetChar c = true) : '=' ∉ text := by
  intro hmem
  exact absurd (h '=' hmem) (by decide)

/-! ## Names of levels -/

/-- The names of levels, without capitals. -/
def levelNames : List String := ["off", "error", "warn", "info", "debug", "trace"]

section
variable {name : List Char} {threshold : Threshold} (h : Threshold.ofName? name = some threshold)
include h

theorem lower_mem_levelNames : String.ofList (name.map Char.toLower) ∈ levelNames := by
  rw [Threshold.ofName?] at h
  split at h <;> simp_all [levelNames]

theorem isTargetChar_of_mem_name {c : Char} (hc : c ∈ name) : isTargetChar c = true := by
  by_cases hcapital : 'A' ≤ c ∧ c ≤ 'Z'
  · simp [isTargetChar, hcapital]
  · -- What is no capital is in the name without capitals as it is.
    have hlower : c.toLower = c := dif_neg hcapital
    have hmem : c ∈ levelNames.flatMap String.toList := by
      refine List.mem_flatMap.2 ⟨_, lower_mem_levelNames h, ?_⟩
      rw [String.toList_ofList, ← hlower]
      exact List.mem_map_of_mem hc
    have hletters : (levelNames.flatMap String.toList).all isTargetChar = true := by
      decide +kernel
    exact List.all_eq_true.1 hletters c hmem

theorem name_ne_nil : name ≠ [] := by
  rintro rfl
  exact absurd (lower_mem_levelNames h) (by decide)

end

/-! ## Directives -/

namespace Directive.Spelled

variable {text : String} {d : Directive} (h : Spelled text d)
include h

/-- **A directive is written** with the characters of targets, and a sign of equality at most. -/
theorem isTargetChar_or_eq {c : Char} (hc : c ∈ text.toList) : isTargetChar c = true ∨ c = '=' := by
  cases h with
  | level h => exact .inl (isTargetChar_of_mem_name h hc)
  | target _ hstart _ => exact .inl (List.all_eq_true.1 hstart c hc)
  | assignment hstart h =>
    rw [String.toList_append, String.toList_append, List.mem_append, List.mem_append] at hc
    obtain (hc | hc) | hc := hc
    · exact .inl (List.all_eq_true.1 hstart c hc)
    · exact .inr (List.mem_singleton.1 hc)
    · exact .inl (isTargetChar_of_mem_name h hc)

theorem comma_notMem : ',' ∉ text.toList := by
  intro hmem
  exact absurd (h.isTargetChar_or_eq hmem) (by decide)

theorem slash_notMem : '/' ∉ text.toList := by
  intro hmem
  exact absurd (h.isTargetChar_or_eq hmem) (by decide)

theorem isBlank_of_mem {c : Char} (hc : c ∈ text.toList) : isBlank c = false := by
  obtain hplain | rfl := h.isTargetChar_or_eq hc
  · exact isBlank_of_isTargetChar hplain
  · rfl

theorem toList_ne_nil : text.toList ≠ [] := by
  cases h with
  | level h => exact name_ne_nil h
  | target hne _ _ =>
    intro hnil
    exact hne (String.toList_inj.1 hnil)
  | assignment _ _ => simp

end Directive.Spelled

end Salutation.Log
