import Salutation.Log.Level

/-!
# Directives

A directive sets a threshold for the targets that begin with a text, or for every target. It is
written as the text, as the name of a level, or as both. The longer the text, the further it
reaches; a directive for every target and one for the empty text reach equally far.
-/
namespace Salutation.Log

/-- The threshold for the targets that begin with a text, or for every target. -/
structure Directive where
  target? : Option String
  threshold : Threshold
  deriving DecidableEq, Repr

namespace Directive

/-- The directive for every target. -/
def everything (threshold : Threshold) : Directive := ⟨none, threshold⟩

/-- The directive for the targets that begin with a text. -/
def under (target : List Char) (threshold : Threshold) : Directive :=
  ⟨some (String.ofList target), threshold⟩

/-- Whether a directive is for a target. -/
def covers (d : Directive) (target : String) : Bool :=
  match d.target? with
  | none => true
  | some start => start.toList.isPrefixOf target.toList

/-- How long the text is that a target must begin with. -/
def reach (d : Directive) : Nat := d.target?.elim 0 String.utf8ByteSize

/-- Whether a character is a letter, a digit, or a sign that the names of targets are made with. -/
def isTargetChar (c : Char) : Bool :=
  ('a' ≤ c && c ≤ 'z') || ('A' ≤ c && c ≤ 'Z') || ('0' ≤ c && c ≤ '9') || c = '_' || c = ':'

/-- How a directive is written. -/
inductive Spelled : String → Directive → Prop where
  /-- The name of a level, in capitals or not, sets it for every target. -/
  | level {name : String} {threshold : Threshold}
      (h : Threshold.ofName? name.toList = some threshold) : Spelled name (everything threshold)
  /-- A text that names no level shows every record of the targets that begin with it. -/
  | target {start : String} (hne : start ≠ "") (hstart : start.toList.all isTargetChar = true)
      (h : Threshold.ofName? start.toList = none) : Spelled start ⟨some start, .all⟩
  /-- A text and the name of a level, with a sign of equality between them, set it for the targets
  that begin with the text. -/
  | assignment {start name : String} {threshold : Threshold}
      (hstart : start.toList.all isTargetChar = true)
      (h : Threshold.ofName? name.toList = some threshold) :
      Spelled (start ++ "=" ++ name) ⟨some start, threshold⟩

/-- A directive prevails on a target between those before it and those behind it: it is for the
target, reaches as far as those before it that are, and further than those behind it that are. -/
structure Prevails (target : String) (before : List Directive) (d : Directive)
    (later : List Directive) : Prop where
  covers : d.covers target = true
  before_le : ∀ e ∈ before, e.covers target = true → e.reach ≤ d.reach
  later_lt : ∀ e ∈ later, e.covers target = true → e.reach < d.reach

end Directive

end Salutation.Log
