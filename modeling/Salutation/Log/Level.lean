/-!
# Levels of a log

A record has a level, and a threshold says up to which level records are shown. Both are named
without regard to the case of the letters.
-/
namespace Salutation.Log

/-- How much a record matters, from most to least. -/
inductive Level where
  | error | warn | info | debug | trace
  deriving DecidableEq, Repr

namespace Level

/-- How many levels matter more. -/
def rank : Level → Nat
  | error => 0
  | warn => 1
  | info => 2
  | debug => 3
  | trace => 4

/-- The name of a level in a record. -/
def name : Level → String
  | error => "ERROR"
  | warn => "WARN"
  | info => "INFO"
  | debug => "DEBUG"
  | trace => "TRACE"

end Level

/-- Up to which level records are shown. -/
inductive Threshold where
  | off
  | upTo (level : Level)
  deriving DecidableEq, Repr

namespace Threshold

/-- Whether records of a level are shown. -/
def admits : Threshold → Level → Bool
  | off, _ => false
  | upTo most, level => level.rank ≤ most.rank

@[simp] theorem admits_upTo {most level : Level} :
    (upTo most).admits level = true ↔ level.rank ≤ most.rank := by simp [admits]

/-- The threshold that shows every record. -/
def all : Threshold := upTo .trace

@[simp] theorem admits_all (level : Level) : all.admits level = true := by cases level <;> rfl

/-- The threshold of a name. -/
def ofName? (name : List Char) : Option Threshold :=
  match String.ofList (name.map Char.toLower) with
  | "off" => some off
  | "error" => some (upTo .error)
  | "warn" => some (upTo .warn)
  | "info" => some (upTo .info)
  | "debug" => some (upTo .debug)
  | "trace" => some (upTo .trace)
  | _ => none

end Threshold

end Salutation.Log
