import Salutation.Log.Directive
import Salutation.Log.Record

/-!
# Libraries for logs

A program leaves it to a library to read the specification of a filter. What it sees of the library
is how the library warns of a specification and which records are shown under it. `Library` has
these operations, and those by which the documentation of such a library explains them;
`Library.Documented` is what the documentation promises. Theorems about a program are for every
library, or for every one that is as documented.
-/
namespace Salutation.Log

/-- A library that reads specifications and judges records. -/
structure Library where
  /-- The lines that tell what is ignored of a specification. -/
  warnings : String → List String
  /-- Whether a record is shown under a specification. -/
  shows : String → Record → Bool
  /-- The directives that are well formed in a specification, in order. -/
  directives : String → List Directive
  /-- What is kept of some directives. -/
  keep : List Directive → List Directive
  /-- What a text behind a slash looks for in a message, or why it means nothing. -/
  compile : String → Except String (String → Bool)

namespace Library

/-- What the documentation of a library promises. -/
structure Documented (lib : Library) : Prop where
  /-- Directives stand in a list with commas between them, and each is read by itself. -/
  directives_comma : ∀ list later : String, '/' ∉ list.toList → '/' ∉ later.toList →
    lib.directives (list ++ "," ++ later) = lib.directives list ++ lib.directives later
  /-- So it is with what is ignored of them. -/
  warnings_comma : ∀ list later : String, '/' ∉ list.toList → '/' ∉ later.toList →
    lib.warnings (list ++ "," ++ later) = lib.warnings list ++ lib.warnings later
  /-- An empty list has no directive, and nothing is wrong with it. -/
  read_empty : lib.directives "" = [] ∧ lib.warnings "" = []
  /-- A directive is read as it is written. -/
  read_spelled : ∀ (text : String) (d : Directive), Directive.Spelled text d →
    lib.directives text = [d] ∧ lib.warnings text = []
  /-- Where there is no directive, errors are shown. -/
  keep_nil : lib.keep [] = [.everything (.upTo .error)]
  keep_singleton : ∀ d, lib.keep [d] = [d]
  /-- A directive for another target than those before it is added to them. -/
  keep_concat : ∀ (ds : List Directive) (d : Directive), ds ≠ [] →
    d.target? ∉ ds.map Directive.target? → lib.keep (ds ++ [d]) = lib.keep ds ++ [d]
  /-- A directive for the same target takes the place of the earlier one. -/
  keep_replace : ∀ (ds before later : List Directive) (d e : Directive), ds ≠ [] →
    lib.keep ds = before ++ e :: later → e.target? = d.target? →
      (∀ k ∈ before, k.target? ≠ d.target?) → lib.keep (ds ++ [d]) = before ++ d :: later
  /-- A record is judged by the directive that reaches furthest of those for its target, and of two
  that reach equally far by the later. -/
  shows_of_prevails : ∀ (spec : String) (r : Record) (before later : List Directive)
    (d : Directive), '/' ∉ spec.toList → lib.keep (lib.directives spec) = before ++ d :: later →
      Directive.Prevails target before d later → lib.shows spec r = d.threshold.admits r.level
  /-- It is not shown where no directive is for its target. -/
  shows_of_none : ∀ (spec : String) (r : Record), '/' ∉ spec.toList →
    (∀ d ∈ lib.keep (lib.directives spec), d.covers target = false) → lib.shows spec r = false
  /-- Behind a slash there may be a text that messages are searched for. -/
  search : ∀ (list text : String) (found : String → Bool), '/' ∉ list.toList → '/' ∉ text.toList →
    lib.compile text = .ok found →
      lib.warnings (list ++ "/" ++ text) = lib.warnings list ∧
      ∀ r, lib.shows (list ++ "/" ++ text) r = (lib.shows list r && found r.message)
  /-- If it means nothing it is ignored, with a warning. -/
  search_of_error : ∀ (list text reason : String), '/' ∉ list.toList → '/' ∉ text.toList →
    lib.compile text = .error reason →
      lib.warnings (list ++ "/" ++ text) = lib.warnings list ++
        ["warning: invalid regex filter - " ++ reason ++ ", ignoring it"] ∧
      ∀ r, lib.shows (list ++ "/" ++ text) r = lib.shows list r

end Library

end Salutation.Log
