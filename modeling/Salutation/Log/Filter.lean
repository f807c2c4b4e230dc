import Salutation.Log.Library
import Salutation.Text.Blank
import Salutation.Text.Fields

/-!
# Filters of a log

A filter is written as a list of directives, each of them a threshold for the targets that begin
with a text or for every target, and a text that messages are searched for. `Reading.ofSpec` reads
what is well formed and tells of the rest; what a text is searched for as is left to a compiler of
such texts. A record is judged by the directive whose target is the longest that its own target
begins with. `Library.ofCompiler` is the library that works so, and `Library.plain` the one that
searches for a text as it stands.
-/
namespace Salutation.Log

open Text (fields trim)

/-- What is wrong with a specification of a filter, or with a part of it. -/
inductive SpecError where
  /-- The whole specification has more than one text for the messages. -/
  | tooManySlashes (spec : String)
  /-- A target was to get a threshold of this name. -/
  | unknownThreshold (name : String)
  /-- This item has more than one sign of equality. -/
  | tooManyEquals (item : String)
  /-- The text for the messages means nothing, for this reason. -/
  | badSearch (reason : String)
  deriving DecidableEq, Repr

namespace SpecError

/-- What is wrong, and where. -/
def complaint : SpecError → String
  | tooManySlashes spec => "invalid logging spec '" ++ spec ++ "' (too many '/'s)"
  | unknownThreshold name => "invalid logging spec '" ++ name ++ "'"
  | tooManyEquals item => "invalid logging spec '" ++ item ++ "'"
  | badSearch reason => "invalid regex filter - " ++ reason

/-- The line that tells of the error. -/
def warning (e : SpecError) : String := "warning: " ++ e.complaint ++ ", ignoring it"

end SpecError

namespace Directive

/-- Reads one item that is not blank: a threshold for everything, a target without a threshold,
which then shows every record, or a target and a threshold. -/
def ofItem (item : List Char) : Except SpecError Directive :=
  match fields '=' item with
  | [alone] => .ok ((Threshold.ofName? alone).elim (under alone .all) everything)
  | [target, name] =>
    let name := trim name
    if name = [] then .ok (under target .all)
    else
      match Threshold.ofName? name with
      | some threshold => .ok (under target threshold)
      | none => .error (.unknownThreshold (String.ofList name))
  | _ => .error (.tooManyEquals (String.ofList item))

/-- Adds a directive. It takes the place of an earlier one for the same target. -/
def insert (d : Directive) : List Directive → List Directive
  | [] => [d]
  | e :: others => if e.target? = d.target? then d :: others else e :: insert d others

/-- The directive that decides on a target: of those that are for it the one that reaches furthest,
and of two that reach equally far the later. -/
def decisive? (directives : List Directive) (target : String) : Option Directive :=
  (directives.filter (·.covers target)).foldl further none
where
  /-- The later directive, unless the earlier reaches further. -/
  further (best? : Option Directive) (d : Directive) : Option Directive :=
    match best? with
    | none => some d
    | some best => if best.reach ≤ d.reach then some d else some best

/-- The directives where a specification gives none. -/
def fallback : List Directive := [.everything (.upTo .error)]

/-- The directives of a filter, of which a later one takes the place of an earlier one. -/
def keep (ds : List Directive) : List Directive :=
  if ds = [] then fallback else ds.foldl (fun kept d => d.insert kept) []

/-- The items of a list of directives, without the blanks around them and without empty ones. -/
def items (list : List Char) : List (List Char) :=
  ((fields ',' list).map trim).filter (· ≠ [])

end Directive

/-- What is read of a specification. -/
structure Reading where
  /-- The directives that are well formed. -/
  directives : List Directive := []
  /-- What the messages are searched for. -/
  search? : Option (String → Bool) := none
  /-- What is wrong with the rest. -/
  errors : List SpecError := []

namespace Reading

/-- The directives among items that have been read. -/
def wellFormed (read : List (Except SpecError Directive)) : List Directive :=
  read.filterMap fun | .ok d => some d | .error _ => none

/-- The errors among items that have been read. -/
def illFormed (read : List (Except SpecError Directive)) : List SpecError :=
  read.filterMap fun | .ok _ => none | .error e => some e

/-- Reads a list of directives with commas between them. -/
def ofList (list : List Char) : Reading :=
  let read := (Directive.items list).map Directive.ofItem
  { directives := wellFormed read, errors := illFormed read }

variable (compile : String → Except String (String → Bool))

/-- Reads a specification: a list of directives, then, behind a slash, the text that messages are
searched for. Of a specification with two slashes nothing is used. -/
def ofSpec (spec : String) : Reading :=
  match fields '/' spec.toList with
  | [list] => ofList list
  | [list, text] =>
    let reading := ofList list
    match compile (String.ofList text) with
    | .ok found => { reading with search? := some found }
    | .error reason => { reading with errors := reading.errors ++ [.badSearch reason] }
  | _ => { errors := [.tooManySlashes spec] }

/-- The threshold for a target; without a directive for it nothing is shown. -/
def threshold (reading : Reading) (target : String) : Threshold :=
  (Directive.decisive? (Directive.keep reading.directives) target).elim .off Directive.threshold

/-- Whether a record is shown. -/
def shows (reading : Reading) (r : Record) : Bool :=
  (reading.threshold target).admits r.level && reading.search?.all (fun found => found r.message)

end Reading

namespace Library

/-- The library that compiles the text behind a slash in this way. -/
def ofCompiler (compile : String → Except String (String → Bool)) : Library where
  warnings spec := (Reading.ofSpec compile spec).errors.map SpecError.warning
  shows spec := (Reading.ofSpec compile spec).shows
  directives spec := (Reading.ofSpec compile spec).directives
  keep := Directive.keep
  compile := compile

/-- The library that searches messages for a text as it stands, of which no character has another
meaning. -/
def plain : Library := ofCompiler fun text => .ok fun message => message.contains text

end Library

end Salutation.Log
