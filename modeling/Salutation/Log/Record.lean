import Salutation.Log.Level

/-!
# Records of a log

A record is a level and a message. Written out it is one line that begins with the time, the level
and the target: the part of the program that speaks. This program speaks under one name only.
-/
namespace Salutation.Log

/-- The name under which all records are made. -/
def target : String := "greeter"

/-- One entry of the log. -/
structure Record where
  level : Level
  message : String
  deriving DecidableEq, Repr

namespace Record

/-- The name of the level, filled up with blanks to the width of the longest. -/
def paddedLevel (level : Level) : String :=
  String.ofList (level.name.toList.rightpad 5 ' ')

/-- The record as a line, without its end, under the time that `stamp` writes. -/
def line (stamp : String) (r : Record) : String :=
  "[" ++ stamp ++ " " ++ paddedLevel r.level ++ " " ++ target ++ "] " ++ r.message

end Record

end Salutation.Log
