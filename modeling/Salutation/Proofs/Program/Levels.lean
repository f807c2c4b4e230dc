import Salutation.Proofs.Log.Library
import Salutation.Proofs.Program.Capture

/-!
# A program whose specification names a level

A pipe takes all that is written on the stream of errors: the warnings, the notice, and a line for
each record that the log shows. Where the library is as documented, a specification that is the name
of a level shows the records that the level admits, without a warning; the specification in force
where none is given is of this kind.

## Main definitions

* `Setting.level?` — the threshold that the specification of a program names.
* `Setting.shown` — the records that a program with such a specification shows.

## Main statements

* `line_of_level` — the line of a record, spelled out.
* `Setting.errorBytes_of_pipe` — what is left on the stream of errors.
* `Setting.errorBytes_of_level` — what is left there by the name of a level.
-/
namespace Salutation.Program

open Log (Record Threshold)

/-- Where the stream of errors is a pipe, a line arrives for each record that is shown. -/
theorem recordBytes_of_open (shows : Record → Bool) (stamp : String) (records : List Record) :
    recordBytes shows stamp true records =
      (records.filter shows).flatMap fun r => lineBytes (r.line stamp) := by
  induction records with
  | nil => rfl
  | cons r records ih =>
    rw [recordBytes, List.flatMap_cons, ← recordBytes, ih, List.filter_cons]
    cases shows r <;> simp

/-- The line of a record of one of the levels that the program has. -/
theorem line_of_level (stamp : String) {r : Record} (h : r.level = .debug ∨ r.level = .error) :
    r.line stamp =
      "[" ++ stamp ++ (if r.level = .debug then " DEBUG" else " ERROR") ++ " greeter] " ++
        r.message := by
  have hend : " greeter] " = " " ++ Log.target ++ "] " := by decide
  have hdebug : " DEBUG" = " " ++ Record.paddedLevel .debug := by decide
  have herror : " ERROR" = " " ++ Record.paddedLevel .error := by decide
  obtain hlevel | hlevel := h
  · rw [Record.line, hlevel, if_pos rfl, hend, hdebug]
    simp only [String.append_assoc]
  · rw [Record.line, hlevel, if_neg (by decide), hend, herror]
    simp only [String.append_assoc]

namespace Setting

variable (s : Setting)

/-- The threshold that the specification in force names, if it is the name of a level. -/
def level? : Option Threshold := Threshold.ofName? s.spec.toList

/-- The records that are made while the program runs: those of the conversation, and that of its
failure. -/
def records : List Record := s.conversation.records ++ told s.conversation.answer

/-- The program makes records of two levels. -/
theorem level_of_mem_records {r : Record} (h : r ∈ s.records) :
    r.level = .debug ∨ r.level = .error := by
  rw [records, List.mem_append] at h
  obtain hstep | htold := h
  · exact .inl (Step.level_of_mem_records hstep)
  · cases hanswer : s.conversation.answer with
    | failed failure =>
      rw [hanswer, told, List.mem_singleton] at htold
      rw [htold]
      exact .inr rfl
    | _ =>
      rw [hanswer] at htold
      cases htold

/-- The records that a threshold admits of those made while the program runs. -/
def shown (threshold : Threshold) : List Record :=
  s.records.filter fun r => threshold.admits r.level

/-- **A program whose stream of errors is a pipe** leaves the warnings there, the notice, and a line
for each record that the log shows. -/
theorem errorBytes_of_pipe (stamp : String) (hpipe : s.errorDevice = .pipe) :
    s.errorBytes stamp =
      s.warnings.flatMap lineBytes ++ (lineBytes notice ++
        (s.records.filter s.shows).flatMap fun r => lineBytes (r.line stamp)) := by
  have hnotice : s.conversation.written .err = lineBytes notice := by
    have hhealthy : s.terminal.err.Healthy := by
      rw [terminal, hpipe]
      exact Device.healthy_sink_pipe
    rw [conversation, Step.written_outcome]
    exact hhealthy.accepted_eq (lineBytes notice)
  rw [errorBytes, hnotice, hpipe, decide_eq_true rfl, recordBytes_of_open, records]

/-- **A program whose specification names a level** leaves on the stream of errors the notice and a
line for each record that the level admits. -/
theorem errorBytes_of_level {s : Setting} {threshold : Threshold} (hlibrary : s.library.Documented)
    (h : s.level? = some threshold) (stamp : String) (hpipe : s.errorDevice = .pipe) :
    s.errorBytes stamp =
      lineBytes notice ++ (s.shown threshold).flatMap fun r => lineBytes (r.line stamp) := by
  have hwarnings : s.warnings = [] := (hlibrary.read_spelled s.spec _ (.level h)).2
  have hshows : s.shows = fun r => threshold.admits r.level :=
    funext (hlibrary.shows_of_level h)
  rw [s.errorBytes_of_pipe stamp hpipe, hwarnings, hshows]
  rfl

end Setting

end Salutation.Program
