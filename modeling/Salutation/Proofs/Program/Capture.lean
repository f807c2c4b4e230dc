import Salutation.Program
import Salutation.Proofs.Session.Answers

/-!
# What is captured of the program

The program holds one conversation on its standard streams, and its records go to the stream of
errors when they pass a filter. The conversation is a step of a session, `Setting.conversation`, so
what is captured is told by its outcome: the texts on each stream, the records, and one record more
where it failed. The order of all this matters only where both streams are captured together.

## Main definitions

* `Setting.conversation` — the conversation on the streams of the program.
* `errorBytes` — what it leaves on the stream of errors.

## Main statements

* `Setting.journal_finished` — the journal of the program is that of the conversation and a record.
* `run_of_own`, `run_of_merged` — what is captured of a program that holds the conversation.
* `run_of_unwritable` — it is not held where there is a warning that cannot be written.
-/
namespace Salutation.Program

open Log (Record)
open Text (Utf8.encode)

/-! ## From activities to bytes -/

variable (shows : Record → Bool) (stamp : String) (errorsOpen : Bool)

/-- The bytes of some records that reach the stream of errors. -/
def recordBytes (records : List Record) : List UInt8 :=
  records.flatMap fun r => if shows r ∧ errorsOpen then lineBytes (r.line stamp) else []

theorem recordBytes_append (records later : List Record) :
    recordBytes shows stamp errorsOpen (records ++ later) =
      recordBytes shows stamp errorsOpen records ++ recordBytes shows stamp errorsOpen later :=
  List.flatMap_append

/-- Records leave the stream of output alone. -/
theorem flatMap_written_out (journal : List Activity) :
    journal.flatMap (written shows stamp errorsOpen .out) = Activity.written .out journal := by
  have hwritten : written shows stamp errorsOpen .out = Activity.bytesWritten .out := by
    funext a
    cases a <;> simp [written, Activity.bytesWritten]
  rw [hwritten]
  rfl

variable {journal : List Activity}

/-- Without records the stream of errors is written like any other. -/
theorem flatMap_written_err_of_records (h : Activity.records journal = []) :
    journal.flatMap (written shows stamp errorsOpen .err) = Activity.written .err journal := by
  induction journal with
  | nil => rfl
  | cons a journal ih =>
    cases a with
    | logged r => cases h
    | wrote c bytes => rw [List.flatMap_cons, ih h]; rfl
    | flushed c success => rw [List.flatMap_cons, ih h]; rfl
    | took bytes => rw [List.flatMap_cons, ih h]; rfl

/-- Where nothing is written to it, the records alone reach the stream of errors. -/
theorem flatMap_written_err_of_written (h : Activity.written .err journal = []) :
    journal.flatMap (written shows stamp errorsOpen .err) =
      recordBytes shows stamp errorsOpen (Activity.records journal) := by
  induction journal with
  | nil => rfl
  | cons a journal ih =>
    rw [Activity.written, List.flatMap_cons, List.append_eq_nil_iff] at h
    rw [List.flatMap_cons, ih h.2]
    cases a with
    | logged r => simp [written, recordBytes, Activity.records, Activity.record?]
    | wrote c bytes =>
      exact congrArg (· ++ recordBytes shows stamp errorsOpen (Activity.records journal)) h.1
    | flushed c success => rfl
    | took bytes => rfl

/-- Two streams that are captured together, of which one is not used. -/
theorem flatMap_append_of_left_eq_nil {α β : Type} {g h : α → List β} {l : List α}
    (hg : l.flatMap g = []) : l.flatMap (fun a => g a ++ h a) = l.flatMap h := by
  induction l with
  | nil => rfl
  | cons a l ih =>
    rw [List.flatMap_cons, List.append_eq_nil_iff] at hg
    rw [List.flatMap_cons, List.flatMap_cons, ih hg.2, hg.1, List.nil_append]

theorem flatMap_append_of_right_eq_nil {α β : Type} {g h : α → List β} {l : List α}
    (hh : l.flatMap h = []) : l.flatMap (fun a => g a ++ h a) = l.flatMap g := by
  induction l with
  | nil => rfl
  | cons a l ih =>
    rw [List.flatMap_cons, List.append_eq_nil_iff] at hh
    rw [List.flatMap_cons, List.flatMap_cons, ih hh.2, hh.1, List.append_nil]

/-! ## One step on the streams of the program -/

section
variable (t : Terminal) (step : Step)

theorem flatMap_written_err_saying (c : Channel) :
    (step.saying t c).flatMap (written shows stamp errorsOpen .err) =
      Activity.written .err (step.saying t c) :=
  flatMap_written_err_of_records shows stamp errorsOpen (step.records_saying t c)

/-- The stream of errors has what a step says there, and then the records that are shown. -/
theorem flatMap_written_err_outcome :
    (step.outcome t).terminal.journal.flatMap (written shows stamp errorsOpen .err) =
      (step.outcome t).written .err ++
        recordBytes shows stamp errorsOpen (step.outcome t).records := by
  have hreading := flatMap_written_err_of_written shows stamp errorsOpen (step.written_reading t .err)
  have hout : Activity.written .err (step.saying t .out) = [] := by simp [Step.written_saying]
  rw [Outcome.written, Outcome.records, Step.journal_outcome]
  simp only [List.flatMap_append, flatMap_written_err_saying, hreading, hout, List.append_nil,
    Activity.written_append, Activity.records_append, Step.written_reading, Step.records_saying,
    List.nil_append]

/-- Where both streams are captured together, all that a step leaves on the stream of errors comes
before what it leaves on the stream of output. -/
theorem flatMap_written_both_outcome :
    (step.outcome t).terminal.journal.flatMap
        (fun a => written shows stamp errorsOpen .out a ++ written shows stamp errorsOpen .err a) =
      (step.outcome t).terminal.journal.flatMap (written shows stamp errorsOpen .err) ++
        (step.outcome t).written .out := by
  have hjournal := step.journal_outcome t
  have hbefore : Activity.written .out (step.saying t .err ++ step.reading t) = [] := by
    rw [Activity.written_append, Step.written_reading, Step.written_saying]
    rfl
  have hbehind : (step.saying t .out).flatMap (written shows stamp errorsOpen .err) = [] := by
    rw [flatMap_written_err_saying, Step.written_saying]
    rfl
  rw [Outcome.written, hjournal]
  generalize step.saying t .err ++ step.reading t = before at *
  generalize step.saying t .out = behind at *
  have hbefore' : before.flatMap (written shows stamp errorsOpen .out) = [] := by
    rw [flatMap_written_out, hbefore]
  rw [List.flatMap_append, flatMap_append_of_left_eq_nil hbefore',
    flatMap_append_of_right_eq_nil hbehind, flatMap_written_out, List.flatMap_append, hbehind,
    List.append_nil, Activity.written_append, hbefore, List.nil_append]

end

/-! ## Devices -/

theorem Device.healthy_sink_pipe : Device.pipe.sink.Healthy := ⟨rfl, rfl⟩

/-- A device that is not a pipe has no room. -/
theorem Device.exists_limit_sink {device : Device} (h : device ≠ .pipe) :
    ∃ limit, device.sink.limit? = some limit ∧ limit.room = 0 := by
  cases device with
  | pipe => exact absurd rfl h
  | full => exact ⟨_, rfl, rfl⟩
  | broken => exact ⟨_, rfl, rfl⟩

theorem Device.accepted_sink {device : Device} (h : device ≠ .pipe) (bytes : List UInt8) :
    device.sink.accepted bytes = [] := by
  obtain ⟨limit, hlimit, hroom⟩ := Device.exists_limit_sink h
  rw [Sink.accepted_of_limit bytes hlimit, hroom, List.take_zero]

theorem Device.lineFault?_sink_ne_none {device : Device} (h : device ≠ .pipe) (text : String) :
    device.sink.lineFault? (lineBytes text) ≠ none := by
  obtain ⟨limit, hlimit, hroom⟩ := Device.exists_limit_sink h
  intro hnone
  rw [Sink.lineFault?, Option.or_eq_none_iff, Sink.shortage?_of_limit _ hlimit, hroom] at hnone
  simp [lineBytes] at hnone

theorem Setting.errorDevice_of_own {s : Setting} {device : Device} (h : s.errors = .own device) :
    s.errorDevice = device := by rw [errorDevice, h]

/-! ## The whole conversation -/

/-- The records that the program makes of an answer. -/
def told : Answer → List Record
  | .failed failure => [failure.record]
  | _ => []

namespace Setting

variable (s : Setting)

/-- The conversation on the streams of the program. -/
def conversation : Outcome := Step.greet.outcome s.terminal

/-- The program notes what the conversation does and, of a failure, a record. -/
theorem journal_finished :
    s.finished.journal =
      s.conversation.terminal.journal ++ (told s.conversation.answer).map .logged := by
  have hfresh : s.terminal.fresh = s.terminal := rfl
  have hthreshold := Step.greet.threshold_outcome s.terminal
  rw [Step.outcome_greet, hfresh] at hthreshold
  rw [finished, run_converse, conversation, Step.outcome_greet, hfresh]
  revert hthreshold
  rcases s.terminal.conversation with ⟨failure | value, t⟩
  · intro hthreshold
    have hall : t.threshold = .all := hthreshold
    simp [Answer.ofUnit, told, Terminal.log, hall]
  · intro _
    simp [Answer.ofUnit, told]

/-- What the program leaves on the stream of errors, where it holds the conversation. -/
def errorBytes (stamp : String) : List UInt8 :=
  s.warnings.flatMap lineBytes ++
    (s.conversation.written .err ++
      recordBytes s.shows stamp (decide (s.errorDevice = .pipe))
        (s.conversation.records ++ told s.conversation.answer))

/-- All warnings can be written: there are none, or the stream of errors takes everything. -/
def CanWarn : Prop := s.warnings = [] ∨ s.errorDevice = .pipe

instance : Decidable s.CanWarn := inferInstanceAs (Decidable (_ ∨ _))

theorem canWarn_iff :
    s.CanWarn ↔ ¬(s.warnings ≠ [] ∧ decide (s.errorDevice = .pipe) = false) := by
  simp [CanWarn, or_iff_not_imp_left]

/-- Where the notice cannot be written, nothing is. -/
theorem written_conversation (h : s.errorDevice ≠ .pipe) (c : Channel) :
    s.conversation.written c = [] := by
  have hnotice : s.terminal.err.lineFault? (lineBytes notice) ≠ none :=
    Device.lineFault?_sink_ne_none h notice
  rw [conversation, Step.written_outcome]
  cases c with
  | out => simp [Step.text?, hnotice]
  | err => exact Device.accepted_sink h (lineBytes notice)

theorem flatMap_written_out_finished :
    s.finished.journal.flatMap (written shows stamp errorsOpen .out) = s.conversation.written .out := by
  have htold (records : List Record) : Activity.written .out (records.map .logged) = [] := by
    induction records with
    | nil => rfl
    | cons r records ih => exact ih
  rw [flatMap_written_out, journal_finished, Activity.written_append, htold, List.append_nil]
  rfl

theorem flatMap_written_err_finished :
    s.finished.journal.flatMap (written shows stamp errorsOpen .err) =
      s.conversation.written .err ++
        recordBytes shows stamp errorsOpen (s.conversation.records ++ told s.conversation.answer) := by
  have htold (records : List Record) :
      (records.map Activity.logged).flatMap (written shows stamp errorsOpen .err) =
        recordBytes shows stamp errorsOpen records := by
    simp [recordBytes, written, List.flatMap_map]
  rw [journal_finished, List.flatMap_append, htold, conversation, flatMap_written_err_outcome,
    recordBytes_append, List.append_assoc]

/-- A conversation that greets does not fail where the stream of output takes everything. -/
theorem told_eq_nil_of_written (h : s.output = .pipe)
    (hwritten : s.conversation.written .out ≠ []) : told s.conversation.answer = [] := by
  have hhealthy : s.terminal.out.Healthy := by
    rw [terminal, h]
    exact Device.healthy_sink_pipe
  rw [conversation, Step.written_outcome] at hwritten
  cases htext : Step.greet.text? s.terminal .out with
  | none => simp [htext] at hwritten
  | some text =>
    rw [conversation, Step.answer_outcome_of_text? s.terminal .greet htext, hhealthy.lineFault?_eq]
    rfl

theorem flatMap_written_both_finished (h : s.output = .pipe) :
    s.finished.journal.flatMap
        (fun a => written shows stamp errorsOpen .out a ++ written shows stamp errorsOpen .err a) =
      s.finished.journal.flatMap (written shows stamp errorsOpen .err) ++
        s.conversation.written .out := by
  by_cases hwritten : s.conversation.written .out = []
  · have hout := s.flatMap_written_out_finished shows stamp errorsOpen
    rw [hwritten] at hout
    rw [flatMap_append_of_left_eq_nil hout, hwritten, List.append_nil]
  · rw [journal_finished, s.told_eq_nil_of_written h hwritten, List.map_nil, List.append_nil]
    exact flatMap_written_both_outcome shows stamp errorsOpen s.terminal .greet

end Setting

/-! ## The program -/

section
variable {s : Setting}

/-- Where both streams are captured apart, each has what the conversation leaves on it. -/
theorem run_of_own {device : Device} (h : s.errors = .own device) (hwarn : s.CanWarn) :
    run stamp s = ⟨0, s.conversation.written .out, s.errorBytes stamp⟩ := by
  simp only [run, if_neg (s.canWarn_iff.1 hwarn), h, Setting.flatMap_written_out_finished,
    Setting.flatMap_written_err_finished, Setting.errorBytes]

/-- Where both streams are captured together, the stream of errors comes first. -/
theorem run_of_merged (h : s.errors = .merged) (hpipe : s.output = .pipe) :
    run stamp s = ⟨0, s.errorBytes stamp ++ s.conversation.written .out, []⟩ := by
  have hdevice : s.errorDevice = .pipe := by rw [Setting.errorDevice, h, hpipe]
  simp only [run, hdevice, h, Setting.flatMap_written_both_finished _ _ _ _ hpipe,
    Setting.flatMap_written_err_finished, Setting.errorBytes, decide_true, Bool.true_eq_false,
    and_false, if_false, List.append_assoc]

/-- A warning that cannot be written ends the program at once. -/
theorem run_of_unwritable (h : ¬s.CanWarn) : run stamp s = ⟨warningFailure, [], []⟩ := by
  rw [Setting.canWarn_iff, not_not] at h
  simp only [run, if_pos h]

/-- The exit code tells whether the warnings could be written, and nothing of the conversation. -/
theorem exitCode_run : (run stamp s).exitCode = if s.CanWarn then 0 else warningFailure := by
  by_cases hwarn : s.CanWarn
  · rw [if_pos hwarn]
    simp only [run, if_neg (s.canWarn_iff.1 hwarn)]
    cases s.errors <;> rfl
  · rw [run_of_unwritable stamp hwarn, if_neg hwarn]

end

end Salutation.Program
