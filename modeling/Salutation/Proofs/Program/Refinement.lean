import Salutation.Proofs.Log.Filter
import Salutation.Proofs.Program.Levels

/-!
# The program and the conversation

What the program lets out on the stream of output is what the conversation gets accepted there, on
any terminal with the streams of the program: the level up to which the terminal shows records and
the chunks that the input comes in do not matter, and neither does what the library reads in the
specification. Without one a library that is as documented shows the record of a failure and no
other, so the stream of errors has the notice and tells of a failure, which the exit code does not.

The exit code is another one in a single case: the library warns of the specification, and the
stream of errors does not take it. Then the conversation is not held.

## Main statements

* `Setting.Streams.answer_eq`, `Setting.Streams.written_eq` — such terminals are alike.
* `errorBytes_of_none` — the stream of errors without a specification.
* `run_captures_greet` — the program and the conversation.
-/
namespace Salutation.Program

open Log (Record Threshold)

/-- A terminal has the streams of the program: its source brings what the input does, in whatever
chunks, and its sinks are as what the streams of output are connected to. -/
structure Setting.Streams (s : Setting) (t : Terminal) : Prop where
  flat_eq : t.source.flat = s.input.source.flat
  out_eq : t.out = s.output.sink
  err_eq : t.err = s.errorDevice.sink

namespace Setting.Streams

variable {s : Setting} {t : Terminal} (h : s.Streams t)
include h

theorem line_eq : t.source.line = s.terminal.source.line := by
  rw [Source.line, h.flat_eq]
  rfl

/-- The conversation gets the same answer on each of these terminals. -/
theorem answer_eq : (Step.greet.outcome t).answer = s.conversation.answer := by
  rw [conversation, Step.answer_outcome_greet, Step.answer_outcome_greet, Terminal.person,
    h.line_eq, h.err_eq, h.out_eq]
  rfl

/-- The conversation gets the same accepted on each of these terminals. -/
theorem written_eq (c : Channel) : (Step.greet.outcome t).written c = s.conversation.written c := by
  have hsink : t.sink c = s.terminal.sink c := by
    cases c with
    | out => exact h.out_eq
    | err => exact h.err_eq
  rw [conversation, Step.written_outcome, Step.written_outcome, hsink,
    Step.text?_congr .greet h.err_eq h.line_eq]

end Setting.Streams

/-! ## Streams that are captured apart, and together -/

section
variable (stamp : String) {s : Setting} {device : Device}

/-- The stream of output has what the conversation gets accepted there, be it held or not. -/
theorem output_run (h : s.errors = .own device) :
    (run stamp s).output = s.conversation.written .out := by
  by_cases hwarn : s.CanWarn
  · rw [run_of_own stamp h hwarn]
  · rw [run_of_unwritable stamp hwarn, s.written_conversation (fun hpipe => hwarn (.inr hpipe))]

/-- Nothing arrives where the stream of errors takes nothing. -/
theorem errors_run_of_closed (h : s.errors = .own device) (hdevice : device ≠ .pipe) :
    (run stamp s).errors = [] := by
  have hclosed : s.errorDevice ≠ .pipe := by rwa [Setting.errorDevice_of_own h]
  by_cases hwarn : s.CanWarn
  · have hwarnings : s.warnings = [] := hwarn.resolve_right hclosed
    rw [run_of_own stamp h hwarn]
    simp [Setting.errorBytes, hwarnings, s.written_conversation hclosed, recordBytes, hclosed]
  · rw [run_of_unwritable stamp hwarn]

/-- Where a pipe takes both streams, they come one after the other. -/
theorem run_merged_eq_apart (h : s.errors = .merged) (hpipe : s.output = .pipe) :
    let apart := run stamp { s with errors := .own .pipe }
    run stamp s = ⟨apart.exitCode, apart.errors ++ apart.output, []⟩ := by
  have hdevice : s.errorDevice = .pipe := by rw [Setting.errorDevice, h, hpipe]
  have hconversation : ({ s with errors := .own .pipe } : Setting).conversation =
      s.conversation := by
    rw [Setting.conversation, Setting.conversation, Setting.terminal, Setting.terminal, hdevice]
    rfl
  have herrors : ({ s with errors := .own .pipe } : Setting).errorBytes stamp =
      s.errorBytes stamp := by
    rw [Setting.errorBytes, Setting.errorBytes, hconversation, hdevice]
    rfl
  rw [run_of_merged stamp h hpipe, run_of_own stamp rfl (.inr rfl), herrors, hconversation]

end

/-! ## The stream of errors without a specification -/

/-- The record of a failure as a line. -/
theorem line_record (stamp : String) (failure : Failure) :
    failure.record.line stamp =
      "[" ++ stamp ++ " ERROR greeter] Error: " ++ failure.stage.context ++ ": " ++
        failure.fault.text := by
  have hlevel : failure.record.level = .error := rfl
  have hmessage : failure.record.message =
      "Error: " ++ (failure.stage.context ++ ": " ++ failure.fault.text) := rfl
  have hlead : " ERROR greeter] Error: " = " ERROR" ++ " greeter] " ++ "Error: " := by decide
  rw [line_of_level stamp (.inr hlevel), if_neg (by simp [hlevel]), hmessage, hlead]
  simp only [String.append_assoc]

/-- Without a specification the stream of errors has the notice, and then the record of a failure
if there was one. -/
theorem errorBytes_of_none {s : Setting} (hlibrary : s.library.Documented) (h : s.spec? = none)
    (stamp : String) (hpipe : s.errorDevice = .pipe) :
    s.errorBytes stamp =
      lineBytes notice ++
        (told s.conversation.answer).flatMap fun r => lineBytes (r.line stamp) := by
  have hlevel : s.level? = some (.upTo .warn) := by
    rw [Setting.level?, Setting.spec, h]
    decide
  -- The records of the conversation itself are of a level that is not admitted.
  have hrecords : s.conversation.records.filter
      (fun r => (Threshold.upTo .warn).admits r.level) = [] := by
    rw [List.filter_eq_nil_iff]
    intro r hr
    rw [Step.level_of_mem_records hr]
    decide
  have htold : (told s.conversation.answer).filter
      (fun r => (Threshold.upTo .warn).admits r.level) = told s.conversation.answer := by
    cases s.conversation.answer <;> rfl
  rw [Setting.errorBytes_of_level hlibrary hlevel stamp hpipe, Setting.shown, Setting.records,
    List.filter_append, hrecords, htold, List.nil_append]

/-- A text for the messages gives cause for a warning if it means nothing, besides what the list
before it gives cause for. -/
theorem warnings_eq_nil_iff {s : Setting} (hlibrary : s.library.Documented) {list text : String}
    (hlist : '/' ∉ list.toList) (htext : '/' ∉ text.toList)
    (h : s.spec? = some (list ++ "/" ++ text)) :
    s.warnings = [] ↔
      s.library.warnings list = [] ∧ ∃ found, s.library.compile text = .ok found := by
  have hspec : s.spec = list ++ "/" ++ text := by
    rw [Setting.spec, h]
    rfl
  rw [Setting.warnings, hspec]
  cases hcompile : s.library.compile text with
  | ok found => simp [(hlibrary.search list text found hlist htext hcompile).1]
  | error reason => simp [(hlibrary.search_of_error list text reason hlist htext hcompile).1]

/-- **The program is the conversation on its streams.** Its output is what the conversation gets
accepted. Without a specification the stream of errors has the notice and, of a conversation that
fails, one line more with the stage and the fault. Where the stream of errors takes nothing, nothing
is put out on the other one, and a pipe that takes both has all of the errors first. The exit code
is 0, except where the library warns of the specification and the warning cannot be written. A text
for the messages that means nothing is cause enough. -/
theorem run_captures_greet (stamp : String) (s : Setting) :
    (run stamp s).exitCode = (if s.warnings = [] ∨ s.errorDevice = .pipe then 0 else 101) ∧
    (∀ t : Terminal, s.Streams t →
      let o := Step.greet.outcome t
      (∀ device, s.errors = .own device → (run stamp s).output = o.written .out) ∧
      (s.library.Documented → s.spec? = none → s.errors = .own .pipe →
        (o.answer = .done ∧ (run stamp s).errors = lineBytes "Processing input on stderr...") ∨
        ∃ failure, o.answer = .failed failure ∧
          (run stamp s).errors =
            lineBytes "Processing input on stderr..." ++
              lineBytes ("[" ++ stamp ++ " ERROR greeter] Error: " ++ failure.stage.context ++
                ": " ++ failure.fault.text))) ∧
    (∀ device, s.errors = .own device → device ≠ .pipe →
      (run stamp s).output = [] ∧ (run stamp s).errors = []) ∧
    (s.errors = .merged → s.output = .pipe →
      let apart := run stamp { s with errors := .own .pipe }
      run stamp s = ⟨apart.exitCode, apart.errors ++ apart.output, []⟩) ∧
    (s.library.Documented → ∀ list text : String, '/' ∉ list.toList → '/' ∉ text.toList →
      s.spec? = some (list ++ "/" ++ text) →
        ((run stamp s).exitCode = 0 ↔ s.errorDevice = .pipe ∨
          s.library.warnings list = [] ∧ ∃ found, s.library.compile text = .ok found)) := by
  refine ⟨exitCode_run stamp, ?_, ?_, run_merged_eq_apart stamp, ?_⟩
  · intro t h o
    refine ⟨?_, ?_⟩
    · intro device herrors
      rw [output_run stamp herrors, h.written_eq]
    · intro hlibrary hspec herrors
      have hpipe : s.errorDevice = .pipe := Setting.errorDevice_of_own herrors
      rw [run_of_own stamp herrors (.inr hpipe), errorBytes_of_none hlibrary hspec stamp hpipe,
        ← h.answer_eq]
      obtain hdone | ⟨failure, hfailure⟩ := Step.answer_greet_cases t
      · refine .inl ⟨hdone, ?_⟩
        simp [hdone, told, notice]
      · refine .inr ⟨failure, hfailure, ?_⟩
        simp [hfailure, told, line_record, notice]
  · intro device herrors hdevice
    have hclosed : s.errorDevice ≠ .pipe := by rwa [Setting.errorDevice_of_own herrors]
    rw [output_run stamp herrors, s.written_conversation hclosed]
    exact ⟨rfl, errors_run_of_closed stamp herrors hdevice⟩
  · intro hlibrary list text hlist htext hspec
    have hcode : (run stamp s).exitCode = 0 ↔ s.CanWarn := by
      rw [exitCode_run]
      simp [warningFailure]
    rw [hcode, Setting.CanWarn, warnings_eq_nil_iff hlibrary hlist htext hspec, or_comm]

/-- A text for the messages that means nothing, and input that comes in chunks with an interruption
between them. -/
theorem run_captures_greet_of_chunks :
    let library : Log.Library := .ofCompiler fun text =>
      if text = "[" then
        .error "regex parse error:\n    [\n    ^\nerror: unclosed character class"
      else .ok fun message => message.contains text
    let s : Setting :=
      { input := .bytes [0x5A, 0xC3, 0xA9, 0x0D, 0x0A, 0x42], spec? := some "debug/[", library }
    let t : Terminal :=
      { source := [.chunk [0x5A, 0xC3], .fault (.ofKind .interrupted),
          .chunk [0xA9, 0x0D, 0x0A, 0x42]] }
    (s.Streams t ∧ s.library.Documented) ∧
    ((run "TIME" s).exitCode = 0 ∧ (run "TIME" s).output = lineBytes "Hello, Zé!") ∧
    (run "TIME" { s with spec? := none }).errors = lineBytes "Processing input on stderr..." ∧
    ((run "TIME" { s with errors := .own .full }).exitCode ≠ 0 ∧
      (run "TIME" { s with spec? := some "debug/B", errors := .own .full }).exitCode = 0) := by
  intro library s t
  have hstreams : s.Streams t := ⟨by decide, rfl, rfl⟩
  have hlibrary : library.Documented := Log.Library.ofCompiler_documented _
  obtain ⟨hcode, hconversation, -⟩ := run_captures_greet "TIME" s
  obtain ⟨-, hnone, -⟩ := run_captures_greet "TIME" { s with spec? := none }
  obtain ⟨-, -, -, -, hbroken⟩ := run_captures_greet "TIME" { s with errors := .own .full }
  obtain ⟨-, -, -, -, hwhole⟩ :=
    run_captures_greet "TIME" { s with spec? := some "debug/B", errors := .own .full }
  refine ⟨⟨hstreams, hlibrary⟩, ⟨hcode.trans (if_pos (.inr rfl)), ?_⟩, ?_, ?_, ?_⟩
  · exact ((hconversation t hstreams).1 .pipe rfl).trans (by decide +kernel)
  · have hanswer : (Step.greet.outcome t).answer = .done := by decide +kernel
    obtain ⟨-, herrors⟩ | ⟨failure, hfailure, -⟩ :=
      (hnone t ⟨by decide, rfl, rfl⟩).2 hlibrary rfl rfl
    · exact herrors
    · exact absurd (hanswer.symm.trans hfailure) (by simp)
  · rw [Ne, hbroken hlibrary "debug" "[" (by decide) (by decide) rfl]
    rintro (hpipe | ⟨-, found, hfound⟩)
    · cases hpipe
    · cases hfound
  · rw [hwhole hlibrary "debug" "B" (by decide) (by decide) rfl]
    exact .inr ⟨by decide +kernel, _, rfl⟩

/-- On a stream of errors without room the notice fails without a word, and so does the record of
that failure; the warning of a specification ends the program. -/
theorem run_fails_at_unwritable_warning :
    let s : Setting := { input := .bytes [0x42, 0x6F, 0x62, 0x0A], errors := .own .full }
    run "TIME" s = ⟨0, [], []⟩ ∧
      run "TIME" { s with spec? := some "greeter=bad" } = ⟨101, [], []⟩ := by
  decide +kernel

end Salutation.Program
