import Salutation.Proofs.Log.Filter
import Salutation.Proofs.Program.Levels
import Salutation.Proofs.Session.Thresholds
import Salutation.Proofs.Text.Lines
import Salutation.Proofs.Text.Quoting

/-!
# A line of the log for each record

A name is whatever bytes the first line of the input has, and it goes into the log. Still it cannot
write there what the program did not: in its record it is quoted, which leaves no control and no
separator of it, and two names, or a name and the want of one, never make the same record. So on the
stream of errors of a program whose specification names a level there is the notice and then a line
for each record shown, and no other line, with any library that is as documented.

## Main statements

* `Step.unbroken_of_mem_records`, `Setting.unbroken_of_mem_records` — the records that are made.
* `Step.records_eq_records_iff` — what the records of two steps tell apart.
* `errors_of_level` — the lines on the stream of errors of a program.
* `log_has_line_per_record` — one line for each record, whatever was read.
-/
namespace Salutation

open Log (Level Record Threshold)
open Program (lineBytes)
open Text (HidesBreaks Unbroken fields isPrintable quote quoteBy unlines Utf8.encode)

/-! ## Records that stay on their line -/

/-- A name that is quoted under any table that hides breaks does not break the line of its record. -/
theorem unbroken_read_quoteBy {printable : Char → Bool} (h : HidesBreaks printable)
    (name : String) : Unbroken ("Read name: " ++ quoteBy printable name) :=
  Unbroken.append (by decide) (Text.unbroken_quoteBy h name)

theorem unbroken_nameRead (name : String) : Unbroken (nameRead name).message :=
  unbroken_read_quoteBy Text.isPrintable_hidesBreaks name

theorem unbroken_inputEnded : Unbroken inputEnded.message := by decide

/-- The record of a failure has nothing but the words of its fault that might break its line. -/
theorem unbroken_record {failure : Failure} (h : Unbroken failure.fault.text) :
    Unbroken failure.record.message := by
  have hcontext (stage : Stage) : Unbroken stage.context := by cases stage <;> decide
  have hmessage : Unbroken failure.message :=
    ((hcontext failure.stage).append (by decide)).append h
  exact Unbroken.append (by decide) hmessage

theorem nameRead_inj {name name' : String} : nameRead name = nameRead name' ↔ name = name' := by
  rw [nameRead, nameRead, Record.mk.injEq, String.append_right_inj, Text.quote_inj]
  exact and_iff_right rfl

/-- The line of a record ends where its message does. -/
theorem feed_notMem_line {stamp : String} {r : Record} (hstamp : '\n' ∉ stamp.toList)
    (hr : Unbroken r.message) : '\n' ∉ (r.line stamp).toList := by
  have hmessage : '\n' ∉ r.message.toList := fun hmem => Bool.noConfusion (hr '\n' hmem)
  have hlevel (level : Level) : '\n' ∉ (Record.paddedLevel level).toList := by
    cases level <;> decide
  simp [Record.line, Log.target, hstamp, hlevel, hmessage]

/-! ## The records of a step -/

namespace Step

variable (t t' : Terminal) (step step' : Step)

theorem unbroken_of_mem_records : ∀ r ∈ (step.outcome t).records, Unbroken r.message := by
  intro r hr
  rw [records_eq] at hr
  split at hr
  · rw [List.mem_singleton] at hr
    rw [hr]
    split
    · exact unbroken_inputEnded
    · exact unbroken_nameRead _
  · cases hr

variable {t t' step step'}

/-- A step that has read a name shows the record of it at the levels for finding faults. -/
theorem records_of_hasRead (hthreshold : t.threshold = .upTo .debug ∨ t.threshold = .upTo .trace)
    (hread : step.hasRead (step.outcome t).answer = true) :
    (step.outcome t).records =
      [if (step.outcome t).taken = [] then inputEnded
        else nameRead (FlatLine.nameOf (step.outcome t).taken)] := by
  rw [records_eq, admits_debug_iff.2 hthreshold, hread]
  rfl

/-- The name that a step has read is the one that it answers with, or greets. -/
theorem nameOf_of_hasRead (hread : step.hasRead (step.outcome t).answer = true) :
    (step = takeName ∧ (step.outcome t).answer = .text (FlatLine.nameOf (step.outcome t).taken)) ∨
    (step = greet ∧ (step.outcome t).written .out =
      t.out.accepted (lineBytes (Salutation.salutation (FlatLine.nameOf (step.outcome t).taken)))) := by
  cases step with
  | takeName =>
    refine .inl ⟨rfl, ?_⟩
    have htaken : (takeName.outcome t).taken = t.source.line.taken := by
      rw [taken_outcome]
      rfl
    rw [hasRead_outcome, reads, Bool.true_and, Option.isNone_iff_eq_none] at hread
    rw [htaken, outcome_takeName, FlatLine.result_eq t.source.lineFeed_notMem_line, hread]
    rfl
  | greet =>
    have hanswer : (greet.outcome t).answer = .done ∨
        ∃ f, (greet.outcome t).answer = .failed ⟨.greeting, f⟩ := by
      obtain hdone | ⟨⟨stage, f⟩, hfailed⟩ := answer_greet_cases t
      · exact .inl hdone
      · rw [hfailed, hasRead, decide_eq_true_eq] at hread
        cases hread
        exact .inr ⟨f, hfailed⟩
    obtain ⟨htext, hperson⟩ := text?_of_answer t hanswer
    refine .inr ⟨rfl, ?_⟩
    rw [written_outcome, htext, ← hperson]
    rfl
  | _ => cases hread

/-- **What records tell apart**: whether anything was taken, and the names. -/
theorem records_eq_records_iff
    (hthreshold : t.threshold = .upTo .debug ∨ t.threshold = .upTo .trace)
    (hthreshold' : t'.threshold = .upTo .debug ∨ t'.threshold = .upTo .trace)
    (hread : step.hasRead (step.outcome t).answer = true)
    (hread' : step'.hasRead (step'.outcome t').answer = true) :
    (step.outcome t).records = (step'.outcome t').records ↔
      ((step.outcome t).taken = [] ∧ (step'.outcome t').taken = []) ∨
      ((step.outcome t).taken ≠ [] ∧ (step'.outcome t').taken ≠ [] ∧
        FlatLine.nameOf (step.outcome t).taken = FlatLine.nameOf (step'.outcome t').taken) := by
  rw [records_of_hasRead hthreshold hread, records_of_hasRead hthreshold' hread',
    List.singleton_inj]
  generalize (step.outcome t).taken = taken
  generalize (step'.outcome t').taken = taken'
  by_cases htaken : taken = []
  · by_cases htaken' : taken' = []
    · simp [htaken, htaken']
    · simp [htaken, htaken', (nameRead_ne_inputEnded _).symm]
  · by_cases htaken' : taken' = []
    · simp [htaken, htaken', nameRead_ne_inputEnded]
    · simp [htaken, htaken', nameRead_inj]

end Step

/-! ## The records of the program -/

namespace Program

/-- The fault of a device is one of two. -/
theorem Device.eq_of_lineFault?_sink {device : Device} {bytes : List UInt8} {f : Fault}
    (h : device.sink.lineFault? bytes = some f) : f = .deviceFull ∨ f = .pipeBroken := by
  have hflush : device.sink.flushFault? = none := by cases device <;> rfl
  rw [Sink.lineFault?, hflush, Option.or_none] at h
  cases device with
  | pipe => cases h
  | full =>
    rw [Sink.shortage?_of_limit bytes rfl] at h
    split at h <;> cases h
    exact .inl rfl
  | broken =>
    rw [Sink.shortage?_of_limit bytes rfl] at h
    split at h <;> cases h
    exact .inr rfl

/-- The input has no fault, or that of a directory. -/
theorem Input.eq_of_fault?_line {input : Input} {f : Fault}
    (h : input.source.line.fault? = some f) : f = .directory := by
  cases input with
  | bytes bs =>
    obtain ⟨before, rest, -, hsigns⟩ := FlatLine.fault?_ofSigns_eq_some_iff.1 h
    have hflat : (Input.bytes bs).source.flat = bs.map .byte := by
      rw [Input.source, Source.flat_putBack, Source.flat_nil, List.append_nil]
    have hmem : Sign.fault f ∈ bs.map Sign.byte := by
      rw [← hflat, hsigns]
      exact List.mem_append_right _ List.mem_cons_self
    simp at hmem
  | directory =>
    cases h
    rfl

namespace Setting

variable (s : Setting)

/-- The program fails with one of three faults. -/
theorem fault_of_failed {failure : Failure} (h : s.conversation.answer = .failed failure) :
    failure.fault = .directory ∨ failure.fault = .deviceFull ∨ failure.fault = .pipeBroken := by
  obtain hnotice | hread | hgreeting := Step.fault_of_failed s.terminal h
  · exact .inr (Device.eq_of_lineFault?_sink hnotice)
  · exact .inl (Input.eq_of_fault?_line hread)
  · exact .inr (Device.eq_of_lineFault?_sink hgreeting)

/-- No record that is made while the program runs breaks its line. -/
theorem unbroken_of_mem_records : ∀ r ∈ s.records, Unbroken r.message := by
  intro r hr
  rw [records, List.mem_append] at hr
  obtain hr | hr := hr
  · exact Step.unbroken_of_mem_records s.terminal .greet r hr
  · cases hanswer : s.conversation.answer with
    | failed failure =>
      rw [hanswer, told, List.mem_singleton] at hr
      rw [hr]
      apply unbroken_record
      obtain hfault | hfault | hfault := s.fault_of_failed hanswer <;> rw [hfault] <;> decide
    | _ =>
      rw [hanswer] at hr
      cases hr

end Setting

/-- **The lines of a program whose specification names a level** are the notice and one for each
record that the level admits. -/
theorem errors_of_level {stamp : String} {s : Setting} {threshold : Threshold}
    (hlibrary : s.library.Documented) (hstamp : '\n' ∉ stamp.toList)
    (herrors : s.errors = .own .pipe) (hlevel : s.level? = some threshold) :
    let lines := notice :: (s.shown threshold).map (Record.line stamp)
    (run stamp s).errors = Utf8.encode (unlines lines) ∧
    fields '\n' (unlines lines).toList = lines.map String.toList ++ [[]] := by
  intro lines
  have hpipe : s.errorDevice = .pipe := Setting.errorDevice_of_own herrors
  refine ⟨?_, Text.fields_unlines ?_⟩
  · rw [run_of_own stamp herrors (.inr hpipe), Setting.errorBytes_of_level hlibrary hlevel stamp hpipe,
      Text.encode_unlines, List.flatMap_cons, List.flatMap_map]
  · intro line hline
    obtain rfl | hline := List.mem_cons.1 hline
    · decide
    · obtain ⟨r, hr, rfl⟩ := List.mem_map.1 hline
      exact feed_notMem_line hstamp (s.unbroken_of_mem_records r (List.mem_of_mem_filter hr))

/-- **The log has one line for each record.** At the levels for finding faults the record of a name
that was read is the name in quotes. It has no control and no separator of lines or paragraphs in
it, and two of these records are the same only for the same name, or where nothing was taken either
time; so it is under any table of printable characters that hides those. In a program whose
specification is the name of a level, or that has none, the stream of errors is the notice and then
a line for each record that the level admits, and these are all its lines. -/
theorem log_has_line_per_record :
    (∀ (t t' : Terminal) (step step' : Step),
      t.threshold = .upTo .debug ∨ t.threshold = .upTo .trace →
      t'.threshold = .upTo .debug ∨ t'.threshold = .upTo .trace →
      step.hasRead (step.outcome t).answer = true →
      step'.hasRead (step'.outcome t').answer = true →
        let o := step.outcome t
        let o' := step'.outcome t'
        let name := FlatLine.nameOf o.taken
        o.records =
          [if o.taken = [] then inputEnded else ⟨.debug, "Read name: " ++ quote name⟩] ∧
        (step = .takeName ∧ o.answer = .text name ∨
          step = .greet ∧ o.written .out = t.out.accepted (lineBytes (salutation name))) ∧
        (∀ r ∈ o.records, Unbroken r.message) ∧
        (o.records = o'.records ↔
          (o.taken = [] ∧ o'.taken = []) ∨
          (o.taken ≠ [] ∧ o'.taken ≠ [] ∧ name = FlatLine.nameOf o'.taken))) ∧
    (quote = quoteBy isPrintable ∧ HidesBreaks isPrintable) ∧
    (∀ (printable : Char → Bool), HidesBreaks printable → ∀ text text' : String,
      Unbroken ("Read name: " ++ quoteBy printable text) ∧
      (quoteBy printable text = quoteBy printable text' ↔ text = text')) ∧
    ∀ (stamp : String) (s : Setting) (threshold : Threshold), s.library.Documented →
      '\n' ∉ stamp.toList → s.errors = .own .pipe → s.level? = some threshold →
        let lines := notice :: (s.shown threshold).map (Record.line stamp)
        (run stamp s).errors = Utf8.encode (unlines lines) ∧
        fields '\n' (unlines lines).toList = lines.map String.toList ++ [[]] := by
  refine ⟨?_, ⟨Text.quote_eq_quoteBy, Text.isPrintable_hidesBreaks⟩, ?_, ?_⟩
  · intro t t' step step' hthreshold hthreshold' hread hread' o o' name
    exact ⟨Step.records_of_hasRead hthreshold hread, Step.nameOf_of_hasRead hread,
      Step.unbroken_of_mem_records t step,
      Step.records_eq_records_iff hthreshold hthreshold' hread hread'⟩
  · intro printable hprintable text text'
    exact ⟨unbroken_read_quoteBy hprintable text, Text.quoteBy_inj, congrArg (quoteBy printable)⟩
  · intro stamp s threshold hlibrary hstamp herrors hlevel
    exact errors_of_level hlibrary hstamp herrors hlevel

/-- A name with the character that begins a sequence for a screen, and a name that spells its
escape. The program reads a carriage return in the middle of a name. -/
theorem log_has_line_per_record_of_escapes :
    let t : Terminal := { source := [.chunk [0x1B, 0x0A]], threshold := .upTo .debug }
    let t' : Terminal :=
      { source := [.chunk [0x5C, 0x75, 0x7B, 0x31, 0x62, 0x7D, 0x0A]], threshold := .upTo .trace }
    let s : Setting := { input := .bytes [0x61, 0x0D, 0x62, 0x0A], spec? := some "Debug" }
    (Step.takeName.hasRead (Step.takeName.outcome t).answer = true ∧
      Step.greet.hasRead (Step.greet.outcome t').answer = true) ∧
    (Step.takeName.outcome t).records ≠ (Step.greet.outcome t').records ∧
    s.library.Documented ∧
    (run "TIME" s).errors =
      Utf8.encode (unlines ["Processing input on stderr...",
        "[TIME DEBUG greeter] Read name: \"a\\rb\""]) := by
  intro t t' s
  have hread : Step.takeName.hasRead (Step.takeName.outcome t).answer = true := by decide +kernel
  have hread' : Step.greet.hasRead (Step.greet.outcome t').answer = true := by decide +kernel
  have hlibrary : s.library.Documented := Log.Library.plain_documented
  obtain ⟨hstep, -, -, hprogram⟩ := log_has_line_per_record
  obtain ⟨-, -, -, hrecords⟩ :=
    hstep t t' .takeName .greet (.inl rfl) (.inr rfl) hread hread'
  refine ⟨⟨hread, hread'⟩, ?_, hlibrary, ?_⟩
  · rw [Ne, hrecords]
    decide +kernel
  · have hlines := hprogram "TIME" s (.upTo .debug) hlibrary (by decide) rfl (by decide)
    rw [hlines.1]
    decide +kernel

end Program

end Salutation
