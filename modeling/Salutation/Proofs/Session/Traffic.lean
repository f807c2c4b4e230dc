import Salutation.Proofs.Terminal.Stages

/-!
# What a step moves

A step takes at most one line from the source and says at most one text on each stream of output.
Whether it gets as far is settled by the terminal that it finds: `Step.reads` and `Step.text?` tell
it beforehand. The equations below give the journal that a step leaves, the bytes that it takes and
writes, the records that it shows and the source and the sinks that it leaves, for all steps at
once.

## Main statements

* `Step.journal_outcome` — all that a step leaves in the journal, in order.
* `Step.taken_outcome`, `Step.source_outcome` — the side of the input.
* `Step.records_outcome` — the records of it.
* `Step.written_outcome`, `Step.sink_outcome` — the side of the output.
* `Step.elsewhere_outcome`, `Step.threshold_outcome` — what a stream of output has no part in.
* `Step.reads_congr`, `Step.text?_congr` — what the text of a step and its line depend on.
-/
namespace Salutation

open Log (Record Threshold)
open Program (lineBytes)

/-! ## Bytes in a journal -/

namespace Activity

/-- Whether an activity is on a stream of output. -/
def isOn (c : Channel) : Activity → Bool
  | wrote c' _ => c' = c
  | flushed c' _ => c' = c
  | _ => false

/-- The bytes taken from the source. -/
def taken (journal : List Activity) : List UInt8 := journal.flatMap bytesTaken

/-- The bytes that a stream of output took. -/
def written (c : Channel) (journal : List Activity) : List UInt8 :=
  journal.flatMap (bytesWritten c)

/-- The records shown. -/
def records (journal : List Activity) : List Record := journal.filterMap record?

variable (c : Channel)

@[simp] theorem taken_nil : taken [] = [] := rfl

@[simp] theorem taken_append (as bs : List Activity) : taken (as ++ bs) = taken as ++ taken bs := by
  simp [taken]

@[simp] theorem taken_took_cons (bytes : List UInt8) (as : List Activity) :
    taken (.took bytes :: as) = bytes ++ taken as := rfl

@[simp] theorem taken_shown (threshold : Threshold) (record? : Option Record) :
    taken (Terminal.shown threshold record?) = [] := by
  cases h : record?.filter fun r => threshold.admits r.level <;>
    simp [taken, Terminal.shown, h, bytesTaken]

@[simp] theorem taken_saying (c : Channel) (s : Sink) (bytes : List UInt8) :
    taken (Terminal.saying c s bytes) = [] := by
  rw [Terminal.saying, Terminal.writing]
  split <;> split <;> rfl

@[simp] theorem written_nil : written c [] = [] := rfl

@[simp] theorem written_append (as bs : List Activity) :
    written c (as ++ bs) = written c as ++ written c bs := by
  simp [written]

@[simp] theorem written_took_cons (bytes : List UInt8) (as : List Activity) :
    written c (.took bytes :: as) = written c as := rfl

@[simp] theorem written_shown (threshold : Threshold) (record? : Option Record) :
    written c (Terminal.shown threshold record?) = [] := by
  cases h : record?.filter fun r => threshold.admits r.level <;>
    simp [written, Terminal.shown, h, bytesWritten]

@[simp] theorem written_saying (c' : Channel) (s : Sink) (bytes : List UInt8) :
    written c (Terminal.saying c' s bytes) = if c' = c then s.accepted bytes else [] := by
  have hwriting : written c (Terminal.writing c' (s.accepted bytes)) =
      if c' = c then s.accepted bytes else [] := by
    rw [Terminal.writing]
    split
    · rename_i hnil
      simp [hnil]
    · simp [written, bytesWritten]
  have hflushing : written c
      (if s.shortage? bytes = none then [Terminal.flushing c' s] else []) = [] := by
    split <;> rfl
  rw [Terminal.saying, written_append, hwriting, hflushing, List.append_nil]

@[simp] theorem records_nil : records [] = [] := rfl

@[simp] theorem records_append (as bs : List Activity) :
    records (as ++ bs) = records as ++ records bs := List.filterMap_append

@[simp] theorem records_took_cons (bytes : List UInt8) (as : List Activity) :
    records (.took bytes :: as) = records as := rfl

@[simp] theorem records_shown (threshold : Threshold) (record? : Option Record) :
    records (Terminal.shown threshold record?) =
      (record?.filter fun r => threshold.admits r.level).toList := by
  cases h : record?.filter fun r => threshold.admits r.level <;>
    simp [records, Terminal.shown, h, Activity.record?]

@[simp] theorem records_saying (s : Sink) (bytes : List UInt8) :
    records (Terminal.saying c s bytes) = [] := by
  rw [Terminal.saying, Terminal.writing]
  split <;> split <;> rfl

theorem filter_isOn_saying (c' : Channel) (s : Sink) (bytes : List UInt8) :
    (Terminal.saying c' s bytes).filter (!·.isOn c) =
      if c' = c then [] else Terminal.saying c' s bytes := by
  rw [Terminal.saying, Terminal.writing]
  by_cases h : c' = c
  · split <;> split <;> simp [isOn, Terminal.flushing, h]
  · split <;> split <;> simp [isOn, Terminal.flushing, h]

theorem filter_isOn_shown (threshold : Threshold) (record? : Option Record) :
    (Terminal.shown threshold record?).filter (!·.isOn c) = Terminal.shown threshold record? := by
  rw [Terminal.shown]
  cases record?.filter fun r => threshold.admits r.level <;> rfl

/-- No record is on a stream of output. -/
theorem records_filter_isOn (journal : List Activity) :
    records (journal.filter (!·.isOn c)) = records journal := by
  rw [records, records, List.filterMap_filter]
  congr 1
  funext a
  cases a <;> simp [isOn, record?]

end Activity

namespace Outcome

/-- The bytes that a step took from the source. -/
def taken (o : Outcome) : List UInt8 := Activity.taken o.terminal.journal

/-- The bytes that a stream of output took during a step. -/
def written (c : Channel) (o : Outcome) : List UInt8 := Activity.written c o.terminal.journal

/-- What happened during a step elsewhere than on a stream of output, in order. -/
def elsewhere (c : Channel) (o : Outcome) : List Activity :=
  o.terminal.journal.filter (!·.isOn c)

/-- The records that a step showed. -/
def records (o : Outcome) : List Record := Activity.records o.terminal.journal

end Outcome

/-- The bytes that a stream of output took during some steps. -/
def transcript (c : Channel) (outcomes : List Outcome) : List UInt8 :=
  outcomes.flatMap (Outcome.written c)

@[simp] theorem transcript_nil (c : Channel) : transcript c [] = [] := rfl

@[simp] theorem transcript_cons (c : Channel) (o : Outcome) (later : List Outcome) :
    transcript c (o :: later) = o.written c ++ transcript c later := rfl

@[simp] theorem transcript_append (c : Channel) (outcomes later : List Outcome) :
    transcript c (outcomes ++ later) = transcript c outcomes ++ transcript c later :=
  List.flatMap_append

/-! ## One step -/

namespace Step

/-- The events that a step brings to the source. -/
def arrivals : Step → Source
  | feed events => events
  | _ => []

/-- Whether a step gets as far as to take a line from a terminal. -/
def reads (t : Terminal) : Step → Bool
  | takeName => true
  | greet => (t.err.lineFault? (lineBytes notice)).isNone
  | _ => false

/-- The text that a step gets to say on a stream of a terminal. -/
def text? (t : Terminal) (c : Channel) : Step → Option String
  | announce channel => if channel = c then some notice else none
  | greet =>
    match c with
    | .err => some notice
    | .out =>
      if (t.err.lineFault? (lineBytes notice)).isNone && t.source.line.fault?.isNone then
        some (Salutation.salutation t.person)
      else none
  | _ => none

/-- The threshold that a step sets. -/
def threshold? : Step → Option Threshold
  | setThreshold threshold => some threshold
  | _ => none

/-- The sink that a step puts in the place of one. -/
def replacement? (c : Channel) : Step → Option Sink
  | replace channel s => if channel = c then some s else none
  | _ => none

variable (t : Terminal) (step : Step)

/-- What the text of a step leaves in the journal. -/
def saying (c : Channel) : List Activity :=
  match step.text? t c with
  | some text => Terminal.saying c (t.sink c) (lineBytes text)
  | none => []

/-- What the line of a step leaves in the journal, and its record. -/
def reading : List Activity :=
  if step.reads t then
    .took t.source.line.taken :: Terminal.shown t.threshold t.source.line.record?
  else []

/-- A greeting is said to a name that was read. -/
theorem reads_of_text? {text : String} (h : greet.text? t .out = some text) :
    greet.reads t = true := by
  rw [reads]
  cases hnotice : t.err.lineFault? (lineBytes notice) with
  | none => rfl
  | some f => simp [text?, hnotice] at h

/-- A conversation reaches its later stages where the earlier ones meet no fault. -/
theorem terminal_outcome_greet :
    (greet.outcome t).terminal =
      if greet.reads t then
        match greet.text? t .out with
        | some text => (t.fresh.said .err notice).named.said .out text
        | none => (t.fresh.said .err notice).named
      else t.fresh.said .err notice := by
  rw [outcome_greet, Terminal.conversation_eq, Terminal.err_fresh, Terminal.out_fresh,
    Terminal.person_fresh, Terminal.source_fresh]
  cases hnotice : t.err.lineFault? (lineBytes notice) with
  | some f => simp [reads, hnotice]
  | none =>
    cases hread : t.source.line.fault? with
    | some f => simp [reads, text?, hnotice, hread]
    | none =>
      simp only [reads, text?, hnotice, hread]
      cases t.out.lineFault? (lineBytes (Salutation.salutation t.person)) <;> rfl

/-- **What a step leaves in the journal**: what it says on the stream of errors comes first, then
the line that it takes, then what it says on the stream of output. -/
theorem journal_outcome :
    (step.outcome t).terminal.journal =
      step.saying t .err ++ step.reading t ++ step.saying t .out := by
  cases step with
  | announce c => cases c <;> simp [outcome_announce, saying, reading, text?, reads]
  | takeName => simp [outcome_takeName, saying, reading, text?, reads]
  | salutation name => rfl
  | greet =>
    have hnotice : greet.saying t .err = Terminal.saying .err t.err (lineBytes notice) := rfl
    rw [terminal_outcome_greet, hnotice, saying, reading]
    cases htext : greet.text? t .out with
    | none => split <;> simp
    | some text =>
      have hreads := reads_of_text? t htext
      simp [hreads]
  | feed events => rfl
  | replace c s => cases c <;> rfl
  | setThreshold threshold => rfl

@[simp] theorem taken_saying (c : Channel) : Activity.taken (step.saying t c) = [] := by
  rw [saying]
  split
  · exact Activity.taken_saying c _ _
  · rfl

@[simp] theorem records_saying (c : Channel) : Activity.records (step.saying t c) = [] := by
  rw [saying]
  split
  · exact Activity.records_saying c _ _
  · rfl

@[simp] theorem written_reading (c : Channel) : Activity.written c (step.reading t) = [] := by
  rw [reading]
  split <;> simp

theorem written_saying (c c' : Channel) :
    Activity.written c (step.saying t c') =
      if c' = c then
        match step.text? t c with
        | some text => (t.sink c).accepted (lineBytes text)
        | none => []
      else [] := by
  rw [saying]
  by_cases h : c' = c
  · subst h
    cases step.text? t c' <;> simp
  · cases step.text? t c' <;> simp [h]

theorem filter_isOn_reading (c : Channel) :
    (step.reading t).filter (!·.isOn c) = step.reading t := by
  rw [reading]
  split
  · rw [List.filter_cons_of_pos rfl, Activity.filter_isOn_shown]
  · rfl

theorem filter_isOn_saying (c c' : Channel) :
    (step.saying t c').filter (!·.isOn c) = if c' = c then [] else step.saying t c' := by
  rw [saying]
  cases step.text? t c' with
  | none => simp
  | some text => exact Activity.filter_isOn_saying c c' _ _

/-- **A step takes a line or nothing.** -/
theorem taken_outcome :
    (step.outcome t).taken = if step.reads t then t.source.line.taken else [] := by
  rw [Outcome.taken, journal_outcome, Activity.taken_append, Activity.taken_append, taken_saying,
    taken_saying, List.append_nil, List.nil_append, reading]
  split <;> simp

/-- **A step shows the record of its line**, where the threshold admits it. -/
theorem records_outcome :
    (step.outcome t).records =
      if step.reads t then
        (t.source.line.record?.filter fun r => t.threshold.admits r.level).toList
      else [] := by
  rw [Outcome.records, journal_outcome, Activity.records_append, Activity.records_append,
    records_saying, records_saying, List.append_nil, List.nil_append, reading]
  split <;> simp

variable {t step} in
/-- The records of a step are of the level for finding faults. -/
theorem level_of_mem_records {r : Record} (h : r ∈ (step.outcome t).records) :
    r.level = .debug := by
  rw [records_outcome] at h
  split at h
  · rw [Option.mem_toList, Option.filter_eq_some_iff] at h
    have hr := FlatLine.eq_of_record? t.source.lineFeed_notMem_line h.1
    rw [hr]
    split <;> rfl
  · cases h

/-- **A step leaves the source behind its line**, and its own events behind that. -/
theorem source_outcome :
    (step.outcome t).terminal.source =
      (if step.reads t then t.source.readLine.rest else t.source) ++ step.arrivals := by
  cases step with
  | announce c => simp [outcome_announce, reads, arrivals]
  | takeName => simp [outcome_takeName, reads, arrivals]
  | salutation name => exact (List.append_nil _).symm
  | greet =>
    have harrivals : greet.arrivals = [] := rfl
    rw [terminal_outcome_greet, harrivals, List.append_nil]
    split
    · split <;> simp
    · simp
  | feed events => rfl
  | replace c s => cases c <;> exact (List.append_nil _).symm
  | setThreshold threshold => exact (List.append_nil _).symm

/-- **A step writes as much of its text as there is room for.** -/
theorem written_outcome (c : Channel) :
    (step.outcome t).written c =
      match step.text? t c with
      | some text => (t.sink c).accepted (lineBytes text)
      | none => [] := by
  rw [Outcome.written, journal_outcome, Activity.written_append, Activity.written_append,
    written_reading, written_saying, written_saying]
  cases c <;> simp

/-- A step leaves the threshold as it was, or sets another one. -/
theorem threshold_outcome :
    (step.outcome t).terminal.threshold = step.threshold?.getD t.threshold := by
  cases step with
  | announce c => simp [outcome_announce, threshold?]
  | takeName => simp [outcome_takeName, threshold?]
  | salutation name => rfl
  | greet =>
    rw [terminal_outcome_greet]
    split
    · split <;> simp [threshold?]
    · simp [threshold?]
  | feed events => rfl
  | replace c s => cases c <;> rfl
  | setThreshold threshold => rfl

/-- **Elsewhere than on a stream of output** a step leaves its line and its text on the other. -/
theorem elsewhere_outcome (c : Channel) :
    (step.outcome t).elsewhere c =
      (if c = .err then [] else step.saying t .err) ++ step.reading t ++
        if c = .out then [] else step.saying t .out := by
  rw [Outcome.elsewhere, journal_outcome, List.filter_append, List.filter_append,
    filter_isOn_saying, filter_isOn_saying, filter_isOn_reading]
  cases c <;> rfl

/-- **A step leaves a sink after its text**, or another one in its place. -/
theorem sink_outcome (c : Channel) :
    (step.outcome t).terminal.sink c =
      match step.replacement? c, step.text? t c with
      | some s, _ => s
      | none, some text => (t.sink c).offered (lineBytes text)
      | none, none => t.sink c := by
  cases step with
  | announce channel =>
    rw [outcome_announce, Terminal.sink_said, Terminal.sink_fresh, Terminal.sink_fresh]
    by_cases h : channel = c
    · subst h
      simp [text?, replacement?]
    · simp [text?, replacement?, h]
  | takeName =>
    rw [outcome_takeName, Terminal.sink_named, Terminal.sink_fresh]
    rfl
  | salutation name => cases c <;> rfl
  | greet =>
    have hreplacement : greet.replacement? c = none := rfl
    rw [terminal_outcome_greet, hreplacement]
    cases c with
    | out =>
      cases htext : greet.text? t .out with
      | none => split <;> rfl
      | some text =>
        have hreads := reads_of_text? t htext
        rw [if_pos hreads]
        rfl
    | err =>
      have htext : greet.text? t .err = some notice := rfl
      rw [htext]
      split
      · split <;> rfl
      · rfl
  | feed events => cases c <;> rfl
  | replace channel s => cases channel <;> cases c <;> rfl
  | setThreshold threshold => cases c <;> rfl

/-- A healthy sink stays so unless another one takes its place. -/
theorem healthy_outcome {c : Channel} (h : (t.sink c).Healthy)
    (hstep : step.replacement? c = none) : ((step.outcome t).terminal.sink c).Healthy := by
  rw [sink_outcome, hstep]
  cases step.text? t c with
  | none => exact h
  | some text => exact h.offered (lineBytes text)

/-! The text of a step and its line are a matter of what becomes of the notice on the stream of
errors, and of the next line. -/

variable {t} {t' : Terminal}

theorem reads_congr_of_lineFault?
    (hnotice : t.err.lineFault? (lineBytes notice) = t'.err.lineFault? (lineBytes notice)) :
    step.reads t = step.reads t' := by
  cases step <;> simp only [reads, hnotice]

theorem text?_congr_of_lineFault?
    (hnotice : t.err.lineFault? (lineBytes notice) = t'.err.lineFault? (lineBytes notice))
    (hline : t.source.line = t'.source.line) (c : Channel) : step.text? t c = step.text? t' c := by
  have hperson : t.person = t'.person := by rw [Terminal.person, Terminal.person, hline]
  cases step <;> simp only [text?, hnotice, hline, hperson]

theorem reads_congr (herr : t.err = t'.err) : step.reads t = step.reads t' :=
  step.reads_congr_of_lineFault? (by rw [herr])

theorem text?_congr (herr : t.err = t'.err) (hline : t.source.line = t'.source.line) (c : Channel) :
    step.text? t c = step.text? t' c :=
  step.text?_congr_of_lineFault? (by rw [herr]) hline c

end Step

end Salutation
