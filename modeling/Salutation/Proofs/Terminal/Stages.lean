import Salutation.Program
import Salutation.Proofs.Stream.Delivery
import Salutation.Proofs.Stream.Flat
import Salutation.Session
import Salutation.Terminal.Conversation

/-!
# What the stages of the conversation do

Saying a line needs nothing of a terminal but one sink, taking a name nothing but the source and the
threshold. `say_eq` and `takeName_eq` give the result and the terminal after each of them in closed
form: what the sink has room for, and the next line of the flat source. No later proof looks into
the loops behind them.

## Main statements

* `Terminal.say_eq` — what saying a line does.
* `Terminal.takeName_eq` — what taking a name does.
* `Step.outcome_announce`, `Step.outcome_takeName`, `Step.outcome_greet` — the steps of a session
  that use the streams.
-/
namespace Salutation

open Log (Record Threshold)
open Program (lineBytes)
open Text (Utf8.decode Utf8.encode)
open Text.Line (carriageReturn lineFeed)

/-! ## Names in lines -/

namespace FlatLine

/-- What a line comes to: the fault that cuts it short, or its name. A line without a byte is no
name, and a carriage return belongs to the ending of a line that a line feed ends. -/
def result (line : FlatLine) : Except Fault String :=
  match line.ending with
  | .fault f => .error f
  | .ended => .ok (if line.body = [] then anonymous else Utf8.decode line.body)
  | .feed =>
    .ok (Utf8.decode
      (if line.body.getLast? = some carriageReturn then line.body.dropLast else line.body))

/-- The record that a line leaves, if it is not cut short. -/
def record? (line : FlatLine) : Option Record :=
  if line.ending = .ended ∧ line.body = [] then some inputEnded
  else line.result.toOption.map nameRead

/-- The name that some bytes taken for a line come to. -/
def nameOf (taken : List UInt8) : String :=
  if taken = [] then anonymous else Text.Line.ofBytes taken

variable {body : List UInt8} {rest : List Sign}

@[simp] theorem taken_feed : (⟨body, .feed, rest⟩ : FlatLine).taken = body ++ [lineFeed] := rfl

@[simp] theorem taken_ended : (⟨body, .ended, rest⟩ : FlatLine).taken = body := by simp [taken]

/-- The ending of a line goes with its line feed, and a carriage return only before that. -/
theorem ofBytes_append_lineFeed (body : List UInt8) :
    Text.Line.ofBytes (body ++ [lineFeed]) =
      Utf8.decode (if body.getLast? = some carriageReturn then body.dropLast else body) := by
  rw [Text.Line.ofBytes, Text.Line.chomp, if_pos (by simp)]
  simp

/-- A line without a line feed is a name as it stands. -/
theorem ofBytes_of_notMem {body : List UInt8} (h : lineFeed ∉ body) :
    Text.Line.ofBytes body = Utf8.decode body := by
  rw [Text.Line.ofBytes, Text.Line.chomp_eq_self]
  intro hlast
  exact h (List.mem_of_getLast? hlast)

/-- What a line comes to is a matter of its fault and the bytes taken for it. -/
theorem result_eq {line : FlatLine} (h : lineFeed ∉ line.body) :
    line.result =
      match line.fault? with
      | some f => .error f
      | none => .ok (nameOf line.taken) := by
  obtain ⟨body, ending, rest⟩ := line
  cases ending with
  | feed =>
    rw [taken_feed, nameOf, if_neg (by simp), ofBytes_append_lineFeed]
    rfl
  | ended =>
    rw [taken_ended, nameOf, ofBytes_of_notMem h]
    rfl
  | fault f => rfl

/-- A line with a name is not cut short, and its name is that of the bytes taken for it. -/
theorem eq_nameOf_of_result {line : FlatLine} (h : lineFeed ∉ line.body) {name : String}
    (hresult : line.result = .ok name) : line.fault? = none ∧ name = nameOf line.taken := by
  rw [result_eq h] at hresult
  cases hfault : line.fault? with
  | none =>
    rw [hfault] at hresult
    injection hresult with hname
    exact ⟨rfl, hname.symm⟩
  | some f =>
    rw [hfault] at hresult
    cases hresult

/-- A line that is not cut short leaves a record: of the end of the input where it has no byte, and
of its name elsewhere. -/
theorem record?_eq {line : FlatLine} (h : lineFeed ∉ line.body) (hfault : line.fault? = none) :
    line.record? =
      some (if line.taken = [] then inputEnded else nameRead (nameOf line.taken)) := by
  have hresult := result_eq h
  rw [hfault] at hresult
  rw [record?, hresult]
  obtain ⟨body, ending, rest⟩ := line
  cases ending with
  | feed => simp [Except.toOption]
  | ended =>
    by_cases hbody : body = []
    · simp [hbody]
    · simp [hbody, Except.toOption]
  | fault f => cases hfault

theorem record?_of_fault {line : FlatLine} {f : Fault} (hfault : line.fault? = some f) :
    line.record? = none := by
  obtain ⟨body, ending, rest⟩ := line
  cases ending with
  | feed => cases hfault
  | ended => cases hfault
  | fault g => rfl

/-- A record of a line tells of the bytes taken for it. -/
theorem eq_of_record? {line : FlatLine} (h : lineFeed ∉ line.body) {r : Record}
    (hrecord : line.record? = some r) :
    r = if line.taken = [] then inputEnded else nameRead (nameOf line.taken) := by
  cases hfault : line.fault? with
  | none =>
    rw [record?_eq h hfault] at hrecord
    injection hrecord with hr
    exact hr.symm
  | some f =>
    rw [record?_of_fault hfault] at hrecord
    cases hrecord

end FlatLine

/-- The fault that a line meets on a sink: want of room, or else the fault of the flush. -/
def Sink.lineFault? (s : Sink) (bytes : List UInt8) : Option Fault :=
  (s.shortage? bytes).or s.flushFault?

/-- A sink without a limit whose flushes succeed. It may take bytes in parts and be interrupted. -/
structure Sink.Healthy (s : Sink) : Prop where
  limit?_eq : s.limit? = none
  flushFault?_eq : s.flushFault? = none

namespace Sink.Healthy

variable {s : Sink} (h : s.Healthy) (bytes : List UInt8)
include h

theorem accepted_eq : s.accepted bytes = bytes := accepted_of_unlimited bytes h.limit?_eq

theorem lineFault?_eq : s.lineFault? bytes = none := by
  rw [lineFault?, shortage?_of_unlimited bytes h.limit?_eq, h.flushFault?_eq]
  rfl

theorem offered : (s.offered bytes).Healthy := by
  refine ⟨?_, ?_⟩
  · rw [limit?_offered, h.limit?_eq]
    rfl
  · rw [flushFault?_offered, h.flushFault?_eq]

end Sink.Healthy

namespace Terminal

/-- What a record leaves on a terminal with a threshold. -/
def shown (threshold : Threshold) (record? : Option Record) : List Activity :=
  (record?.filter fun r => threshold.admits r.level).toList.map .logged

/-- What bytes leave on a terminal when a sink takes them. -/
def writing (c : Channel) (bytes : List UInt8) : List Activity :=
  if bytes = [] then [] else [.wrote c bytes]

/-- What a flush leaves on a terminal. -/
def flushing (c : Channel) (s : Sink) : Activity := .flushed c s.flushFault?.isNone

/-- What a line leaves on a terminal: the bytes that fit and, where they all do, a flush. -/
def saying (c : Channel) (s : Sink) (bytes : List UInt8) : List Activity :=
  writing c (s.accepted bytes) ++ if s.shortage? bytes = none then [flushing c s] else []

/-- The terminal with more activities in its journal. -/
def notingAll (t : Terminal) (activities : List Activity) : Terminal :=
  { t with journal := t.journal ++ activities }

variable (t : Terminal)

@[simp] theorem notingAll_nil : t.notingAll [] = t := by simp [notingAll]

theorem noting_eq_notingAll (a : Activity) : t.noting a = t.notingAll [a] := rfl

@[simp] theorem notingAll_notingAll (as bs : List Activity) :
    (t.notingAll as).notingAll bs = t.notingAll (as ++ bs) := by
  simp [notingAll]

@[simp] theorem source_notingAll (as : List Activity) : (t.notingAll as).source = t.source := rfl

@[simp] theorem threshold_notingAll (as : List Activity) :
    (t.notingAll as).threshold = t.threshold := rfl

@[simp] theorem journal_notingAll (as : List Activity) :
    (t.notingAll as).journal = t.journal ++ as := rfl

@[simp] theorem sink_notingAll (as : List Activity) (c : Channel) :
    (t.notingAll as).sink c = t.sink c := by cases c <;> rfl

@[simp] theorem threshold_withSink (c : Channel) (s : Sink) :
    (t.withSink c s).threshold = t.threshold := by cases c <;> rfl

/-! ## Saying a line -/

/-- Writing a line comes to what the sink has room for. -/
theorem writeLine_eq (c : Channel) (text : String) :
    writeLine c text t =
      (resultOf ((t.sink c).shortage? (lineBytes text)) (),
        (t.withSink c ((t.sink c).offered (lineBytes text))).notingAll
          (writing c ((t.sink c).accepted (lineBytes text)))) := by
  have hd := (t.sink c).writeAllOf_delivers [Utf8.encode text, [lineFeed]]
  have hpieces : [Utf8.encode text, [lineFeed]].flatten = lineBytes text := by simp [lineBytes]
  rw [hpieces] at hd
  have hsent : ((t.sink c).writeAllOf [Utf8.encode text, [lineFeed]]).sent =
      ((t.sink c).accepted (lineBytes text)).length := by
    rw [hd.sent_eq, Nat.zero_add]
  rw [writeLine, hd.fault?_eq, hd.sink_eq, hsent, hpieces, ← Sink.accepted_eq_take]
  by_cases hnil : (t.sink c).accepted (lineBytes text) = []
  · simp [hnil, writing]
  · simp [hnil, writing, noting_eq_notingAll]

theorem flush_eq (c : Channel) :
    flush c t = (resultOf (t.sink c).flushFault? (), t.notingAll [flushing c (t.sink c)]) := by
  rw [flush, Sink.flush, flushing]
  cases (t.sink c).flushFault? <;> rfl

/-- The terminal after a line was said on one of its sinks. -/
def said (c : Channel) (text : String) : Terminal :=
  (t.withSink c ((t.sink c).offered (lineBytes text))).notingAll
    (saying c (t.sink c) (lineBytes text))

/-- **What saying a line does**: the room of the sink decides, and after it the flush. -/
theorem say_eq (c : Channel) (text : String) :
    t.say c text = (resultOf ((t.sink c).lineFault? (lineBytes text)) (), t.said c text) := by
  rw [say, writeLine_eq, said, saying, Sink.lineFault?]
  cases hshort : (t.sink c).shortage? (lineBytes text) with
  | none =>
    simp only [resultOf]
    rw [flush_eq, notingAll_notingAll, sink_notingAll, sink_withSink, flushing,
      Sink.flushFault?_offered]
    rfl
  | some f => simp [resultOf]

/-! ## Taking a name -/

theorem log_eq (r : Record) : t.log r = t.notingAll (shown t.threshold (some r)) := by
  rw [log, shown]
  by_cases h : t.threshold.admits r.level = true
  · simp [h, noting_eq_notingAll, Option.filter]
  · simp [h, Option.filter]

theorem takeName_of_ok {t t' : Terminal} {line : List UInt8} (h : readLine t = (.ok line, t')) :
    t.takeName =
      (.ok (FlatLine.nameOf line),
        t'.log (if line = [] then inputEnded else nameRead (FlatLine.nameOf line))) := by
  rw [takeName, h]
  cases line <;> rfl

theorem takeName_of_error {t t' : Terminal} {f : Fault} (h : readLine t = (.error f, t')) :
    t.takeName = (.error f, t') := by
  rw [takeName, h]

/-- The terminal after a name was taken. -/
def named : Terminal :=
  { t with source := t.source.readLine.rest }.notingAll
    (.took t.source.line.taken :: shown t.threshold t.source.line.record?)

/-- **What taking a name does**: the next line of the flat source decides. -/
theorem takeName_eq : t.takeName = (t.source.line.result, t.named) := by
  obtain ⟨htaken, hfault, -⟩ := t.source.readLine_line
  have hbody := t.source.lineFeed_notMem_line
  have hread : readLine t =
      (resultOf t.source.line.fault? t.source.line.taken,
        { t with source := t.source.readLine.rest }.notingAll [.took t.source.line.taken]) := by
    rw [readLine, htaken, hfault, noting_eq_notingAll]
  rw [FlatLine.result_eq hbody, named]
  cases hf : t.source.line.fault? with
  | none =>
    rw [hf] at hread
    rw [takeName_of_ok hread, log_eq, notingAll_notingAll, FlatLine.record?_eq hbody hf]
    rfl
  | some f =>
    rw [hf] at hread
    rw [takeName_of_error hread, FlatLine.record?_of_fault hf]
    rfl

/-! ## The conversation -/

/-- The name that the next line of the source holds. -/
def person : String := FlatLine.nameOf t.source.line.taken

@[simp] theorem source_said (c : Channel) (text : String) : (t.said c text).source = t.source := by
  simp [said]

@[simp] theorem threshold_said (c : Channel) (text : String) :
    (t.said c text).threshold = t.threshold := by
  simp [said]

@[simp] theorem journal_said (c : Channel) (text : String) :
    (t.said c text).journal = t.journal ++ saying c (t.sink c) (lineBytes text) := by
  simp [said]

/-- Saying a line changes the sink that it is said on. -/
theorem sink_said (c c' : Channel) (text : String) :
    (t.said c text).sink c' =
      if c = c' then (t.sink c).offered (lineBytes text) else t.sink c' := by
  cases c <;> cases c' <;> rfl

@[simp] theorem out_said_err (text : String) : (t.said .err text).out = t.out := rfl

@[simp] theorem source_named : t.named.source = t.source.readLine.rest := rfl

@[simp] theorem threshold_named : t.named.threshold = t.threshold := rfl

@[simp] theorem out_named : t.named.out = t.out := rfl

theorem sink_named (c : Channel) : t.named.sink c = t.sink c := by cases c <;> rfl

@[simp] theorem journal_named :
    t.named.journal =
      t.journal ++ .took t.source.line.taken :: shown t.threshold t.source.line.record? := rfl

/-- **What the conversation does**: each stage meets its fault or hands on to the next. -/
theorem conversation_eq :
    t.conversation =
      match t.err.lineFault? (lineBytes notice) with
      | some f => (.error ⟨.noticing, f⟩, t.said .err notice)
      | none =>
        match t.source.line.fault? with
        | some f => (.error ⟨.naming, f⟩, (t.said .err notice).named)
        | none =>
          match t.out.lineFault? (lineBytes (salutation t.person)) with
          | some f =>
            (.error ⟨.greeting, f⟩, (t.said .err notice).named.said .out (salutation t.person))
          | none => (.ok (), (t.said .err notice).named.said .out (salutation t.person)) := by
  have hbody := t.source.lineFeed_notMem_line
  rw [conversation, say_eq, sink_err]
  cases t.err.lineFault? (lineBytes notice) with
  | some f => rfl
  | none =>
    simp only [resultOf, takeName_eq, source_said, FlatLine.result_eq hbody]
    cases t.source.line.fault? with
    | some f => rfl
    | none =>
      simp only [say_eq, sink_out, out_named, out_said_err, person]
      generalize t.out.lineFault? _ = refused
      cases refused <;> rfl

/-- A terminal whose journal is still empty. -/
def fresh : Terminal := { t with journal := [] }

@[simp] theorem source_fresh : t.fresh.source = t.source := rfl
@[simp] theorem threshold_fresh : t.fresh.threshold = t.threshold := rfl
@[simp] theorem journal_fresh : t.fresh.journal = [] := rfl
@[simp] theorem person_fresh : t.fresh.person = t.person := rfl
@[simp] theorem out_fresh : t.fresh.out = t.out := rfl
@[simp] theorem err_fresh : t.fresh.err = t.err := rfl
@[simp] theorem sink_fresh (c : Channel) : t.fresh.sink c = t.sink c := by cases c <;> rfl

end Terminal

/-! ## Steps of a session -/

namespace Step

variable (t : Terminal)

theorem outcome_announce (c : Channel) :
    (announce c).outcome t =
      ⟨.ofUnit .faulted (Terminal.resultOf ((t.sink c).lineFault? (lineBytes notice)) ()),
        t.fresh.said c notice⟩ := by
  have hsaid := t.fresh.say_eq c notice
  rw [← run_announce, Terminal.sink_fresh] at hsaid
  rw [outcome, perform, StateT.run_map]
  exact congrArg (fun said => Outcome.mk (.ofUnit .faulted said.1) said.2) hsaid

theorem outcome_takeName :
    takeName.outcome t = ⟨.ofText t.source.line.result, t.fresh.named⟩ := by
  have hnamed := t.fresh.takeName_eq
  rw [← run_takeName, Terminal.source_fresh] at hnamed
  rw [outcome, perform, StateT.run_map]
  exact congrArg (fun named => Outcome.mk (.ofText named.1) named.2) hnamed

theorem outcome_greet :
    greet.outcome t = ⟨.ofUnit .failed t.fresh.conversation.1, t.fresh.conversation.2⟩ := by
  rw [outcome, perform, StateT.run_map, Terminal.fresh, ← run_greet]
  rfl

/-- **A name is that of the bytes taken**, where no fault cuts its line short. -/
theorem answer_outcome_takeName :
    (takeName.outcome t).answer =
      match t.source.line.fault? with
      | some f => .faulted f
      | none => .text (FlatLine.nameOf t.source.line.taken) := by
  rw [outcome_takeName, FlatLine.result_eq t.source.lineFeed_notMem_line]
  cases t.source.line.fault? <;> rfl

/-- **A conversation answers with its first stage that meets a fault.** -/
theorem answer_outcome_greet :
    (greet.outcome t).answer =
      match t.err.lineFault? (lineBytes notice) with
      | some f => .failed ⟨.noticing, f⟩
      | none =>
        match t.source.line.fault? with
        | some f => .failed ⟨.naming, f⟩
        | none =>
          match t.out.lineFault? (lineBytes (Salutation.salutation t.person)) with
          | some f => .failed ⟨.greeting, f⟩
          | none => .done := by
  rw [outcome_greet, Terminal.conversation_eq, Terminal.err_fresh, Terminal.source_fresh,
    Terminal.out_fresh, Terminal.person_fresh]
  cases t.err.lineFault? (lineBytes notice) with
  | some f => rfl
  | none =>
    cases t.source.line.fault? with
    | some f => rfl
    | none => cases t.out.lineFault? (lineBytes (Salutation.salutation t.person)) <;> rfl

end Step

end Salutation
