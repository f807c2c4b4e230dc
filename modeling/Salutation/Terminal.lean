import Salutation.Console
import Salutation.Stream.Sink
import Salutation.Stream.Source

/-!
# Scripted terminals

A terminal is a source, two sinks and a threshold for the log, together with a journal of what has
gone over them. It is the console on which the behaviour of a program is a value.
-/
namespace Salutation

open Log (Record Threshold)
open Text (Utf8.encode)

/-- One thing that went over a terminal. -/
inductive Activity where
  /-- A stream of output took these bytes. -/
  | wrote (channel : Channel) (bytes : List UInt8)
  /-- A stream of output was flushed, with success or without. -/
  | flushed (channel : Channel) (success : Bool)
  /-- The source was looked at and these bytes were taken from it. -/
  | took (bytes : List UInt8)
  /-- A record was shown. -/
  | logged (record : Record)
  deriving DecidableEq, Repr

namespace Activity

/-- The record, of an activity that shows one. -/
def record? : Activity → Option Record
  | logged r => some r
  | _ => none

/-- The bytes taken from the source. -/
def bytesTaken : Activity → List UInt8
  | took bytes => bytes
  | _ => []

/-- The bytes that a stream of output took. -/
def bytesWritten (channel : Channel) : Activity → List UInt8
  | wrote c bytes => if c = channel then bytes else []
  | _ => []

end Activity

/-- The streams and the log of a program, and what has gone over them, in order. -/
structure Terminal where
  source : Source := []
  out : Sink := {}
  err : Sink := {}
  threshold : Threshold := .off
  journal : List Activity := []
  deriving DecidableEq

namespace Terminal

/-- One of the sinks. -/
def sink (t : Terminal) : Channel → Sink
  | .out => t.out
  | .err => t.err

/-- The terminal with another sink. -/
def withSink (t : Terminal) : Channel → Sink → Terminal
  | .out, s => { t with out := s }
  | .err, s => { t with err := s }

/-- The terminal with one more activity in its journal. -/
def noting (t : Terminal) (activity : Activity) : Terminal :=
  { t with journal := t.journal ++ [activity] }

@[simp] theorem sink_out (t : Terminal) : t.sink .out = t.out := rfl
@[simp] theorem sink_err (t : Terminal) : t.sink .err = t.err := rfl

@[simp] theorem sink_noting (t : Terminal) (a : Activity) (c : Channel) :
    (t.noting a).sink c = t.sink c := by cases c <;> rfl

@[simp] theorem source_noting (t : Terminal) (a : Activity) : (t.noting a).source = t.source := rfl
@[simp] theorem journal_noting (t : Terminal) (a : Activity) :
    (t.noting a).journal = t.journal ++ [a] := rfl

@[simp] theorem sink_withSink (t : Terminal) (c : Channel) (s : Sink) :
    (t.withSink c s).sink c = s := by cases c <;> rfl
@[simp] theorem source_withSink (t : Terminal) (c : Channel) (s : Sink) :
    (t.withSink c s).source = t.source := by cases c <;> rfl
@[simp] theorem journal_withSink (t : Terminal) (c : Channel) (s : Sink) :
    (t.withSink c s).journal = t.journal := by cases c <;> rfl

/-- The result that goes with the fault of an operation. -/
def resultOf {α : Type} (fault? : Option Fault) (value : α) : Except Fault α :=
  match fault? with
  | some fault => .error fault
  | none => .ok value

/-- Writes a text and an end of line, as two pieces. No bytes taken leave no entry. -/
def writeLine (c : Channel) (text : String) (t : Terminal) : Except Fault Unit × Terminal :=
  let pieces := [Utf8.encode text, [Text.Line.lineFeed]]
  let delivery := (t.sink c).writeAllOf pieces
  let after := t.withSink c delivery.sink
  (resultOf delivery.fault? (),
    if delivery.sent = 0 then after
    else after.noting (.wrote c (pieces.flatten.take delivery.sent)))

/-- Flushes a stream of output. -/
def flush (c : Channel) (t : Terminal) : Except Fault Unit × Terminal :=
  match (t.sink c).flush with
  | .ok () => (.ok (), t.noting (.flushed c true))
  | .error fault => (.error fault, t.noting (.flushed c false))

/-- Takes a line from the source. -/
def readLine (t : Terminal) : Except Fault (List UInt8) × Terminal :=
  let reading := t.source.readLine
  (resultOf reading.fault? reading.taken,
    { t with source := reading.rest }.noting (.took reading.taken))

/-- Shows a record, if the threshold admits its level. -/
def log (r : Record) (t : Terminal) : Terminal :=
  if t.threshold.admits r.level then t.noting (.logged r) else t

/-- The bytes that are left in the source. -/
def unread (t : Terminal) : List UInt8 := t.source.bytes

end Terminal

/-- A scripted terminal is a console. -/
instance : Console (StateM Terminal) where
  writeLine c text := ExceptT.mk (Terminal.writeLine c text)
  flush c := ExceptT.mk (Terminal.flush c)
  readLine := ExceptT.mk Terminal.readLine
  log r := modify (Terminal.log r)

end Salutation
