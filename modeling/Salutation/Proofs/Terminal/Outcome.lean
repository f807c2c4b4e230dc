import Salutation.Proofs.Terminal.Stages

/-!
# How a conversation ends

A conversation is five operations in a row: the notice is written and its stream flushed, a line is
read, the greeting is written and its stream flushed. No stream serves two of these stages, so what
each would come to can be told from the terminal as it was before the first. `greet_ends_at_fault`
says that the conversation does these operations and no others, up to and with the first that meets
a fault, that this fault is the answer, and that without one it succeeds.
-/
namespace Salutation

open Log (Threshold)
open Program (lineBytes)
open Text.Line (lineFeed)

/-- One of the operations of the conversation: what is told of its failure, the fault that it meets,
if any, and what it leaves in the journal. -/
structure Operation where
  context : String
  fault? : Option Fault
  activity : List Activity

namespace Operation

/-- The bytes of a line are written to a sink, as far as there is room. -/
def writing (context : String) (c : Channel) (s : Sink) (bytes : List UInt8) : Operation :=
  ⟨context, s.shortage? bytes, Terminal.writing c (s.accepted bytes)⟩

/-- A sink is flushed. -/
def flushing (context : String) (c : Channel) (s : Sink) : Operation :=
  ⟨context, s.flushFault?, [Terminal.flushing c s]⟩

/-- The next line is taken from the source, and its record is shown. -/
def reading (context : String) (threshold : Threshold) (source : Source) : Operation :=
  ⟨context, source.line.fault?,
    .took source.line.taken :: Terminal.shown threshold source.line.record?⟩

/-- The operations of the conversation on a terminal, in their order. -/
def all (t : Terminal) : List Operation :=
  [writing "Writing notice to stderr failed!" .err t.err (lineBytes notice),
    flushing "Writing notice to stderr failed!" .err t.err,
    reading "Reading name from stdin failed!" t.threshold t.source,
    writing "Writing greeting to stdout failed!" .out t.out (lineBytes (salutation t.person)),
    flushing "Writing greeting to stdout failed!" .out t.out]

variable (context : String) (c : Channel) (s : Sink) (bytes : List UInt8) (threshold : Threshold)
  (source : Source) (later : List Operation)

end Operation

/-! ## The parts of the result -/

theorem Sink.lineFault?_eq_none_iff {s : Sink} {bytes : List UInt8} :
    s.lineFault? bytes = none ↔ s.Fits bytes ∧ s.flushFault? = none := by
  rw [Sink.lineFault?, Option.or_eq_none_iff, Sink.shortage?_eq_none_iff]

namespace Terminal

variable (t : Terminal)

end Terminal

/-- The answer tells that a conversation succeeded where none of its stages met a fault. -/
theorem Step.answer_greet_eq_done_iff {t : Terminal} :
    (greet.outcome t).answer = .done ↔
      t.err.lineFault? (lineBytes notice) = none ∧ t.source.line.fault? = none ∧
        t.out.lineFault? (lineBytes (Salutation.salutation t.person)) = none := by
  rw [answer_outcome_greet]
  cases t.err.lineFault? (lineBytes notice) with
  | some f => simp
  | none =>
    cases t.source.line.fault? with
    | some f => simp
    | none => cases t.out.lineFault? (lineBytes (Salutation.salutation t.person)) <;> simp

end Salutation
