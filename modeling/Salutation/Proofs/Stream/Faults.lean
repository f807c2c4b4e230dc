import Mathlib.Logic.Function.Iterate
import Salutation.Proofs.Stream.Flat

/-!
# Faults ahead of a line

A reader that keeps on asking for a line gets it in the end: each lasting fault ahead of the end of
the line costs one reading and the bytes before the fault, and transient faults cost nothing. What
lies ahead is told here event by event, without the reader: `Source.faultsAhead` are the faults that
it will meet, `Source.beforeFault` and `Source.behindFault` the events on the two sides of the next.

## Main statements

* `Source.readLine_of_faultsAhead` — a reading that meets a fault.
* `Source.fault?_readLine_of_faultsAhead` — a reading that meets none.
-/
namespace Salutation

open Text.Line (lineFeed)

namespace Event

/-- Whether a line ends with an event at the latest: an end of the stream, or a chunk with a line
feed. -/
def endsLine : Event → Bool
  | chunk bytes => bytes.isEmpty || bytes.contains lineFeed
  | fault _ => false

/-- The fault that an event is, if it lasts. -/
def lasting? : Event → Option Fault
  | chunk _ => none
  | fault f => if f.isTransient then none else some f

end Event

namespace Source

/-- The lasting faults that come before the end of the next line, in order. -/
def faultsAhead (source : Source) : List Fault :=
  (source.takeWhile (!·.endsLine)).filterMap Event.lasting?

/-- The events before the next lasting fault. -/
def beforeFault (source : Source) : Source := source.takeWhile (·.lasting?.isNone)

/-- The events behind the next lasting fault. -/
def behindFault (source : Source) : Source := (source.dropWhile (·.lasting?.isNone)).tail

variable {event : Event} {source : Source} {f : Fault} {later : List Fault}

theorem faultsAhead_cons (event : Event) (source : Source) :
    faultsAhead (event :: source) =
      if event.endsLine then [] else event.lasting?.toList ++ faultsAhead source := by
  cases hends : event.endsLine with
  | true => simp [faultsAhead, hends]
  | false => cases hlasting : event.lasting? <;> simp [faultsAhead, hends, hlasting]

/-- An event that is no lasting fault comes before the next one. -/
theorem beforeFault_cons (h : event.lasting? = none) (source : Source) :
    beforeFault (event :: source) = event :: beforeFault source := by
  simp [beforeFault, h]

theorem behindFault_cons (h : event.lasting? = none) (source : Source) :
    behindFault (event :: source) = behindFault source := by
  simp [behindFault, h]

/-- A lasting fault has nothing before it, and is gone behind it. -/
theorem beforeFault_of_lasting (h : event.lasting? = some f) (source : Source) :
    beforeFault (event :: source) = [] := by
  simp [beforeFault, h]

theorem behindFault_of_lasting (h : event.lasting? = some f) (source : Source) :
    behindFault (event :: source) = source := by
  simp [behindFault, h]

/-- **A reading that has a fault ahead** ends with the first of them. It takes the bytes before the
fault, and leaves the events behind it with the other faults ahead. -/
theorem readLine_of_faultsAhead (h : source.faultsAhead = f :: later) :
    source.readLine = ⟨source.beforeFault.bytes, some f, source.behindFault⟩ ∧
      source.behindFault.faultsAhead = later := by
  -- The induction is on the looks at the source. A look that ends the line has no fault ahead.
  fun_induction readLine source with
  | case1 => cases h
  | case2 g rest ht ih =>
    have hlasting : (Event.fault g).lasting? = none := if_pos ht
    rw [faultsAhead_cons, hlasting] at h
    rw [beforeFault_cons hlasting, behindFault_cons hlasting]
    exact ih h
  | case3 g rest ht =>
    have hlasting : (Event.fault g).lasting? = some g := if_neg ht
    rw [faultsAhead_cons, hlasting] at h
    injection h with hf hlater
    rw [beforeFault_of_lasting hlasting, behindFault_of_lasting hlasting, hf]
    exact ⟨rfl, hlater⟩
  | case4 rest => cases h
  | case5 b bs rest head feed later' hdrop =>
    obtain ⟨-, -, hchunk⟩ := eq_takeWhile_append_of_dropWhile hdrop
    have hends : (Event.chunk (b :: bs)).endsLine = true := by
      rw [Event.endsLine, hchunk]
      simp
    rw [faultsAhead_cons, if_pos hends] at h
    cases h
  | case6 b bs rest head hdrop reading ih =>
    obtain ⟨hbytes, htake⟩ := lineFeed_notMem_of_dropWhile hdrop
    have hends : (Event.chunk (b :: bs)).endsLine = false := by simpa [Event.endsLine] using hbytes
    rw [faultsAhead_cons, hends] at h
    obtain ⟨hreading, hlater⟩ := ih h
    rw [beforeFault_cons rfl, behindFault_cons rfl, bytes_cons]
    refine ⟨?_, hlater⟩
    simp only [reading, hreading]
    rw [show head = b :: bs from htake]
    rfl

/-- **A reading that has no fault ahead** gets to the end of its line. -/
theorem fault?_readLine_of_faultsAhead (h : source.faultsAhead = []) :
    source.readLine.fault? = none := by
  fun_induction readLine source with
  | case1 => rfl
  | case2 g rest ht ih =>
    rw [faultsAhead_cons, show (Event.fault g).lasting? = none from if_pos ht] at h
    exact ih h
  | case3 g rest ht =>
    rw [faultsAhead_cons, show (Event.fault g).lasting? = some g from if_neg ht] at h
    cases h
  | case4 rest => rfl
  | case5 b bs rest head feed later hdrop => rfl
  | case6 b bs rest head hdrop reading ih =>
    obtain ⟨hbytes, -⟩ := lineFeed_notMem_of_dropWhile hdrop
    have hends : (Event.chunk (b :: bs)).endsLine = false := by simpa [Event.endsLine] using hbytes
    rw [faultsAhead_cons, hends] at h
    exact ih h

end Source

end Salutation
