import Salutation.Stream.Fault

/-!
# Sinks

A sink is what is known of a stream of output: how much it still takes, how it answers single calls
and how it answers a flush. `write` is one call, which may take a part of the bytes or fail;
`writeAll` calls until all bytes are taken or a lasting fault comes up, and `writeAllOf` does so for
one piece of a text after the other.
-/
namespace Salutation

/-- How much a sink still takes, and the fault that it reports when there is no room left. Without
such a fault a call then takes no byte. The fault is a lasting one: after a transient one the same
call would be made again for ever. -/
structure Limit where
  room : Nat
  refusal? : Option Fault := none
  refusal_lasting : ∀ f ∈ refusal?, f.isTransient = false := by decide
  deriving DecidableEq

/-- A stream of output. -/
structure Sink where
  /-- The room left, where it is limited. -/
  limit? : Option Limit := none
  /-- The most bytes that one call takes, where there is such a number. -/
  stride? : Option Nat := none
  /-- How many calls will still be interrupted. -/
  interrupts : Nat := 0
  /-- The fault that a flush reports. -/
  flushFault? : Option Fault := none
  stride_pos : ∀ n ∈ stride?, 0 < n := by decide
  deriving DecidableEq

/-- What one call answers: how many bytes it took, or a fault. -/
inductive Reply where
  | took (count : Nat)
  | failed (fault : Fault)
  deriving DecidableEq, Repr

/-- What writing all of some bytes comes to: how many were taken and in how many calls, the fault
that ended it, and the sink after it. -/
structure Delivery where
  sent : Nat
  calls : Nat
  fault? : Option Fault
  sink : Sink
  deriving DecidableEq

namespace Sink

/-- How many of the bytes offered one call takes, where it is not interrupted. -/
def quota (s : Sink) (offered : List UInt8) : Nat :=
  match s.limit?, s.stride? with
  | none, none => offered.length
  | none, some stride => (offered.take stride).length
  | some limit, none => (offered.take limit.room).length
  | some limit, some stride => (offered.take (min limit.room stride)).length

/-- The sink with so many bytes less to take. -/
def spend (s : Sink) (count : Nat) : Sink :=
  { s with limit? := s.limit?.map fun limit => { limit with room := limit.room - count } }

/-- The fault with which a sink without room answers a call. -/
def refusal? (s : Sink) : Option Fault :=
  match s.limit? with
  | some limit => if limit.room = 0 then limit.refusal? else none
  | none => none

/-- One call to take bytes. -/
def write (s : Sink) (offered : List UInt8) : Reply × Sink :=
  match s.interrupts with
  | left + 1 => (.failed (.ofKind .interrupted), { s with interrupts := left })
  | 0 =>
    match s.refusal? with
    | some fault => (.failed fault, s)
    | none => (.took (s.quota offered), s.spend (s.quota offered))

/-- A flush. It changes nothing, so it is answered alike every time. -/
def flush (s : Sink) : Except Fault Unit :=
  match s.flushFault? with
  | some fault => .error fault
  | none => .ok ()

theorem quota_le_length (s : Sink) (offered : List UInt8) : s.quota offered ≤ offered.length := by
  unfold quota
  split
  · exact Nat.le_refl _
  all_goals
    rw [List.length_take]
    exact Nat.min_le_right _ _

@[simp] theorem interrupts_spend (s : Sink) (count : Nat) :
    (s.spend count).interrupts = s.interrupts := rfl

theorem refusal?_lasting {s : Sink} {f : Fault} (h : s.refusal? = some f) :
    f.isTransient = false := by
  unfold refusal? at h
  split at h
  · rename_i limit _
    split at h
    · exact limit.refusal_lasting f h
    · cases h
  · cases h

/-- A transient fault uses up an interruption. -/
theorem interrupts_of_write_failed {s s' : Sink} {offered : List UInt8} {f : Fault}
    (h : s.write offered = (.failed f, s')) (ht : f.isTransient = true) :
    s'.interrupts < s.interrupts := by
  unfold write at h
  split at h
  · rename_i left hl
    cases h
    simp [hl]
  · split at h
    · rename_i hr
      cases h
      simp [refusal?_lasting hr] at ht
    · cases h

/-- A call that takes bytes is no interruption. -/
theorem interrupts_of_write_took {s s' : Sink} {offered : List UInt8} {n : Nat}
    (h : s.write offered = (.took n, s')) : s'.interrupts = s.interrupts := by
  unfold write at h
  split at h
  · cases h
  · split at h
    · cases h
    · cases h; rfl

/-- Goes on with bytes that are left to write, when so many are sent in so many calls. A call that
takes nothing, although bytes were offered, ends it with a fault of its own. -/
def continueWriting (s : Sink) (sent calls : Nat) : List UInt8 → Delivery
  | [] => ⟨sent, calls, none, s⟩
  | b :: bs =>
    match h : s.write (b :: bs) with
    | (.failed fault, s') =>
      if ht : fault.isTransient then s'.continueWriting sent (calls + 1) (b :: bs)
      else ⟨sent, calls + 1, some fault, s'⟩
    | (.took 0, s') => ⟨sent, calls + 1, some .nothingTaken, s'⟩
    | (.took (n + 1), s') => s'.continueWriting (sent + (n + 1)) (calls + 1) (bs.drop n)
  termination_by bytes => s.interrupts + bytes.length
  decreasing_by
  · have := interrupts_of_write_failed h ht
    simp only [List.length_cons]; omega
  · have := interrupts_of_write_took h
    simp only [List.length_cons, List.length_drop]; omega

/-- Writes all of the bytes, in as many calls as it takes. -/
def writeAll (s : Sink) (bytes : List UInt8) : Delivery := s.continueWriting 0 0 bytes

/-- Writes one piece after the other and stops at the first that fails. -/
def writeAllOf (s : Sink) : List (List UInt8) → Delivery
  | [] => ⟨0, 0, none, s⟩
  | piece :: pieces =>
    let first := s.writeAll piece
    match first.fault? with
    | some _ => first
    | none =>
      let others := first.sink.writeAllOf pieces
      { others with sent := first.sent + others.sent, calls := first.calls + others.calls }

end Sink

end Salutation
