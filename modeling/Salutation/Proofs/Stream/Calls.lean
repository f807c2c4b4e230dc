import Salutation.Proofs.Stream.Delivery

/-!
# Writing, call by call

Writing is a loop of calls, and what is taken is taken by them: a call may be interrupted, take a
part of what it is offered, take nothing, or refuse. `WritesAll` is this loop as a relation, with
every call in it, and `WritesPieces` goes through it once for each piece of a text, until one fails.
Every sink comes to the end of the loop, in one way only, and that is what `writeAllOf` computes; so
what is known of `writeAllOf` holds of the bytes that the calls have taken.

## Main definitions

* `Sink.WritesAll`, `Sink.WritesPieces` — the loop of calls for some bytes, and for pieces.

## Main statements

* `Sink.WritesPieces.writeAllOf_eq`, `Sink.exists_writesPieces` — the loop and its result.
* `Sink.WritesPieces.takenBy_eq` — the bytes that the calls have taken.
-/
namespace Salutation

/-- A call to write: the bytes that it was offered, and its reply. -/
structure Call where
  offered : List UInt8
  reply : Reply
  deriving DecidableEq, Repr

/-- The bytes that a call took. -/
def Call.taken : Call → List UInt8
  | ⟨offered, .took n⟩ => offered.take n
  | ⟨_, .failed _⟩ => []

namespace Sink

/-- Writing all of some bytes: the calls that are made, the fault that ends them, and the sink that
they leave. Each call is offered what is left. -/
inductive WritesAll : Sink → List UInt8 → List Call → Option Fault → Sink → Prop where
  | done (s : Sink) : WritesAll s [] [] none s
  /-- A call that was interrupted is made again. -/
  | again {s s' last : Sink} {b : UInt8} {bs : List UInt8} {f : Fault} {calls : List Call}
      {fault? : Option Fault} (hwrite : s.write (b :: bs) = (.failed f, s'))
      (ht : f.isTransient = true) (hrest : WritesAll s' (b :: bs) calls fault? last) :
      WritesAll s (b :: bs) (⟨b :: bs, .failed f⟩ :: calls) fault? last
  /-- Any other fault ends it. -/
  | refused {s s' : Sink} {b : UInt8} {bs : List UInt8} {f : Fault}
      (hwrite : s.write (b :: bs) = (.failed f, s')) (ht : f.isTransient = false) :
      WritesAll s (b :: bs) [⟨b :: bs, .failed f⟩] (some f) s'
  /-- So does a call that takes nothing, with a fault that no sink has reported. -/
  | stuck {s s' : Sink} {b : UInt8} {bs : List UInt8} (hwrite : s.write (b :: bs) = (.took 0, s')) :
      WritesAll s (b :: bs) [⟨b :: bs, .took 0⟩] (some .nothingTaken) s'
  /-- After a call that takes a part, the rest is written. -/
  | partly {s s' last : Sink} {b : UInt8} {bs : List UInt8} {n : Nat} {calls : List Call}
      {fault? : Option Fault} (hwrite : s.write (b :: bs) = (.took (n + 1), s'))
      (hrest : WritesAll s' (bs.drop n) calls fault? last) :
      WritesAll s (b :: bs) (⟨b :: bs, .took (n + 1)⟩ :: calls) fault? last

/-- Writing one piece after the other. Behind a piece that fails nothing is written. -/
inductive WritesPieces : Sink → List (List UInt8) → List Call → Option Fault → Sink → Prop where
  | done (s : Sink) : WritesPieces s [] [] none s
  | next {s s' last : Sink} {piece : List UInt8} {pieces : List (List UInt8)}
      {calls later : List Call} {fault? : Option Fault} (hfirst : WritesAll s piece calls none s')
      (hothers : WritesPieces s' pieces later fault? last) :
      WritesPieces s (piece :: pieces) (calls ++ later) fault? last
  | failed {s s' : Sink} {piece : List UInt8} {pieces : List (List UInt8)} {calls : List Call}
      {f : Fault} (hfirst : WritesAll s piece calls (some f) s') :
      WritesPieces s (piece :: pieces) calls (some f) s'

/-- The bytes that some calls took. -/
def takenBy (calls : List Call) : List UInt8 := calls.flatMap Call.taken

@[simp] theorem takenBy_nil : takenBy [] = [] := rfl

@[simp] theorem takenBy_cons (call : Call) (calls : List Call) :
    takenBy (call :: calls) = call.taken ++ takenBy calls := rfl

@[simp] theorem takenBy_append (calls later : List Call) :
    takenBy (calls ++ later) = takenBy calls ++ takenBy later := List.flatMap_append

/-- A call that takes some of the bytes takes as many as it says. -/
theorem length_taken_of_write {s s' : Sink} {bytes : List UInt8} {n : Nat}
    (h : s.write bytes = (.took n, s')) : (Call.mk bytes (.took n)).taken.length = n := by
  obtain ⟨_, -, hreply, -⟩ | ⟨-, ⟨_, -, hreply⟩, -⟩ | ⟨-, -, hreply, -⟩ := write_cases h
  · cases hreply
  · cases hreply
  · have hquota := s.quota_le_length bytes
    injection hreply with hn
    rw [Call.taken, List.length_take]
    omega

/-- One turn of the loop goes by the reply to its call. -/
theorem continueWriting_cons (s : Sink) (sent made : Nat) (b : UInt8) (bs : List UInt8) :
    s.continueWriting sent made (b :: bs) =
      match s.write (b :: bs) with
      | (.failed f, s') =>
        if f.isTransient then s'.continueWriting sent (made + 1) (b :: bs)
        else ⟨sent, made + 1, some f, s'⟩
      | (.took 0, s') => ⟨sent, made + 1, some .nothingTaken, s'⟩
      | (.took (n + 1), s') => s'.continueWriting (sent + (n + 1)) (made + 1) (bs.drop n) := by
  rw [continueWriting]
  split
  · rename_i hwrite
    rw [hwrite]
    rfl
  · rename_i hwrite
    rw [hwrite]
  · rename_i hwrite
    rw [hwrite]

/-! ## All of some bytes -/

namespace WritesAll

variable {s last : Sink} {bytes : List UInt8} {calls : List Call} {fault? : Option Fault}

/-- The calls take the beginning of the bytes. -/
theorem takenBy_prefix (h : s.WritesAll bytes calls fault? last) : takenBy calls <+: bytes := by
  induction h with
  | done s => exact List.prefix_rfl
  | again hwrite ht hrest ih => exact ih
  | refused hwrite ht => exact List.nil_prefix
  | stuck hwrite => exact List.nil_prefix
  | @partly s s' last b bs n calls fault? hwrite hrest ih =>
    have hsplit : (b :: bs).take (n + 1) ++ bs.drop n = b :: bs := by
      rw [← List.drop_succ_cons, List.take_append_drop]
    have hcalls := (List.prefix_append_right_inj ((b :: bs).take (n + 1))).2 ih
    rwa [hsplit] at hcalls

/-- The calls take all of the bytes where no fault ends them. -/
theorem takenBy_eq (h : s.WritesAll bytes calls none last) : takenBy calls = bytes := by
  generalize hnone : (none : Option Fault) = fault? at h
  induction h with
  | done s => rfl
  | again hwrite ht hrest ih => exact ih hnone
  | refused hwrite ht => cases hnone
  | stuck hwrite => cases hnone
  | @partly s s' last b bs n calls fault? hwrite hrest ih =>
    rw [takenBy_cons, ih hnone, Call.taken, ← List.drop_succ_cons, List.take_append_drop]

/-- **The loop has one result**, and it is the one that is computed. -/
theorem continueWriting_eq (h : s.WritesAll bytes calls fault? last) (sent made : Nat) :
    s.continueWriting sent made bytes =
      ⟨sent + (takenBy calls).length, made + calls.length, fault?, last⟩ := by
  induction h generalizing sent made with
  | done s => rw [continueWriting]; rfl
  | @again s s' last b bs f calls fault? hwrite ht hrest ih =>
    have hmade : made + 1 + calls.length = made + (calls.length + 1) := by omega
    rw [continueWriting_cons, hwrite]
    simp only [ht, if_true, ih, hmade]
    rfl
  | refused hwrite ht =>
    rw [continueWriting_cons, hwrite]
    simp only [ht, Bool.false_eq_true, if_false]
    rfl
  | stuck hwrite =>
    rw [continueWriting_cons, hwrite]
    rfl
  | @partly s s' last b bs n calls fault? hwrite hrest ih =>
    have hsent : sent + (n + 1) + (takenBy calls).length =
        sent + (n + 1 + (takenBy calls).length) := by omega
    have hmade : made + 1 + calls.length = made + (calls.length + 1) := by omega
    rw [continueWriting_cons, hwrite]
    simp only [ih, hsent, hmade, takenBy_cons, List.length_append, length_taken_of_write hwrite]
    rfl

theorem writeAll_eq (h : s.WritesAll bytes calls fault? last) :
    s.writeAll bytes = ⟨(takenBy calls).length, calls.length, fault?, last⟩ := by
  rw [writeAll, h.continueWriting_eq, Nat.zero_add, Nat.zero_add]

end WritesAll

/-- **The loop comes to an end**: a call uses up an interruption, takes a byte, or is the last. -/
theorem exists_writesAll (s : Sink) (bytes : List UInt8) :
    ∃ calls fault? last, s.WritesAll bytes calls fault? last := by
  -- The induction is that of the computed loop; where it began does not matter.
  generalize hsent : 0 = sent
  generalize hmade : 0 = made
  clear hsent hmade
  fun_induction continueWriting s sent made bytes with
  | case1 s => exact ⟨[], none, s, .done s⟩
  | case2 s sent made b bs f s' hwrite ht ih =>
    obtain ⟨calls, fault?, last, hrest⟩ := ih
    exact ⟨_, fault?, last, .again hwrite ht hrest⟩
  | case3 s sent made b bs f s' hwrite ht =>
    exact ⟨_, some f, s', .refused hwrite (Bool.eq_false_iff.2 ht)⟩
  | case4 s sent made b bs s' hwrite => exact ⟨_, some .nothingTaken, s', .stuck hwrite⟩
  | case5 s sent made b bs n s' hwrite ih =>
    obtain ⟨calls, fault?, last, hrest⟩ := ih
    exact ⟨_, fault?, last, .partly hwrite hrest⟩

/-! ## One piece after the other -/

namespace WritesPieces

variable {s last : Sink} {pieces : List (List UInt8)} {calls : List Call} {fault? : Option Fault}

/-- The calls take the beginning of the text. -/
theorem takenBy_prefix (h : s.WritesPieces pieces calls fault? last) :
    takenBy calls <+: pieces.flatten := by
  induction h with
  | done s => exact List.prefix_rfl
  | next hfirst hothers ih =>
    rw [takenBy_append, List.flatten_cons, hfirst.takenBy_eq]
    exact (List.prefix_append_right_inj _).2 ih
  | failed hfirst =>
    rw [List.flatten_cons]
    exact hfirst.takenBy_prefix.trans (List.prefix_append _ _)

/-- **Writing pieces has one result**, and it is the one that is computed. -/
theorem writeAllOf_eq (h : s.WritesPieces pieces calls fault? last) :
    s.writeAllOf pieces = ⟨(takenBy calls).length, calls.length, fault?, last⟩ := by
  induction h with
  | done s => rfl
  | next hfirst hothers ih =>
    rw [writeAllOf, hfirst.writeAll_eq]
    simp only [ih, takenBy_append, List.length_append]
  | failed hfirst => rw [writeAllOf, hfirst.writeAll_eq]

/-- **The calls take what there is room for**, and no other bytes. -/
theorem takenBy_eq (h : s.WritesPieces pieces calls fault? last) :
    takenBy calls = s.accepted pieces.flatten := by
  have hlength := (s.writeAllOf_delivers pieces).sent_eq
  rw [h.writeAllOf_eq, Nat.zero_add] at hlength
  rw [List.prefix_iff_eq_take.1 h.takenBy_prefix, s.accepted_eq_take, ← hlength]

end WritesPieces

theorem exists_writesPieces (s : Sink) (pieces : List (List UInt8)) :
    ∃ calls fault? last, s.WritesPieces pieces calls fault? last := by
  induction pieces generalizing s with
  | nil => exact ⟨[], none, s, .done s⟩
  | cons piece pieces ih =>
    obtain ⟨calls, fault?, s', hfirst⟩ := s.exists_writesAll piece
    cases fault? with
    | some f => exact ⟨calls, some f, s', .failed hfirst⟩
    | none =>
      obtain ⟨later, fault?, last, hothers⟩ := ih s'
      exact ⟨calls ++ later, fault?, last, .next hfirst hothers⟩

end Sink

end Salutation
