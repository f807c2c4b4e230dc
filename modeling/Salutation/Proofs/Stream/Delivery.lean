import Salutation.Stream.Sink

/-!
# What a sink takes of a text

Interruptions, short calls and the cut of a text into pieces leave no mark on what a sink takes: the
room alone decides. `accepted` are the bytes that a sink takes, `shortage?` is the fault that it
ends with where not all of them fit, and `offered` is the sink after them. `writeAllOf_delivers`
says that writing pieces one after the other comes to these three for the whole text.

## Main statements

* `Sink.write_cases` — all that one call can answer.
* `Sink.continueWriting_delivers` — what the loop of calls comes to, for one piece.
* `Sink.writeAllOf_delivers` — what it comes to for any cut into pieces.
-/
namespace Salutation.Sink

/-- The bytes of a text that a sink takes: all of them, or the first that there is room for. -/
def accepted (s : Sink) (bytes : List UInt8) : List UInt8 :=
  match s.limit? with
  | none => bytes
  | some limit => bytes.take limit.room

/-- The fault that writing ends with, where there is not room for all of the bytes. -/
def shortage? (s : Sink) (bytes : List UInt8) : Option Fault :=
  match s.limit? with
  | none => none
  | some limit =>
    if bytes.length ≤ limit.room then none else some (limit.refusal?.getD .nothingTaken)

/-- The sink after it was offered some bytes. No interruption outlasts a first byte. -/
def offered (s : Sink) (bytes : List UInt8) : Sink :=
  if bytes = [] then s else { s.spend (s.accepted bytes).length with interrupts := 0 }

/-- Whether there is room for all of some bytes. -/
def Fits (s : Sink) (bytes : List UInt8) : Prop := ∀ limit ∈ s.limit?, bytes.length ≤ limit.room

/-! ## One call -/

/-- All that one call can answer: an interruption, a refusal for want of room, or bytes taken. -/
theorem write_cases {s s' : Sink} {bytes : List UInt8} {reply : Reply}
    (h : s.write bytes = (reply, s')) :
    (∃ left, s.interrupts = left + 1 ∧ reply = .failed (.ofKind .interrupted) ∧
      s' = { s with interrupts := left }) ∨
    (s.interrupts = 0 ∧ (∃ f, s.refusal? = some f ∧ reply = .failed f) ∧ s' = s) ∨
    (s.interrupts = 0 ∧ s.refusal? = none ∧ reply = .took (s.quota bytes) ∧
      s' = s.spend (s.quota bytes)) := by
  rw [write] at h
  split at h
  · rename_i left hleft
    cases h
    exact .inl ⟨left, hleft, rfl, rfl⟩
  · rename_i hzero
    split at h
    · rename_i f hf
      cases h
      exact .inr (.inl ⟨hzero, ⟨f, hf, rfl⟩, rfl⟩)
    · rename_i hnone
      cases h
      exact .inr (.inr ⟨hzero, hnone, rfl, rfl⟩)

/-- A refusal means that the room is used up and that the sink has a fault for it. -/
theorem limit_of_refusal {s : Sink} {f : Fault} (h : s.refusal? = some f) :
    ∃ limit, s.limit? = some limit ∧ limit.room = 0 ∧ limit.refusal? = some f := by
  rw [refusal?] at h
  split at h
  · rename_i limit hlimit
    split at h
    · rename_i hroom
      exact ⟨limit, hlimit, hroom, h⟩
    · cases h
  · cases h

/-- A call never takes more than there is room for. -/
theorem fits_take_quota (s : Sink) (bytes : List UInt8) : s.Fits (bytes.take (s.quota bytes)) := by
  intro limit hlimit
  have hlimit : s.limit? = some limit := hlimit
  rw [List.length_take, quota, hlimit]
  cases s.stride? <;> simp only [List.length_take] <;> omega

/-- A call that takes none of the bytes offered found the room used up. -/
theorem limit_of_quota_eq_zero {s : Sink} {b : UInt8} {bs : List UInt8}
    (h : s.quota (b :: bs) = 0) : ∃ limit, s.limit? = some limit ∧ limit.room = 0 := by
  have hstride := s.stride_pos
  rw [quota] at h
  cases hlimit : s.limit? with
  | none =>
    cases hs : s.stride? with
    | none => simp [hlimit, hs] at h
    | some stride =>
      have : 0 < stride := hstride stride hs
      simp only [hlimit, hs, List.length_take, List.length_cons] at h
      omega
  | some limit =>
    refine ⟨limit, rfl, ?_⟩
    cases hs : s.stride? with
    | none =>
      simp only [hlimit, hs, List.length_take, List.length_cons] at h
      omega
    | some stride =>
      have : 0 < stride := hstride stride hs
      simp only [hlimit, hs, List.length_take, List.length_cons] at h
      omega

/-! ## A text and the room for it -/

@[simp] theorem accepted_nil (s : Sink) : s.accepted [] = [] := by
  rw [accepted]
  split <;> simp

@[simp] theorem shortage?_nil (s : Sink) : s.shortage? [] = none := by
  rw [shortage?]
  split <;> simp

@[simp] theorem offered_nil (s : Sink) : s.offered [] = s := rfl

section
variable {s : Sink} (bytes : List UInt8)

theorem accepted_of_limit {limit : Limit} (h : s.limit? = some limit) :
    s.accepted bytes = bytes.take limit.room := by
  rw [accepted, h]

theorem accepted_of_unlimited (h : s.limit? = none) : s.accepted bytes = bytes := by
  rw [accepted, h]

theorem shortage?_of_limit {limit : Limit} (h : s.limit? = some limit) :
    s.shortage? bytes =
      if bytes.length ≤ limit.room then none else some (limit.refusal?.getD .nothingTaken) := by
  rw [shortage?, h]

theorem shortage?_of_unlimited (h : s.limit? = none) : s.shortage? bytes = none := by
  rw [shortage?, h]

end

theorem shortage?_eq_none_iff {s : Sink} {bytes : List UInt8} :
    s.shortage? bytes = none ↔ s.Fits bytes := by
  rw [shortage?, Fits]
  cases s.limit? <;> simp

/-- A sink takes a text that fits whole. -/
theorem accepted_of_fits {s : Sink} {bytes : List UInt8} (h : s.Fits bytes) :
    s.accepted bytes = bytes := by
  rw [accepted]
  split
  · rfl
  · rename_i limit hlimit
    exact List.take_of_length_le (h limit hlimit)

/-- A sink takes the beginning of a text. -/
theorem accepted_eq_take (s : Sink) (bytes : List UInt8) :
    s.accepted bytes = bytes.take (s.accepted bytes).length := by
  rw [accepted]
  split
  · simp
  · rw [List.length_take, ← List.take_take, List.take_length]

theorem accepted_prefix (s : Sink) (bytes : List UInt8) : s.accepted bytes <+: bytes := by
  rw [accepted_eq_take]
  exact List.take_prefix _ bytes

/-- Interruptions decide nothing about what a sink takes. -/
theorem offered_interrupts {s : Sink} (n : Nat) {bytes : List UInt8} (h : bytes ≠ []) :
    ({ s with interrupts := n } : Sink).offered bytes = s.offered bytes := by
  rw [offered, offered, if_neg h, if_neg h]
  rfl

@[simp] theorem flushFault?_offered (s : Sink) (bytes : List UInt8) :
    (s.offered bytes).flushFault? = s.flushFault? := by
  rw [offered]
  split <;> rfl

/-- A text takes away as much room as it is long, whether it fits or not. -/
theorem limit?_offered (s : Sink) (bytes : List UInt8) :
    (s.offered bytes).limit? =
      s.limit?.map fun limit => { limit with room := limit.room - bytes.length } := by
  rw [offered]
  cases hlimit : s.limit? with
  | none => split <;> simp [spend, hlimit]
  | some limit =>
    split
    · rename_i hnil
      simp [hnil, hlimit]
    · have hroom : limit.room - min limit.room bytes.length = limit.room - bytes.length := by omega
      simp [spend, accepted, hlimit, hroom]

/-- Where the room is used up, nothing changes any more. -/
theorem offered_of_room_eq_zero {s : Sink} {limit : Limit} (hlimit : s.limit? = some limit)
    (hroom : limit.room = 0) (hzero : s.interrupts = 0) (bytes : List UInt8) :
    s.offered bytes = s := by
  obtain ⟨limit?, stride?, interrupts, flushFault?, stride_pos⟩ := s
  obtain ⟨room, refusal?, lasting⟩ := limit
  simp only at hlimit hroom hzero
  subst hlimit hroom hzero
  rw [offered]
  split <;> simp [accepted, spend]

/-- A first part of a text that was taken by a call without interruptions. -/
theorem offered_eq_spend {s : Sink} (hzero : s.interrupts = 0) {bytes : List UInt8}
    (h : s.Fits bytes) (hne : bytes ≠ []) : s.offered bytes = s.spend bytes.length := by
  rw [offered, if_neg hne, accepted_of_fits h, ← hzero]
  rfl

/-! ## A text in two parts -/

variable {s : Sink} {before after : List UInt8}

/-- Once a first part fits, the sink after it decides on the second. -/
theorem accepted_append (h : s.Fits before) :
    s.accepted (before ++ after) = before ++ (s.offered before).accepted after := by
  rw [accepted, accepted, limit?_offered]
  cases hlimit : s.limit? with
  | none => rfl
  | some limit =>
    have hroom : before.length ≤ limit.room := h limit hlimit
    simp only [Option.map_some]
    rw [List.take_append, List.take_of_length_le hroom]

theorem shortage?_append (h : s.Fits before) :
    s.shortage? (before ++ after) = (s.offered before).shortage? after := by
  rw [shortage?, shortage?, limit?_offered]
  cases hlimit : s.limit? with
  | none => rfl
  | some limit =>
    have hroom : before.length ≤ limit.room := h limit hlimit
    have hiff : (before ++ after).length ≤ limit.room ↔
        after.length ≤ limit.room - before.length := by
      rw [List.length_append]
      omega
    simp only [Option.map_some, hiff]

theorem offered_append (h : s.Fits before) :
    s.offered (before ++ after) = (s.offered before).offered after := by
  by_cases hbefore : before = []
  · subst hbefore
    rfl
  · by_cases hafter : after = []
    · subst hafter
      simp
    · have hne : before ++ after ≠ [] := by simp [hbefore]
      rw [offered, if_neg hne, accepted_append h, offered.eq_1 (s.offered before), if_neg hafter]
      rw [offered, if_neg hbefore, accepted_of_fits h]
      cases hlimit : s.limit? with
      | none => simp [spend, hlimit]
      | some limit => simp [spend, hlimit, Nat.sub_sub]

/-- Where a first part does not fit, nothing of a second is taken. -/
theorem accepted_append_of_shortage {f : Fault} (h : s.shortage? before = some f) :
    s.accepted (before ++ after) = s.accepted before := by
  rw [shortage?] at h
  rw [accepted, accepted]
  cases hlimit : s.limit? with
  | none => simp [hlimit] at h
  | some limit =>
    simp only [hlimit] at h ⊢
    split at h
    · cases h
    · rename_i hroom
      exact List.take_append_of_le_length (by omega)

theorem shortage?_append_of_shortage {f : Fault} (h : s.shortage? before = some f) :
    s.shortage? (before ++ after) = some f := by
  rw [shortage?] at h ⊢
  cases hlimit : s.limit? with
  | none => simp [hlimit] at h
  | some limit =>
    simp only [hlimit] at h ⊢
    split at h
    · cases h
    · rw [List.length_append, if_neg (by omega), h]

theorem offered_append_of_shortage {f : Fault} (h : s.shortage? before = some f) :
    s.offered (before ++ after) = s.offered before := by
  have hne : before ≠ [] := by
    intro hnil
    simp [hnil] at h
  rw [offered, offered, if_neg hne, if_neg (by simp [hne]), accepted_append_of_shortage h]

/-! ## The loop of calls -/

/-- What writing comes to, when so many bytes were sent in so many calls before it: the bytes that
fit are sent, the fault is the shortage, and there is at most one call for each interruption that is
used up and one for each byte. -/
structure Delivers (s : Sink) (sent calls : Nat) (bytes : List UInt8) (d : Delivery) : Prop where
  sent_eq : d.sent = sent + (s.accepted bytes).length
  fault?_eq : d.fault? = s.shortage? bytes
  sink_eq : d.sink = s.offered bytes
  calls_le : d.calls + d.sink.interrupts ≤ calls + s.interrupts + bytes.length

/-- **What the loop of calls comes to.** -/
theorem continueWriting_delivers (s : Sink) (sent calls : Nat) (bytes : List UInt8) :
    s.Delivers sent calls bytes (s.continueWriting sent calls bytes) := by
  -- The induction is on the calls: a call either uses up an interruption or takes a first part.
  fun_induction continueWriting s sent calls bytes with
  | case1 s sent calls => exact ⟨by simp, by simp, rfl, by simp⟩
  | case2 s sent calls b bs f s' h ht ih =>
    obtain ⟨left, hleft, -, rfl⟩ | ⟨-, ⟨f', hf', hreply⟩, -⟩ | ⟨-, -, hreply, -⟩ := write_cases h
    · refine ⟨ih.sent_eq, ih.fault?_eq, ?_, ?_⟩
      · rw [ih.sink_eq, offered_interrupts left (by simp)]
      · have := ih.calls_le
        simp only at this
        omega
    · cases hreply
      rw [refusal?_lasting hf'] at ht
      cases ht
    · cases hreply
  | case3 s sent calls b bs f s' h ht =>
    obtain ⟨left, -, hreply, -⟩ | ⟨hzero, ⟨f', hf', hreply⟩, rfl⟩ | ⟨-, -, hreply, -⟩ :=
      write_cases h
    · cases hreply
      exact absurd rfl ht
    · cases hreply
      obtain ⟨limit, hlimit, hroom, hrefusal⟩ := limit_of_refusal hf'
      refine ⟨?_, ?_, ?_, by simp only [List.length_cons]; omega⟩
      · simp [accepted, hlimit, hroom]
      · simp [shortage?, hlimit, hroom, hrefusal]
      · rw [offered_of_room_eq_zero hlimit hroom hzero]
    · cases hreply
  | case4 s sent calls b bs s' h =>
    obtain ⟨_, -, hreply, -⟩ | ⟨-, ⟨_, -, hreply⟩, -⟩ | ⟨hzero, hnone, hreply, rfl⟩ :=
      write_cases h
    · cases hreply
    · cases hreply
    · have hquota : s.quota (b :: bs) = 0 := by
        injection hreply with hquota
        exact hquota.symm
      obtain ⟨limit, hlimit, hroom⟩ := limit_of_quota_eq_zero hquota
      have hrefusal : limit.refusal? = none := by simpa [refusal?, hlimit, hroom] using hnone
      have hspend : s.spend 0 = s := by
        rcases s with ⟨_ | _, _⟩ <;> rfl
      refine ⟨?_, ?_, ?_, by simp only [interrupts_spend, List.length_cons]; omega⟩
      · simp [accepted, hlimit, hroom]
      · simp [shortage?, hlimit, hroom, hrefusal]
      · rw [offered_of_room_eq_zero hlimit hroom hzero, hquota, hspend]
  | case5 s sent calls b bs n s' h ih =>
    obtain ⟨_, -, hreply, -⟩ | ⟨-, ⟨_, -, hreply⟩, -⟩ | ⟨hzero, -, hreply, rfl⟩ := write_cases h
    · cases hreply
    · cases hreply
    · -- What the call took is a first part that fits; the rest is judged by the sink after it.
      have hquota : s.quota (b :: bs) = n + 1 := by
        injection hreply with hquota
        exact hquota.symm
      have hlength : ((b :: bs).take (n + 1)).length = n + 1 := by
        have := s.quota_le_length (b :: bs)
        rw [List.length_take]
        omega
      have hfits : s.Fits ((b :: bs).take (n + 1)) := hquota ▸ s.fits_take_quota (b :: bs)
      have hsink : s.offered ((b :: bs).take (n + 1)) = s.spend (s.quota (b :: bs)) := by
        rw [offered_eq_spend hzero hfits (by simp), hlength, hquota]
      have hsplit : (b :: bs).take (n + 1) ++ bs.drop n = b :: bs := by
        rw [← List.drop_succ_cons, List.take_append_drop]
      rw [← hsink] at ih ⊢
      generalize (b :: bs).take (n + 1) = first at *
      generalize bs.drop n = rest at *
      rw [← hsplit]
      refine ⟨?_, ?_, ?_, ?_⟩
      · rw [ih.sent_eq, accepted_append hfits, List.length_append, hlength]
        omega
      · rw [ih.fault?_eq, shortage?_append hfits]
      · rw [ih.sink_eq, offered_append hfits]
      · have hcalls := ih.calls_le
        have hcount : (s.offered first).interrupts = 0 := by
          rw [hsink, interrupts_spend, hzero]
        rw [hcount] at hcalls
        rw [List.length_append, hlength]
        omega

theorem writeAll_delivers (s : Sink) (bytes : List UInt8) :
    s.Delivers 0 0 bytes (s.writeAll bytes) := s.continueWriting_delivers 0 0 bytes

/-- **The cut of a text into pieces decides nothing**: what writing them comes to is what the whole
text and the sink say. -/
theorem writeAllOf_delivers (s : Sink) (pieces : List (List UInt8)) :
    s.Delivers 0 0 pieces.flatten (s.writeAllOf pieces) := by
  induction pieces generalizing s with
  | nil => exact ⟨by simp [writeAllOf], by simp [writeAllOf], rfl, by simp [writeAllOf]⟩
  | cons piece pieces ih =>
    have hfirst := s.writeAll_delivers piece
    rw [writeAllOf, List.flatten_cons]
    cases hfault : (s.writeAll piece).fault? with
    | none =>
      have hfits : s.Fits piece := shortage?_eq_none_iff.1 (hfirst.fault?_eq ▸ hfault)
      have hothers := ih (s.offered piece)
      simp only
      rw [hfirst.sink_eq]
      refine ⟨?_, ?_, ?_, ?_⟩
      · simp only [hfirst.sent_eq, hothers.sent_eq, accepted_append hfits, accepted_of_fits hfits,
          List.length_append]
        omega
      · rw [hothers.fault?_eq, shortage?_append hfits]
      · rw [hothers.sink_eq, offered_append hfits]
      · have hbefore := hfirst.calls_le
        have hafter := hothers.calls_le
        rw [hfirst.sink_eq] at hbefore
        simp only [List.length_append]
        omega
    | some f =>
      have hshort : s.shortage? piece = some f := hfirst.fault?_eq ▸ hfault
      simp only
      refine ⟨?_, ?_, ?_, ?_⟩
      · rw [hfirst.sent_eq, accepted_append_of_shortage hshort]
      · rw [hfirst.fault?_eq, hshort, shortage?_append_of_shortage hshort]
      · rw [hfirst.sink_eq, offered_append_of_shortage hshort]
      · have := hfirst.calls_le
        rw [List.length_append]
        omega

end Salutation.Sink
