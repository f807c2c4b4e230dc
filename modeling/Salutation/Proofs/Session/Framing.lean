import Salutation.Proofs.Session.Traffic
import Salutation.Proofs.Text.Decoding

/-!
# Names written one after the other

A roll is a list of names, each on a line of its own, and perhaps one more name that no line feed
ends. Written as bytes, cut into chunks anywhere, even inside a character or a line ending, and
with transient faults between the chunks, it is read back name by name: `session_reads_roll` says so
of the steps that only take names and of whole conversations.

A name that ends in a carriage return needs another one before its line feed, since the last
carriage return there belongs to the ending. In a last name without a line feed it stands for
itself.

## Main definitions

* `Frame`, `Tail`, `Roll` — names as they are written; no other name has these forms.
* `Reads` — signs from which entries are taken line by line.

## Main statements

* `Roll.reads` — the bytes of a roll are read as its entries, and then as nothing for ever.
* `session_reads_roll` — what steps on one source make of them.
-/
namespace Salutation

open Program (lineBytes)
open Text (Utf8.decode Utf8.encode)
open Text.Line (carriageReturn lineFeed)

/-! ## Rolls -/

/-- A name on a line of its own. Only a name that does not end in a carriage return may do without
one before the line feed. -/
structure Frame where
  name : String
  /-- Whether a carriage return stands before the line feed. -/
  returns : Bool
  feed_notMem : '\n' ∉ name.toList
  getLast?_ne : returns = false → name.toList.getLast? ≠ some '\r'

/-- A name that no line feed ends. -/
structure Tail where
  name : String
  feed_notMem : '\n' ∉ name.toList
  ne_empty : name ≠ ""

/-- A name, and the bytes that are taken for it. -/
structure Entry where
  name : String
  bytes : List UInt8
  deriving DecidableEq, Repr

/-- The entry of a name on a line of its own. -/
def Frame.entry (frame : Frame) : Entry :=
  ⟨frame.name, Utf8.encode frame.name ++
    if frame.returns then [carriageReturn, lineFeed] else [lineFeed]⟩

/-- The entry of a last name. -/
def Tail.entry (tail : Tail) : Entry := ⟨tail.name, Utf8.encode tail.name⟩

/-- The entry of a name that is not there. -/
def Entry.missing : Entry := ⟨anonymous, []⟩

/-- Names to be read one after the other. -/
structure Roll where
  frames : List Frame
  tail? : Option Tail := none

namespace Roll

/-- The entries of a roll, in order. -/
def entries (roll : Roll) : List Entry :=
  roll.frames.map Frame.entry ++ (roll.tail?.map Tail.entry).toList

/-- The bytes of a roll. -/
def bytes (roll : Roll) : List UInt8 := roll.entries.flatMap Entry.bytes

end Roll

/-! ## Lines of a roll -/

theorem lineFeed_notMem_encode {name : String} (h : '\n' ∉ name.toList) :
    lineFeed ∉ Utf8.encode name := by
  intro hmem
  apply h
  exact (Text.Utf8.mem_encode_iff_of_ascii (c := '\n') (by decide) name).1 hmem

theorem getLast?_encode_ne {name : String} (h : name.toList.getLast? ≠ some '\r') :
    (Utf8.encode name).getLast? ≠ some carriageReturn := by
  intro hlast
  apply h
  exact (Text.Utf8.getLast?_encode_of_ascii (c := '\r') (by decide) name).1 hlast

/-- The bytes of a name on a line of its own are taken for that line, and the name is what they
come to. -/
theorem Frame.ofSigns_entry (frame : Frame) (behind : List Sign) :
    let line := FlatLine.ofSigns (frame.entry.bytes.map .byte ++ behind)
    line.result = .ok frame.name ∧ line.taken = frame.entry.bytes ∧ line.rest = behind := by
  obtain ⟨name, returns, hfeed, hreturn⟩ := frame
  have hname := lineFeed_notMem_encode hfeed
  have hdecode := Text.Utf8.decode_encode name
  simp only [entry]
  cases returns with
  | true =>
    have hbody : lineFeed ∉ Utf8.encode name ++ [carriageReturn] := by
      intro hmem
      obtain hmem | hmem := List.mem_append.1 hmem
      · exact hname hmem
      · exact absurd hmem (by decide)
    have hsigns : (Utf8.encode name ++ [carriageReturn, lineFeed]).map Sign.byte ++ behind =
        (Utf8.encode name ++ [carriageReturn]).map .byte ++ .byte lineFeed :: behind := by simp
    rw [if_pos rfl, hsigns, FlatLine.ofSigns_bytes_stop hbody rfl]
    refine ⟨?_, ?_, rfl⟩
    · simp [FlatLine.result, hdecode]
    · simp
  | false =>
    have hlast := getLast?_encode_ne (hreturn rfl)
    have hsigns : (Utf8.encode name ++ [lineFeed]).map Sign.byte ++ behind =
        (Utf8.encode name).map .byte ++ .byte lineFeed :: behind := by simp
    rw [if_neg (by decide), hsigns, FlatLine.ofSigns_bytes_stop hname rfl]
    refine ⟨?_, ?_, rfl⟩
    · simp [FlatLine.result, hlast, hdecode]
    · simp

theorem Tail.ofSigns_entry (tail : Tail) :
    let line := FlatLine.ofSigns (tail.entry.bytes.map .byte)
    line.result = .ok tail.name ∧ line.taken = tail.entry.bytes ∧ line.rest = [] := by
  obtain ⟨name, hfeed, hempty⟩ := tail
  have hname := lineFeed_notMem_encode hfeed
  have hne : Utf8.encode name ≠ [] := by
    intro hnil
    apply hempty
    rw [← Text.Utf8.decode_encode name, hnil]
    rfl
  simp only [entry]
  rw [FlatLine.ofSigns_bytes hname]
  refine ⟨?_, ?_, rfl⟩
  · simp [FlatLine.result, hne, Text.Utf8.decode_encode]
  · simp

/-! ## Reading line by line -/

/-- Signs from which these entries are taken, one line for each. -/
inductive Reads : List Sign → List Entry → Prop where
  | nil (signs : List Sign) : Reads signs []
  | cons {signs : List Sign} {entry : Entry} {later : List Entry}
      (result : (FlatLine.ofSigns signs).result = .ok entry.name)
      (taken : (FlatLine.ofSigns signs).taken = entry.bytes)
      (rest : Reads (FlatLine.ofSigns signs).rest later) : Reads signs (entry :: later)

/-- At the end of the stream there is a name for every reader, and no byte. -/
theorem Reads.missing (further : Nat) : Reads [] (List.replicate further .missing) := by
  induction further with
  | zero => exact .nil []
  | succ further ih => exact .cons rfl rfl ih

/-- **The bytes of a roll are read as its entries**, and nothing is read behind them. -/
theorem Roll.reads (roll : Roll) (further : Nat) :
    Reads (roll.bytes.map .byte) (roll.entries ++ List.replicate further .missing) := by
  obtain ⟨frames, tail?⟩ := roll
  induction frames with
  | nil =>
    cases tail? with
    | none => exact Reads.missing further
    | some tail =>
      obtain ⟨hresult, htaken, hrest⟩ := tail.ofSigns_entry
      have hbytes : Roll.bytes ⟨[], some tail⟩ = tail.entry.bytes := by simp [bytes, entries]
      rw [hbytes]
      exact .cons hresult htaken (hrest ▸ Reads.missing further)
  | cons frame frames ih =>
    have hbytes : Roll.bytes ⟨frame :: frames, tail?⟩ =
        frame.entry.bytes ++ Roll.bytes ⟨frames, tail?⟩ := by simp [bytes, entries]
    obtain ⟨hresult, htaken, hrest⟩ :=
      frame.ofSigns_entry ((Roll.bytes ⟨frames, tail?⟩).map .byte)
    rw [hbytes, List.map_append]
    refine .cons hresult htaken ?_
    rw [hrest]
    exact ih

/-! ## Steady sources -/

/-- Whether an event neither ends the stream nor a line of it. -/
def Event.isSteady : Event → Bool
  | .chunk bytes => !bytes.isEmpty
  | .fault f => f.isTransient

/-- A source of non-empty chunks with nothing but transient faults between them. -/
def Source.Steady (source : Source) : Prop := ∀ event ∈ source, event.isSteady = true

instance (source : Source) : Decidable source.Steady :=
  inferInstanceAs (Decidable (∀ event ∈ source, event.isSteady = true))

/-- The flat form of such a source is its bytes. -/
theorem Source.flat_of_steady {source : Source} (h : source.Steady) :
    source.flat = source.bytes.map .byte := by
  induction source with
  | nil => rfl
  | cons event source ih =>
    have hevent : event.isSteady = true := h event (List.mem_cons_self ..)
    have hsource := ih fun other hother => h other (List.mem_cons_of_mem _ hother)
    have hsigns : event.signs = event.bytes.map .byte := by
      cases event with
      | chunk bytes =>
        cases bytes with
        | nil => cases hevent
        | cons b bs => rfl
      | fault f => exact if_pos hevent
    rw [flat_cons, bytes_cons, List.map_append, hsigns, hsource]

/-! ## Steps on one source -/

variable {t : Terminal}

/-- A conversation on healthy sinks greets the name that it reads. -/
theorem Step.outcome_greet_of_healthy (h : ∀ c, (t.sink c).Healthy) {name : String}
    (hresult : t.source.line.result = .ok name) :
    let o := greet.outcome t
    o.answer = .done ∧ o.taken = t.source.line.taken ∧ o.written .err = lineBytes notice ∧
      o.written .out = lineBytes (Salutation.salutation name) ∧
      o.terminal.source = t.source.readLine.rest := by
  obtain ⟨hfault, hname⟩ := FlatLine.eq_nameOf_of_result t.source.lineFeed_notMem_line hresult
  have hnotice : t.err.lineFault? (lineBytes notice) = none := (h .err).lineFault?_eq _
  have hgreeting : t.out.lineFault? (lineBytes (Salutation.salutation t.person)) = none :=
    (h .out).lineFault?_eq _
  have hreads : greet.reads t = true := by
    rw [reads, hnotice]
    rfl
  have htext : greet.text? t .out = some (Salutation.salutation name) := by
    rw [text?, hnotice, hfault, hname]
    rfl
  have harrivals : greet.arrivals = [] := rfl
  refine ⟨?_, ?_, ?_, ?_, ?_⟩
  · rw [answer_outcome_greet, hnotice, hfault, hgreeting]
  · rw [taken_outcome, if_pos hreads]
  · rw [written_outcome]
    exact (h .err).accepted_eq _
  · rw [written_outcome, htext]
    exact (h .out).accepted_eq _
  · rw [source_outcome, if_pos hreads, harrivals, List.append_nil]

variable {entries : List Entry}

/-- Names are taken as the source is read. -/
theorem session_takeName_of_reads (h : Reads t.source.flat entries) :
    (session t (List.replicate entries.length .takeName)).map (fun o => (o.answer, o.taken)) =
      entries.map fun entry => (.text entry.name, entry.bytes) := by
  induction entries generalizing t with
  | nil => rfl
  | cons entry later ih =>
    obtain _ | ⟨hresult, htaken, hrest⟩ := h
    have hanswer : (Step.takeName.outcome t).answer = .text entry.name := by
      rw [Step.outcome_takeName, Source.line, hresult]
      rfl
    have hbytes : (Step.takeName.outcome t).taken = entry.bytes := by
      rw [Step.taken_outcome]
      exact htaken
    have hsource : Reads (Step.takeName.outcome t).terminal.source.flat later := by
      rw [Step.outcome_takeName]
      exact t.source.readLine_line.2.2 ▸ hrest
    rw [List.length_cons, List.replicate_succ, session, List.map_cons, ih hsource, hanswer, hbytes,
      List.map_cons]

/-- Conversations greet the names as the source is read. -/
theorem session_greet_of_reads (hsinks : ∀ c, (t.sink c).Healthy)
    (h : Reads t.source.flat entries) :
    (session t (List.replicate entries.length .greet)).map
        (fun o => (o.answer, o.taken, o.written .err, o.written .out)) =
      entries.map fun entry =>
        (.done, entry.bytes, lineBytes notice, lineBytes (salutation entry.name)) := by
  induction entries generalizing t with
  | nil => rfl
  | cons entry later ih =>
    obtain _ | ⟨hresult, htaken, hrest⟩ := h
    obtain ⟨hanswer, hbytes, hnotice, hgreeting, hsource⟩ :=
      Step.outcome_greet_of_healthy hsinks hresult
    have hsinks' := fun c => Step.healthy_outcome t .greet (hsinks c) rfl
    have hreads : Reads (Step.greet.outcome t).terminal.source.flat later := by
      rw [hsource]
      exact t.source.readLine_line.2.2 ▸ hrest
    rw [List.length_cons, List.replicate_succ, session, List.map_cons, ih hsinks' hreads,
      hanswer, hbytes, hnotice, hgreeting, List.map_cons, ← htaken]
    rfl

/-- **A roll is read back.** However its bytes are cut into chunks, and whatever transient faults
lie between these, every step takes the bytes of one entry and no others, in order, and answers with
the name as it was written. Steps behind the last entry answer with the default name and take
nothing. Conversations on healthy sinks say one notice and one greeting for each of these names. -/
theorem session_reads_roll (t : Terminal) (roll : Roll) (hsteady : t.source.Steady)
    (hbytes : t.source.bytes = roll.bytes) (further : Nat) :
    let entries := roll.entries ++ List.replicate further .missing
    (session t (List.replicate entries.length .takeName)).map (fun o => (o.answer, o.taken)) =
      entries.map (fun entry => (.text entry.name, entry.bytes)) ∧
    ((∀ c, (t.sink c).Healthy) →
      (session t (List.replicate entries.length .greet)).map
          (fun o => (o.answer, o.taken, o.written .err, o.written .out)) =
        entries.map fun entry =>
          (.done, entry.bytes, lineBytes notice, lineBytes (salutation entry.name))) := by
  have hreads := roll.reads further
  rw [← hbytes, ← Source.flat_of_steady hsteady] at hreads
  refine ⟨session_takeName_of_reads hreads, ?_⟩
  intro hsinks
  exact session_greet_of_reads hsinks hreads

/-- A character and a line ending in two chunks each, an empty name, a carriage return before one
that belongs to the ending, and one in a last name. -/
theorem session_reads_roll_of_cuts :
    let source : Source := [.chunk [0x5A, 0x6F, 0xC3], .fault (.ofKind .interrupted),
      .chunk [0xAB, 0x0D], .chunk [0x0A, 0x0A], .chunk [0x61, 0x0D, 0x0D, 0x0A, 0x62, 0x0D]]
    let t : Terminal := { source }
    let greeted (taken : List UInt8) (greeting : String) :
        Answer × List UInt8 × List UInt8 × List UInt8 :=
      (.done, taken, lineBytes "Processing input on stderr...", lineBytes greeting)
    (source.Steady ∧ ∀ c, (t.sink c).Healthy) ∧
    (session t (List.replicate 5 .takeName)).map (fun o => (o.answer, o.taken)) =
      [(.text "Zoë", [0x5A, 0x6F, 0xC3, 0xAB, 0x0D, 0x0A]), (.text "", [0x0A]),
        (.text "a\r", [0x61, 0x0D, 0x0D, 0x0A]), (.text "b\r", [0x62, 0x0D]),
        (.text "No one", [])] ∧
    (session t (List.replicate 5 .greet)).map
        (fun o => (o.answer, o.taken, o.written .err, o.written .out)) =
      [greeted [0x5A, 0x6F, 0xC3, 0xAB, 0x0D, 0x0A] "Hello, Zoë!", greeted [0x0A] "Hello, !",
        greeted [0x61, 0x0D, 0x0D, 0x0A] "Hello, a\r!", greeted [0x62, 0x0D] "Hello, b\r!",
        greeted [] "Hello, No one!"] := by
  intro source t greeted
  have hsteady : source.Steady := by decide
  have hsinks : ∀ c, (t.sink c).Healthy := by
    intro c
    cases c <;> exact ⟨rfl, rfl⟩
  obtain ⟨htaken, hgreeted⟩ := session_reads_roll t
    { frames := [⟨"Zoë", true, by decide, by decide⟩, ⟨"", false, by decide, by decide⟩,
        ⟨"a\r", true, by decide, by decide⟩]
      tail? := some ⟨"b\r", by decide, by decide⟩ } hsteady (by decide +kernel) 1
  exact ⟨⟨hsteady, hsinks⟩, htaken, (hgreeted hsinks).trans (by decide +kernel)⟩

end Salutation
