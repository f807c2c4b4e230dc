import Mathlib.Data.List.TakeWhile
import Salutation.Stream.Source

/-!
# Sources without chunks

The flat form of a source is what it brings, one sign at a time: a byte, an end of the stream that
does not last, or a lasting fault. Chunk boundaries and transient faults are not in it. The next
line is then a matter of lists: the bytes before the first sign that stops a reader, and the
stopping sign itself. The reader that goes from chunk to chunk takes that line, and looks at no
event behind it.

## Main definitions

* `Source.flat` — the signs of a source.
* `FlatLine.ofSigns` — the first line of some signs, by `takeWhile` and `dropWhile`.

## Main statements

* `FlatLine.signs_cases` — all that signs can be to a reader of one line.
* `Source.readLine_line` — a reader of chunks takes the line of the flat form.
* `Source.readLine_append` — the events behind the end of a line are left as they are.
-/
namespace Salutation

open Text.Line (lineFeed)

/-- What a reader of single bytes meets: a byte, an end of the stream for the moment, or a fault
that lasts. -/
inductive Sign where
  | byte (byte : UInt8)
  | pause
  | fault (fault : Fault)
  deriving DecidableEq, Repr

/-- What a line stops at. -/
inductive Ending where
  /-- A line feed, which belongs to the line. -/
  | feed
  /-- An end of the stream, for good or for the moment. -/
  | ended
  /-- A lasting fault. -/
  | fault (fault : Fault)
  deriving DecidableEq, Repr

namespace Sign

/-- The byte that a sign is, if it is one. -/
def bytes : Sign → List UInt8
  | byte b => [b]
  | _ => []

/-- How a line ends at a sign, if it does. -/
def ending? : Sign → Option Ending
  | byte b => if b = lineFeed then some .feed else none
  | pause => some .ended
  | fault f => some (.fault f)

/-- Whether a line ends at a sign. -/
def isStop (sign : Sign) : Bool := sign.ending?.isSome

@[simp] theorem isStop_byte (b : UInt8) : (byte b).isStop = decide (b = lineFeed) := by
  by_cases h : b = lineFeed <;> simp [isStop, ending?, h]

end Sign

/-- Bytes other than line feeds are no stops. -/
theorem Sign.not_isStop_of_mem {bytes : List UInt8} (h : lineFeed ∉ bytes) :
    ∀ sign ∈ bytes.map Sign.byte, (!sign.isStop) = true := by
  intro sign hsign
  obtain ⟨b, hb, rfl⟩ := List.mem_map.1 hsign
  have hne : b ≠ lineFeed := fun heq => h (heq ▸ hb)
  simp [hne]

/-- The signs of an event. A transient fault leaves none. -/
def Event.signs : Event → List Sign
  | .chunk [] => [.pause]
  | .chunk (b :: bs) => (b :: bs).map .byte
  | .fault f => if f.isTransient then [] else [.fault f]

/-- The signs of a source: its flat form. -/
def Source.flat (source : Source) : List Sign := source.flatMap Event.signs

/-- The signs up to the first stop and with it. -/
def toStop (signs : List Sign) : List Sign :=
  signs.takeWhile (!·.isStop) ++ (signs.dropWhile (!·.isStop)).head?.toList

/-- A line of a flat source: the bytes before its stop, what the stop is, and the signs behind. -/
structure FlatLine where
  body : List UInt8
  ending : Ending
  rest : List Sign
  deriving DecidableEq, Repr

namespace FlatLine

/-- The first line of some signs. Where no sign stops it, the end of the stream does. -/
def ofSigns (signs : List Sign) : FlatLine where
  body := (signs.takeWhile (!·.isStop)).flatMap Sign.bytes
  ending := ((signs.dropWhile (!·.isStop)).head?.bind Sign.ending?).getD .ended
  rest := (signs.dropWhile (!·.isStop)).tail

/-- The bytes of a line, with the line feed where it has one. -/
def taken (line : FlatLine) : List UInt8 :=
  line.body ++ if line.ending = .feed then [lineFeed] else []

/-- The fault that cuts a line short, if there is one. -/
def fault? (line : FlatLine) : Option Fault :=
  match line.ending with
  | .fault f => some f
  | _ => none

/-! ## Sign by sign -/

@[simp] theorem ofSigns_nil : ofSigns [] = ⟨[], .ended, []⟩ := rfl

/-- A stop in front ends the line at once. -/
theorem ofSigns_stop_cons {sign : Sign} {ending : Ending} (h : sign.ending? = some ending)
    (rest : List Sign) : ofSigns (sign :: rest) = ⟨[], ending, rest⟩ := by
  have hstop : sign.isStop = true := by rw [Sign.isStop, h]; rfl
  simp [ofSigns, hstop, h]

/-- Bytes without a line feed in front belong to the line. -/
theorem ofSigns_bytes_append {bytes : List UInt8} (h : lineFeed ∉ bytes) (rest : List Sign) :
    ofSigns (bytes.map .byte ++ rest) =
      { ofSigns rest with body := bytes ++ (ofSigns rest).body } := by
  have hrun := Sign.not_isStop_of_mem h
  have hbytes : (bytes.map Sign.byte).flatMap Sign.bytes = bytes := by
    induction bytes with
    | nil => rfl
    | cons b bs ih => simp_all [Sign.bytes]
  rw [ofSigns, List.takeWhile_append_of_pos hrun, List.dropWhile_append_of_pos hrun,
    List.flatMap_append, hbytes]
  rfl

/-- A line that a stop ends. -/
theorem ofSigns_bytes_stop {bytes : List UInt8} (h : lineFeed ∉ bytes) {sign : Sign}
    {ending : Ending} (hstop : sign.ending? = some ending) (rest : List Sign) :
    ofSigns (bytes.map .byte ++ sign :: rest) = ⟨bytes, ending, rest⟩ := by
  rw [ofSigns_bytes_append h, ofSigns_stop_cons hstop, List.append_nil]

/-- A line that nothing but the end of the stream ends. -/
theorem ofSigns_bytes {bytes : List UInt8} (h : lineFeed ∉ bytes) :
    ofSigns (bytes.map .byte) = ⟨bytes, .ended, []⟩ := by
  have := ofSigns_bytes_append h []
  simpa using this

/-! ## The parts of a line -/

/-- Signs are the bytes of a line, or these, a stop and what is behind it. -/
theorem signs_cases (signs : List Sign) :
    (∃ bytes : List UInt8, lineFeed ∉ bytes ∧ signs = bytes.map .byte) ∨
    (∃ (bytes : List UInt8) (sign : Sign) (ending : Ending) (rest : List Sign),
      lineFeed ∉ bytes ∧ sign.ending? = some ending ∧
      signs = bytes.map .byte ++ sign :: rest) := by
  induction signs with
  | nil => exact .inl ⟨[], by simp, rfl⟩
  | cons sign signs ih =>
    cases hsign : sign.ending? with
    | none =>
      -- A sign that is no stop is a byte of the line.
      obtain ⟨b, hb, rfl⟩ : ∃ b, b ≠ lineFeed ∧ sign = .byte b := by
        cases sign with
        | byte b =>
          refine ⟨b, ?_, rfl⟩
          intro heq
          simp [Sign.ending?, heq] at hsign
        | pause => cases hsign
        | fault f => cases hsign
      obtain ⟨bytes, hbytes, rfl⟩ | ⟨bytes, sign, ending, rest, hbytes, hstop, rfl⟩ := ih
      · exact .inl ⟨b :: bytes, by simp [hbytes, Ne.symm hb], rfl⟩
      · exact .inr ⟨b :: bytes, sign, ending, rest, by simp [hbytes, Ne.symm hb], hstop, rfl⟩
    | some ending => exact .inr ⟨[], sign, ending, signs, by simp, hsign, rfl⟩

/-- A line holds no line feed but the one that ends it. -/
theorem lineFeed_notMem_body (signs : List Sign) : lineFeed ∉ (ofSigns signs).body := by
  obtain ⟨bytes, hbytes, rfl⟩ | ⟨bytes, sign, _, rest, hbytes, hstop, rfl⟩ := signs_cases signs
  · rwa [ofSigns_bytes hbytes]
  · rwa [ofSigns_bytes_stop hbytes hstop]

/-- A line feed taken for a line is the last byte taken. -/
theorem lineFeed_notMem_dropLast_taken {line : FlatLine} (h : lineFeed ∉ line.body) :
    lineFeed ∉ line.taken.dropLast := by
  rw [taken]
  split
  · rwa [List.dropLast_concat]
  · intro hmem
    rw [List.append_nil] at hmem
    exact h (List.dropLast_subset line.body hmem)

/-- A line is cut short by a fault where the fault is the first sign that is no byte of the line. -/
theorem fault?_ofSigns_eq_some_iff {signs : List Sign} {f : Fault} :
    (ofSigns signs).fault? = some f ↔
      ∃ (bytes : List UInt8) (rest : List Sign),
        lineFeed ∉ bytes ∧ signs = bytes.map .byte ++ .fault f :: rest := by
  constructor
  · intro h
    obtain ⟨bytes, hbytes, rfl⟩ | ⟨bytes, sign, ending, rest, hbytes, hstop, rfl⟩ :=
      signs_cases signs
    · rw [ofSigns_bytes hbytes] at h
      cases h
    · rw [ofSigns_bytes_stop hbytes hstop] at h
      refine ⟨bytes, rest, hbytes, ?_⟩
      cases sign with
      | byte b =>
        by_cases hb : b = lineFeed
        · simp only [Sign.ending?, hb, if_true] at hstop
          cases hstop
          cases h
        · simp [Sign.ending?, hb] at hstop
      | pause =>
        cases hstop
        cases h
      | fault g =>
        cases hstop
        cases h
        rfl
  · rintro ⟨bytes, rest, hbytes, rfl⟩
    rw [ofSigns_bytes_stop hbytes rfl]
    rfl

/-! ## Up to the stop -/

theorem toStop_bytes {bytes : List UInt8} (h : lineFeed ∉ bytes) :
    toStop (bytes.map .byte) = bytes.map .byte := by
  have hrun := Sign.not_isStop_of_mem h
  rw [toStop, List.takeWhile_eq_self_iff.2 hrun, List.dropWhile_eq_nil_iff.2 hrun]
  simp

theorem toStop_bytes_stop {bytes : List UInt8} (h : lineFeed ∉ bytes) {sign : Sign}
    (hstop : sign.isStop = true) (rest : List Sign) :
    toStop (bytes.map .byte ++ sign :: rest) = bytes.map .byte ++ [sign] := by
  have hrun := Sign.not_isStop_of_mem h
  rw [toStop, List.takeWhile_append_of_pos hrun, List.dropWhile_append_of_pos hrun]
  simp [hstop]

/-- A line is known from the signs up to its stop. -/
theorem ofSigns_toStop (signs : List Sign) :
    ofSigns (toStop signs) = { ofSigns signs with rest := [] } := by
  obtain ⟨bytes, hbytes, rfl⟩ | ⟨bytes, sign, _, rest, hbytes, hstop, rfl⟩ := signs_cases signs
  · rw [toStop_bytes hbytes, ofSigns_bytes hbytes]
  · rw [toStop_bytes_stop hbytes (by rw [Sign.isStop, hstop]; rfl), ofSigns_bytes_stop hbytes hstop,
      ofSigns_bytes_stop hbytes hstop]

/-- Signs behind a stop change nothing but what is left. -/
theorem ofSigns_append {signs : List Sign} (h : ∃ sign ∈ signs, sign.isStop = true)
    (later : List Sign) :
    ofSigns (signs ++ later) = { ofSigns signs with rest := (ofSigns signs).rest ++ later } := by
  obtain ⟨bytes, hbytes, rfl⟩ | ⟨bytes, sign, _, rest, hbytes, hstop, rfl⟩ := signs_cases signs
  · obtain ⟨sign, hmem, hstop⟩ := h
    have := Sign.not_isStop_of_mem hbytes sign hmem
    simp [hstop] at this
  · rw [List.append_assoc, List.cons_append, ofSigns_bytes_stop hbytes hstop,
      ofSigns_bytes_stop hbytes hstop]

end FlatLine

namespace Source

@[simp] theorem flat_nil : flat [] = [] := rfl

@[simp] theorem flat_cons (event : Event) (source : Source) :
    flat (event :: source) = event.signs ++ flat source := rfl

@[simp] theorem flat_append (source later : Source) :
    flat (source ++ later) = flat source ++ flat later := by
  simp [flat]

@[simp] theorem flat_putBack (bytes : List UInt8) (source : Source) :
    flat (putBack bytes source) = bytes.map .byte ++ flat source := by
  cases bytes <;> simp [putBack, Event.signs]

theorem putBack_append (bytes : List UInt8) (source later : Source) :
    putBack bytes (source ++ later) = putBack bytes source ++ later := by
  by_cases h : bytes = [] <;> simp [putBack, h]

/-- The next line of a source, as its flat form has it. -/
def line (source : Source) : FlatLine := FlatLine.ofSigns source.flat

theorem lineFeed_notMem_line (source : Source) : lineFeed ∉ source.line.body :=
  FlatLine.lineFeed_notMem_body source.flat

/-! ## The reader of chunks -/

/-- A chunk that has nothing from a line feed on has no line feed. -/
theorem lineFeed_notMem_of_dropWhile {bytes : List UInt8}
    (h : bytes.dropWhile (· != lineFeed) = []) :
    lineFeed ∉ bytes ∧ bytes.takeWhile (· != lineFeed) = bytes := by
  have hall := List.dropWhile_eq_nil_iff.1 h
  refine ⟨?_, List.takeWhile_eq_self_iff.2 hall⟩
  intro hmem
  have := hall lineFeed hmem
  simp at this

/-- A chunk that has something from a line feed on is cut there. -/
theorem eq_takeWhile_append_of_dropWhile {bytes later : List UInt8} {feed : UInt8}
    (h : bytes.dropWhile (· != lineFeed) = feed :: later) :
    feed = lineFeed ∧ lineFeed ∉ bytes.takeWhile (· != lineFeed) ∧
      bytes = bytes.takeWhile (· != lineFeed) ++ lineFeed :: later := by
  have hfeed : feed = lineFeed := by
    have hhead := List.head?_dropWhile_not (· != lineFeed) bytes
    rw [h] at hhead
    simpa using hhead
  refine ⟨hfeed, ?_, ?_⟩
  · intro hmem
    have := List.mem_takeWhile_imp hmem
    simp at this
  · rw [hfeed] at h
    rw [← h, List.takeWhile_append_dropWhile]

/-- **A reader of chunks takes the line of the flat form**: the same bytes, and the same fault. What
it leaves has the flat form that was left. -/
theorem readLine_line (source : Source) :
    source.readLine.taken = source.line.taken ∧ source.readLine.fault? = source.line.fault? ∧
      source.readLine.rest.flat = source.line.rest := by
  -- The induction is on the looks at the source; only a chunk without a line feed and a transient
  -- fault lead to another look.
  fun_induction readLine source with
  | case1 => exact ⟨rfl, rfl, rfl⟩
  | case2 f rest ht ih =>
    have hline : line (.fault f :: rest) = line rest := by simp [line, Event.signs, ht]
    rw [hline]
    exact ih
  | case3 f rest ht =>
    have hline : line (.fault f :: rest) = ⟨[], .fault f, flat rest⟩ := by
      rw [line, flat_cons, Event.signs, if_neg ht]
      exact FlatLine.ofSigns_stop_cons rfl (flat rest)
    rw [hline]
    exact ⟨rfl, rfl, rfl⟩
  | case4 rest =>
    have hline : line (.chunk [] :: rest) = ⟨[], .ended, flat rest⟩ :=
      FlatLine.ofSigns_stop_cons (show Sign.pause.ending? = _ from rfl) (flat rest)
    rw [hline]
    exact ⟨rfl, rfl, rfl⟩
  | case5 b bs rest head feed later hdrop =>
    obtain ⟨rfl, hhead, hchunk⟩ := eq_takeWhile_append_of_dropWhile hdrop
    have hline : line (.chunk (b :: bs) :: rest) =
        ⟨head, .feed, later.map .byte ++ flat rest⟩ := by
      rw [line, flat_cons, Event.signs, hchunk, List.map_append, List.append_assoc]
      exact FlatLine.ofSigns_bytes_stop hhead rfl _
    rw [hline]
    exact ⟨rfl, rfl, flat_putBack later rest⟩
  | case6 b bs rest head hdrop reading ih =>
    obtain ⟨hbytes, htake⟩ := lineFeed_notMem_of_dropWhile hdrop
    have hline : line (.chunk (b :: bs) :: rest) =
        { line rest with body := b :: bs ++ (line rest).body } :=
      FlatLine.ofSigns_bytes_append hbytes (flat rest)
    obtain ⟨htaken, hfault, hrest⟩ := ih
    rw [hline]
    refine ⟨?_, hfault, hrest⟩
    rw [show head = b :: bs from htake, htaken]
    exact (List.append_assoc _ _ _).symm

/-- **A reader looks at nothing behind the end of its line**: whatever else the source brings there,
no event of it is touched. -/
theorem readLine_append {source : Source} (h : ∃ sign ∈ source.flat, sign.isStop = true)
    (later : Source) :
    (source ++ later).readLine =
      { source.readLine with rest := source.readLine.rest ++ later } := by
  fun_induction readLine source with
  | case1 => simp at h
  | case2 f rest ht ih =>
    have hrest : ∃ sign ∈ flat rest, sign.isStop = true := by simpa [Event.signs, ht] using h
    rw [List.cons_append, readLine, if_pos ht, ih hrest]
  | case3 f rest ht => rw [List.cons_append, readLine, if_neg ht]
  | case4 rest => rfl
  | case5 b bs rest head feed later' hdrop =>
    rw [List.cons_append, readLine]
    simp only [hdrop, putBack_append]
    rfl
  | case6 b bs rest head hdrop reading ih =>
    obtain ⟨hbytes, htake⟩ := lineFeed_notMem_of_dropWhile hdrop
    have hrest : ∃ sign ∈ flat rest, sign.isStop = true := by
      obtain ⟨sign, hmem, hstop⟩ := h
      obtain hchunk | hlater := List.mem_append.1 hmem
      · have := Sign.not_isStop_of_mem hbytes sign hchunk
        simp [hstop] at this
      · exact ⟨sign, hlater, hstop⟩
    rw [List.cons_append, readLine]
    simp only [hdrop]
    rw [ih hrest]

end Source

end Salutation
