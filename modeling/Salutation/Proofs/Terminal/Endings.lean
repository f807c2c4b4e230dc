import Salutation.Proofs.Session.Traffic
import Salutation.Proofs.Text.Endings

/-!
# Names and the endings of their lines

A name is what is left of a line without its ending, read as text. The ending could as well be taken
off the text of the whole line: `takeName_chomps_text` says that this gives the same name, whatever
bytes the line has. So the first bytes of a character in front of an ending never take a byte of it,
and a carriage return is kept where no line feed follows it, whichever comes first.

## Main definitions

* `Terminal.BringsLine` — which bytes a terminal brings for the next line.

## Main statements

* `Terminal.line_of_bringsLine` — the line that is taken from such a terminal.
* `takeName_chomps_text` — the name of a line by way of its text.
-/
namespace Salutation

open Text (Utf8.decode)
open Text.Line (carriageReturn chomp lineFeed)

/-- A terminal brings these bytes next, in any chunks, and then its line is at an end: with a line
feed, or because the stream ends behind them, for good or for the moment. -/
def Terminal.BringsLine (t : Terminal) (line : List UInt8) : Prop :=
  ∃ behind : List Sign, t.source.flat = line.map .byte ++ behind ∧
    (line.getLast? = some lineFeed ∨ ∀ sign ∈ behind.head?, sign = .pause)

/-- A line is taken as it is brought, and nothing cuts it short. -/
theorem Terminal.line_of_bringsLine {t : Terminal} {line : List UInt8} (h : t.BringsLine line)
    (hfeed : lineFeed ∉ line.dropLast) :
    t.source.line.taken = line ∧ t.source.line.fault? = none := by
  obtain ⟨behind, hflat, hends⟩ := h
  by_cases hlast : line.getLast? = some lineFeed
  · obtain ⟨body, rfl⟩ := List.getLast?_eq_some_iff.1 hlast
    rw [List.dropLast_concat] at hfeed
    have hline : t.source.line = ⟨body, .feed, behind⟩ := by
      rw [Source.line, hflat, List.map_append, List.append_assoc]
      exact FlatLine.ofSigns_bytes_stop hfeed rfl behind
    rw [hline]
    exact ⟨rfl, rfl⟩
  · -- Without a line feed at its end the line has none, and the stream ends behind it.
    have hnone : lineFeed ∉ line := by
      obtain rfl | ⟨body, b, rfl⟩ := List.eq_nil_or_concat line
      · exact List.not_mem_nil
      · rw [List.concat_eq_append, List.dropLast_concat] at hfeed
        rw [List.concat_eq_append, List.getLast?_concat, Option.some_inj] at hlast
        simp [hfeed, Ne.symm hlast]
    have hpause := hends.resolve_left hlast
    cases behind with
    | nil =>
      rw [List.append_nil] at hflat
      rw [Source.line, hflat, FlatLine.ofSigns_bytes hnone]
      exact ⟨FlatLine.taken_ended, rfl⟩
    | cons sign behind =>
      have hsign : sign = .pause := hpause sign rfl
      rw [hsign] at hflat
      rw [Source.line, hflat, FlatLine.ofSigns_bytes_stop hnone rfl]
      exact ⟨FlatLine.taken_ended, rfl⟩

/-- **An ending is taken off a line as it is off its text.** The name of a line that is not empty
is the text of its bytes without their ending, and it is the text of all its bytes without the
ending of that text. In front of an ending may stand any bytes, also the first ones of a character:
the ending goes whole and nothing else goes with it. A carriage return at the end of the stream is
part of the name. -/
theorem takeName_chomps_text (line : List UInt8) (hne : line ≠ [])
    (hfeed : lineFeed ∉ line.dropLast) (t : Terminal) (ht : t.BringsLine line) :
    let o := Step.takeName.outcome t
    o.taken = line ∧
    o.answer = .text (Utf8.decode (chomp lineFeed carriageReturn line)) ∧
    o.answer = .text (String.ofList (chomp '\n' '\r' (Utf8.decode line).toList)) ∧
    (∀ body, line = body ++ [carriageReturn, lineFeed] → o.answer = .text (Utf8.decode body)) ∧
    (∀ body, line = body ++ [lineFeed] → body.getLast? ≠ some carriageReturn →
      o.answer = .text (Utf8.decode body)) ∧
    (∀ body, line = body ++ [carriageReturn] →
      o.answer = .text (Utf8.decode body ++ String.ofList ['\r'])) := by
  intro o
  obtain ⟨htaken, hfault⟩ := t.line_of_bringsLine ht hfeed
  have hanswer : o.answer = .text (Text.Line.ofBytes line) := by
    have hname := Step.answer_outcome_takeName t
    rw [hfault, htaken, FlatLine.nameOf, if_neg hne] at hname
    exact hname
  refine ⟨?_, hanswer, ?_, ?_, ?_, ?_⟩
  · exact (Step.takeName.taken_outcome t).trans htaken
  · rw [hanswer, Text.Line.ofBytes_eq_chomp_decode]
  · rintro body rfl
    rw [hanswer, Text.Line.ofBytes, Text.Line.chomp_append_ret_feed]
  · rintro body rfl hbody
    rw [hanswer, Text.Line.ofBytes, Text.Line.chomp_append_feed hbody]
  · rintro body rfl
    have hlast : (body ++ [carriageReturn]).getLast? ≠ some lineFeed := by
      rw [List.getLast?_concat]
      decide
    rw [hanswer, Text.Line.ofBytes, Text.Line.chomp_eq_self hlast]
    exact congrArg Answer.text (Text.Utf8.decode_concat_of_ascii (c := '\r') (by decide) body)

/-- A line that comes in two chunks has the first bytes of a character in front of two carriage
returns, of which the second one belongs to the ending. -/
theorem takeName_chomps_text_of_part :
    let line : List UInt8 := [0x41, 0xE2, 0x82, 0x0D, 0x0D, 0x0A]
    let t : Terminal :=
      { source := [.chunk [0x41, 0xE2, 0x82, 0x0D], .chunk [0x0D, 0x0A, 0x42]] }
    (line ≠ [] ∧ lineFeed ∉ line.dropLast) ∧ t.BringsLine line ∧
    (Step.takeName.outcome t).answer = .text "A\uFFFD\r" := by
  intro line t
  have hne : line ≠ [] := by decide
  have hfeed : lineFeed ∉ line.dropLast := by decide
  have ht : t.BringsLine line := ⟨[.byte 0x42], by decide, .inl rfl⟩
  obtain ⟨-, -, hname, -⟩ := takeName_chomps_text line hne hfeed t ht
  exact ⟨⟨hne, hfeed⟩, ht, hname.trans (by decide +kernel)⟩

end Salutation
