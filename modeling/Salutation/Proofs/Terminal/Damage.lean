import Salutation.Proofs.Terminal.Stages
import Salutation.Proofs.Text.Locality

/-!
# Names from damaged lines

A line of input need not be text: its bytes may be parts of characters, or belong to none. What is
text in it comes through all the same. `takeName_keeps_text` says that text keeps its place in the
name, character for character, between what is read of the bytes before it and of those behind it,
and that these are read as they would be on lines of their own.

## Main statements

* `Terminal.answer_takeName_of_brings` — the name of a line with both bytes of an ending.
* `takeName_keeps_text` — text between ill-formed bytes.
-/
namespace Salutation

open Text (Utf8.decode Utf8.encode Utf8.decode_between Utf8.mem_encode_iff_of_ascii)
open Text.Line (carriageReturn lineFeed)

/-- A terminal brings a line of these bytes next, ended by a carriage return and a line feed. It may
come in any chunks, and anything may be behind it. -/
def Terminal.Brings (t : Terminal) (body : List UInt8) : Prop :=
  ∃ behind : List Sign, t.source.flat = (body ++ [carriageReturn, lineFeed]).map .byte ++ behind

/-- The ending of such a line is no part of its name. -/
theorem Terminal.answer_takeName_of_brings {t : Terminal} {body : List UInt8} (h : t.Brings body)
    (hbody : lineFeed ∉ body) :
    (Step.takeName.outcome t).answer = .text (Utf8.decode body) := by
  obtain ⟨behind, hflat⟩ := h
  have hreturn : lineFeed ∉ body ++ [carriageReturn] := by
    rw [List.mem_append, not_or]
    exact ⟨hbody, by decide⟩
  have hsigns : t.source.flat =
      (body ++ [carriageReturn]).map .byte ++ .byte lineFeed :: behind := by
    simp [hflat]
  have hline : t.source.line = ⟨body ++ [carriageReturn], .feed, behind⟩ := by
    rw [Source.line, hsigns]
    exact FlatLine.ofSigns_bytes_stop hreturn rfl behind
  rw [Step.outcome_takeName, hline]
  simp [FlatLine.result, Answer.ofText]

/-- **Text is kept as it stands between damaged bytes.** On a line of its own, what stands before
the text is read as one name and what stands behind it as another, whatever bytes they are. With any
text between them that is not empty, the name is the one, the text and the other: the text takes
nothing from them and they take nothing from the text. -/
theorem takeName_keeps_text (before behind : List UInt8) (hbefore : lineFeed ∉ before)
    (hbehind : lineFeed ∉ behind) :
    ∃ first last : String,
      (∀ t : Terminal, t.Brings before → (Step.takeName.outcome t).answer = .text first) ∧
      (∀ t : Terminal, t.Brings behind → (Step.takeName.outcome t).answer = .text last) ∧
      ∀ text : String, text ≠ "" → '\n' ∉ text.toList → ∀ t : Terminal,
        t.Brings (before ++ Utf8.encode text ++ behind) →
          (Step.takeName.outcome t).answer = .text (first ++ text ++ last) := by
  refine ⟨Utf8.decode before, Utf8.decode behind, ?_, ?_, ?_⟩
  · intro t ht
    exact Terminal.answer_takeName_of_brings ht hbefore
  · intro t ht
    exact Terminal.answer_takeName_of_brings ht hbehind
  · intro text hne htext t ht
    have hencoded : lineFeed ∉ Utf8.encode text := by
      intro hmem
      exact htext ((Utf8.mem_encode_iff_of_ascii (c := '\n') (by decide) text).1 hmem)
    have hbody : lineFeed ∉ before ++ Utf8.encode text ++ behind := by
      simp [hbefore, hencoded, hbehind]
    rw [Terminal.answer_takeName_of_brings ht hbody, Utf8.decode_between before hne behind]

/-- A character that stops after two of its bytes, the text, then a byte that could have continued
that character and the beginning of another; chunks end inside the text and inside the ending. -/
theorem takeName_keeps_text_of_parts :
    let before : List UInt8 := [0x41, 0xE2, 0x82]
    let behind : List UInt8 := [0xAC, 0xF0, 0x9F]
    let t : Terminal :=
      { source := [.chunk [0x41, 0xE2, 0x82, 0xC3], .chunk [0xA9, 0xAC, 0xF0, 0x9F, 0x0D],
          .chunk [0x0A, 0x42]] }
    (lineFeed ∉ before ∧ lineFeed ∉ behind) ∧ t.Brings (before ++ Utf8.encode "é" ++ behind) ∧
    (Step.takeName.outcome t).answer = .text "A\uFFFDé\uFFFD\uFFFD" := by
  intro before behind t
  have hbefore : lineFeed ∉ before := by decide
  have hbehind : lineFeed ∉ behind := by decide
  have ht : t.Brings (before ++ Utf8.encode "é" ++ behind) := ⟨[.byte 0x42], by decide +kernel⟩
  obtain ⟨first, last, hfirst, hlast, hbetween⟩ :=
    takeName_keeps_text before behind hbefore hbehind
  refine ⟨⟨hbefore, hbehind⟩, ht, ?_⟩
  have halone := hfirst { source := [.chunk [0x41, 0xE2, 0x82, 0x0D, 0x0A]] } ⟨[], rfl⟩
  have halone' := hlast { source := [.chunk [0xAC, 0xF0, 0x9F, 0x0D, 0x0A]] } ⟨[], rfl⟩
  have hname : first = "A\uFFFD" := Answer.text.inj (halone.symm.trans (by decide +kernel))
  have hname' : last = "\uFFFD\uFFFD" := Answer.text.inj (halone'.symm.trans (by decide +kernel))
  rw [hbetween "é" (by decide) (by decide) t ht, hname, hname']
  rfl

end Salutation
