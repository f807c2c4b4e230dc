import Salutation.Proofs.Terminal.Stages

/-!
# Names and the chunks they come in

A name is taken from chunks of bytes, with faults and ends of the stream between them. Where one
chunk ends and the next begins is an accident of the stream, and so is a transient fault.
`takeName_reads_flat_line` says that neither shows in the name, in the bytes taken, in the record
or in what is left, and that nothing behind the end of the line matters.
-/
namespace Salutation

/-- Two sources that agree up to the stop begin with the same line. -/
theorem Source.line_eq_of_toStop {source source' : Source}
    (h : toStop source'.flat = toStop source.flat) :
    source'.line = { source.line with rest := source'.line.rest } := by
  have hline := FlatLine.ofSigns_toStop source.flat
  have hline' := FlatLine.ofSigns_toStop source'.flat
  rw [← h, hline'] at hline
  injection hline with hbody hending
  simp only [Source.line, ← hbody, ← hending]

/-- **A name is read from the flat form of the source, and no further than its line.** The answer,
the bytes taken and the record are those of the first line of the flat form, and so is what is left
when its chunks are forgotten. Two sources that are alike up to the end of the line are not told
apart. Events behind the end of the line are not looked at: they are left one by one, as before. -/
theorem takeName_reads_flat_line (t : Terminal) :
    let o := Step.takeName.outcome t
    let line := FlatLine.ofSigns t.source.flat
    (o.answer = .ofText line.result ∧
      o.terminal.journal = .took line.taken :: Terminal.shown t.threshold line.record? ∧
      o.terminal.source.flat = line.rest ∧
      o.terminal.out = t.out ∧ o.terminal.err = t.err ∧ o.terminal.threshold = t.threshold) ∧
    (∀ t' : Terminal, t'.threshold = t.threshold → toStop t'.source.flat = toStop t.source.flat →
      (Step.takeName.outcome t').answer = o.answer ∧
        (Step.takeName.outcome t').terminal.journal = o.terminal.journal) ∧
    (∀ later : Source, (∃ sign ∈ t.source.flat, sign.isStop = true) →
      Step.takeName.outcome { t with source := t.source ++ later } =
        { o with terminal := { o.terminal with source := o.terminal.source ++ later } }) := by
  simp only [Step.outcome_takeName]
  refine ⟨⟨rfl, rfl, ?_, rfl, rfl, rfl⟩, ?_, ?_⟩
  · exact t.source.readLine_line.2.2
  · intro t' hthreshold hstop
    have hline := Source.line_eq_of_toStop hstop
    refine ⟨?_, ?_⟩
    · rw [hline]
      rfl
    · rw [Terminal.journal_named, Terminal.journal_named, Terminal.source_fresh,
        Terminal.threshold_fresh, hthreshold, hline]
      rfl
  · intro later hstop
    have hread := Source.readLine_append hstop later
    have hline : Source.line (t.source ++ later) =
        { t.source.line with rest := t.source.line.rest ++ later.flat } := by
      rw [Source.line, Source.flat_append, FlatLine.ofSigns_append hstop]
      rfl
    rw [Terminal.named, Terminal.named]
    simp only [Terminal.source_fresh, Terminal.threshold_fresh, hread, hline]
    rfl

/-- The bytes of one character, and a carriage return and its line feed, may come in two chunks. -/
example :
    toStop (Source.flat [.chunk [0x5A, 0xC3], .fault (.ofKind .interrupted), .chunk [0xA9, 0x0D],
      .chunk [0x0A, 0x42]]) =
    toStop (Source.flat [.chunk [0x5A, 0xC3, 0xA9, 0x0D, 0x0A]]) := by decide

end Salutation
