import Salutation.Proofs.Session.Conservation
import Salutation.Proofs.Session.Course

/-!
# Conversations that are held again

A conversation that fails may be held again. Where it failed at its notice it moved nothing but the
stream of errors, so that it can be tried any number of times: once that stream is replaced, the
next one is held as if it were the first. Where it failed at its greeting its line is gone, and the
next one takes the next line. `failed_notice_keeps_input` says both, and that in no session two
steps take the same bytes.

## Main statements

* `Step.unmoved_of_noticing` — what one conversation leaves that failed at its notice.
* `unmoved_of_attempts` — what any number of them leaves.
* `failed_notice_keeps_input` — the session that goes on from there.
-/
namespace Salutation

open Program (lineBytes)

/-- Two terminals that are alike but for the stream of errors and what has been noted. -/
structure Terminal.AlikeButErrors (t t' : Terminal) : Prop where
  source_eq : t.source = t'.source
  out_eq : t.out = t'.out
  threshold_eq : t.threshold = t'.threshold

namespace Terminal.AlikeButErrors

variable {t t' : Terminal}

theorem trans {t'' : Terminal} (h : AlikeButErrors t t') (h' : AlikeButErrors t' t'') :
    AlikeButErrors t t'' :=
  ⟨h.source_eq.trans h'.source_eq, h.out_eq.trans h'.out_eq, h.threshold_eq.trans h'.threshold_eq⟩

/-- Once the stream of errors is replaced, nothing tells them apart. -/
theorem session_replace (h : AlikeButErrors t t') (s : Sink) (later : List Step) :
    session t (.replace .err s :: later) = session t' (.replace .err s :: later) := by
  have houtcome : (Step.replace .err s).outcome t = (Step.replace .err s).outcome t' := by
    obtain ⟨source, out, err, threshold, journal⟩ := t
    obtain ⟨hsource, hout, hthreshold⟩ := h
    cases hsource
    cases hout
    cases hthreshold
    rfl
  rw [session, session, houtcome]

end Terminal.AlikeButErrors

namespace Step

variable (t : Terminal)

/-- **A conversation that fails at its notice moves nothing but the stream of errors**, and does
nothing elsewhere. -/
theorem unmoved_of_noticing {f : Fault} (h : (greet.outcome t).answer = .failed ⟨.noticing, f⟩) :
    (greet.outcome t).terminal.AlikeButErrors t ∧ (greet.outcome t).elsewhere .err = [] := by
  have hnotice := lineFault?_of_noticing t h
  have hreads : greet.reads t = false := by
    rw [reads, hnotice]
    rfl
  have htext : greet.text? t .out = none := by
    rw [text?, hnotice]
    rfl
  refine ⟨⟨?_, ?_, ?_⟩, ?_⟩
  · rw [source_outcome, hreads]
    exact List.append_nil _
  · have hout := greet.sink_outcome t .out
    rw [htext] at hout
    exact hout
  · rw [threshold_outcome]
    rfl
  · rw [elsewhere_outcome, reading, hreads, saying, saying, htext]
    rfl

/-- **A conversation that fails at its greeting is behind its line**: the line is taken whole, and
whatever stream has failed, the next conversation to get past its notice takes the next line. -/
theorem behind_line_of_greeting {f : Fault}
    (h : (greet.outcome t).answer = .failed ⟨.greeting, f⟩) :
    (greet.outcome t).taken = t.source.line.taken ∧
    (greet.outcome t).terminal.source.flat = t.source.line.rest ∧
    ∀ t' : Terminal, t'.source = (greet.outcome t).terminal.source → greet.reads t' = true →
      (greet.outcome t').taken = (FlatLine.ofSigns t.source.line.rest).taken := by
  have hreads := reads_of_text? t (text?_of_answer t (.inr ⟨f, h⟩)).1
  have hrest : (greet.outcome t).terminal.source.flat = t.source.line.rest := by
    have harrivals : greet.arrivals = [] := rfl
    rw [source_outcome, if_pos hreads, harrivals, List.append_nil]
    exact t.source.readLine_line.2.2
  refine ⟨?_, hrest, ?_⟩
  · rw [taken_outcome, if_pos hreads]
  · intro t' hsource hreads'
    rw [taken_outcome, if_pos hreads', hsource, Source.line, hrest]

end Step

/-! ## Sessions -/

/-- **Any number of conversations that fail at their notice** move nothing but the stream of errors,
and do nothing elsewhere. -/
theorem unmoved_of_attempts {t : Terminal} {k : Nat}
    (h : ∀ o ∈ session t (List.replicate k .greet), ∃ f, o.answer = .failed ⟨.noticing, f⟩) :
    (leaving t (session t (List.replicate k .greet))).AlikeButErrors t ∧
      ∀ o ∈ session t (List.replicate k .greet), o.elsewhere .err = [] := by
  induction k generalizing t with
  | zero =>
    rw [List.replicate_zero, session]
    exact ⟨⟨rfl, rfl, rfl⟩, List.forall_mem_nil _⟩
  | succ k ih =>
    rw [List.replicate_succ, session] at h ⊢
    obtain ⟨f, hfirst⟩ := h _ (List.mem_cons_self ..)
    obtain ⟨halike, hnothing⟩ := Step.unmoved_of_noticing t hfirst
    obtain ⟨hlater, hlater'⟩ := ih fun o ho => h o (List.mem_cons_of_mem _ ho)
    refine ⟨?_, ?_⟩
    · rw [leaving_cons]
      exact hlater.trans halike
    · intro o ho
      obtain rfl | ho := List.mem_cons.1 ho
      · exact hnothing
      · exact hlater' o ho

/-- No two steps take the same bytes: what each of them takes stands in a place of its own. -/
theorem supply_of_two_outcomes {t : Terminal} {steps : List Step}
    {before between later : List Outcome} {o o' : Outcome}
    (h : session t steps = before ++ o :: (between ++ o' :: later)) :
    ∃ rest, t.unread ++ steps.flatMap Step.supply =
      before.flatMap Outcome.taken ++ o.taken ++ between.flatMap Outcome.taken ++ o'.taken ++
        rest := by
  refine ⟨later.flatMap Outcome.taken ++ (leaving t (session t steps)).unread, ?_⟩
  rw [unread_append_supply, h]
  simp only [List.flatMap_append, List.flatMap_cons, List.append_assoc]

/-- **A notice that fails loses no input, and no line is greeted from twice.** After any number of
conversations that failed at their notice the source, the output and the threshold are as before;
each of them did nothing elsewhere than on the stream of errors, so it showed no record, and said at
which stage it failed. Once that stream is replaced, every further step comes to the same as if
none of them had been held. A conversation that failed at its greeting has taken its line whole, and
the next one that reads takes the next line; in no session do two steps take the same bytes. -/
theorem failed_notice_keeps_input (t : Terminal) :
    (∀ k, let attempts := session t (List.replicate k .greet)
      (∀ o ∈ attempts, ∃ f, o.answer = .failed ⟨.noticing, f⟩) →
        (leaving t attempts).AlikeButErrors t ∧
        (∀ o ∈ attempts, o.elsewhere .err = [] ∧ o.records = [] ∧
          ∃ failure, o.answer = .failed failure ∧
            failure.stage.context = "Writing notice to stderr failed!" ∧
            failure.message = "Writing notice to stderr failed!" ++ ": " ++ failure.fault.text) ∧
        ∀ (s : Sink) (later : List Step),
          session (leaving t attempts) (.replace .err s :: later) =
            session t (.replace .err s :: later)) ∧
    (∀ f, (Step.greet.outcome t).answer = .failed ⟨.greeting, f⟩ →
      (Step.greet.outcome t).taken = t.source.line.taken ∧
      (Step.greet.outcome t).terminal.source.flat = t.source.line.rest ∧
      ∀ t' : Terminal, t'.source = (Step.greet.outcome t).terminal.source →
        (∀ g, (Step.greet.outcome t').answer ≠ .failed ⟨.noticing, g⟩) →
          (Step.greet.outcome t').taken = (FlatLine.ofSigns t.source.line.rest).taken) ∧
    (∀ (steps : List Step) (before between later : List Outcome) (o o' : Outcome),
      session t steps = before ++ o :: (between ++ o' :: later) →
        ∃ rest, t.unread ++ steps.flatMap Step.supply =
          before.flatMap Outcome.taken ++ o.taken ++ between.flatMap Outcome.taken ++ o'.taken ++
            rest) := by
  refine ⟨?_, ?_, ?_⟩
  · intro k attempts hattempts
    obtain ⟨halike, hnothing⟩ := unmoved_of_attempts hattempts
    refine ⟨halike, ?_, halike.session_replace⟩
    intro o ho
    obtain ⟨f, hf⟩ := hattempts o ho
    have hrecords : o.records = [] := by
      rw [Outcome.records, ← Activity.records_filter_isOn .err]
      exact congrArg Activity.records (hnothing o ho)
    exact ⟨hnothing o ho, hrecords, _, hf, rfl, rfl⟩
  · intro f hf
    obtain ⟨htaken, hrest, hnext⟩ := Step.behind_line_of_greeting t hf
    refine ⟨htaken, hrest, ?_⟩
    intro t' hsource hanswer
    exact hnext t' hsource (Step.reads_of_ne_noticing t' hanswer)
  · intro steps before between later o o' hsplit
    exact supply_of_two_outcomes hsplit

/-- A stream of errors with room for five bytes fails once partway and once at once, an output with
room for three fails partway. -/
theorem failed_notice_keeps_input_of_little_room :
    let t : Terminal :=
      { source := [.chunk [0x61, 0x0A, 0x62, 0x0A]], err := { limit? := some { room := 5 } } }
    let attempts := session t (List.replicate 2 .greet)
    let u : Terminal := { source := t.source, out := { limit? := some { room := 3 } } }
    let o := Step.greet.outcome u
    (∀ a ∈ attempts, a.answer = .failed ⟨.noticing, .nothingTaken⟩) ∧
    session (leaving t attempts) [.replace .err {}, .greet] = session t [.replace .err {}, .greet] ∧
    o.answer = .failed ⟨.greeting, .nothingTaken⟩ ∧ o.taken = [0x61, 0x0A] ∧
    (Step.greet.outcome o.terminal).taken = [0x62, 0x0A] := by
  intro t attempts u o
  have hattempts : ∀ a ∈ attempts, a.answer = .failed ⟨.noticing, .nothingTaken⟩ := by
    decide +kernel
  have hanswer : o.answer = .failed ⟨.greeting, .nothingTaken⟩ := by decide +kernel
  have hnext : (Step.greet.outcome o.terminal).answer = .failed ⟨.greeting, .nothingTaken⟩ := by
    decide +kernel
  obtain ⟨hretried, -, -⟩ := failed_notice_keeps_input t
  obtain ⟨-, -, hsession⟩ := hretried 2 fun a ha => ⟨_, hattempts a ha⟩
  obtain ⟨-, hbehind, -⟩ := failed_notice_keeps_input u
  obtain ⟨htaken, -, hread⟩ := hbehind _ hanswer
  refine ⟨hattempts, hsession {} [.greet], hanswer, htaken.trans (by decide +kernel), ?_⟩
  refine (hread o.terminal rfl ?_).trans (by decide +kernel)
  intro g hg
  rw [hnext] at hg
  cases hg

end Salutation
