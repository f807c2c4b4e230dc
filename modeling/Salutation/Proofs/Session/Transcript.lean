import Mathlib.Data.List.Forall2
import Salutation.Proofs.Session.Answers
import Salutation.Proofs.Text.Ascii
import Salutation.Proofs.Text.Lines

/-!
# What an output that takes everything has taken

Greetings are written one after the other, and whatever was read goes into them: bytes that form no
text, lines cut short by an end of the stream, names that look like greetings. Still the output is a
text with one line for each conversation that succeeded, and the names can be told from it.
`session_transcript_is_page` says so; it rests on names having no line feed, however damaged the
bytes of their lines are, and on conversations that fail leaving nothing.

## Main definitions

* `Step.greeted?`, `greeted` — the names of the conversations that succeeded.
* `page` — a line for each of some names.

## Main statements

* `feed_notMem_nameOf` — no name has a line feed.
* `fields_page`, `page_injective` — the lines of a page, and the names that they tell.
* `Step.written_out` — what one step adds.
* `session_transcript_is_page` — sessions.
-/
namespace Salutation

open Program (lineBytes)
open Text (encode_unlines fields fields_unlines unlines Utf8.decode Utf8.encode)
open Text.Line (carriageReturn lineFeed)

/-! ## Names and line feeds -/

theorem feed_notMem_decode {bytes : List UInt8} (h : lineFeed ∉ bytes) :
    '\n' ∉ (Utf8.decode bytes).toList := by
  intro hmem
  exact h ((Text.Utf8.mem_decode_iff_of_ascii (c := '\n') (by decide) bytes).1 hmem)

/-- No name has a line feed, whatever the bytes of its line are. -/
theorem feed_notMem_nameOf {line : FlatLine} (h : lineFeed ∉ line.body) :
    '\n' ∉ (FlatLine.nameOf line.taken).toList := by
  rw [FlatLine.nameOf]
  split
  · decide
  · rw [FlatLine.taken]
    split
    · rw [FlatLine.ofBytes_append_lineFeed]
      apply feed_notMem_decode
      split
      · exact fun hmem => h (List.dropLast_subset line.body hmem)
      · exact h
    · rw [List.append_nil, FlatLine.ofBytes_of_notMem h]
      exact feed_notMem_decode h

/-! ## Pages -/

theorem toList_salutation (name : String) :
    (salutation name).toList = "Hello, ".toList ++ name.toList ++ ['!'] := by
  rw [salutation, String.toList_append, String.toList_append]
  rfl

/-- The greeting for a name tells the name. -/
theorem salutation_injective {name name' : String} (h : salutation name = salutation name') :
    name = name' := by
  have hlists := congrArg String.toList h
  rw [toList_salutation, toList_salutation, List.append_left_inj, List.append_right_inj] at hlists
  exact String.toList_inj.1 hlists

/-- The greetings for some names, a line for each. -/
def page (names : List String) : String :=
  String.ofList (names.flatMap fun name => (salutation name).toList ++ ['\n'])

theorem page_eq_unlines (names : List String) : page names = unlines (names.map salutation) := by
  rw [page, unlines, List.flatMap_map]

/-- The bytes of a page are those of its lines. -/
theorem encode_page (names : List String) :
    Utf8.encode (page names) = names.flatMap fun name => lineBytes (salutation name) := by
  rw [page_eq_unlines, encode_unlines, List.flatMap_map]

variable {names names' : List String}

/-- The lines of a page are its greetings, and nothing stands behind the last. -/
theorem fields_page (h : ∀ name ∈ names, '\n' ∉ name.toList) :
    fields '\n' (page names).toList = names.map (fun name => (salutation name).toList) ++ [[]] := by
  have hlines : ∀ line ∈ names.map salutation, '\n' ∉ line.toList := by
    intro line hline
    obtain ⟨name, hname, rfl⟩ := List.mem_map.1 hline
    rw [toList_salutation]
    simp [h name hname]
  rw [page_eq_unlines, fields_unlines hlines, List.map_map]
  rfl

/-- A page tells its names. -/
theorem page_injective (h : ∀ name ∈ names, '\n' ∉ name.toList)
    (h' : ∀ name ∈ names', '\n' ∉ name.toList) (heq : page names = page names') :
    names = names' := by
  have hfields := fields_page h
  rw [heq, fields_page h', List.append_left_inj] at hfields
  refine (List.map_inj_right ?_).1 hfields.symm
  intro name name' hsame
  exact salutation_injective (String.toList_inj.1 hsame)

/-! ## One step -/

namespace Step

/-- Whether a step leaves the output to conversations: it says no notice there and does not
replace it. -/
def LeavesOutput (step : Step) : Prop := step ≠ .announce .out ∧ step.replacement? .out = none

instance (step : Step) : Decidable step.LeavesOutput :=
  inferInstanceAs (Decidable (step ≠ .announce .out ∧ step.replacement? .out = none))

/-- The name that a step greeted, if it is a conversation that succeeded. -/
def greeted? (step : Step) (o : Outcome) : Option String :=
  if step = .greet ∧ o.answer = .done then some (FlatLine.nameOf o.taken) else none

variable {t : Terminal} {step : Step}

theorem feed_notMem_of_greeted? {name : String}
    (h : step.greeted? (step.outcome t) = some name) : '\n' ∉ name.toList := by
  rw [greeted?] at h
  split at h
  · rename_i hdone
    obtain ⟨rfl, hdone⟩ := hdone
    obtain ⟨-, hperson⟩ := text?_of_answer t (.inl hdone)
    cases h
    rw [← hperson]
    exact feed_notMem_nameOf t.source.lineFeed_notMem_line
  · cases h

/-- A step that leaves the output to conversations has a text for it if it is a conversation that
will succeed, and the text is the greeting for the name that it greets. -/
theorem text?_out_of_healthy (hout : t.out.Healthy) (hstep : step ≠ .announce .out) :
    step.text? t .out = (step.greeted? (step.outcome t)).map Salutation.salutation := by
  cases step with
  | announce c =>
    cases c with
    | out => exact absurd rfl hstep
    | err => rfl
  | greet =>
    by_cases hdone : (greet.outcome t).answer = .done
    · obtain ⟨htext, hperson⟩ := text?_of_answer t (.inl hdone)
      rw [greeted?, if_pos ⟨rfl, hdone⟩, htext, hperson, Option.map_some]
    · rw [greeted?, if_neg fun h => hdone h.2, Option.map_none]
      cases htext : greet.text? t .out with
      | none => rfl
      | some text =>
        have hanswer := greet.answer_outcome_of_text? t htext
        rw [hout.lineFault?_eq] at hanswer
        exact absurd hanswer hdone
  | _ => rfl

/-- **What a step adds to the output**: the line of a conversation that succeeds, or nothing. -/
theorem written_out (hout : t.out.Healthy) (hstep : step ≠ .announce .out) :
    (step.outcome t).written .out =
      (step.greeted? (step.outcome t)).elim [] fun name =>
        lineBytes (Salutation.salutation name) := by
  rw [written_outcome, text?_out_of_healthy hout hstep]
  cases step.greeted? (step.outcome t) with
  | none => rfl
  | some name => exact hout.accepted_eq _

end Step

/-! ## Sessions -/

/-- The names that the conversations of a session greeted with success, in order. -/
def greeted (steps : List Step) (outcomes : List Outcome) : List String :=
  (steps.zip outcomes).filterMap fun (step, o) => step.greeted? o

theorem greeted_cons (step : Step) (steps : List Step) (o : Outcome) (later : List Outcome) :
    greeted (step :: steps) (o :: later) = (step.greeted? o).toList ++ greeted steps later := by
  rw [greeted, List.zip_cons_cons, List.filterMap_cons]
  cases h : step.greeted? o with
  | none => simp [greeted, h]
  | some name => simp [greeted, h]

theorem feed_notMem_of_mem_greeted {t : Terminal} {steps : List Step} :
    ∀ name ∈ greeted steps (session t steps), '\n' ∉ name.toList := by
  induction steps generalizing t with
  | nil => exact List.forall_mem_nil _
  | cons step steps ih =>
    intro name hname
    rw [session, greeted_cons, List.mem_append, Option.mem_toList] at hname
    obtain hname | hname := hname
    · exact Step.feed_notMem_of_greeted? hname
    · exact ih name hname

/-- What the steps of a session add to a healthy output is a page. -/
theorem transcript_out {t : Terminal} {steps : List Step} (hout : t.out.Healthy)
    (hsteps : ∀ step ∈ steps, step.LeavesOutput) :
    transcript .out (session t steps) = Utf8.encode (page (greeted steps (session t steps))) ∧
    List.Forall₂
      (fun step o => o.written .out =
        (step.greeted? o).elim [] fun name => lineBytes (salutation name))
      steps (session t steps) := by
  induction steps generalizing t with
  | nil => exact ⟨rfl, .nil⟩
  | cons step steps ih =>
    obtain ⟨hannounce, hreplace⟩ := hsteps step (List.mem_cons_self ..)
    have hwritten := Step.written_out hout hannounce
    obtain ⟨htranscript, hlater⟩ := ih (Step.healthy_outcome t step (c := .out) hout hreplace)
      fun later hmem => hsteps later (List.mem_cons_of_mem _ hmem)
    refine ⟨?_, .cons hwritten hlater⟩
    rw [session, transcript_cons, hwritten, htranscript, greeted_cons, encode_page, encode_page,
      List.flatMap_append]
    cases step.greeted? (step.outcome t) <;> simp

/-- The bytes of a text are well formed. -/
theorem isValidUTF8_encode (text : String) : (Utf8.encode text).toByteArray.IsValidUTF8 :=
  ⟨text.toList, rfl⟩

/-- **The output tells what was read.** What an output that takes everything has taken is a text,
with a line for each conversation that succeeded and nothing else: the greeting for the name that
it read. Each of them adds its line, any other step adds nothing. Another session with the same
output has greeted the same names. -/
theorem session_transcript_is_page (t : Terminal) (steps : List Step) (hout : t.out.Healthy)
    (hsteps : ∀ step ∈ steps, step.LeavesOutput) :
    let outcomes := session t steps
    let names := greeted steps outcomes
    transcript .out outcomes = Utf8.encode (page names) ∧
    (transcript .out outcomes).toByteArray.IsValidUTF8 ∧
    fields '\n' (page names).toList = names.map (fun name => (salutation name).toList) ++ [[]] ∧
    List.Forall₂
      (fun step o => o.written .out =
        (step.greeted? o).elim [] fun name => lineBytes (salutation name))
      steps outcomes ∧
    ∀ (t' : Terminal) (steps' : List Step), t'.out.Healthy → (∀ step ∈ steps', step.LeavesOutput) →
      transcript .out (session t' steps') = transcript .out outcomes →
        greeted steps' (session t' steps') = names := by
  intro outcomes names
  obtain ⟨htranscript, hadded⟩ := transcript_out hout hsteps
  have hnames := @feed_notMem_of_mem_greeted t steps
  refine ⟨htranscript, ?_, fields_page hnames, hadded, ?_⟩
  · rw [htranscript]
    exact isValidUTF8_encode _
  · intro t' steps' hout' hsteps' hsame
    rw [htranscript, (transcript_out hout' hsteps').1] at hsame
    have hpages := congrArg Utf8.decode hsame
    rw [Text.Utf8.decode_encode, Text.Utf8.decode_encode] at hpages
    exact page_injective feed_notMem_of_mem_greeted hnames hpages

/-- A character that a line feed cuts off, a line that a fault cuts off and one that the end of the
stream ends: a line is read in the first place and in the last. Another session, with another part
of a character, comes to the same output. -/
theorem session_transcript_is_page_of_damage :
    let t : Terminal :=
      { source := [.chunk [0x41, 0xE2, 0x82, 0x0A, 0x42], .fault (.ofKind .inputOutput),
          .chunk [0x43]] }
    let steps : List Step := [.greet, .greet, .replace .err {}, .greet]
    let t' : Terminal := { source := [.chunk [0x41, 0xF0], .chunk [0x0A, 0x43]] }
    (t.out.Healthy ∧ ∀ step ∈ steps, step.LeavesOutput) ∧
    transcript .out (session t steps) = Utf8.encode "Hello, A\uFFFD!\nHello, C!\n" ∧
    greeted [.greet, .greet] (session t' [.greet, .greet]) = greeted steps (session t steps) := by
  intro t steps t'
  have hout : t.out.Healthy := ⟨rfl, rfl⟩
  have hsteps : ∀ step ∈ steps, step.LeavesOutput := by decide
  obtain ⟨htranscript, -, -, -, hsame⟩ := session_transcript_is_page t steps hout hsteps
  refine ⟨⟨hout, hsteps⟩, htranscript.trans (by decide +kernel), ?_⟩
  exact hsame t' [.greet, .greet] ⟨rfl, rfl⟩ (by decide) (by decide +kernel)

end Salutation
