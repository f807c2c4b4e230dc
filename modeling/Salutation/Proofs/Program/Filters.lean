import Salutation.Proofs.Program.Refinement
import Salutation.Proofs.Session.Thresholds

/-!
# The log beside everything else

Records are made in the middle of a conversation and, in the program, written to the stream that
the notice is on. `log_shows_in_log_alone` says that they touch nothing all the same: sessions that
differ in their thresholds differ in the records shown and in nothing else, and programs that differ
in the specification of their filter have the same output. The exit code is the same as well, but
for one case: the library warns of one specification and not of the other, and the stream of errors
does not take the warning. All this is so whatever the library reads in a specification.

## Main statements

* `output_run_spec`, `exitCode_eq_iff` — what two specifications have in common.
* `log_shows_in_log_alone` — sessions with two thresholds, programs with two specifications.
-/
namespace Salutation.Program

variable (stamp : String) (s : Setting) (spec? spec?' : Option String)

/-- The specification of the filter has no part in the output. -/
theorem output_run_spec {device : Device} (h : s.errors = .own device) :
    (run stamp { s with spec? }).output = (run stamp { s with spec? := spec?' }).output := by
  have houtput := output_run stamp (s := { s with spec? }) h
  have houtput' := output_run stamp (s := { s with spec? := spec?' }) h
  -- The terminal that the conversation is held on does not know the specification.
  have hsame : ({ s with spec? } : Setting).conversation =
      ({ s with spec? := spec?' } : Setting).conversation := rfl
  rw [houtput, houtput', hsame]

/-- Two specifications have the same exit code where the warnings of both can be written, or those
of neither. -/
theorem exitCode_eq_iff :
    (run stamp { s with spec? }).exitCode = (run stamp { s with spec? := spec?' }).exitCode ↔
      (({ s with spec? } : Setting).CanWarn ↔ ({ s with spec? := spec?' } : Setting).CanWarn) := by
  rw [exitCode_run, exitCode_run]
  by_cases hwarn : ({ s with spec? } : Setting).CanWarn
  · by_cases hwarn' : ({ s with spec? := spec?' } : Setting).CanWarn
    · simp [hwarn, hwarn']
    · simp [hwarn, hwarn', warningFailure]
  · by_cases hwarn' : ({ s with spec? := spec?' } : Setting).CanWarn
    · simp [hwarn, hwarn', warningFailure]
    · simp [hwarn, hwarn']

/-- **The log shows in the log alone.** Two sessions on the same source and the same sinks, with the
same steps but for the thresholds, do the same on every stream, get the same answers and leave the
same. A step shows one record if it has read a name and the threshold in force admits the level for
finding faults; it shows none elsewhere. Two programs that differ in the specification of their
filter have the same output, and the same exit code where both can write their warnings or neither
can: on a pipe, or without a warning, it is 0. -/
theorem log_shows_in_log_alone (t t' : Terminal) (steps steps' : List Step) (stamp : String)
    (s : Setting) (device : Device) (spec? spec?' : Option String) :
    (t.AlikeButThreshold t' → List.Forall₂ Step.Retuned steps steps' →
      List.Forall₂ Outcome.AlikeButLog (session t steps) (session t' steps')) ∧
    (∀ (n : Nat) (step : Step) (o : Outcome), steps[n]? = some step →
      (session t steps)[n]? = some o →
        let threshold := inForce t.threshold (steps.take n)
        o.records.length =
          if (threshold = .upTo .debug ∨ threshold = .upTo .trace) ∧ step.hasRead o.answer = true
          then 1 else 0) ∧
    (s.errors = .own device →
      let result := run stamp { s with spec? }
      let result' := run stamp { s with spec? := spec?' }
      let canWarn (spec? : Option String) :=
        s.library.warnings (spec?.getD "warn") = [] ∨ device = .pipe
      result.output = result'.output ∧
      (result.exitCode = result'.exitCode ↔ (canWarn spec? ↔ canWarn spec?')) ∧
      (canWarn spec? → result.exitCode = 0)) := by
  refine ⟨session_alikeButLog, ?_, ?_⟩
  · intro n step o hstep ho threshold
    rw [getElem?_session, hstep, Option.map_some, Option.some_inj] at ho
    have hthreshold : (leaving t (session t (steps.take n))).threshold = threshold :=
      threshold_leaving t (steps.take n)
    have hrecords := step.records_eq (leaving t (session t (steps.take n)))
    rw [ho, hthreshold] at hrecords
    rw [hrecords]
    simp only [← admits_debug_iff, ← Bool.and_eq_true]
    split <;> rfl
  · intro herrors result result' canWarn
    have hcanWarn (spec? : Option String) : canWarn spec? ↔ ({ s with spec? } : Setting).CanWarn := by
      rw [Setting.CanWarn, Setting.errorDevice, herrors]
      rfl
    refine ⟨output_run_spec stamp s spec? spec?' herrors, ?_, ?_⟩
    · rw [hcanWarn, hcanWarn]
      exact exitCode_eq_iff stamp s spec? spec?'
    · intro hwarn
      exact (exitCode_run stamp).trans (if_pos ((hcanWarn spec?).1 hwarn))

/-- A conversation whose greeting finds no room shows its record all the same, and not below the
level for it; the threshold is set between two conversations in one session and not in the other. A
program that cannot warn of a text for the messages puts out the same as one that need not. -/
theorem log_shows_in_log_alone_without_room :
    let t : Terminal :=
      { source := [.chunk [0x61, 0x0A, 0x62, 0x0A]], out := { limit? := some { room := 3 } },
        threshold := .upTo .trace }
    let t' : Terminal := { t with threshold := .upTo .info }
    let steps : List Step := [.greet, .setThreshold .off, .greet]
    let steps' : List Step := [.greet, .setThreshold (.upTo .debug), .greet]
    let library : Log.Library := .ofCompiler fun text =>
      if text = "[" then
        .error "regex parse error:\n    [\n    ^\nerror: unclosed character class"
      else .ok fun message => message.contains text
    let s : Setting :=
      { input := .bytes [0x42, 0x6F, 0x62, 0x0A], errors := .own .broken, library }
    (t.AlikeButThreshold t' ∧ List.Forall₂ Step.Retuned steps steps') ∧
    List.Forall₂ Outcome.AlikeButLog (session t steps) (session t' steps') ∧
    (∀ o ∈ (session t steps)[0]?, o.answer = .failed ⟨.greeting, .nothingTaken⟩ ∧
      o.records.length = 1) ∧
    (∀ o ∈ (session t steps)[2]?, o.records.length = 0) ∧
    (run "TIME" { s with spec? := none }).output =
      (run "TIME" { s with spec? := some "debug/[" }).output ∧
    (run "TIME" { s with spec? := none }).exitCode ≠
      (run "TIME" { s with spec? := some "debug/[" }).exitCode ∧
    (run "TIME" { s with spec? := some "debug/b" }).exitCode = 0 := by
  intro t t' steps steps' library s
  have hterminals : t.AlikeButThreshold t' := ⟨rfl, rfl, rfl⟩
  have hsteps : List.Forall₂ Step.Retuned steps steps' :=
    .cons (.same _) (.cons (.setThreshold _ _) (.cons (.same _) .nil))
  obtain ⟨halike, hrecords, hapart⟩ :=
    log_shows_in_log_alone t t' steps steps' "TIME" s .broken none (some "debug/[")
  obtain ⟨-, -, hwhole⟩ :=
    log_shows_in_log_alone t t' steps steps' "TIME" s .broken (some "debug/b") none
  obtain ⟨houtput, hcode, -⟩ := hapart rfl
  refine ⟨⟨hterminals, hsteps⟩, halike hterminals hsteps, ?_, ?_, houtput, ?_,
    (hwhole rfl).2.2 (.inl (by decide +kernel))⟩
  · intro o ho
    have hanswer : o.answer = .failed ⟨.greeting, .nothingTaken⟩ := by
      rw [← Option.some_inj.1 ho]
      decide +kernel
    refine ⟨hanswer, ?_⟩
    rw [hrecords 0 .greet o rfl ho, hanswer]
    decide +kernel
  · intro o ho
    rw [hrecords 2 .greet o rfl ho]
    exact if_neg fun h => absurd h.1 (by decide +kernel)
  · rw [Ne, hcode]
    decide +kernel

/-- A specification that gives cause for a warning has another exit code on a stream of errors whose
reader has gone. -/
theorem exitCode_depends_on_spec :
    ¬ ∀ (stamp : String) (s : Setting) (device : Device) (spec? spec?' : Option String),
      s.errors = .own device →
        (run stamp { s with spec? }).exitCode = (run stamp { s with spec? := spec?' }).exitCode := by
  intro hsame
  have hcodes := hsame "TIME" { input := .bytes [0x42, 0x6F, 0x62, 0x0A], errors := .own .broken }
    .broken none (some "a=b=c,debug") rfl
  revert hcodes
  decide +kernel

end Salutation.Program
