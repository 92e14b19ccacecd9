import LanguageShell.Main
import LanguageShell.Proofs.Calculator.Faults
import LanguageShell.Proofs.CommandLine.SameBut
import LanguageShell.Proofs.Verbosity

/-!
The verbosity of the calculator. Nothing but the messages depends on it: with a lower verbosity a
run does the same, and writes the messages that are within it.
-/

namespace LanguageShell

/-! ### Reports -/

section

variable {keep : Event → Bool} {reporter filtered : Reporter}
  (h : reporter.Filters keep filtered)

include h

theorem Reporter.Filters.trace_evaluating (text : String) :
    (reporter.trace "evaluating %s" [.text text]).keeping keep =
      filtered.trace "evaluating %s" [.text text] := by
  have htemplate : "evaluating %s" = String.ofList ("evaluating ".toList ++ ['%', 's']) := rfl
  rw [htemplate]
  exact h.report .trace (Template.fill_within (by decide) (by decide) text) none

theorem Reporter.Filters.warning_redefined (name : String) :
    (reporter.warning "%s is redefined" [.text name]).keeping keep =
      filtered.warning "%s is redefined" [.text name] := by
  have htemplate : "%s is redefined" =
      String.ofList ([] ++ '%' :: 's' :: " is redefined".toList) := rfl
  rw [htemplate]
  exact h.report .warning (Template.fill_within (by decide) (by decide) name) none

end

namespace Calculator

section

variable {keep : Event → Bool} {setup : Setup} {filtered : Reporter}
  (h : setup.reporter.Filters keep filtered)

include h

theorem keeping_compute (env : Env) (e : Expr) :
    (compute setup env e).keeping keep = compute { setup with reporter := filtered } env e := by
  unfold compute
  rw [Trace.keeping_bind]
  refine congrArg _ (funext fun _ => ?_)
  rw [Trace.keeping_bind]
  refine congrArg _ (funext fun text => ?_)
  rw [Trace.keeping_bind, h.trace_evaluating]
  rfl

theorem keeping_printLine (text : String) :
    (Trace.printLine text).keeping keep = Trace.printLine text :=
  Trace.keeping_emit (h.plain _ rfl)

theorem keeping_echo (interactive : Bool) (start : String) (value : Value) :
    (echo setup interactive start value).keeping keep =
      echo { setup with reporter := filtered } interactive start value := by
  cases interactive with
  | false => rfl
  | true =>
      simp only [echo, if_true]
      rw [Trace.keeping_bind]
      exact congrArg _ (funext fun text => keeping_printLine h _)

end

/-- The commands of the calculator do the same under a reporter that leaves messages out. -/
theorem onlyReports_language : language.OnlyReports := by
  intro keep setup filtered h use other huse interactive env command
  change (execute setup use interactive env command).keeping keep = execute _ _ _ _ _
  -- The value that is computed is shown, and then there is an environment.
  have hshow : ∀ start value (next : Env), (echo setup interactive start value >>= fun _ =>
      (pure next : Trace Env)).keeping keep =
        echo { setup with reporter := filtered } interactive start value >>= fun _ =>
          pure next := by
    intro start value next
    rw [Trace.keeping_bind, keeping_echo h]
    rfl
  have hprint : ∀ text : Trace String, (text >>= fun text => Trace.printLine text >>= fun _ =>
      (pure env : Trace Env)).keeping keep = text.keeping keep >>= fun text =>
        Trace.printLine text >>= fun _ => pure env := by
    intro text
    rw [Trace.keeping_bind]
    refine congrArg _ (funext fun text => ?_)
    rw [Trace.keeping_bind, keeping_printLine h]
    rfl
  cases command with
  | define name e place =>
      rw [execute, execute, Trace.keeping_bind, keeping_compute h]
      refine congrArg _ (funext fun value => ?_)
      split
      · rw [Trace.keeping_bind, h.warning_redefined]
        exact congrArg _ (funext fun _ => hshow _ value _)
      · exact hshow _ value _
  | eval e place =>
      rw [execute, execute, Trace.keeping_bind, keeping_compute h]
      exact congrArg _ (funext fun value => hshow _ value _)
  | display e place => exact hprint (.ofFaulty e.toText)
  | load path place => exact huse env ⟨path, false⟩
  | listing place => exact hprint (.ofFaulty (env.toText (precision setup)))
  | help place => exact hprint (pure helpText)

end Calculator

/-! ### What is written -/

theorem outputOf_filter_isWithin (verbosity : Int) (events : List Event) :
    outputOf (events.filter (·.IsWithin verbosity)) = outputOf events := by
  apply join_filter
  intro event h
  cases event with
  | reported => rfl
  | printed | prompted | interrupted | entered | left => cases h

theorem screenOf_filter_isWithin (verbosity : Int) (events : List Event) :
    screenOf (events.filter (·.IsWithin verbosity)) = screenOf events := by
  apply join_filter
  intro event h
  cases event with
  | reported => rfl
  | printed | prompted | interrupted | entered | left => cases h

namespace Program

variable {Env Cmd : Type} {language : Language Env Cmd}

theorem run_invocation (configuration : Configuration) (surroundings : Surroundings)
    (invocation : LineEditor.Invocation) :
    run language configuration { surroundings with invocation } =
      { run language configuration surroundings with
        attempts := (launched configuration { surroundings with invocation }).attempts } := by
  by_cases hreplaced : IsReplaced configuration surroundings
  · rw [run_of_isReplaced hreplaced, run_of_isReplaced (by exact hreplaced)]
  · rw [run_of_not_isReplaced hreplaced, run_of_not_isReplaced (by exact hreplaced)]
    rfl

theorem complaint_of_ending {first second : Run Env} (h : first.ending = second.ending) :
    complaint language first = complaint language second := by
  rw [complaint, complaint, h]

end Program

namespace Calculator

/-- A run of a configuration writes whole messages, and with a lower verbosity it writes those that
are within that one. -/
theorem run_withVerbosity (configuration : Configuration) (surroundings : Surroundings)
    {verbosity greater : Int} (h : verbosity ≤ greater) :
    let run := Program.run language { configuration with verbosity } surroundings
    let more := Program.run language { configuration with verbosity := greater } surroundings
    run.events = more.events.filter (·.IsWithin verbosity) ∧
      (∀ event ∈ more.events, event.IsWhole) ∧ run.ending = more.ending := by
  intro run more
  let loud : Configuration := { configuration with verbosity := greater }
  have hwithin : loud.setup.reporter.Filters (·.IsWithin verbosity) ⟨verbosity⟩ :=
    Reporter.filters_within h
  have hall : loud.setup.reporter.Filters _ ⟨greater⟩ := Reporter.filters_isWhole ⟨greater⟩
  have hrun := Program.keeping_run onlyReports_language hwithin surroundings
  have hwhole := Program.keeping_run onlyReports_language hall surroundings
  refine ⟨(congrArg Run.events hrun).symm, fun event hevent => ?_, (congrArg Run.ending hrun).symm⟩
  have hkept := List.filter_eq_self.mp (congrArg Run.events hwhole) event hevent
  simpa using hkept

open CommandLine

/-- Where the arguments are the same but for the verbosity, a run with the lower one does the same:
it writes the same to the output and ends in the same way. To the error stream it writes what the
other one writes, without the messages that are not within its verbosity; each of them is left out
as a whole, and all else stays in its order. It does not matter how the program was started. -/
theorem verbosity_only_filters_messages {command : CommandLine}
    (hcommand : ofLanguage language = .ok command) {words others : List String}
    (hsame : SameBut command verbosityEntry words others) {verbosity greater : Int}
    (hwords : command.Sets words verbosityEntry (.integer verbosity))
    (hothers : command.Sets others verbosityEntry (.integer greater)) (hle : verbosity ≤ greater)
    (surroundings : Surroundings) (invocation : LineEditor.Invocation) :
    let run := Program.main language surroundings words
    let more := Program.main language { surroundings with invocation } others
    run.events = more.events.filter (·.IsWithin verbosity) ∧
      (∀ event ∈ more.events, event.IsWhole) ∧
      errorsOf run.events = errorsOf (more.events.filter (·.IsWithin verbosity)) ∧
      Program.complaint language run = Program.complaint language more ∧
      outputOf run.events = outputOf more.events ∧ screenOf run.events = screenOf more.events ∧
      run.ending = more.ending := by
  intro run more
  obtain rfl := Except.ok.inj (ofLanguage_calculator.symm.trans hcommand)
  have hown : ∀ option ∈ calculator.own, option.name ≠ verbosityEntry.name := by decide
  have hdecision := sound_calculator.decision_sameBut hown hsame hwords hothers
    surroundings.platform calculator.name
  have hdecisionSelf := sound_calculator.decision_sameBut hown (.same words) hwords hwords
    surroundings.platform calculator.name
  have hmain : run.events = more.events.filter (·.IsWithin verbosity) ∧
      (∀ event ∈ more.events, event.IsWhole) ∧ run.ending = more.ending := by
    simp only [run, more, Program.main, ofLanguage_calculator, hdecision]
    generalize calculator.decision surroundings.platform calculator.name words = decision at *
    cases decision with
    | error refusal => cases refusal <;> exact ⟨rfl, fun event => (absurd · List.not_mem_nil), rfl⟩
    | ok decision =>
        cases decision with
        | print text =>
            refine ⟨rfl, fun event hevent => ?_, rfl⟩
            rw [List.mem_singleton.mp hevent]
            trivial
        | run configuration =>
            -- The verbosity of the configuration is the one that the words set.
            have hself := Decision.run.inj (Except.ok.inj hdecisionSelf)
            have hruns := run_withVerbosity configuration surroundings hle
            rw [← hself] at hruns
            simp only [Except.map, Decision.withVerbosity, Program.run_invocation]
            exact hruns
  obtain ⟨hevents, hwhole, hending⟩ := hmain
  refine ⟨hevents, hwhole, congrArg errorsOf hevents, Program.complaint_of_ending hending, ?_, ?_,
    hending⟩
  · rw [hevents, outputOf_filter_isWithin]
  · rw [hevents, screenOf_filter_isWithin]

set_option maxRecDepth 10000 in
/-- A file that is missing, with the verbosity written in the two ways. -/
theorem verbosity_of_missing_file :
    let run := Program.main language {} ["--verbosity", "0", "-n", "a"]
    let more := Program.main language {} ["--verbosity=1", "-n", "a"]
    run.events = more.events.filter (·.IsWithin 0) ∧
      outputOf run.events = outputOf more.events ∧ run.ending = more.ending := by
  let options := calculator.options ++ [helpOption]
  have htail : Shows options ["-n", "a"] [("no_shell", .on)] ["a"] :=
    ((Shows.nil _).file (by decide) (by decide)).option [("no_shell", .on)] (by decide) (by decide)
      (by decide)
  have hwords : Shows options ["--verbosity", "0", "-n", "a"]
      [("verbosity", .values ["0"]), ("no_shell", .on)] ["a"] :=
    htail.option [("verbosity", .values ["0"])] (by decide) (by decide) (by decide)
  have hothers : Shows options ["--verbosity=1", "-n", "a"]
      [("verbosity", .values ["1"]), ("no_shell", .on)] ["a"] :=
    htail.option [("verbosity", .values ["1"])] (by decide) (by decide) (by decide)
  have hsame : SameBut calculator verbosityEntry ["--verbosity", "0", "-n", "a"]
      ["--verbosity=1", "-n", "a"] :=
    .gives sound_calculator (.apart : GivesVerbosity "0" _) (.attached : GivesVerbosity "1" _)
      (.same ["-n", "a"])
  obtain ⟨hevents, -, -, -, houtput, -, hending⟩ :=
    verbosity_only_filters_messages ofLanguage_calculator hsame (hwords.sets rfl)
      (hothers.sets rfl) (by decide : (0 : Int) ≤ 1) {} {}
  exact ⟨hevents, houtput, hending⟩

end Calculator

end LanguageShell
