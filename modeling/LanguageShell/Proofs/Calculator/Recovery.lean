import LanguageShell.Proofs.Calculator.Faults
import LanguageShell.Proofs.Survival

/-!
The calculator's shell survives its commands. A command that fails is reported, and the shell goes
on with the bindings from before; it ends before the input does only at a command that ends with a
fault.
-/

namespace LanguageShell

open Shell

namespace Calculator

variable {setup : Setup} {tree : FileTree}

/-- Whether a command of the shell ends with a fault, by itself or by a load that it leads to. -/
def Command.Stumbles (setup : Setup) (tree : FileTree) (env : Env) (fault : Fault)
    (command : Command Place) : Prop :=
  command.Falters true env fault ∨
    ∃ path place events inner, command = .load path place ∧
      Reaches setup tree ⟨[], env, ⟨path, false⟩⟩ events inner ∧ inner.Falters setup tree fault

theorem outcome_execute_eq_fault_iff_stumbles (h : precision setup = none) {env : Env}
    {command : Command Place} (hproduced : ∀ e, command.expr? = some e → Produced e)
    {fault : Fault} :
    (execute setup (language.useFile setup tree) true env command).outcome =
        .error (.fault fault) ↔ command.Stumbles setup tree env fault := by
  cases hload : command.IsLoad with
  | false =>
      rw [outcome_execute_eq_fault_iff h hload hproduced, Command.Stumbles]
      constructor
      · exact .inl
      · rintro (hfalters | ⟨path, place, _, _, rfl, -⟩)
        · exact hfalters
        · cases hload
  | true =>
      cases command with
      | load path place =>
          have hrun : (execute setup (language.useFile setup tree) true env (.load path place)) =
              Request.run setup tree ⟨[], env, ⟨path, false⟩⟩ := rfl
          rw [hrun, run_eq_fault_iff h]
          constructor
          · rintro ⟨events, inner, hreaches, hfalters⟩
            exact .inr ⟨path, place, events, inner, rfl, hreaches, hfalters⟩
          · rintro (hfalters | ⟨_, _, events, inner, hsame, hreaches, hfalters⟩)
            · cases hfalters
            · cases hsame
              exact ⟨events, inner, hreaches, hfalters⟩
      | define | eval | display | listing | help => cases hload

theorem attempt_eq_fault_iff (h : precision setup = none) {state : State Env} {line : String}
    {fault : Fault} :
    (attempt language (language.execute setup (language.useFile setup tree) true) state
        line).outcome = .error (.fault fault) ↔
      ∃ command, Parser.located parseSingle (commandSource (state.textWith line)) = .ok command ∧
        command.Stumbles setup tree state.env fault := by
  let source := commandSource (state.textWith line)
  have hattempt : attempt language (language.execute setup (language.useFile setup tree) true)
      state line = Trace.ofExcept (Parser.located parseSingle source) >>= fun command =>
        execute setup (language.useFile setup tree) true state.env command := rfl
  rw [hattempt]
  obtain ⟨command, hparse⟩ | ⟨diagnostic, -, hparse⟩ := located_cases source
  · have hproduced : ∀ e, command.expr? = some e → Produced e :=
      fun e he => produced_of_parseSingle source (mapError_eq_ok.mp hparse) he
    rw [hparse, Trace.bind_of_ok rfl]
    show (execute setup _ true state.env command).outcome = _ ↔ _
    rw [outcome_execute_eq_fault_iff_stumbles h hproduced]
    constructor
    · intro hstumbles
      exact ⟨command, rfl, hstumbles⟩
    · rintro ⟨other, hother, hstumbles⟩
      rw [Except.ok.inj hother]
      exact hstumbles
  · rw [hparse]
    constructor
    · intro hfails
      cases hfails
    · rintro ⟨command, hcommand, -⟩
      cases hcommand

/-- The shell survives all inputs but a command that ends with a fault: one that divides a
floating-point number by a fraction that is rounded to zero, that shows a number with too many
digits, or that comes to load a path that cannot be resolved, for a NUL or a surrogate in it. If
there is none the visit gives the last environment. Every other command that fails is reported, and
the shell goes on with the environment from before, as it does after an interruption. -/
theorem shell_survives_unless_command_stumbles {setup : Setup} (h : precision setup = none)
    (tree : FileTree) (platform : Platform) (inputs : List Input) :
    let execute := language.execute setup (language.useFile setup tree) true
    let visited := visit language platform setup.reporter execute language.initial inputs
    let arrives := Arrives language setup.reporter execute { env := language.initial }
    (∀ failure, visited.outcome = .error failure ↔
      ∃ front line back state command fault, inputs = front ++ .line line :: back ∧
        arrives front state ∧ Completes language state line ∧
        Parser.located parseSingle (commandSource (state.textWith line)) = .ok command ∧
        command.Stumbles setup tree state.env fault ∧ failure = .fault fault) ∧
    (∀ env, visited.outcome = .ok env ↔
      ∃ front back state, inputs = front ++ back ∧ arrives front state ∧
        back.head?.getD .endOfInput = .endOfInput ∧ state.env = env) ∧
    (∀ front line back state diagnostic, inputs = front ++ .line line :: back →
      arrives front state → Completes language state line →
      (attempt language execute state line).outcome = .error (.diagnostic diagnostic) →
      arrives (front ++ [.line line]) { env := state.env } ∧
        visited.turns[front.length + 1]? = some
          ⟨(attempt language execute state line).events ++
              if setup.reporter.Shows 1 then
                [.reported 1 (Report.render diagnostic.kind.label (some diagnostic.place)
                  diagnostic.message)]
              else [],
            state.env, language.prompt⟩) ∧
    ∀ front back state, inputs = front ++ .interrupt :: back → arrives front state →
      arrives (front ++ [.interrupt]) { env := state.env } ∧
        visited.turns[front.length + 1]? = some ⟨[.interrupted], state.env, language.prompt⟩ := by
  intro execute visited arrives
  have hvisited : visited = Shell.converse language setup.reporter execute
      (greet language platform).events { env := language.initial } inputs :=
    visit_eq platform language.initial inputs rfl
  rw [hvisited]
  refine ⟨?_, fun env => converse_eq_ok_iff, ?_, ?_⟩
  · intro failure
    rw [converse_eq_error_iff_attempt]
    constructor
    · rintro ⟨front, line, back, state, fault, hinputs, harrives, hcompletes, houtcome, hfailure⟩
      obtain ⟨command, hparse, hstumbles⟩ := (attempt_eq_fault_iff h).mp houtcome
      exact ⟨front, line, back, state, command, fault, hinputs, harrives, hcompletes, hparse,
        hstumbles, hfailure⟩
    · rintro ⟨front, line, back, state, command, fault, hinputs, harrives, hcompletes, hparse,
        hstumbles, hfailure⟩
      have houtcome := (attempt_eq_fault_iff h).mpr ⟨command, hparse, hstumbles⟩
      exact ⟨front, line, back, state, fault, hinputs, harrives, hcompletes, houtcome, hfailure⟩
  · rintro front line back state diagnostic rfl harrives hcompletes houtcome
    have hrespond : respond language setup.reporter execute state (.line line) = _ :=
      respond_of_diagnostic hcompletes houtcome
    have hnext := congrArg Trace.outcome hrespond
    refine ⟨harrives.concat hnext, ?_⟩
    rw [turn_of_arrives harrives hnext, hrespond]
    rfl
  · rintro front back state rfl harrives
    have hnext : (respond language setup.reporter execute state .interrupt).outcome =
        .ok (.more { env := state.env }) := rfl
    refine ⟨harrives.concat hnext, ?_⟩
    rw [turn_of_arrives harrives hnext]
    rfl

/-- A name without a binding, and then an interruption. -/
theorem shell_survives_unbound_name :
    let visited := visit language .unix {} (language.execute {} (language.useFile {} {}) true)
      language.initial [.line "x;", .interrupt]
    precision {} = none ∧
      visited.turns[1]? = some ⟨[.reported 1
        "Typing error at line 1, characters 0-1:\n  unknown variable x\n"], [], "calc> "⟩ ∧
      visited.turns[2]? = some ⟨[.interrupted], [], "calc> "⟩ := by
  intro visited
  have hprecision : precision {} = none := rfl
  let inputs : List Input := [.line "x;", .interrupt]
  have hends : endsCommand "x;".toList = true := by cbv
  have hcompletes : Completes language { env := language.initial } "x;" := by
    show (!endsCommand "x;".toList) = false
    rw [hends]
    rfl
  obtain ⟨-, -, hreported, hinterrupted⟩ :=
    shell_survives_unless_command_stumbles hprecision {} .unix inputs
  let place : Place := Extent.place (commandSource "x;") ⟨0, 1⟩
  obtain ⟨whole, hparse⟩ : ∃ whole,
      parseSingle (commandSource "x;") = .ok (.eval (.var "x" place) whole) :=
    ⟨_, by cbv⟩
  have hlocated : Parser.located parseSingle (commandSource "x;") =
      .ok (.eval (.var "x" place) whole) := mapError_eq_ok.mpr hparse
  have hattempt : attempt language (language.execute {} (language.useFile {} {}) true)
      { env := language.initial } "x;" =
        .fail (.diagnostic ⟨.typing, "unknown variable x", place⟩) := by
    show Trace.ofExcept (Parser.located parseSingle (commandSource "x;")) >>= _ = _
    rw [hlocated]
    rfl
  obtain ⟨harrives, hturn⟩ := hreported [] "x;" [.interrupt] { env := language.initial } _ rfl .nil
    hcompletes (congrArg Trace.outcome hattempt)
  obtain ⟨-, hnext⟩ := hinterrupted [.line "x;"] [] { env := language.initial } rfl harrives
  rw [hattempt] at hturn
  have hreport : Report.render "Typing error" (some place) "unknown variable x" =
      "Typing error at line 1, characters 0-1:\n  unknown variable x\n" := by
    cbv
  rw [← hreport]
  exact ⟨rfl, hturn, hnext⟩

/-- The shell does not survive the command that loads a path with a NUL. -/
theorem shell_ends_at_path_with_nul :
    ¬∀ setup, precision setup = none → ∀ (tree : FileTree) (platform : Platform)
      (inputs : List Input), ∃ env, (visit language platform setup.reporter
        (language.execute setup (language.useFile setup tree) true) language.initial
          inputs).outcome = .ok env := by
  intro hclaim
  have hprecision : precision {} = none := rfl
  obtain ⟨env, henv⟩ := hclaim {} hprecision {} .unix [.line "load \"\\x00\";"]
  have hends : endsCommand "load \"\\x00\";".toList = true := by cbv
  have hcompletes : Completes language { env := language.initial } "load \"\\x00\";" := by
    show (!endsCommand "load \"\\x00\";".toList) = false
    rw [hends]
    rfl
  obtain ⟨place, hparse⟩ : ∃ place,
      parseSingle (commandSource "load \"\\x00\";") = .ok (.load "\x00" place) :=
    ⟨_, by cbv⟩
  have hstumbles : (Command.load "\x00" place).Stumbles {} {} [] .nulInPath :=
    .inr ⟨"\x00", place, _, _, rfl, .refl, .path (by cbv)⟩
  let shell := language.execute {} (language.useFile {} {}) true
  let start : State Env := { env := language.initial }
  have hfault : (attempt language shell start "load \"\\x00\";").outcome =
      .error (.fault .nulInPath) :=
    (attempt_eq_fault_iff hprecision).mpr ⟨_, mapError_eq_ok.mpr hparse, hstumbles⟩
  have hfails : (Shell.converse language {} shell (greet language .unix).events start
      [.line "load \"\\x00\";"]).outcome = .error (.fault .nulInPath) :=
    converse_eq_error_iff_attempt.mpr ⟨[], _, [], _, _, rfl, .nil, hcompletes, hfault, rfl⟩
  rw [visit_eq .unix _ _ rfl] at henv
  cases hfails.symm.trans henv

end Calculator

end LanguageShell
