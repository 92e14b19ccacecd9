import LanguageShell.Proofs.Calculator.Faults
import LanguageShell.Proofs.Calculator.Output
import LanguageShell.Session

/-!
What is shown does not matter to what is computed. Unless a value cannot be written out where it is
to be shown, commands lead to the same environment or to the same failure, whether they show their
results or not and to however many decimals. Commands that show their results write one line more
each, and those of the files that they load never show any.
-/

namespace LanguageShell.Calculator

/-! ### Values -/

def Term.computed (env : Env) (e : Expr) : Except Failure Value := do
  e.check env
  let _ ← e.toText.mapError Failure.fault
  e.evaluate env

theorem outcome_compute_eq (setup : Setup) (env : Env) (e : Expr) :
    (compute setup env e).outcome = e.computed env := by
  simp only [compute, Trace.outcome_bind, outcome_trace_evaluating]
  rfl

/-- Whether the value of an expression is to be shown and cannot be written out. -/
def Term.CannotShow (setup : Setup) (interactive : Bool) (env : Env) (fault : Fault) (e : Expr) :
    Prop :=
  interactive = true ∧ ∃ value, e.computed env = .ok value ∧
    value.toText (precision setup) = .error fault

def echoLine (setup : Setup) (env : Env) (start : String) (e : Expr) : List Event :=
  match e.computed env with
  | .ok value =>
    match value.toText (precision setup) with
    | .ok text => [.printed (start ++ text ++ "\n")]
    | .error _ => []
  | .error _ => []

/-- Computes a value, does something else and shows the value in the shell; the environment that is
made of the value. -/
def computeAndShow (setup : Setup) (interactive : Bool) (env : Env) (e : Expr) (start : String)
    (between : Trace Unit) (after : Value → Env) : Trace Env := do
  let value ← compute setup env e
  between
  echo setup interactive start value
  return after value

section

variable {setup : Setup} {interactive : Bool} {env : Env} {e : Expr} {between : Trace Unit}

theorem echo_of_error (start : String) {value : Value} {fault : Fault}
    (h : value.toText (precision setup) = .error fault) :
    echo setup true start value = .fail (.fault fault) := by
  rw [echo, if_pos rfl, h]
  rfl

theorem echo_of_ok (start : String) {value : Value} {text : String}
    (h : value.toText (precision setup) = .ok text) :
    echo setup true start value = ⟨[.printed (start ++ text ++ "\n")], .ok ()⟩ := by
  rw [echo, if_pos rfl, h]
  rfl

theorem outcome_computeAndShow (hbetween : between.outcome = .ok ()) (start : String)
    (after : Value → Env) :
    (computeAndShow setup interactive env e start between after).outcome =
      e.computed env >>= fun value => (echo setup interactive start value).outcome.map fun _ =>
        after value := by
  rw [computeAndShow, Trace.outcome_bind, outcome_compute_eq]
  refine congrArg _ (funext fun value => ?_)
  rw [Trace.outcome_bind, hbetween]
  change (echo setup interactive start value >>= fun _ => pure (after value)).outcome = _
  rw [Trace.outcome_bind]
  cases (echo setup interactive start value).outcome <;> rfl

theorem outcome_computeAndShow_of_shown (hbetween : between.outcome = .ok ()) (start : String)
    (after : Value → Env) (h : ∀ fault, ¬e.CannotShow setup interactive env fault) :
    (computeAndShow setup interactive env e start between after).outcome =
      (e.computed env).map after := by
  rw [outcome_computeAndShow hbetween]
  cases hvalue : e.computed env with
  | error failure => rfl
  | ok value =>
      change (echo setup interactive start value).outcome.map _ = _
      cases hinteractive : interactive with
      | false => rfl
      | true =>
          cases htext : value.toText (precision setup) with
          | error fault => exact absurd ⟨hinteractive, value, hvalue, htext⟩ (h fault)
          | ok text =>
              rw [echo_of_ok start htext]
              rfl

theorem outcome_computeAndShow_of_cannotShow (hbetween : between.outcome = .ok ()) (start : String)
    (after : Value → Env) {fault : Fault} (h : e.CannotShow setup interactive env fault) :
    (computeAndShow setup interactive env e start between after).outcome =
      .error (.fault fault) := by
  obtain ⟨rfl, value, hvalue, htext⟩ := h
  rw [outcome_computeAndShow hbetween, hvalue]
  change (echo setup true start value).outcome.map _ = _
  rw [echo_of_error start htext]
  rfl

theorem computeAndShow_true (hbetween : between.outcome = .ok ()) (start : String)
    (after : Value → Env) (h : ∀ fault, ¬e.CannotShow setup true env fault) :
    computeAndShow setup true env e start between after =
      let quiet := computeAndShow setup false env e start between after
      ⟨quiet.events ++ echoLine setup env start e, quiet.outcome⟩ := by
  have houtcome := outcome_compute_eq setup env e
  cases hvalue : e.computed env with
  | error failure =>
      rw [hvalue] at houtcome
      simp only [computeAndShow, Trace.bind_of_error houtcome, echoLine, hvalue, List.append_nil]
  | ok value =>
      cases htext : value.toText (precision setup) with
      | error fault => exact absurd ⟨rfl, value, hvalue, htext⟩ (h fault)
      | ok text =>
          rw [hvalue] at houtcome
          simp only [computeAndShow, Trace.bind_of_ok houtcome, Trace.bind_of_ok hbetween,
            echo_of_ok start htext, echoLine, hvalue, htext]
          simp [Trace.pure_eq, echo, Trace.bind_of_ok]

end

/-! ### Commands -/

def redefinition (setup : Setup) (env : Env) (name : String) : Trace Unit :=
  if (env.find? name).isSome then setup.reporter.warning "%s is redefined" [.text name]
  else return

theorem outcome_redefinition (setup : Setup) (env : Env) (name : String) :
    (redefinition setup env name).outcome = .ok () := by
  unfold redefinition
  split
  · exact outcome_warning_redefined _ _
  · rfl

section

variable {setup : Setup} {interactive : Bool} {env : Env}

theorem execute_define (use : Env → FileEntry → Trace Env) (name : String) (e : Expr)
    (place : Place) :
    execute setup use interactive env (.define name e place) =
      computeAndShow setup interactive env e s!"{name} = " (redefinition setup env name)
        (env.insert name) := by
  rw [execute, computeAndShow, redefinition]
  refine congrArg _ (funext fun value => ?_)
  split <;> rfl

theorem execute_eval (use : Env → FileEntry → Trace Env) (e : Expr) (place : Place) :
    execute setup use interactive env (.eval e place) =
      computeAndShow setup interactive env e "= " (pure ()) fun _ => env :=
  rfl

/-- What becomes of the environment by a command that is no load, if all is shown that is to be. -/
def Command.effect (env : Env) : Command Place → Except Failure Env
  | .define name e _ => (e.computed env).map (env.insert name)
  | .eval e _ => (e.computed env).map fun _ => env
  | .display e _ => (e.toText.mapError Failure.fault).map fun _ => env
  | .load .. | .listing _ | .help _ => .ok env

/-- Whether a command stops because a value cannot be written out where it is to be shown. -/
def Command.CannotShow (setup : Setup) (interactive : Bool) (env : Env) (fault : Fault) :
    Command Place → Prop
  | .define _ e _ | .eval e _ => e.CannotShow setup interactive env fault
  | .listing _ => env.toText (precision setup) = .error fault
  | .display .. | .load .. | .help _ => False

theorem outcome_execute_eq_effect {command : Command Place}
    (h : ∀ fault, ¬command.CannotShow setup interactive env fault) (hload : command.IsLoad = false)
    (use : Env → FileEntry → Trace Env) :
    (execute setup use interactive env command).outcome = command.effect env := by
  cases command with
  | load => cases hload
  | define name e place =>
      rw [execute_define]
      exact outcome_computeAndShow_of_shown (outcome_redefinition setup env name) _ _ h
  | eval e place =>
      rw [execute_eval]
      exact outcome_computeAndShow_of_shown rfl _ _ h
  | display e place =>
      simp only [execute, Command.effect, Trace.outcome_bind]
      cases e.toText <;> rfl
  | listing place =>
      cases htext : env.toText (precision setup) with
      | error fault => exact absurd htext (h fault)
      | ok text =>
          simp only [execute, Trace.outcome_bind, htext]
          rfl
  | help place => rfl

theorem outcome_execute_of_cannotShow {command : Command Place} {fault : Fault}
    (h : command.CannotShow setup interactive env fault) (use : Env → FileEntry → Trace Env) :
    (execute setup use interactive env command).outcome = .error (.fault fault) := by
  cases command with
  | define name e place =>
      rw [execute_define]
      exact outcome_computeAndShow_of_cannotShow (outcome_redefinition setup env name) _ _ h
  | eval e place =>
      rw [execute_eval]
      exact outcome_computeAndShow_of_cannotShow rfl _ _ h
  | listing place =>
      have htext : env.toText (precision setup) = .error fault := h
      simp only [execute, Trace.outcome_bind, htext]
      rfl
  | display | load | help => exact h.elim

/-- What a command writes besides if it shows its result. -/
def Command.echoed (setup : Setup) (env : Env) : Command Place → List Event
  | .define name e _ => echoLine setup env s!"{name} = " e
  | .eval e _ => echoLine setup env "= " e
  | .display .. | .load .. | .listing .. | .help .. => []

theorem execute_true {command : Command Place}
    (h : ∀ fault, ¬command.CannotShow setup true env fault) (use : Env → FileEntry → Trace Env) :
    execute setup use true env command =
      let quiet := execute setup use false env command
      ⟨quiet.events ++ command.echoed setup env, quiet.outcome⟩ := by
  cases command with
  | define name e place =>
      rw [execute_define, execute_define]
      exact computeAndShow_true (outcome_redefinition setup env name) _ _ h
  | eval e place =>
      rw [execute_eval, execute_eval]
      exact computeAndShow_true rfl _ _ h
  | display | load | listing | help =>
      simp only [Command.echoed, List.append_nil]
      rfl

def Command.isComputation : Command Place → Bool
  | .define .. | .eval .. => true
  | .display .. | .load .. | .listing .. | .help .. => false

theorem outputOf_execute_false {command : Command Place} (h : command.isComputation = true)
    (setup : Setup) (use : Env → FileEntry → Trace Env) (env : Env) :
    outputOf (execute setup use false env command).events = "" := by
  have hmute : ∀ e start (between : Trace Unit) after, between.IsMute setup.reporter →
      (computeAndShow setup false env e start between after).IsMute setup.reporter := by
    intro e start between after hbetween
    exact .bind (isMute_compute setup env e) fun value => .bind hbetween fun _ => .of_nil rfl
  have hall : (execute setup use false env command).IsMute setup.reporter := by
    cases command with
    | define name e place =>
        rw [execute_define]
        apply hmute
        unfold redefinition
        split
        · exact .report (by decide) _ _ _
        · exact .of_nil rfl
    | eval e place =>
        rw [execute_eval]
        exact hmute e _ _ _ (.of_nil rfl)
    | display | load | listing | help => cases h
  exact outputOf_eq_empty fun event hevent => (hall event hevent).2

end

/-! ### Commands one after another -/

def runCommands (setup : Setup) (tree : FileTree) (inProgress : List RealPath) (interactive : Bool)
    (env : Env) (commands : List (Command Place)) : Trace Env :=
  commands.foldlM (execute setup (language.load setup tree inProgress) interactive) env

/-- Whether commands that are run one after another stop because a value cannot be written out
where it is to be shown, by one of them or in a file that one of them loads. -/
inductive StopsShowing (setup : Setup) (tree : FileTree) (fault : Fault) :
    List RealPath → Bool → Env → List (Command Place) → Prop
  | here {inProgress : List RealPath} {interactive : Bool} {env : Env} {command : Command Place}
      {rest : List (Command Place)} (cannot : command.CannotShow setup interactive env fault) :
      StopsShowing setup tree fault inProgress interactive env (command :: rest)
  | inside {inProgress : List RealPath} {interactive : Bool} {env : Env} {path : CodeText}
      {place : Place} {commands rest : List (Command Place)}
      (idle : tree.realPath path ∉ inProgress) (readable : contents tree path = .ok commands)
      (stops : StopsShowing setup tree fault (tree.realPath path :: inProgress) false env
        commands) :
      StopsShowing setup tree fault inProgress interactive env (.load path place :: rest)
  | later {inProgress : List RealPath} {interactive : Bool} {env next : Env}
      {command : Command Place} {rest : List (Command Place)}
      (succeeds : (execute setup (language.load setup tree inProgress) interactive env
        command).outcome = .ok next)
      (stops : StopsShowing setup tree fault inProgress interactive next rest) :
      StopsShowing setup tree fault inProgress interactive env (command :: rest)

variable {setup other : Setup} {tree : FileTree} {inProgress : List RealPath}
  {interactive showing : Bool} {env : Env} {commands : List (Command Place)}

theorem runCommands_cons (setup : Setup) (tree : FileTree) (inProgress : List RealPath)
    (interactive : Bool) (env : Env) (command : Command Place) (commands : List (Command Place)) :
    runCommands setup tree inProgress interactive env (command :: commands) =
      execute setup (language.load setup tree inProgress) interactive env command >>=
        fun next => runCommands setup tree inProgress interactive next commands :=
  List.foldlM_cons

theorem outcome_load (setup : Setup) (env : Env) {path : CodeText}
    (hidle : tree.realPath path ∉ inProgress) (hreadable : contents tree path = .ok commands) :
    (language.load setup tree inProgress env ⟨path, false⟩).outcome =
      (runCommands setup tree (tree.realPath path :: inProgress) false env commands).outcome := by
  let request : Request := ⟨inProgress, env, ⟨path, false⟩⟩
  have hplace : request.place tree ∉ request.inProgress := hidle
  have hrun : request.run setup tree = _ := Request.run_of_contents hplace hreadable
  exact (congrArg Trace.outcome hrun).trans rfl

/-- Such a run does end with the fault. -/
theorem StopsShowing.outcome_eq {fault : Fault}
    (h : StopsShowing setup tree fault inProgress interactive env commands) :
    (runCommands setup tree inProgress interactive env commands).outcome =
      .error (.fault fault) := by
  induction h with
  | here cannot =>
      rw [runCommands_cons, Trace.outcome_bind, outcome_execute_of_cannotShow cannot]
      rfl
  | inside idle readable _ ih =>
      rw [runCommands_cons, Trace.outcome_bind, execute, outcome_load setup _ idle readable, ih]
      rfl
  | later succeeds _ ih =>
      rw [runCommands_cons, Trace.outcome_bind, succeeds]
      exact ih

def Request.IsShown (setup : Setup) (tree : FileTree) (request : Request) : Prop :=
  ∀ fault commands, request.place tree ∉ request.inProgress →
    contents tree request.entry.path = .ok commands →
    ¬StopsShowing setup tree fault (request.place tree :: request.inProgress)
      request.entry.interactive request.env commands

theorem Request.isShown {path : CodeText} {place : Place} {rest : List (Command Place)}
    (h : ∀ fault, ¬StopsShowing setup tree fault inProgress interactive env
      (.load path place :: rest)) :
    (Request.mk inProgress env ⟨path, false⟩).IsShown setup tree :=
  fun fault _ hidle hcontents hstops => h fault (.inside hidle hcontents hstops)

/-- Commands that are run one after another lead to the same in two runs, if loads do, as long as
neither of the runs is stopped. -/
theorem outcome_runCommands_of_load
    (hload : ∀ env path, (Request.mk inProgress env ⟨path, false⟩).IsShown setup tree →
      (Request.mk inProgress env ⟨path, false⟩).IsShown other tree →
      (language.load setup tree inProgress env ⟨path, false⟩).outcome =
        (language.load other tree inProgress env ⟨path, false⟩).outcome)
    (h : ∀ fault, ¬StopsShowing setup tree fault inProgress interactive env commands)
    (hother : ∀ fault, ¬StopsShowing other tree fault inProgress showing env commands) :
    (runCommands setup tree inProgress interactive env commands).outcome =
      (runCommands other tree inProgress showing env commands).outcome := by
  induction commands generalizing env with
  | nil => rfl
  | cons command commands ih =>
      have hcommand : (execute setup (language.load setup tree inProgress) interactive env
          command).outcome =
          (execute other (language.load other tree inProgress) showing env command).outcome := by
        obtain hnoLoad | ⟨path, place, rfl⟩ := command.isLoad_cases
        · rw [outcome_execute_eq_effect (fun fault hfault => h fault (.here hfault)) hnoLoad,
            outcome_execute_eq_effect (fun fault hfault => hother fault (.here hfault)) hnoLoad]
        · exact hload env path (Request.isShown h) (Request.isShown hother)
      rw [runCommands_cons, runCommands_cons, Trace.outcome_bind, Trace.outcome_bind, ← hcommand]
      cases hnext : (execute setup (language.load setup tree inProgress) interactive env
          command).outcome with
      | error failure => rfl
      | ok next =>
          exact ih (fun fault hstops => h fault (.later hnext hstops))
            (fun fault hstops => hother fault (.later (hcommand.symm.trans hnext) hstops))

theorem Request.IsShown.outcome_eq {request : Request} (h : request.IsShown setup tree)
    (hother : request.IsShown other tree) :
    (request.run setup tree).outcome = (request.run other tree).outcome := by
  induction request using Request.induction tree with
  | recursive request hrecursive =>
      rw [run_of_isRecursive setup hrecursive, run_of_isRecursive other hrecursive]
  | unreadable request failure hrecursive hcontents =>
      rw [run_of_error hrecursive hcontents, run_of_error hrecursive hcontents]
  | readable request commands hidle hcontents ih =>
      rw [run_of_contents hidle hcontents, run_of_contents hidle hcontents]
      exact outcome_runCommands_of_load (fun env path => ih env ⟨path, false⟩)
        (fun fault => h fault commands hidle hcontents)
        (fun fault => hother fault commands hidle hcontents)

theorem outcome_runCommands_eq
    (h : ∀ fault, ¬StopsShowing setup tree fault inProgress interactive env commands)
    (hother : ∀ fault, ¬StopsShowing other tree fault inProgress showing env commands) :
    (runCommands setup tree inProgress interactive env commands).outcome =
      (runCommands other tree inProgress showing env commands).outcome :=
  outcome_runCommands_of_load (fun _ _ => Request.IsShown.outcome_eq) h hother

theorem StopsShowing.of_take {fault : Fault} {n : Nat}
    (h : StopsShowing setup tree fault inProgress interactive env (commands.take n)) :
    StopsShowing setup tree fault inProgress interactive env commands := by
  induction n generalizing env commands with
  | zero => cases h
  | succ n ih =>
      cases commands with
      | nil => cases h
      | cons command commands =>
          rw [List.take_succ_cons] at h
          cases h with
          | here cannot => exact .here cannot
          | inside idle readable stops => exact .inside idle readable stops
          | later succeeds stops => exact .later succeeds (ih stops)

/-! ### Echoes -/

/-- A command that is executed, the environment before it, and what it does. -/
structure Performance where
  env : Env
  command : Command Place
  trace : Trace Env

def performances (execute : Env → Command Place → Trace Env) :
    Env → List (Command Place) → List Performance
  | _, [] => []
  | env, command :: commands =>
    let trace := execute env command
    ⟨env, command, trace⟩ :: match trace.outcome with
      | .ok next => performances execute next commands
      | .error _ => []

section

variable {step : Env → Command Place → Trace Env} {before : Env} {command : Command Place}

theorem performances_of_error {failure : Failure}
    (h : (step before command).outcome = .error failure) (commands : List (Command Place)) :
    performances step before (command :: commands) = [⟨before, command, step before command⟩] := by
  rw [performances, h]

theorem performances_of_ok {next : Env} (h : (step before command).outcome = .ok next)
    (commands : List (Command Place)) :
    performances step before (command :: commands) =
      ⟨before, command, step before command⟩ :: performances step next commands := by
  rw [performances, h]

theorem events_foldlM (step : Env → Command Place → Trace Env) (before : Env)
    (commands : List (Command Place)) :
    (commands.foldlM step before).events =
      (performances step before commands).flatMap (·.trace.events) := by
  induction commands generalizing before with
  | nil => rfl
  | cons command commands ih =>
      rw [List.foldlM_cons]
      cases houtcome : (step before command).outcome with
      | error failure =>
          rw [Trace.bind_of_error houtcome, performances_of_error houtcome, List.flatMap_singleton]
      | ok next =>
          rw [Trace.bind_of_ok houtcome, performances_of_ok houtcome, List.flatMap_cons, ih]

theorem trace_of_mem_performances {commands : List (Command Place)} {performance : Performance}
    (h : performance ∈ performances step before commands) :
    performance.trace = step performance.env performance.command := by
  induction commands generalizing before with
  | nil => cases h
  | cons command commands ih =>
      cases houtcome : (step before command).outcome with
      | error failure =>
          rw [performances_of_error houtcome, List.mem_singleton] at h
          rw [h]
      | ok next =>
          rw [performances_of_ok houtcome] at h
          obtain rfl | h := List.mem_cons.mp h
          · rfl
          · exact ih h

end

/-- Commands that show their results are the same ones, each with its echo at the end. -/
theorem events_runCommands_true
    (h : ∀ fault, ¬StopsShowing setup tree fault inProgress true env commands) :
    (runCommands setup tree inProgress true env commands).events =
      (performances (execute setup (language.load setup tree inProgress) false) env
        commands).flatMap fun performance =>
          performance.trace.events ++ performance.command.echoed setup performance.env := by
  induction commands generalizing env with
  | nil => rfl
  | cons command commands ih =>
      have hshown := execute_true (fun fault hfault => h fault (.here hfault))
        (language.load setup tree inProgress)
      have hsame := congrArg Trace.outcome hshown
      dsimp only at hsame
      rw [runCommands_cons]
      cases houtcome : (execute setup (language.load setup tree inProgress) false env
          command).outcome with
      | error failure =>
          rw [Trace.bind_of_error (hsame.trans houtcome), hshown, performances_of_error houtcome,
            List.flatMap_singleton]
      | ok next =>
          rw [Trace.bind_of_ok (hsame.trans houtcome), hshown, performances_of_ok houtcome,
            List.flatMap_cons,
            ih fun fault hstops => h fault (.later (hsame.trans houtcome) hstops)]

/-- What is loaded by a file or a command does not show its results. -/
theorem Reaches.interactive_eq {setup : Setup} {outer inner : Request} {events : List Event}
    (h : Reaches setup tree outer events inner) (houter : outer.entry.interactive = false) :
    inner.entry.interactive = false := by
  cases h with
  | refl => exact houter
  | tail _ executes =>
      cases executes
      rfl

/-- What is shown does not matter to what commands lead to. Unless one of two runs is stopped
because a value cannot be written out, they lead to the same environment or to the same failure
after any number of commands, whether the commands show their results or not, and whatever the
number of decimals is. If the commands show their results, each of them does what it does
otherwise, and writes its echo at the end. What they load shows none. -/
theorem echo_and_precision_keep_results
    (hshown : ∀ fault, ¬StopsShowing setup tree fault inProgress interactive env commands) :
    (∀ other showing,
      (∀ fault, ¬StopsShowing other tree fault inProgress showing env commands) →
      ∀ n, (runCommands setup tree inProgress interactive env (commands.take n)).outcome =
        (runCommands other tree inProgress showing env (commands.take n)).outcome) ∧
    (interactive = true →
      let performed :=
        performances (execute setup (language.load setup tree inProgress) false) env commands
      (runCommands setup tree inProgress false env commands).events =
        performed.flatMap (·.trace.events) ∧
      (runCommands setup tree inProgress true env commands).events =
        (performed.flatMap fun performance =>
          performance.trace.events ++ performance.command.echoed setup performance.env) ∧
      ∀ performance ∈ performed, performance.command.isComputation = true →
        outputOf performance.trace.events = "") ∧
    ∀ env path events inner, Reaches setup tree ⟨inProgress, env, ⟨path, false⟩⟩ events inner →
      inner.entry.interactive = false ∧
      ∀ use middle command, command.isComputation = true →
        outputOf (execute setup use inner.entry.interactive middle command).events = "" := by
  refine ⟨fun other showing hother n => ?_, ?_, fun env path events inner hreaches => ?_⟩
  · exact outcome_runCommands_eq (fun fault hstops => hshown fault hstops.of_take)
      fun fault hstops => hother fault hstops.of_take
  · rintro rfl performed
    refine ⟨events_foldlM _ _ _, events_runCommands_true hshown, ?_⟩
    intro performance hperformance hcomputation
    rw [trace_of_mem_performances hperformance]
    exact outputOf_execute_false hcomputation _ _ _
  · have hquiet := hreaches.interactive_eq rfl
    rw [hquiet]
    exact ⟨rfl, fun use middle command hcomputation =>
      outputOf_execute_false hcomputation setup use middle⟩

theorem computed_var {name : String} {value : Value} (h : env.find? name = some value)
    (place : Place) : Term.computed env (.var name place) = .ok value := by
  have htext : (Term.var name place : Expr).toText = .ok name := rfl
  rw [Term.computed, htext, Term.check, Term.evaluate, h]
  rfl

/-- A number that is given a name and then asked for, shown in one run and not in the other one. -/
theorem results_of_definition :
    let commands : List (Command Place) :=
      [.define "x" (.var "y" .unknown) .unknown, .eval (.var "x" .unknown) .unknown]
    let loud := runCommands (Session.configured 2 (some 1)) {} [] true [("y", .int 2)] commands
    let quiet := runCommands (Session.configured 2 none) {} [] false [("y", .int 2)] commands
    loud.outcome = quiet.outcome ∧ quiet.outcome = .ok [("y", .int 2), ("x", .int 2)] := by
  let first : Command Place := .define "x" (.var "y" .unknown) .unknown
  let second : Command Place := .eval (.var "x" .unknown) .unknown
  have htext : ∀ places, (Value.int 2).toText places = .ok "2" := fun _ =>
    decimal_of_writable (writable_of_lt (by decide : 2 < 10 ^ 1) (by decide))
  have hcan : ∀ {setup interactive env name fault}, env.find? name = some (.int 2) →
      ¬Term.CannotShow setup interactive env fault (.var name .unknown) := by
    rintro setup interactive env name fault hfound ⟨-, value, hvalue, hfault⟩
    obtain rfl := Except.ok.inj ((computed_var hfound _).symm.trans hvalue)
    cases (htext _).symm.trans hfault
  have hold : Env.find? [("y", .int 2)] "y" = some (.int 2) := rfl
  have hnew : Env.find? [("y", .int 2), ("x", .int 2)] "x" = some (.int 2) := rfl
  have hfirst : ∀ setup interactive fault,
      ¬first.CannotShow setup interactive [("y", .int 2)] fault := fun _ _ _ => hcan hold
  have hsecond : ∀ setup interactive fault,
      ¬second.CannotShow setup interactive [("y", .int 2), ("x", .int 2)] fault :=
    fun _ _ _ => hcan hnew
  have heffect : first.effect [("y", .int 2)] = .ok [("y", .int 2), ("x", .int 2)] := by
    rw [Command.effect, computed_var hold]
    rfl
  have hshown : ∀ setup interactive fault,
      ¬StopsShowing setup {} fault [] interactive [("y", .int 2)]
        [.define "x" (.var "y" .unknown) .unknown, .eval (.var "x" .unknown) .unknown] := by
    intro setup interactive fault hstops
    cases hstops with
    | here cannot => exact hfirst _ _ _ cannot
    | later succeeds stops =>
        rw [outcome_execute_eq_effect (hfirst _ _) rfl, heffect] at succeeds
        cases succeeds
        cases stops with
        | here cannot => exact hsecond _ _ _ cannot
        | later _ stops => cases stops
  intro commands loud quiet
  obtain ⟨hsame, -⟩ := echo_and_precision_keep_results (hshown (Session.configured 2 (some 1)) true)
  exact ⟨hsame _ false (hshown (Session.configured 2 none) false) 2, rfl⟩

end LanguageShell.Calculator
