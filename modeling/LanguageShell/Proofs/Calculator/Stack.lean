import LanguageShell.Proofs.Calculator.NestedLoad

/-!
A loader with a stack. It keeps the files in progress on a stack of its own, which all of its loads
change, inner ones included: a file is put on the stack once its commands are read, and what is on
top is taken off when they are done, however they end. Such a loader does what loading with the
files in progress as an argument does, and its stack is always left as it was found. So it makes no
difference to a load which others came before.
-/

namespace LanguageShell.Calculator

/-- What a loader has to do: a load, or commands of a file that is in progress. -/
inductive Task where
  | file (env : Env) (entry : FileEntry)
  | command (interactive : Bool) (env : Env) (command : Command Place)
  | commands (interactive : Bool) (env : Env) (commands : List (Command Place))

def Task.run (setup : Setup) (tree : FileTree) (inProgress : List RealPath) : Task → Trace Env
  | .file env entry => language.load setup tree inProgress env entry
  | .command interactive env one =>
    execute setup (language.load setup tree inProgress) interactive env one
  | .commands interactive env all =>
    all.foldlM (execute setup (language.load setup tree inProgress) interactive) env

/-- How a loader does a task, with its stack before and after. -/
inductive Does (setup : Setup) (tree : FileTree) :
    List RealPath → Task → Trace Env → List RealPath → Prop where
  | unresolvable {stack : List RealPath} {env : Env} {entry : FileEntry} {fault : Fault}
      (refused : FileTree.unresolvable? entry.path = some fault) :
      Does setup tree stack (.file env entry) (.fail (.fault fault)) stack
  | recursive {stack : List RealPath} {env : Env} {entry : FileEntry}
      (valid : entry.path.IsPath) (mem : tree.realPath entry.path ∈ stack) :
      Does setup tree stack (.file env entry)
        (.fail (.fatal s!"recursive load of {entry.path}")) stack
  | unreadable {stack : List RealPath} {env : Env} {entry : FileEntry} {failure : Failure}
      (valid : entry.path.IsPath) (new : tree.realPath entry.path ∉ stack)
      (unreadable : contents tree entry.path = .error failure) :
      Does setup tree stack (.file env entry) (.fail failure) stack
  | file {stack after : List RealPath} {env : Env} {entry : FileEntry}
      {commands : List (Command Place)} {trace : Trace Env}
      (new : tree.realPath entry.path ∉ stack)
      (readable : contents tree entry.path = .ok commands)
      (body : Does setup tree (tree.realPath entry.path :: stack)
        (.commands entry.interactive env commands) trace after) :
      Does setup tree stack (.file env entry)
        ⟨.entered (tree.realPath entry.path) :: (trace.events ++ [.left]), trace.outcome⟩
        after.tail
  /-- The other commands have nothing to do with the loader. -/
  | perform {stack : List RealPath} {interactive : Bool} {env : Env} {command : Command Place}
      (noLoad : command.IsLoad = false) (use : Env → FileEntry → Trace Env) :
      Does setup tree stack (.command interactive env command)
        (execute setup use interactive env command) stack
  | load {stack after : List RealPath} {interactive : Bool} {env : Env} {path : CodeText}
      {place : Place} {trace : Trace Env}
      (call : Does setup tree stack (.file env ⟨path, false⟩) trace after) :
      Does setup tree stack (.command interactive env (.load path place)) trace after
  | nil {stack : List RealPath} {interactive : Bool} {env : Env} :
      Does setup tree stack (.commands interactive env []) (pure env) stack
  | next {stack middle after : List RealPath} {interactive : Bool} {env between : Env}
      {command : Command Place} {commands : List (Command Place)} {trace others : Trace Env}
      (first : Does setup tree stack (.command interactive env command) trace middle)
      (succeeds : trace.outcome = .ok between)
      (rest : Does setup tree middle (.commands interactive between commands) others after) :
      Does setup tree stack (.commands interactive env (command :: commands))
        ⟨trace.events ++ others.events, others.outcome⟩ after
  | stop {stack after : List RealPath} {interactive : Bool} {env : Env} {command : Command Place}
      {commands : List (Command Place)} {trace : Trace Env} {failure : Failure}
      (first : Does setup tree stack (.command interactive env command) trace after)
      (fails : trace.outcome = .error failure) :
      Does setup tree stack (.commands interactive env (command :: commands))
        ⟨trace.events, .error failure⟩ after

variable {setup : Setup} {tree : FileTree} {stack : List RealPath}

theorem Task.run_commands_cons (interactive : Bool) (env : Env) (first : Command Place)
    (others : List (Command Place)) :
    (Task.commands interactive env (first :: others)).run setup tree stack =
      (Task.command interactive env first).run setup tree stack >>= fun next =>
        (Task.commands interactive next others).run setup tree stack :=
  List.foldlM_cons

/-- Whatever a loader does is what is done with the files on its stack in progress, and its stack is
as before. -/
theorem Does.eq_run {task : Task} {trace : Trace Env} {after : List RealPath}
    (h : Does setup tree stack task trace after) :
    trace = task.run setup tree stack ∧ after = stack := by
  induction h with
  | @unresolvable stack env entry fault refused =>
      have hvalid : ¬(Request.mk stack env entry).IsRecursive tree :=
        fun h => FileTree.not_isPath_of_unresolvable refused h.1
      exact ⟨(Request.run_of_error hvalid (contents_of_unresolvable refused)).symm, rfl⟩
  | @recursive stack env entry valid mem =>
      have hrecursive : (Request.mk stack env entry).IsRecursive tree := ⟨valid, mem⟩
      exact ⟨(Request.run_of_isRecursive setup hrecursive).symm, rfl⟩
  | @unreadable stack env entry failure valid new unreadable =>
      have hnew : ¬(Request.mk stack env entry).IsRecursive tree := fun h => new h.2
      exact ⟨(Request.run_of_error hnew unreadable).symm, rfl⟩
  | @file stack after env entry commands trace new readable _ ih =>
      obtain ⟨rfl, rfl⟩ := ih
      let request : Request := ⟨stack, env, entry⟩
      have hidle : request.place tree ∉ request.inProgress := new
      exact ⟨(Request.run_of_contents hidle readable).symm, rfl⟩
  | perform noLoad use => exact ⟨execute_of_loadsNothing noLoad .., rfl⟩
  | load _ ih => exact ih
  | nil => exact ⟨rfl, rfl⟩
  | next _ succeeds _ ihfirst ihrest =>
      obtain ⟨rfl, rfl⟩ := ihfirst
      obtain ⟨rfl, rfl⟩ := ihrest
      rw [Task.run_commands_cons, Trace.bind_of_ok succeeds]
      exact ⟨rfl, rfl⟩
  | stop _ fails ih =>
      obtain ⟨rfl, rfl⟩ := ih
      rw [Task.run_commands_cons, Trace.bind_of_error fails]
      exact ⟨rfl, rfl⟩

/-! ### A loader does every task -/

theorem does_command
    (hfiles : ∀ env entry, Does setup tree stack (.file env entry)
      ((Task.file env entry).run setup tree stack) stack)
    (interactive : Bool) (env : Env) (command : Command Place) :
    Does setup tree stack (.command interactive env command)
      ((Task.command interactive env command).run setup tree stack) stack := by
  obtain hload | ⟨path, place, rfl⟩ := command.isLoad_cases
  · exact .perform hload _
  · exact .load (hfiles env ⟨path, false⟩)

theorem does_commands
    (hfiles : ∀ env entry, Does setup tree stack (.file env entry)
      ((Task.file env entry).run setup tree stack) stack)
    (interactive : Bool) (env : Env) (commands : List (Command Place)) :
    Does setup tree stack (.commands interactive env commands)
      ((Task.commands interactive env commands).run setup tree stack) stack := by
  induction commands generalizing env with
  | nil => exact .nil
  | cons command commands ih =>
      have hfirst := does_command hfiles interactive env command
      rw [Task.run_commands_cons]
      cases houtcome : ((Task.command interactive env command).run setup tree stack).outcome with
      | error failure =>
          rw [Trace.bind_of_error houtcome]
          exact .stop hfirst houtcome
      | ok between =>
          rw [Trace.bind_of_ok houtcome]
          exact .next hfirst houtcome (ih between)

theorem does_run (request : Request) :
    Does setup tree request.inProgress (.file request.env request.entry) (request.run setup tree)
      request.inProgress := by
  induction request using Request.induction tree with
  | recursive request hrecursive =>
      rw [Request.run_of_isRecursive setup hrecursive]
      exact .recursive hrecursive.1 hrecursive.2
  | unreadable request failure hrecursive hcontents =>
      rw [Request.run_of_error hrecursive hcontents]
      -- The stack is not looked at for a path that cannot be resolved.
      cases hpath : FileTree.unresolvable? request.entry.path with
      | some fault =>
          rw [contents_of_unresolvable hpath] at hcontents
          obtain rfl := Except.error.inj hcontents
          exact .unresolvable hpath
      | none =>
          have hvalid := FileTree.unresolvable?_eq_none_iff.mp hpath
          exact .unreadable hvalid (fun hmem => hrecursive ⟨hvalid, hmem⟩) hcontents
  | readable request commands hidle hcontents ih =>
      rw [Request.run_of_contents hidle hcontents]
      exact .file hidle hcontents (does_commands ih _ _ _)

theorem does_file (env : Env) (entry : FileEntry) :
    Does setup tree stack (.file env entry) ((Task.file env entry).run setup tree stack) stack :=
  does_run ⟨stack, env, entry⟩

theorem does_iff {task : Task} {trace : Trace Env} {after : List RealPath} :
    Does setup tree stack task trace after ↔
      trace = task.run setup tree stack ∧ after = stack := by
  refine ⟨Does.eq_run, ?_⟩
  rintro ⟨rfl, rfl⟩
  cases task with
  | file env entry => exact does_file env entry
  | command interactive env command => exact does_command does_file interactive env command
  | commands interactive env commands => exact does_commands does_file interactive env commands

/-! ### Calls one after another -/

/-- A call of a loader from outside, with the set-up and the files at that time. -/
structure Call where
  setup : Setup
  tree : FileTree
  env : Env
  entry : FileEntry

/-- How a loader does calls one after another, with its stack before and after. -/
inductive Serves : List RealPath → List Call → List (Trace Env) → List RealPath → Prop where
  | nil {stack : List RealPath} : Serves stack [] [] stack
  | cons {stack middle after : List RealPath} {call : Call} {calls : List Call}
      {trace : Trace Env} {traces : List (Trace Env)}
      (first : Does call.setup call.tree stack (.file call.env call.entry) trace middle)
      (rest : Serves middle calls traces after) :
      Serves stack (call :: calls) (trace :: traces) after

theorem serves_iff {calls : List Call} {traces : List (Trace Env)} {after : List RealPath} :
    Serves stack calls traces after ↔
      traces = calls.map (fun call =>
        language.load call.setup call.tree stack call.env call.entry) ∧ after = stack := by
  constructor
  · intro h
    induction h with
    | nil => exact ⟨rfl, rfl⟩
    | cons first _ ih =>
        obtain ⟨rfl, rfl⟩ := does_iff.mp first
        obtain ⟨rfl, rfl⟩ := ih
        exact ⟨rfl, rfl⟩
  · rintro ⟨rfl, rfl⟩
    induction calls with
    | nil => exact .nil
    | cons call calls ih => exact .cons (does_file call.env call.entry) ih

/-- A loader carries no history. Whatever it does, and however that ends, its stack is left as it
was found, and what is done depends on the stack alone: there is one way to do a task, which is that
of loading with the files on the stack in progress. So calls from outside, one after another, all
find the stack empty, and each does what it does with a fresh loader. -/
theorem loader_carries_no_history :
    (∀ setup tree stack task trace after, Does setup tree stack task trace after ↔
      trace = task.run setup tree stack ∧ after = stack) ∧
    (∀ calls traces after, Serves [] calls traces after ↔
      traces = calls.map (fun call =>
        language.useFile call.setup call.tree call.env call.entry) ∧ after = []) ∧
    ∀ calls call traces trace after, Serves [] (calls ++ [call]) (traces ++ [trace]) after →
      Serves [] [call] [trace] [] := by
  refine ⟨fun _ _ _ _ _ _ => does_iff, fun _ _ _ => serves_iff, ?_⟩
  intro calls call traces trace after h
  obtain ⟨htraces, -⟩ := serves_iff.mp h
  rw [List.map_append] at htraces
  obtain ⟨-, hlast⟩ := List.append_inj' htraces rfl
  exact serves_iff.mpr ⟨hlast, rfl⟩

end LanguageShell.Calculator
