import LanguageShell.Calculator.Language
import LanguageShell.Loading
import LanguageShell.Proofs.Calculator.Grammar
import LanguageShell.Proofs.FileTree
import LanguageShell.Proofs.Trace

/-!
Running commands and files of the calculator. Where a command was written shows in its failures
alone, so one that succeeds does the same wherever it is written. In the same way a file that is
loaded while others are in progress does the same, if it succeeds, while fewer are.
-/

namespace LanguageShell.Calculator

/-! ### Expressions in other places -/

theorem bind_eq_ok {ε α β : Type} {result : Except ε α} {next : α → Except ε β} {b : β} :
    result >>= next = .ok b ↔ ∃ a, result = .ok a ∧ next a = .ok b := by
  cases result <;> simp [bind, Except.bind]

theorem mapError_eq_ok {ε δ α : Type} {result : Except ε α} {f : ε → δ} {a : α} :
    result.mapError f = .ok a ↔ result = .ok a := by
  cases result <;> simp [Except.mapError]

namespace Term

variable {φ α β : Type}

theorem render_map (f : α → β) (renderer : Renderer) (maxLevel : Int) (e : Term φ α) :
    (e.map f).render renderer maxLevel = e.render renderer maxLevel := by
  induction e generalizing maxLevel with
  | num | var | foreign => rfl
  | neg operand _ ih => rw [map, render, render, ih]
  | bin op left right _ ihl ihr => simp only [map, render, ihl, ihr]

theorem toText_map (f : α → β) (e : Term φ α) : (e.map f).toText = e.toText := by
  rw [toText, toText, render_map]

theorem check_map (f : Place → Place) (env : Env) (e : Term φ Place) :
    (e.map f).check env = .ok () ↔ e.check env = .ok () := by
  induction e with
  | num | foreign => rfl
  | var name _ =>
      simp only [map, check]
      split <;> simp
  | neg _ _ ih => exact ih
  | bin _ left right _ ihl ihr => simp only [map, check, bind_eq_ok, ihl, ihr]

theorem evaluate_map (f : Place → Place) (env : Env) (e : Term φ Place) (value : Value) :
    (e.map f).evaluate env = .ok value ↔ e.evaluate env = .ok value := by
  induction e generalizing value with
  | num | foreign => rfl
  | var => rfl
  | neg _ _ ih => simp only [map, evaluate, bind_eq_ok, ih]
  | bin op left right _ ihl ihr =>
      simp only [map, evaluate, bind_eq_ok, mapError_eq_ok, ihl, ihr]

theorem map_eq_map {e other : Term φ Place} (h : (e.map fun _ => ()) = other.map fun _ => ())
    (place : Place) : (e.map fun _ => place) = other.map fun _ => place := by
  have hmap := congrArg (map fun _ => place) h
  rwa [map_map, map_map] at hmap

end Term

theorem evaluate_of_compute {setup : Setup} {env : Env} {e : Expr} {value : Value}
    (h : (compute setup env e).outcome = .ok value) :
    e.check env = .ok () ∧ e.evaluate env = .ok value := by
  obtain ⟨_, hcheck, hrest⟩ := Trace.outcome_bind_eq_ok.mp h
  obtain ⟨_, -, hrest⟩ := Trace.outcome_bind_eq_ok.mp hrest
  obtain ⟨_, -, hvalue⟩ := Trace.outcome_bind_eq_ok.mp hrest
  exact ⟨hcheck, hvalue⟩

theorem compute_of_ok {setup : Setup} {env : Env} {e other : Expr} {value : Value}
    (hsame : (e.map fun _ => ()) = other.map fun _ => ())
    (h : (compute setup env e).outcome = .ok value) :
    compute setup env other = compute setup env e := by
  have hplace := Term.map_eq_map hsame .unknown
  obtain ⟨hcheck, hvalue⟩ := evaluate_of_compute h
  have hcheck' : other.check env = .ok () := by
    rwa [← Term.check_map fun _ => .unknown, ← hplace, Term.check_map]
  have hvalue' : other.evaluate env = .ok value := by
    rwa [← Term.evaluate_map fun _ => .unknown, ← hplace, Term.evaluate_map]
  have htext : other.toText = e.toText := by
    rw [← Term.toText_map fun _ => (), ← hsame, Term.toText_map]
  rw [compute, compute, hcheck, hcheck', hvalue, hvalue', htext]

/-- Whether the second way to use files does what the first one does where that succeeds. -/
def Agrees (use other : Env → FileEntry → Trace Env) : Prop :=
  ∀ env entry after, (use env entry).outcome = .ok after → other env entry = use env entry

/-- A command that succeeds does the same in other places, and with other files in progress. -/
theorem execute_of_ok {setup : Setup} {use other : Env → FileEntry → Trace Env}
    (huse : Agrees use other) {interactive : Bool} {env after : Env}
    {command written : Command Place}
    (hsame : (command.map fun _ => ()) = written.map fun _ => ())
    (h : (execute setup use interactive env command).outcome = .ok after) :
    execute setup other interactive env written = execute setup use interactive env command := by
  cases command with
  | define name e _ =>
      cases written <;> simp only [Command.map, Command.define.injEq, reduceCtorEq] at hsame
      obtain ⟨rfl, hsame, -⟩ := hsame
      obtain ⟨value, hvalue, -⟩ := Trace.outcome_bind_eq_ok.mp h
      simp only [execute, compute_of_ok hsame hvalue]
  | eval e _ =>
      cases written <;> simp only [Command.map, Command.eval.injEq, reduceCtorEq] at hsame
      obtain ⟨value, hvalue, -⟩ := Trace.outcome_bind_eq_ok.mp h
      simp only [execute, compute_of_ok hsame.1 hvalue]
  | display e _ =>
      cases written <;> simp only [Command.map, Command.display.injEq, reduceCtorEq] at hsame
      simp only [execute]
      rw [← Term.toText_map fun _ => (), ← hsame.1, Term.toText_map]
  | load path _ =>
      cases written <;> simp only [Command.map, Command.load.injEq, reduceCtorEq] at hsame
      obtain ⟨rfl, -⟩ := hsame
      exact huse env _ after h
  | listing | help =>
      cases written <;> simp only [Command.map, reduceCtorEq] at hsame
      rfl

theorem foldlM_execute_of_ok {setup : Setup} {use other : Env → FileEntry → Trace Env}
    (huse : Agrees use other) {interactive : Bool} {env after : Env}
    {commands written : List (Command Place)}
    (hsame : commands.map (·.map fun _ => ()) = written.map (·.map fun _ => ()))
    (h : (commands.foldlM (execute setup use interactive) env).outcome = .ok after) :
    written.foldlM (execute setup other interactive) env =
      commands.foldlM (execute setup use interactive) env := by
  induction commands generalizing written env with
  | nil =>
      obtain rfl := List.map_eq_nil_iff.mp hsame.symm
      rfl
  | cons command commands ih =>
      obtain ⟨second, others, rfl, hsecond, hothers⟩ := List.map_eq_cons_iff.mp hsame.symm
      rw [List.foldlM_cons] at h
      obtain ⟨next, hnext, hrest⟩ := Trace.outcome_bind_eq_ok.mp h
      rw [List.foldlM_cons, List.foldlM_cons, execute_of_ok huse hsecond.symm hnext,
        Trace.bind_of_ok hnext, Trace.bind_of_ok hnext, ih hothers.symm hrest]

/-! ### Files -/

/-- The commands of the file that a path leads to, or why it has none. -/
def contents (tree : FileTree) (path : CodeText) : Except Failure (List (Command Place)) :=
  match FileTree.unresolvable? path with
  | some fault => .error (.fault fault)
  | none => tree.source path >>= Parser.located parseFile

theorem contents_of_unresolvable {tree : FileTree} {path : CodeText} {fault : Fault}
    (h : FileTree.unresolvable? path = some fault) :
    contents tree path = .error (.fault fault) := by
  rw [contents, h]

theorem contents_of_isPath {tree : FileTree} {path : CodeText} (h : path.IsPath) :
    contents tree path = tree.source path >>= Parser.located parseFile := by
  rw [contents, FileTree.unresolvable?_eq_none_iff.mpr h]

theorem contents_of_read {tree : FileTree} {path : CodeText} {text : List Char}
    (h : tree.read path = .ok text) :
    contents tree path = Parser.located parseFile { text, filename := path.shown } := by
  rw [contents_of_isPath (FileTree.isPath_of_read h), FileTree.source, h]
  rfl

theorem isPath_of_contents {tree : FileTree} {path : CodeText} {commands : List (Command Place)}
    (h : contents tree path = .ok commands) : path.IsPath := by
  cases hpath : FileTree.unresolvable? path with
  | none => exact FileTree.unresolvable?_eq_none_iff.mp hpath
  | some fault => cases (contents_of_unresolvable hpath).symm.trans h

theorem contents_of_error {tree : FileTree} {path : CodeText} (hpath : path.IsPath)
    {failure : Failure} (h : tree.read path = .error failure) :
    contents tree path = .error failure := by
  rw [contents_of_isPath hpath, FileTree.source, h]
  rfl

theorem load_of_not_mem {setup : Setup} {tree : FileTree} {inProgress : List RealPath}
    {entry : FileEntry} (h : tree.realPath entry.path ∉ inProgress) (env : Env) :
    language.load setup tree inProgress env entry =
      match contents tree entry.path with
      | .error failure => .fail failure
      | .ok commands =>
        let use := language.load setup tree (tree.realPath entry.path :: inProgress)
        Trace.emit (.entered (tree.realPath entry.path)) >>= fun _ =>
          (commands.foldlM (execute setup use entry.interactive) env).andFinally .left := by
  have hparse : language.parseFile = some parseFile := rfl
  rw [Language.load]
  simp only [hparse]
  cases hpath : FileTree.unresolvable? entry.path with
  | some fault => rw [contents_of_unresolvable hpath]
  | none =>
      simp only [dif_neg h]
      split
      · rename_i hread
        rw [contents_of_error (FileTree.unresolvable?_eq_none_iff.mp hpath) hread]
      · rename_i text hread
        rw [contents_of_read hread]
        cases Parser.located parseFile { text, filename := entry.path.shown } <;> rfl

theorem written_load_of_not_mem {setup : Setup} {tree : FileTree} {inProgress : List RealPath}
    {entry : FileEntry} (h : tree.realPath entry.path ∉ inProgress) (env : Env) :
    (language.load setup tree inProgress env entry).written =
      match contents tree entry.path with
      | .error failure => .fail failure
      | .ok commands =>
        let use := language.load setup tree (tree.realPath entry.path :: inProgress)
        (commands.foldlM (execute setup use entry.interactive) env).written := by
  rw [load_of_not_mem h]
  cases contents tree entry.path with
  | error failure => rfl
  | ok commands =>
      simp only [Trace.written_bind, Trace.written_andFinally_left]
      rfl

theorem load_of_mem (setup : Setup) {tree : FileTree} {inProgress : List RealPath}
    {entry : FileEntry} (h : tree.realPath entry.path ∈ inProgress) (env : Env) :
    ∃ failure, language.load setup tree inProgress env entry = .fail failure := by
  have hparse : language.parseFile = some parseFile := rfl
  rw [Language.load]
  simp only [hparse]
  cases FileTree.unresolvable? entry.path with
  | some fault => exact ⟨_, rfl⟩
  | none => exact ⟨_, dif_pos h⟩

theorem mem_files_of_contents {tree : FileTree} {path : CodeText} {commands : List (Command Place)}
    (h : contents tree path = .ok commands) : tree.realPath path ∈ tree.files.map (·.1) := by
  cases hread : tree.read path with
  | error failure => cases (contents_of_error (isPath_of_contents h) hread).symm.trans h
  | ok text => exact FileTree.mem_of_find?_isSome (FileTree.find?_realPath_of_read hread)

/-- A file that is loaded successfully while others are in progress does the same while fewer
are. -/
theorem agrees_load (setup : Setup) (tree : FileTree) {inProgress fewer : List RealPath}
    (hsubset : fewer ⊆ inProgress) :
    Agrees (language.load setup tree inProgress) (language.load setup tree fewer) := by
  induction hlength : (tree.idleFiles inProgress).length using Nat.strongRecOn
    generalizing inProgress fewer with
  | ind length ih =>
      intro env entry after h
      have hnew : tree.realPath entry.path ∉ inProgress := by
        intro hmem
        obtain ⟨failure, hfail⟩ := load_of_mem setup hmem env
        rw [hfail] at h
        cases h
      have hfewer : tree.realPath entry.path ∉ fewer := fun hmem => hnew (hsubset hmem)
      rw [load_of_not_mem hnew] at h ⊢
      rw [load_of_not_mem hfewer]
      cases hcontents : contents tree entry.path with
      | error failure => rfl
      | ok commands =>
          rw [hcontents] at h
          have hless := FileTree.length_idleFiles_cons (mem_files_of_contents hcontents) hnew
          have hagrees := ih _ (hlength ▸ hless) (List.cons_subset_cons _ hsubset) rfl
          obtain ⟨_, -, hdone⟩ := Trace.outcome_bind_eq_ok.mp h
          simp only [foldlM_execute_of_ok hagrees rfl hdone]

end LanguageShell.Calculator
