import LanguageShell.Proofs.Calculator.Execution

/-!
Loading as inlining. A file is loaded as if the commands of the files that it loads stood in place
of its load commands, and theirs in place of their own, provided that the loads lead to no cycle. A
file that cannot be read stands for its failure.
-/

namespace LanguageShell.Calculator

open Relation

def Command.IsLoad {α : Type} : Command α → Bool
  | .load .. => true
  | .define .. | .eval .. | .display .. | .listing .. | .help .. => false

theorem Command.isLoad_cases {α : Type} (command : Command α) :
    command.IsLoad = false ∨ ∃ path note, command = .load path note := by
  cases command with
  | load path note => exact .inr ⟨path, note, rfl⟩
  | define | eval | display | listing | help => exact .inl rfl

/-- What stands in a flattened sequence: a command that loads nothing, or the failure of a file. -/
inductive Item where
  | perform (command : Command Place) (loadsNothing : command.IsLoad = false)
  | fail (failure : Failure)

/-- Executes an item as in a file. It makes no use of the function that runs files. -/
def Item.run (setup : Setup) (use : Env → FileEntry → Trace Env) (env : Env) : Item → Trace Env
  | .perform command _ => execute setup use false env command
  | .fail failure => .fail failure

/-- Whether the commands are flattened to the items: loads are replaced by what the commands of
their files are flattened to. -/
inductive Flattens (tree : FileTree) : List (Command Place) → List Item → Prop where
  | nil : Flattens tree [] []
  | perform {command : Command Place} {commands : List (Command Place)} {items : List Item}
      (loadsNothing : command.IsLoad = false) (tail : Flattens tree commands items) :
      Flattens tree (command :: commands) (.perform command loadsNothing :: items)
  | fail {path : CodeText} {place : Place} {failure : Failure}
      {commands : List (Command Place)} {items : List Item}
      (unreadable : contents tree path = .error failure) (tail : Flattens tree commands items) :
      Flattens tree (.load path place :: commands) (.fail failure :: items)
  | file {path : CodeText} {place : Place} {inner commands : List (Command Place)}
      {front items : List Item} (readable : contents tree path = .ok inner)
      (body : Flattens tree inner front) (tail : Flattens tree commands items) :
      Flattens tree (.load path place :: commands) (front ++ items)

namespace Flattens

variable {tree : FileTree} {commands : List (Command Place)} {items : List Item}

theorem unique (h : Flattens tree commands items) {others : List Item}
    (h' : Flattens tree commands others) : items = others := by
  induction h generalizing others with
  | nil =>
      cases h'
      rfl
  | perform loadsNothing _ ih =>
      cases h' with
      | perform _ tail => rw [ih tail]
      | fail | file => cases loadsNothing
  | fail unreadable _ ih =>
      cases h' with
      | perform loadsNothing => cases loadsNothing
      | fail unreadable' tail =>
          rw [ih tail, Except.error.inj (unreadable.symm.trans unreadable')]
      | file readable => cases unreadable.symm.trans readable
  | file readable _ _ ihbody ihtail =>
      cases h' with
      | perform loadsNothing => cases loadsNothing
      | fail unreadable => cases readable.symm.trans unreadable
      | file readable' body tail =>
          obtain rfl := Except.ok.inj (readable.symm.trans readable')
          rw [ihbody body, ihtail tail]

theorem append {others : List (Command Place)} {further : List Item}
    (h : Flattens tree commands items) (h' : Flattens tree others further) :
    Flattens tree (commands ++ others) (items ++ further) := by
  induction h with
  | nil => exact h'
  | perform loadsNothing _ ih => exact .perform loadsNothing ih
  | fail unreadable _ ih => exact .fail unreadable ih
  | file readable body _ _ ih =>
      rw [List.append_assoc]
      exact .file readable body ih

end Flattens

/-! ### Cycles -/

/-- Whether the file that the first path leads to has a command that loads the second one. -/
def Loads (tree : FileTree) (path next : CodeText) : Prop :=
  ∃ commands place, contents tree path = .ok commands ∧ .load next place ∈ commands

/-- Whether no loads lead from the file, nor from a file that it leads to, back to the same file,
however its path is written. -/
def LoadsNoCycle (tree : FileTree) (path : CodeText) : Prop :=
  ∀ outer inner, ReflTransGen (Loads tree) path outer → TransGen (Loads tree) outer inner →
    tree.realPath inner ≠ tree.realPath outer

theorem LoadsNoCycle.of_loads {tree : FileTree} {path next : CodeText} (h : LoadsNoCycle tree path)
    (hloads : Loads tree path next) : LoadsNoCycle tree next :=
  fun outer inner houter hinner => h outer inner (.head hloads houter) hinner

/-! ### Loading -/

/-- Whether the commands write what the items do and end as they do, while files are in progress. -/
def Inlines (tree : FileTree) (inProgress : List RealPath) (commands : List (Command Place))
    (items : List Item) : Prop :=
  ∀ setup use env,
    (commands.foldlM (execute setup (language.load setup tree inProgress) false) env).written =
      (items.foldlM (Item.run setup use) env).written

theorem Inlines.append {tree : FileTree} {inProgress : List RealPath}
    {commands others : List (Command Place)} {items further : List Item}
    (h : Inlines tree inProgress commands items) (h' : Inlines tree inProgress others further) :
    Inlines tree inProgress (commands ++ others) (items ++ further) := by
  intro setup use env
  rw [List.foldlM_append, List.foldlM_append, Trace.written_bind, Trace.written_bind,
    h setup use env]
  congr 1
  funext next
  exact h' setup use next

theorem execute_of_loadsNothing {command : Command Place} (h : command.IsLoad = false)
    (setup : Setup) (use other : Env → FileEntry → Trace Env) (interactive : Bool) (env : Env) :
    execute setup use interactive env command = execute setup other interactive env command := by
  cases command with
  | load => cases h
  | define | eval | display | listing | help => rfl

theorem foldlM_load (setup : Setup) (use : Env → FileEntry → Trace Env) (env : Env) (path : CodeText)
    (place : Place) :
    [Command.load path place].foldlM (execute setup use false) env = use env ⟨path, false⟩ := by
  rw [List.foldlM_cons]
  exact bind_pure _

variable {tree : FileTree} {inProgress : List RealPath}

theorem exists_flattening_of_mem {commands : List (Command Place)}
    (h : ∀ path place, .load path place ∈ commands → ∃ items,
      Flattens tree [.load path place] items ∧ Inlines tree inProgress [.load path place] items) :
    ∃ items, Flattens tree commands items ∧ Inlines tree inProgress commands items := by
  induction commands with
  | nil => exact ⟨[], .nil, fun _ _ _ => rfl⟩
  | cons command commands ih =>
      obtain ⟨items, hflattens, hinlines⟩ := ih fun path place hmem =>
        h path place (List.mem_cons_of_mem _ hmem)
      obtain ⟨front, hfront, hinlinesFront⟩ : ∃ front, Flattens tree [command] front ∧
          Inlines tree inProgress [command] front := by
        obtain hload | ⟨path, place, rfl⟩ := command.isLoad_cases
        · refine ⟨[.perform command hload], .perform hload .nil, fun setup use env => ?_⟩
          rw [List.foldlM_cons, List.foldlM_cons, Item.run,
            execute_of_loadsNothing hload setup _ use]
          rfl
        · exact h path place List.mem_cons_self
      exact ⟨front ++ items, hfront.append hflattens, hinlinesFront.append hinlines⟩

/-- A load is flattened if its file leads to no cycle and to no file in progress. The files that are
not in progress get fewer with each file on the way. -/
theorem exists_flattening {path : CodeText} (hcycle : LoadsNoCycle tree path)
    (hidle : ∀ next, ReflTransGen (Loads tree) path next → tree.realPath next ∉ inProgress)
    (place : Place) :
    ∃ items, Flattens tree [.load path place] items ∧
      Inlines tree inProgress [.load path place] items := by
  induction hlength : (tree.idleFiles inProgress).length using Nat.strongRecOn
    generalizing inProgress path place with
  | ind length ih =>
      have hnew := hidle path .refl
      cases hcontents : contents tree path with
      | error failure =>
          refine ⟨[.fail failure], .fail hcontents .nil, fun setup use env => ?_⟩
          rw [foldlM_load, written_load_of_not_mem hnew]
          simp only [hcontents]
          rfl
      | ok commands =>
          have hless := FileTree.length_idleFiles_cons (mem_files_of_contents hcontents) hnew
          have hmem : ∀ next place, .load next place ∈ commands → ∃ items,
              Flattens tree [.load next place] items ∧
                Inlines tree (tree.realPath path :: inProgress) [.load next place] items := by
            intro next place hmem
            have hloads : Loads tree path next := ⟨commands, place, hcontents, hmem⟩
            have hothers : ∀ further, ReflTransGen (Loads tree) next further →
                tree.realPath further ∉ tree.realPath path :: inProgress := by
              intro further hreach
              rw [List.mem_cons, not_or]
              -- A file below this one that had its real path would close a cycle.
              exact ⟨hcycle path further .refl (.head' hloads hreach),
                hidle further (.head hloads hreach)⟩
            exact ih _ (hlength ▸ hless) (hcycle.of_loads hloads) hothers place rfl
          obtain ⟨items, hflattens, hinlines⟩ := exists_flattening_of_mem hmem
          refine ⟨items ++ [], .file hcontents hflattens .nil, fun setup use env => ?_⟩
          rw [foldlM_load, written_load_of_not_mem hnew, List.append_nil, ← hinlines setup use env]
          simp only [hcontents]

/-- Loading is inlining. A file whose loads lead to no cycle has one flattened sequence, and loading
it ends and writes as executing the items of that sequence one after another does. -/
theorem loading_is_inlining {path : CodeText} (h : LoadsNoCycle tree path) :
    ∃ items, Flattens tree [.load path .unknown] items ∧
      (∀ others, Flattens tree [.load path .unknown] others → others = items) ∧
      ∀ (setup : Setup) (use : Env → FileEntry → Trace Env) (env : Env),
        let loaded := language.useFile setup tree env ⟨path, false⟩
        let inlined := items.foldlM (Item.run setup use) env
        loaded.outcome = inlined.outcome ∧
          outputOf loaded.events = outputOf inlined.events ∧
          errorsOf loaded.events = errorsOf inlined.events := by
  obtain ⟨items, hflattens, hinlines⟩ :=
    exists_flattening h (fun _ _ => List.not_mem_nil) .unknown
  refine ⟨items, hflattens, fun others hothers => hothers.unique hflattens, ?_⟩
  intro setup use env
  have hwritten := hinlines setup use env
  rw [foldlM_load] at hwritten
  exact Trace.agree_of_written hwritten

/-- A file that loads another one twice, and then one that there is not. -/
theorem loading_twice_is_inlining :
    let tree : FileTree := { files := [
      (["", "a"], "load \"b\";\nload \"b\";\nload \"c\";\nhelp;\n".toUTF8.toList),
      (["", "b"], "show x;\n".toUTF8.toList)] }
    let loaded := language.useFile {} tree [] ⟨"a", false⟩
    LoadsNoCycle tree "a" ∧ loaded.outcome = .error (.fatal "c: No such file or directory") ∧
      outputOf loaded.events = "x\nx\n" ∧ errorsOf loaded.events = "" := by
  intro tree loaded
  obtain ⟨first, second, third, fourth, ha⟩ : ∃ first second third fourth, contents tree "a" =
      .ok [.load "b" first, .load "b" second, .load "c" third, .help fourth] :=
    ⟨_, _, _, _, by cbv⟩
  obtain ⟨name, place, hb⟩ : ∃ name place,
      contents tree "b" = .ok [.display (.var "x" name) place] :=
    ⟨_, _, by cbv⟩
  have hc : contents tree "c" = .error (.fatal "c: No such file or directory") := by cbv
  have hnext : ∀ next, Loads tree "a" next → next = "b" ∨ next = "c" := by
    rintro next ⟨commands, place, hcontents, hmem⟩
    obtain rfl := Except.ok.inj (ha.symm.trans hcontents)
    simp only [List.mem_cons, Command.load.injEq, reduceCtorEq, List.not_mem_nil] at hmem
    grind
  have hlast : ∀ path : CodeText, path = "b" ∨ path = "c" → ∀ next, ¬Loads tree path next := by
    rintro path (rfl | rfl) next ⟨commands, place, hcontents, hmem⟩
    · obtain rfl := Except.ok.inj (hb.symm.trans hcontents)
      simp at hmem
    · cases hc.symm.trans hcontents
  have hplaces : tree.realPath "a" = (["", "a"] : RealPath) ∧
      tree.realPath "b" = (["", "b"] : RealPath) ∧ tree.realPath "c" = (["", "c"] : RealPath) :=
    ⟨by cbv, by cbv, by cbv⟩
  have hcycle : LoadsNoCycle tree "a" := by
    intro outer inner houter hinner
    obtain ⟨next, hloads, hrest⟩ := TransGen.head'_iff.mp hinner
    have hstart : outer = "a" := by
      obtain rfl | ⟨first, hfirst, hreach⟩ := houter.cases_head
      · rfl
      obtain rfl | ⟨second, hsecond, -⟩ := hreach.cases_head
      · exact absurd hloads (hlast _ (hnext _ hfirst) _)
      · exact absurd hsecond (hlast _ (hnext _ hfirst) _)
    obtain rfl := hstart
    obtain rfl | ⟨further, hfurther, -⟩ := hrest.cases_head
    · obtain rfl | rfl := hnext _ hloads
      · simp [hplaces]
      · simp [hplaces]
    · exact absurd hfurther (hlast _ (hnext _ hloads) _)
  obtain ⟨items, hflattens, -, hinlined⟩ := loading_is_inlining hcycle
  have hitems : Flattens tree [.load "a" .unknown] _ :=
    .file ha (.file hb (.perform rfl .nil) (.file hb (.perform rfl .nil)
      (.fail hc (.perform rfl .nil)))) .nil
  obtain rfl := hflattens.unique hitems
  obtain ⟨houtcome, houtput, herrors⟩ := hinlined {} (fun env _ => pure env) []
  exact ⟨hcycle, houtcome.trans rfl, houtput.trans rfl, herrors.trans rfl⟩

end LanguageShell.Calculator
