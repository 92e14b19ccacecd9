import LanguageShell.Proofs.Calculator.Evaluation
import LanguageShell.Proofs.Calculator.Recursion
import LanguageShell.Proofs.Report

/-!
Faults of commands. Without a precision there are three: a floating-point number is divided by a
fraction that vanishes, a number that is shown has too many digits, or a path cannot be resolved.
Whatever else goes wrong has a diagnostic: the expressions that the parser gives are all printed,
and no report fails.
-/

namespace LanguageShell

theorem Trace.outcome_bind {α β : Type} (trace : Trace α) (next : α → Trace β) :
    (trace >>= next).outcome = trace.outcome >>= fun a => (next a).outcome := by
  cases h : trace.outcome with
  | error failure =>
      rw [bind_of_error h]
      rfl
  | ok a =>
      rw [bind_of_ok h]
      rfl

namespace Calculator

/-! ### Numbers and expressions that can be written -/

/-- Whether the number can be written out, if it is not rounded. -/
def Value.IsWritable : Value → Prop
  | int n => Integer.Writable n.natAbs
  | fraction q => Integer.Writable q.num.natAbs ∧ Integer.Writable q.den
  | float _ => True

theorem decimal_of_writable {n : Int} (h : Integer.Writable n.natAbs) :
    Integer.decimal n = .ok (toString n) :=
  if_pos h

theorem decimal_of_not_writable {n : Int} (h : ¬Integer.Writable n.natAbs) :
    Integer.decimal n = .error .integerTooLong :=
  if_neg h

theorem Value.exists_toText {v : Value} (h : v.IsWritable) : ∃ text, v.toText none = .ok text := by
  cases v with
  | int n => exact ⟨_, decimal_of_writable h⟩
  | float x => exact ⟨_, rfl⟩
  | fraction q =>
      have hden : Integer.Writable (q.den : Int).natAbs := h.2
      rw [toText, decimal_of_writable h.1, decimal_of_writable hden]
      by_cases hintegral : q.den = 1
      · exact ⟨_, if_pos hintegral⟩
      · exact ⟨_, if_neg hintegral⟩

theorem Value.toText_of_not_isWritable {v : Value} (h : ¬v.IsWritable) :
    v.toText none = .error .integerTooLong := by
  cases v with
  | int n => exact decimal_of_not_writable h
  | float x => exact absurd trivial h
  | fraction q =>
      by_cases hnum : Integer.Writable q.num.natAbs
      · have hden : ¬Integer.Writable (q.den : Int).natAbs := fun hden => h ⟨hnum, hden⟩
        have hne : q.den ≠ 1 := by
          intro hone
          apply hden
          rw [hone]
          exact writable_of_lt (by decide : 1 < 10 ^ 1) (by decide)
        rw [toText, decimal_of_writable hnum, decimal_of_not_writable hden]
        exact if_neg hne
      · rw [toText, decimal_of_not_writable hnum]
        rfl

theorem Produced.isWritable {e : Expr} (h : Produced e) :
    e.All Value.IsWritable fun _ => True := by
  refine h.all (fun text htext => ?_) fun _ _ => trivial
  cases hliteral : Token.literal text with
  | int n =>
      obtain ⟨m, rfl, hm⟩ := htext.writable hliteral
      exact hm
  | float x => trivial
  | fraction q =>
      -- No literal is a fraction.
      unfold Token.literal at hliteral
      split at hliteral
      · split at hliteral <;> cases hliteral
      · cases hliteral

theorem Produced.isPrintable {e : Expr} (h : Produced e) : e.IsPrintable :=
  h.isWritable.imp (fun _ => Value.exists_toText) fun _ _ => trivial

theorem Produced.exists_toText {e : Expr} (h : Produced e) : ∃ text, e.toText = .ok text :=
  ⟨_, Term.toText_eq_printed h.isPrintable⟩

/-! ### Listings -/

/-- Where there is one way to fail, a list fails if one of its items does. -/
theorem mapM_cases {ε α β : Type} {f : α → Except ε β} {error : ε} (items : List α)
    (h : ∀ item ∈ items, (∃ b, f item = .ok b) ∨ f item = .error error) :
    (∃ bs, items.mapM f = .ok bs) ∧ (∀ item ∈ items, ∃ b, f item = .ok b) ∨
      items.mapM f = .error error ∧ ∃ item ∈ items, f item = .error error := by
  induction items with
  | nil => exact .inl ⟨⟨[], rfl⟩, by simp⟩
  | cons item items ih =>
      rw [List.mapM_cons]
      obtain ⟨b, hb⟩ | herror := h item List.mem_cons_self
      · rw [hb]
        obtain ⟨⟨bs, hbs⟩, hall⟩ | ⟨herror, other, hmem, hother⟩ :=
          ih fun other hmem => h other (List.mem_cons_of_mem _ hmem)
        · refine .inl ⟨⟨b :: bs, by rw [hbs]; rfl⟩, ?_⟩
          intro other hmem
          obtain rfl | hmem := List.mem_cons.mp hmem
          · exact ⟨b, hb⟩
          · exact hall other hmem
        · exact .inr ⟨by rw [herror]; rfl, other, List.mem_cons_of_mem _ hmem, hother⟩
      · exact .inr ⟨by rw [herror]; rfl, item, List.mem_cons_self, herror⟩

def Env.itemText (precision : Option Int) (binding : String × Value) : Except Fault String :=
  (binding.2.toText precision).map fun text => s!"{binding.1} = {text}"

theorem Env.toText_eq {env : Env} (h : env ≠ []) (precision : Option Int) :
    env.toText precision =
      (env.sorted.mapM (itemText precision)).map (("," ++ " ").intercalate ·) := by
  let render (binding : String × Value) : RenderM String :=
    ExceptT.mk fun depth => (itemText precision binding, depth)
  have hitem : ∀ binding, (Renderer.nest {} Renderer.topLevel 0 (render binding)).Yields 0
      (itemText precision binding) := by
    intro binding
    have hroom : (0 : Int) < ({} : Renderer).maxDepth := by decide
    exact Renderer.yields_item hroom rfl
  have hsequence : (Renderer.sequence {} env.sorted render ",").Yields 0 _ :=
    Renderer.yields_sequence hitem ","
  rw [← hsequence.result_eq]
  exact if_neg (by simpa using h)

/-- A listing fails exactly if one of the numbers cannot be written. -/
theorem Env.toText_eq_error_iff {env : Env} {fault : Fault} :
    env.toText none = .error fault ↔
      fault = .integerTooLong ∧ ∃ binding ∈ env, ¬binding.2.IsWritable := by
  have htext : ∀ binding ∈ env.sorted, (∃ shown, itemText none binding = .ok shown) ∨
      itemText none binding = .error .integerTooLong := by
    intro binding _
    by_cases h : binding.2.IsWritable
    · obtain ⟨shown, hshown⟩ := Value.exists_toText h
      exact .inl ⟨_, by simp only [itemText, hshown]; rfl⟩
    · exact .inr (by simp only [itemText, Value.toText_of_not_isWritable h]; rfl)
  have hmem : ∀ binding, binding ∈ env.sorted ↔ binding ∈ env := fun _ => List.mem_mergeSort
  by_cases hempty : env = []
  · rw [hempty]
    simp [toText]
  rw [toText_eq hempty]
  obtain ⟨⟨shown, hshown⟩, hall⟩ | ⟨herror, binding, hbinding, hfails⟩ := mapM_cases _ htext
  · rw [hshown]
    simp only [Except.map, reduceCtorEq, false_iff, not_and, not_exists, not_not]
    rintro - binding hbinding
    by_contra hwritable
    obtain ⟨other, hother⟩ := hall binding ((hmem binding).mpr hbinding)
    simp only [itemText, Value.toText_of_not_isWritable hwritable] at hother
    cases hother
  · rw [herror]
    have hlong : ¬binding.2.IsWritable := by
      intro hwritable
      obtain ⟨other, hother⟩ := Value.exists_toText hwritable
      simp only [itemText, hother] at hfails
      cases hfails
    constructor
    · intro h
      exact ⟨(Except.error.inj h).symm, binding, (hmem binding).mp hbinding, hlong⟩
    · rintro ⟨rfl, -⟩
      rfl

/-! ### Commands -/

theorem check_ne_fault {φ : Type} {env : Env} {e : Term φ Place} {fault : Fault} :
    e.check env ≠ .error (.fault fault) := by
  induction e with
  | num | foreign =>
      intro h
      cases h
  | var name place =>
      intro h
      rw [Term.check] at h
      split at h <;> cases h
  | neg operand _ ih => exact ih
  | bin op left right _ ihl ihr =>
      intro h
      rw [Term.check, bind_eq_error] at h
      obtain hleft | ⟨_, -, hright⟩ := h
      · exact ihl hleft
      · exact ihr hright

/-- Only a division by a fraction that vanishes makes the evaluation of an expression a fault, if
its names are bound. -/
theorem evaluate_eq_fault_iff {env : Env} {e : Expr} (h : e.check env = .ok ()) {fault : Fault} :
    e.evaluate env = .error (.fault fault) ↔
      fault = .floatDivisionByZero ∧ e.DividesByVanishing env := by
  rw [Term.evaluate_eq_error_iff h]
  constructor
  · rintro ⟨operation, error, hfirst, hfails, hfault⟩
    cases error with
    | divisionByZero | overflow => cases hfault
    | vanishingDivisor =>
        cases hfault
        exact ⟨rfl, operation, hfirst, hfails⟩
  · rintro ⟨rfl, operation, hfirst, hfails⟩
    exact ⟨operation, .vanishingDivisor, hfirst, hfails, rfl⟩

theorem outcome_trace_evaluating (reporter : Reporter) (text : String) :
    (reporter.trace "evaluating %s" [.text text]).outcome = .ok () := by
  have htemplate : "evaluating %s" = String.ofList ("evaluating ".toList ++ ['%', 's']) := rfl
  rw [Reporter.trace, htemplate]
  exact Reporter.outcome_report_within (by decide) (by decide) ..

theorem outcome_warning_redefined (reporter : Reporter) (name : String) :
    (reporter.warning "%s is redefined" [.text name]).outcome = .ok () := by
  have htemplate : "%s is redefined" =
      String.ofList ([] ++ '%' :: 's' :: " is redefined".toList) := rfl
  rw [Reporter.warning, htemplate]
  exact Reporter.outcome_report_within (by decide) (by decide) ..

theorem outcome_compute (setup : Setup) (env : Env) {e : Expr} (h : Produced e) :
    (compute setup env e).outcome = e.check env >>= fun _ => e.evaluate env := by
  obtain ⟨text, htext⟩ := h.exists_toText
  simp only [compute, Trace.outcome_bind, outcome_trace_evaluating, htext]
  rfl

theorem outcome_echo_eq_error_iff {setup : Setup} (h : precision setup = none)
    {interactive : Bool} (start : String) {value : Value} {failure : Failure} :
    (echo setup interactive start value).outcome = .error failure ↔
      interactive = true ∧ ¬value.IsWritable ∧ failure = .fault .integerTooLong := by
  cases interactive with
  | false => simp [echo, Trace.pure_eq]
  | true =>
      rw [echo, if_pos rfl, h, Trace.outcome_bind]
      by_cases hwritable : value.IsWritable
      · obtain ⟨text, htext⟩ := Value.exists_toText hwritable
        rw [htext]
        constructor
        · intro hfails
          cases hfails
        · rintro ⟨-, hlong, -⟩
          exact absurd hwritable hlong
      · rw [Value.toText_of_not_isWritable hwritable]
        constructor
        · intro hfails
          exact ⟨rfl, hwritable, (Except.error.inj hfails).symm⟩
        · rintro ⟨-, -, rfl⟩
          rfl

/-- Whether a command that is no load ends with a fault: it divides by a fraction that vanishes, or
it shows a number that cannot be written. -/
def Command.Falters (interactive : Bool) (env : Env) (fault : Fault) : Command Place → Prop
  | .define _ e _ | .eval e _ =>
    e.check env = .ok () ∧
      (fault = .floatDivisionByZero ∧ e.DividesByVanishing env ∨
        fault = .integerTooLong ∧ interactive = true ∧
          ∃ value, e.evaluate env = .ok value ∧ ¬value.IsWritable)
  | .listing _ => fault = .integerTooLong ∧ ∃ binding ∈ env, ¬binding.2.IsWritable
  | .display .. | .help _ | .load .. => False

theorem outcome_compute_bind_eq_fault_iff {setup : Setup} {interactive : Bool} {env : Env}
    {e : Expr} (h : Produced e) {next : Value → Trace Env}
    (hnext : ∀ value failure, (next value).outcome = .error failure ↔
      interactive = true ∧ ¬value.IsWritable ∧ failure = .fault .integerTooLong)
    {fault : Fault} :
    (compute setup env e >>= next).outcome = .error (.fault fault) ↔
      e.check env = .ok () ∧
        (fault = .floatDivisionByZero ∧ e.DividesByVanishing env ∨
          fault = .integerTooLong ∧ interactive = true ∧
            ∃ value, e.evaluate env = .ok value ∧ ¬value.IsWritable) := by
  rw [Trace.outcome_bind, bind_eq_error, outcome_compute setup env h]
  cases hcheck : e.check env with
  | error failure =>
      have hne : failure ≠ .fault fault := by
        rintro rfl
        exact check_ne_fault hcheck
      simpa [bind, Except.bind] using hne
  | ok _ =>
      have hevaluate : e.evaluate env = .error (.fault fault) ↔ _ := evaluate_eq_fault_iff hcheck
      simp only [hnext, bind, Except.bind, hevaluate, true_and, Failure.fault.injEq]
      apply or_congr Iff.rfl
      constructor
      · rintro ⟨value, hvalue, hinteractive, hlong, rfl⟩
        exact ⟨rfl, hinteractive, value, hvalue, hlong⟩
      · rintro ⟨rfl, hinteractive, value, hvalue, hlong⟩
        exact ⟨value, hvalue, hinteractive, hlong, rfl⟩

theorem outcome_printed_eq_fault_iff {text : Except Fault String} {env : Env} {fault : Fault} :
    (do Trace.printLine (← Trace.ofFaulty text); return env : Trace Env).outcome =
      .error (.fault fault) ↔ text = .error fault := by
  cases text with
  | ok line => exact iff_of_false nofun nofun
  | error other =>
      show Except.error (Failure.fault other) = _ ↔ _
      rw [Except.error.injEq, Failure.fault.injEq, Except.error.injEq]

theorem outcome_execute_eq_fault_iff {setup : Setup} (h : precision setup = none)
    {use : Env → FileEntry → Trace Env} {interactive : Bool} {env : Env} {command : Command Place}
    (hload : command.IsLoad = false) (hproduced : ∀ e, command.expr? = some e → Produced e)
    {fault : Fault} :
    (execute setup use interactive env command).outcome = .error (.fault fault) ↔
      command.Falters interactive env fault := by
  cases command with
  | load => cases hload
  | define name e _ =>
      apply outcome_compute_bind_eq_fault_iff (hproduced e rfl)
      intro value failure
      rw [← outcome_echo_eq_error_iff h s!"{name} = "]
      split
      · rw [Trace.outcome_bind, outcome_warning_redefined]
        show (_ >>= _ : Trace Env).outcome = _ ↔ _
        rw [Trace.outcome_bind, bind_eq_error]
        simp [Trace.pure_eq]
      · rw [Trace.outcome_bind, bind_eq_error]
        simp [Trace.pure_eq]
  | eval e _ =>
      apply outcome_compute_bind_eq_fault_iff (hproduced e rfl)
      intro value failure
      rw [← outcome_echo_eq_error_iff h "= ", Trace.outcome_bind, bind_eq_error]
      simp [Trace.pure_eq]
  | display e _ =>
      obtain ⟨text, htext⟩ := (hproduced e rfl).exists_toText
      rw [execute, outcome_printed_eq_fault_iff, htext, Command.Falters]
      simp
  | listing _ =>
      rw [execute, h, outcome_printed_eq_fault_iff]
      exact Env.toText_eq_error_iff
  | help _ =>
      simp only [execute, Command.Falters, iff_false]
      intro hfails
      cases hfails

/-! ### Loads -/

/-- Whether a load ends with a fault that none of its inner loads ends with: its path cannot be
resolved, or a command of its file that is no load ends with one. -/
inductive Request.Falters (setup : Setup) (tree : FileTree) (request : Request) :
    Fault → Prop where
  | path {fault : Fault} (refused : FileTree.unresolvable? request.entry.path = some fault) :
      Falters setup tree request fault
  | command {front back : List (Command Place)} {command : Command Place} {middle : Env}
      {fault : Fault} (idle : request.place tree ∉ request.inProgress)
      (readable : contents tree request.entry.path = .ok (front ++ command :: back))
      (before : (request.perform setup tree front).outcome = .ok middle)
      (falters : command.Falters request.entry.interactive middle fault) :
      Falters setup tree request fault

variable {setup : Setup} {tree : FileTree}

theorem contents_eq_fault_iff {path : CodeText} {fault : Fault} :
    contents tree path = .error (.fault fault) ↔
      FileTree.unresolvable? path = some fault := by
  refine ⟨fun h => ?_, contents_of_unresolvable⟩
  cases hpath : FileTree.unresolvable? path with
  | some other =>
      rw [contents_of_unresolvable hpath] at h
      rw [Failure.fault.inj (Except.error.inj h)]
  | none =>
      have hvalid := FileTree.unresolvable?_eq_none_iff.mp hpath
      cases hread : tree.read path with
      | ok text =>
          rw [contents_of_read hread] at h
          have hread : Entry.file.read { text, filename := path.shown } =
            .error (.fault fault) := h
          obtain ⟨diagnostic, hdiagnostic, -⟩ := Entry.exists_diagnostic hread
          cases hdiagnostic
      | error failure =>
          rw [contents_of_error hvalid hread] at h
          rw [Except.error.inj h] at hread
          exact absurd hread (tree.read_ne_fault hvalid fault)

theorem exists_parse_of_contents {path : CodeText} {commands : List (Command Place)}
    (h : contents tree path = .ok commands) : ∃ source, parse .file source = .ok commands := by
  cases hread : tree.read path with
  | error failure => cases (contents_of_error (isPath_of_contents h) hread).symm.trans h
  | ok text =>
      rw [contents_of_read hread] at h
      exact ⟨_, mapError_eq_ok.mp h⟩

theorem produced_of_contents {path : CodeText} {commands : List (Command Place)}
    (h : contents tree path = .ok commands) {command : Command Place} (hmem : command ∈ commands)
    {e : Expr} (he : command.expr? = some e) : Produced e := by
  obtain ⟨source, hparse⟩ := exists_parse_of_contents h
  exact ⟨.file, source, commands, command, e, hparse, hmem, he, .self⟩

theorem Command.Falters.isLoad_eq_false {interactive : Bool} {env : Env} {command : Command Place}
    {fault : Fault} (h : command.Falters interactive env fault) : command.IsLoad = false := by
  cases command with
  | load => exact h.elim
  | define | eval | display | listing | help => rfl

theorem Request.falters_iff_breaks (h : precision setup = none) {request : Request}
    {fault : Fault} :
    request.Breaks setup tree (.fault fault) ↔ request.Falters setup tree fault := by
  constructor
  · intro hbreaks
    cases hbreaks with
    | refused recursive refusal => cases refusal
    | unreadable new unreadable => exact .path (contents_eq_fault_iff.mp unreadable)
    | command idle readable before noLoad fails =>
        refine .command idle readable before ?_
        rw [outcome_execute_eq_fault_iff h noLoad] at fails
        · exact fails
        · exact fun e => produced_of_contents readable (by simp)
  · intro hfalters
    cases hfalters with
    | path refused =>
        exact .unreadable (fun h => FileTree.not_isPath_of_unresolvable refused h.1)
          (contents_of_unresolvable refused)
    | command idle readable before falters =>
        refine .command idle readable before falters.isLoad_eq_false ?_
        rw [outcome_execute_eq_fault_iff h falters.isLoad_eq_false]
        · exact falters
        · exact fun e => produced_of_contents readable (by simp)

/-- A load ends with a fault as one does among those it leads to. -/
theorem run_eq_fault_iff (h : precision setup = none) {request : Request} {fault : Fault} :
    (request.run setup tree).outcome = .error (.fault fault) ↔
      ∃ events inner, Reaches setup tree request events inner ∧
        inner.Falters setup tree fault := by
  rw [run_eq_error_iff]
  simp only [Request.falters_iff_breaks h]

end Calculator

end LanguageShell
