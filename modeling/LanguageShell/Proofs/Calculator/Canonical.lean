import LanguageShell.Proofs.Calculator.Evaluation
import LanguageShell.Proofs.Calculator.Faults

/-!
Canonical numbers. An exact number is canonical if it is an integer wherever it is integral. Texts
have no other literals, and sums, differences, products and quotients of integers have no other
values, but an integral quotient of which an operand is a fraction is kept as a fraction. That is
the only way to another number: without such quotients all bindings in all environments that runs
of files and typed commands lead to are canonical.
-/

namespace LanguageShell.Calculator

/-! ### Numbers -/

namespace Value

/-- Whether the number is an integer, a floating-point number or a fraction that is not integral. -/
def IsCanonical : Value → Prop
  | int _ | float _ => True
  | fraction q => 2 ≤ q.den

def IsFraction (v : Value) : Prop :=
  ∃ q, v = fraction q

/-- Whether the exact quotient of the numbers is integral and yet kept as a fraction. -/
def KeepsQuotient (x y : Value) : Prop :=
  (x.IsFraction ∨ y.IsFraction) ∧
    ∃ p q, x.rational? = some p ∧ y.rational? = some q ∧ (p / q).den = 1

theorem isCanonical_fraction_iff {q : Rat} : (fraction q).IsCanonical ↔ q.den ≠ 1 := by
  have hpositive := q.den_pos
  show 2 ≤ q.den ↔ _
  omega

theorem isCanonical_collapse (q : Rat) : (collapse q).IsCanonical := by
  unfold collapse
  split
  · trivial
  · rename_i hden
    exact isCanonical_fraction_iff.mpr hden

theorem isCanonical_neg_iff {v : Value} : v.neg.IsCanonical ↔ v.IsCanonical := by
  cases v with
  | int | float => exact Iff.rfl
  | fraction q => exact Iff.rfl

theorem isFloat_of_applyFloat {op : Operator} {x y : Binary64} {v : Value}
    (h : applyFloat op x y = .ok v) : v.IsFloat := by
  cases op with
  | add | sub | mul => exact ⟨_, (Except.ok.inj h).symm⟩
  | div =>
      rw [applyFloat] at h
      split at h
      · cases h
      · exact ⟨_, (Except.ok.inj h).symm⟩

theorem IsFloat.isCanonical {v : Value} (h : v.IsFloat) : v.IsCanonical := by
  obtain ⟨x, rfl⟩ := h
  trivial

theorem IsFloat.not_isExact {v : Value} (h : v.IsFloat) : ¬v.IsExact :=
  fun hexact => hexact.not_isFloat h

theorem not_isZero_of_apply {op : Operator} {x y v : Value} (h : apply op x y = .ok v) :
    ¬(op = .div ∧ y.IsZero) := by
  intro hzero
  rw [apply_of_isZero hzero] at h
  cases h

theorem isFloat_of_apply {op : Operator} {x y v : Value} (hfloat : x.IsFloat ∨ y.IsFloat)
    (h : apply op x y = .ok v) : v.IsFloat := by
  have hzero := not_isZero_of_apply h
  obtain ⟨a, rfl⟩ | hx := x.isFloat_or_isExact
  · rw [apply_float_left hzero] at h
    split at h
    · exact isFloat_of_applyFloat h
    · cases h
  · obtain ⟨b, rfl⟩ := hfloat.resolve_left hx.not_isFloat
    rw [apply_float_right hx hzero] at h
    split at h
    · exact isFloat_of_applyFloat h
    · cases h

theorem isCanonical_rational_iff {op : Operator} {q : Rat} :
    (apply.rational op q).IsCanonical ↔ ¬(op = .div ∧ q.den = 1) := by
  unfold apply.rational
  split
  · rename_i hop
    rw [isCanonical_fraction_iff]
    simp [hop]
  · rename_i hop
    simp [hop, isCanonical_collapse]

/-- The result of an operator is canonical unless it is a quotient that is kept; the operands need
not be canonical. -/
theorem isCanonical_of_apply_iff {op : Operator} {x y v : Value} (h : apply op x y = .ok v) :
    v.IsCanonical ↔ ¬(op = .div ∧ x.KeepsQuotient y) := by
  -- A floating-point operand makes the result one, and no quotient with one is exact.
  by_cases hfloat : x.IsFloat ∨ y.IsFloat
  · have hkeeps : ¬x.KeepsQuotient y := by
      rintro ⟨-, p, q, hp, hq, -⟩
      exact hfloat.elim (·.not_isExact ⟨p, hp⟩) (·.not_isExact ⟨q, hq⟩)
    simp [(isFloat_of_apply hfloat h).isCanonical, hkeeps]
  have hzero := not_isZero_of_apply h
  unfold apply at h
  rw [if_neg hzero] at h
  -- The operands are exact, and at least one of them is a fraction but in the first case.
  cases x <;> cases y <;>
    simp only [IsFloat, float.injEq, exists_eq', or_true, true_or, not_true] at hfloat <;>
    obtain rfl := Except.ok.inj h
  · simp [isCanonical_collapse, KeepsQuotient, IsFraction]
  all_goals
    rw [isCanonical_rational_iff]
    refine not_congr (and_congr_right ?_)
    rintro rfl
    simp [KeepsQuotient, IsFraction, rational?, applyExact]

end Value

/-! ### Expressions -/

def Env.IsCanonical (env : Env) : Prop :=
  ∀ binding ∈ env, binding.2.IsCanonical

namespace Env

theorem isCanonical_nil : IsCanonical [] := by
  intro binding hmem
  cases hmem

theorem mem_insert {env : Env} {name : String} {v : Value} {binding : String × Value}
    (h : binding ∈ env.insert name v) : binding = (name, v) ∨ binding ∈ env := by
  induction env with
  | nil => exact .inl (List.mem_singleton.mp h)
  | cons first rest ih =>
      obtain ⟨other, old⟩ := first
      rw [insert] at h
      split at h
      · obtain hnew | hrest := List.mem_cons.mp h
        · exact .inl hnew
        · exact .inr (List.mem_cons_of_mem _ hrest)
      · obtain hfirst | hrest := List.mem_cons.mp h
        · exact .inr (hfirst ▸ List.mem_cons_self)
        · exact (ih hrest).imp_right (List.mem_cons_of_mem _)

theorem mem_insert_self (env : Env) (name : String) (v : Value) :
    (name, v) ∈ env.insert name v := by
  induction env with
  | nil => exact List.mem_singleton_self _
  | cons first rest ih =>
      rw [insert]
      split
      · exact List.mem_cons_self
      · exact List.mem_cons_of_mem _ ih

theorem IsCanonical.insert_iff {env : Env} (h : env.IsCanonical) {name : String} {v : Value} :
    (env.insert name v).IsCanonical ↔ v.IsCanonical := by
  constructor
  · exact fun hinsert => hinsert _ (mem_insert_self env name v)
  · intro hv binding hmem
    obtain rfl | hmem := mem_insert hmem
    · exact hv
    · exact h binding hmem

end Env

/-- Whether the value of an expression is a quotient that is kept, or the negative of one. -/
def Term.KeepsQuotient {φ : Type} (env : Env) : Term φ Place → Prop
  | neg operand _ => operand.KeepsQuotient env
  | bin op left right _ => op = .div ∧
      ∃ x y, left.evaluate env = .ok x ∧ right.evaluate env = .ok y ∧ x.KeepsQuotient y
  | num .. | var .. | foreign .. => False

theorem Term.isCanonical_of_evaluate_iff {φ : Type} {env : Env} (henv : env.IsCanonical)
    {e : Term φ Place} (he : e.All Value.IsCanonical fun _ => True) {v : Value}
    (h : e.evaluate env = .ok v) : v.IsCanonical ↔ ¬e.KeepsQuotient env := by
  induction e generalizing v with
  | foreign => exact he.elim
  | num value _ =>
      obtain rfl := Except.ok.inj h
      exact iff_of_true he id
  | var name _ =>
      rw [evaluate] at h
      split at h
      · rename_i hfind
        obtain rfl := Except.ok.inj h
        exact iff_of_true (henv _ (Env.mem_of_find? hfind)) id
      · cases h
  | neg operand _ ih =>
      obtain ⟨x, hx, hv⟩ := bind_eq_ok.mp h
      obtain rfl := Except.ok.inj hv
      rw [Value.isCanonical_neg_iff]
      exact ih he hx
  | bin op left right _ _ _ =>
      obtain ⟨x, hx, hrest⟩ := bind_eq_ok.mp h
      obtain ⟨y, hy, hv⟩ := bind_eq_ok.mp hrest
      -- The operator alone decides, whatever becomes of its operands.
      rw [Value.isCanonical_of_apply_iff (mapError_eq_ok.mp hv)]
      refine not_congr (and_congr_right fun _ => ?_)
      constructor
      · exact fun hkeeps => ⟨x, y, hx, hy, hkeeps⟩
      · rintro ⟨_, _, hx', hy', hkeeps⟩
        obtain rfl := Except.ok.inj (hx.symm.trans hx')
        obtain rfl := Except.ok.inj (hy.symm.trans hy')
        exact hkeeps

theorem Token.isCanonical_literal (text : List Char) : (Token.literal text).IsCanonical := by
  unfold literal
  split
  · split <;> trivial
  · trivial

theorem Produced.isCanonical {e : Expr} (h : Produced e) :
    e.All Value.IsCanonical fun _ => True :=
  h.all (fun text _ => Token.isCanonical_literal text) fun _ _ => trivial

/-! ### Commands -/

def Command.KeepsQuotient (env : Env) : Command Place → Prop
  | .define _ e _ => e.KeepsQuotient env
  | .eval .. | .display .. | .load .. | .listing _ | .help _ => False

theorem env_of_execute {setup : Setup} {use : Env → FileEntry → Trace Env} {interactive : Bool}
    {env next : Env} {command : Command Place} (hload : command.IsLoad = false)
    (h : (execute setup use interactive env command).outcome = .ok next) :
    match command with
    | .define name e _ => ∃ v, e.evaluate env = .ok v ∧ next = env.insert name v
    | _ => next = env := by
  cases command with
  | load => cases hload
  | define name e _ =>
      obtain ⟨v, hv, hrest⟩ := Trace.outcome_bind_eq_ok.mp h
      refine ⟨v, (evaluate_of_compute hv).2, ?_⟩
      split at hrest
      · obtain ⟨_, -, hrest⟩ := Trace.outcome_bind_eq_ok.mp hrest
        obtain ⟨_, -, hdone⟩ := Trace.outcome_bind_eq_ok.mp hrest
        exact (Except.ok.inj hdone).symm
      · obtain ⟨_, -, hdone⟩ := Trace.outcome_bind_eq_ok.mp hrest
        exact (Except.ok.inj hdone).symm
  | eval e _ =>
      obtain ⟨_, -, hrest⟩ := Trace.outcome_bind_eq_ok.mp h
      obtain ⟨_, -, hdone⟩ := Trace.outcome_bind_eq_ok.mp hrest
      exact (Except.ok.inj hdone).symm
  | display | listing =>
      obtain ⟨_, -, hrest⟩ := Trace.outcome_bind_eq_ok.mp h
      obtain ⟨_, -, hdone⟩ := Trace.outcome_bind_eq_ok.mp hrest
      exact (Except.ok.inj hdone).symm
  | help =>
      obtain ⟨_, -, hdone⟩ := Trace.outcome_bind_eq_ok.mp h
      exact (Except.ok.inj hdone).symm

theorem isCanonical_of_execute_iff {setup : Setup} {use : Env → FileEntry → Trace Env}
    {interactive : Bool} {env next : Env} (henv : env.IsCanonical) {command : Command Place}
    (hproduced : ∀ e, command.expr? = some e → Produced e) (hload : command.IsLoad = false)
    (h : (execute setup use interactive env command).outcome = .ok next) :
    next.IsCanonical ↔ ¬command.KeepsQuotient env := by
  have hnext := env_of_execute hload h
  cases command with
  | load => cases hload
  | define name e _ =>
      obtain ⟨v, hv, rfl⟩ := hnext
      rw [henv.insert_iff]
      exact Term.isCanonical_of_evaluate_iff henv (hproduced e rfl).isCanonical hv
  | eval | display | listing | help =>
      rw [show next = env from hnext]
      exact iff_of_true henv id

/-! ### Loads -/

variable {setup : Setup} {tree : FileTree}

theorem Request.Performs.produced {request : Request} {env : Env} {command : Command Place}
    (h : request.Performs setup tree env command) {e : Expr} (he : command.expr? = some e) :
    Produced e := by
  obtain ⟨_, inner, front, back, -, -, hcontents, -⟩ := h
  exact produced_of_contents hcontents (by simp) he

theorem isCanonical_run {request : Request} (henv : request.env.IsCanonical)
    (hkept : ∀ env command, request.Performs setup tree env command → ¬command.KeepsQuotient env)
    {next : Env} (h : (request.run setup tree).outcome = .ok next) : next.IsCanonical := by
  refine invariant_run henv ?_ h
  intro use interactive env command next hperforms hload hbefore hexecute
  apply (isCanonical_of_execute_iff hbefore (fun _ => hperforms.produced) hload hexecute).mpr
  exact hkept env command hperforms

/-- Whether the second command is executed, in the second environment, while the first one is in the
first: it is the first one itself, or one that a load leads to. -/
inductive Command.Performs (setup : Setup) (tree : FileTree) (inProgress : List RealPath)
    (env : Env) : Command Place → Env → Command Place → Prop where
  | self {command : Command Place} : Performs setup tree inProgress env command env command
  | load {path : CodeText} {place : Place} {later : Env} {other : Command Place}
      (performs : (Request.mk inProgress env ⟨path, false⟩).Performs setup tree later other) :
      Performs setup tree inProgress env (.load path place) later other

theorem isCanonical_of_execute {inProgress : List RealPath} {interactive : Bool} {env next : Env}
    (henv : env.IsCanonical) {command : Command Place}
    (hproduced : ∀ e, command.expr? = some e → Produced e)
    (hkept : ∀ later other, command.Performs setup tree inProgress env later other →
      ¬other.KeepsQuotient later)
    (h : (execute setup (language.load setup tree inProgress) interactive env command).outcome =
      .ok next) : next.IsCanonical := by
  obtain hload | ⟨path, place, rfl⟩ := command.isLoad_cases
  · exact (isCanonical_of_execute_iff henv hproduced hload h).mpr (hkept _ _ .self)
  · let request : Request := ⟨inProgress, env, ⟨path, false⟩⟩
    have henv : request.env.IsCanonical := henv
    exact isCanonical_run henv (fun later other h => hkept later other (.load h)) h

/-- The environments to which files and typed commands lead from the empty one, if all commands that
are executed on the way are admitted. The files may change at any time, and so may the set-up. -/
inductive Reachable (admits : Env → Command Place → Prop) : Env → Prop where
  | initial : Reachable admits language.initial
  | file {env next : Env} (reachable : Reachable admits env) {setup : Setup} {tree : FileTree}
      {entry : FileEntry}
      (admitted : ∀ later command, (Request.mk [] env entry).Performs setup tree later command →
        admits later command)
      (succeeds : (language.useFile setup tree env entry).outcome = .ok next) :
      Reachable admits next
  | command {env next : Env} (reachable : Reachable admits env) {setup : Setup} {tree : FileTree}
      {source : Source} {command : Command Place} (typed : parseSingle source = .ok command)
      (admitted : ∀ later other, command.Performs setup tree [] env later other →
        admits later other)
      {interactive : Bool}
      (succeeds : (execute setup (language.useFile setup tree) interactive env command).outcome =
        .ok next) : Reachable admits next

theorem Reachable.isCanonical {env : Env}
    (h : Reachable (fun before command => ¬command.KeepsQuotient before) env) :
    env.IsCanonical := by
  induction h with
  | initial => exact Env.isCanonical_nil
  | @file env next _ setup tree entry admitted succeeds ih =>
      let request : Request := ⟨[], env, entry⟩
      have hstart : request.env.IsCanonical := ih
      exact isCanonical_run hstart admitted succeeds
  | command _ typed admitted succeeds ih =>
      exact isCanonical_of_execute ih (fun _ => produced_of_parseSingle _ typed) admitted succeeds

/-- Values are canonical but for integral quotients of fractions. Over canonical bindings the value
of an expression is canonical exactly if it is no such quotient, and a command leaves canonical
bindings unless one that is executed binds a name to such a quotient; one that loads nothing does so
in no other case. So all bindings are canonical in an environment that is reached without binding
such a quotient. -/
theorem values_are_canonical_but_for_kept_quotients (env : Env) :
    (env.IsCanonical → ∀ e v, Produced e → e.evaluate env = .ok v →
      (v.IsCanonical ↔ ¬e.KeepsQuotient env)) ∧
    (env.IsCanonical → ∀ setup tree inProgress interactive command next,
      (∀ e, Command.expr? command = some e → Produced e) →
      (execute setup (language.load setup tree inProgress) interactive env command).outcome =
        .ok next →
      (command.IsLoad = false → (next.IsCanonical ↔ ¬command.KeepsQuotient env)) ∧
        ((∀ later other, command.Performs setup tree inProgress env later other →
          ¬other.KeepsQuotient later) → next.IsCanonical)) ∧
    (Reachable (fun before command => ¬command.KeepsQuotient before) env → env.IsCanonical) := by
  refine ⟨?_, ?_, Reachable.isCanonical⟩
  · intro henv e v hproduced hvalue
    exact Term.isCanonical_of_evaluate_iff henv hproduced.isCanonical hvalue
  · intro henv setup tree inProgress interactive command next hproduced hexecute
    exact ⟨fun hload => isCanonical_of_execute_iff henv hproduced hload hexecute,
      fun hkept => isCanonical_of_execute henv hproduced hkept hexecute⟩

/-- A definition that is typed into an empty environment. -/
theorem reachable_of_definition {admits : Env → Command Place → Prop} {source : Source}
    {name : String} {e : Expr} {place : Place} {v : Value}
    (htyped : parseSingle source = .ok (.define name e place)) (hchecked : e.check [] = .ok ())
    (hvalue : e.evaluate [] = .ok v) (hadmits : admits [] (.define name e place)) :
    Reachable admits [(name, v)] := by
  have hcompute : (compute {} [] e).outcome = .ok v := by
    rw [outcome_compute _ _ (produced_of_parseSingle source htyped rfl), hchecked, ← hvalue]
    rfl
  have hexecute : (execute {} (language.useFile {} {}) false [] (.define name e place)).outcome =
      .ok [(name, v)] := by
    rw [execute, Trace.outcome_bind, hcompute]
    rfl
  refine .command .initial htyped ?_ hexecute
  rintro later other ⟨⟩
  exact hadmits

/-- A sum of halves is an integer. -/
theorem sum_of_halves_is_canonical :
    let env : Env := [("x", .int 1)]
    Reachable (fun before command => ¬command.KeepsQuotient before) env ∧ env.IsCanonical := by
  intro env
  obtain ⟨e, place, htyped, hchecked, hvalue, hkept⟩ : ∃ e place,
      parseSingle (.ofString "x := 1 / 2 + 1 / 2;") = .ok (.define "x" e place) ∧
        e.check [] = .ok () ∧ e.evaluate [] = .ok (.int 1) ∧ ¬e.KeepsQuotient [] := by
    refine ⟨_, _, by cbv, rfl, by cbv, ?_⟩
    rintro ⟨hop, -⟩
    cases hop
  have hreachable : Reachable (fun before command => ¬command.KeepsQuotient before) env :=
    reachable_of_definition htyped hchecked hvalue hkept
  exact ⟨hreachable, (values_are_canonical_but_for_kept_quotients env).2.2 hreachable⟩

/-- A quotient of fractions that is integral and yet no integer. -/
theorem quotient_of_fractions_is_not_canonical :
    (¬∀ env e v, Env.IsCanonical env → Produced e → e.evaluate env = .ok v → v.IsCanonical) ∧
    ¬∀ env, Reachable (fun _ _ => True) env → env.IsCanonical := by
  obtain ⟨e, place, htyped, hchecked, hvalue⟩ : ∃ e place,
      parseSingle (.ofString "x := (1 / 2) / (1 / 4);") = .ok (.define "x" e place) ∧
        e.check [] = .ok () ∧ e.evaluate [] = .ok (.fraction 2) :=
    ⟨_, _, by cbv, rfl, by cbv⟩
  have hfraction : ¬(Value.fraction 2).IsCanonical := by
    rw [Value.isCanonical_fraction_iff]
    decide
  constructor
  · intro hclaim
    apply hfraction
    exact hclaim [] e _ Env.isCanonical_nil (produced_of_parseSingle _ htyped rfl) hvalue
  · intro hclaim
    have hreachable : Reachable (fun _ _ => True) [("x", .fraction 2)] :=
      reachable_of_definition htyped hchecked hvalue trivial
    exact hfraction (hclaim _ hreachable _ List.mem_cons_self)

end LanguageShell.Calculator
