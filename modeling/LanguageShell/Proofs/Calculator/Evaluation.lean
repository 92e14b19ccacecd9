import LanguageShell.Proofs.Calculator.Arithmetic
import LanguageShell.Proofs.Calculator.NestedLoad
import LanguageShell.Proofs.Calculator.RoundTrip

/-!
Where the evaluation of an expression fails. Its operations take place one after another, those of
the left operand of an operator before those of the right one, and the operator itself last. If all
names are bound, the first operation that has no result decides how the evaluation fails, and
without one there is a value. Over exact numbers that value is the one in the rational numbers, and
only a division by zero has no result.
-/

namespace LanguageShell.Calculator

/-- An operator in an expression, with its operands. -/
structure Operation (φ α : Type) where
  op : Operator
  left : Term φ α
  right : Term φ α
  note : α

namespace Operation

variable {φ α : Type}

def term (operation : Operation φ α) : Term φ α :=
  .bin operation.op operation.left operation.right operation.note

/-- Whether the operation has no result, its operands included. -/
def fails (env : Env) (operation : Operation φ Place) : Bool :=
  !(operation.term.evaluate env).isOk

end Operation

namespace Term

variable {φ α : Type}

/-- The operations of an expression in the order in which they take place. -/
def operations : Term φ α → List (Operation φ α)
  | num .. | var .. | foreign .. => []
  | neg operand _ => operand.operations
  | bin op left right note => left.operations ++ right.operations ++ [⟨op, left, right, note⟩]

def divisions (e : Term φ α) : List (Operation φ α) :=
  e.operations.filter (·.op = .div)

theorem mem_operations_iff {operation : Operation φ α} {e : Term φ α} :
    operation ∈ e.operations ↔ Within operation.term e := by
  constructor
  · intro h
    induction e with
    | num | var | foreign => cases h
    | neg operand _ ih => exact .neg (ih h)
    | bin op left right note ihl ihr =>
        simp only [operations, List.mem_append, List.mem_singleton] at h
        obtain (h | h) | rfl := h
        · exact .left (ihl h)
        · exact .right (ihr h)
        · exact .self
  · intro h
    induction h with
    | self => simp [Operation.term, operations]
    | neg _ ih => exact ih
    | left _ ih => simp [operations, ih]
    | right _ ih => simp [operations, ih]

/-- The operation at which the evaluation of an expression fails. -/
def firstFailure (env : Env) (e : Term φ Place) : Option (Operation φ Place) :=
  e.operations.find? (·.fails env)

theorem firstFailure_bin (env : Env) (op : Operator) (left right : Term φ Place) (place : Place) :
    (bin op left right place).firstFailure env =
      ((left.firstFailure env).or (right.firstFailure env)).or
        ([⟨op, left, right, place⟩].find? (·.fails env)) := by
  rw [firstFailure, operations, List.find?_append, List.find?_append]
  rfl

end Term

namespace Term

variable {φ : Type} {env : Env} {left right operand : Term φ Place} {failure : Failure}

theorem evaluate_neg_of_ok {x : Value} (h : operand.evaluate env = .ok x) (place : Place) :
    (neg operand place).evaluate env = .ok x.neg := by
  rw [evaluate, h]
  rfl

theorem evaluate_neg_of_error (h : operand.evaluate env = .error failure) (place : Place) :
    (neg operand place).evaluate env = .error failure := by
  rw [evaluate, h]
  rfl

theorem evaluate_bin_of_left (h : left.evaluate env = .error failure) (op : Operator)
    (place : Place) : (bin op left right place).evaluate env = .error failure := by
  rw [evaluate, h]
  rfl

theorem evaluate_bin_of_right {x : Value} (hx : left.evaluate env = .ok x)
    (h : right.evaluate env = .error failure) (op : Operator) (place : Place) :
    (bin op left right place).evaluate env = .error failure := by
  rw [evaluate, hx, h]
  rfl

theorem evaluate_bin_of_operands {x y : Value} (hx : left.evaluate env = .ok x)
    (hy : right.evaluate env = .ok y) (op : Operator) (place : Place) :
    (bin op left right place).evaluate env =
      (Value.apply op x y).mapError (operationFailure place) := by
  rw [evaluate, hx, hy]
  rfl

end Term

def Operation.Fails {φ : Type} (env : Env) (operation : Operation φ Place)
    (error : ArithmeticError) : Prop :=
  ∃ x y, operation.left.evaluate env = .ok x ∧ operation.right.evaluate env = .ok y ∧
    Value.Fails operation.op x y error

namespace Term

variable {env : Env}

theorem evaluate_bin_cases {left right : Expr} {x y : Value}
    (hx : left.evaluate env = .ok x) (hy : right.evaluate env = .ok y) (op : Operator)
    (place : Place) :
    match [Operation.mk op left right place].find? (·.fails env) with
    | none => ∃ v, (bin op left right place).evaluate env = .ok v
    | some operation => ∃ error, operation.Fails env error ∧
        (bin op left right place).evaluate env =
          .error (operationFailure operation.note error) := by
  have hvalue := evaluate_bin_of_operands hx hy op place
  have hlast : (Operation.mk op left right place).fails env =
      !((Value.apply op x y).mapError (operationFailure place)).isOk := by
    rw [← hvalue]
    rfl
  rw [hvalue, List.find?_cons, hlast]
  cases happly : Value.apply op x y with
  | ok v => exact ⟨v, rfl⟩
  | error error => exact ⟨error, ⟨x, y, hx, hy, Value.apply_eq_error_iff.mp happly⟩, rfl⟩

/-- An expression whose names are bound has a value, unless an operation fails; then the first one
that does so decides the failure. -/
theorem evaluate_of_check {e : Expr} (h : e.check env = .ok ()) :
    match e.firstFailure env with
    | none => ∃ v, e.evaluate env = .ok v
    | some operation => ∃ error, operation.Fails env error ∧
        e.evaluate env = .error (operationFailure operation.note error) := by
  induction e with
  | num value _ => exact ⟨value, rfl⟩
  | foreign allowed _ => exact nomatch allowed
  | var name place =>
      show ∃ v, evaluate env (var name place) = .ok v
      rw [check] at h
      split at h
      · rename_i hbound
        obtain ⟨v, hv⟩ := Option.isSome_iff_exists.mp hbound
        exact ⟨v, by rw [evaluate, hv]⟩
      · cases h
  | neg operand place ih =>
      have hoperand := ih h
      show match operand.firstFailure env with | none => _ | some operation => _
      cases hfirst : operand.firstFailure env with
      | none =>
          rw [hfirst] at hoperand
          obtain ⟨v, hv⟩ := hoperand
          exact ⟨v.neg, evaluate_neg_of_ok hv place⟩
      | some operation =>
          rw [hfirst] at hoperand
          obtain ⟨error, hfails, herror⟩ := hoperand
          exact ⟨error, hfails, evaluate_neg_of_error herror place⟩
  | bin op left right place ihl ihr =>
      obtain ⟨_, hleft, hright⟩ := bind_eq_ok.mp h
      have hl := ihl hleft
      have hr := ihr hright
      rw [firstFailure_bin]
      cases hfirst : left.firstFailure env with
      | some operation =>
          rw [hfirst] at hl
          obtain ⟨error, hfails, herror⟩ := hl
          exact ⟨error, hfails, evaluate_bin_of_left herror op place⟩
      | none =>
          rw [hfirst] at hl
          obtain ⟨x, hx⟩ := hl
          cases hsecond : right.firstFailure env with
          | some operation =>
              rw [hsecond] at hr
              obtain ⟨error, hfails, herror⟩ := hr
              exact ⟨error, hfails, evaluate_bin_of_right hx herror op place⟩
          | none =>
              rw [hsecond] at hr
              obtain ⟨y, hy⟩ := hr
              rw [Option.none_or, Option.none_or]
              exact evaluate_bin_cases hx hy op place

/-- Whether evaluation fails where a floating-point number is divided by a fraction that is not zero
but is rounded to zero. -/
def DividesByVanishing (env : Env) (e : Expr) : Prop :=
  ∃ operation, e.firstFailure env = some operation ∧ operation.Fails env .vanishingDivisor

theorem evaluate_eq_error_iff {e : Expr} (h : e.check env = .ok ()) {failure : Failure} :
    e.evaluate env = .error failure ↔
      ∃ operation error, e.firstFailure env = some operation ∧ operation.Fails env error ∧
        failure = operationFailure operation.note error := by
  have hfirst := evaluate_of_check h
  cases hfailure : e.firstFailure env with
  | none =>
      rw [hfailure] at hfirst
      obtain ⟨v, hv⟩ := hfirst
      simp [hv]
  | some operation =>
      rw [hfailure] at hfirst
      obtain ⟨error, hfails, herror⟩ := hfirst
      rw [herror]
      constructor
      · intro hsame
        exact ⟨operation, error, rfl, hfails, (Except.error.inj hsame).symm⟩
      · rintro ⟨_, other, hother, ⟨x, y, hx, hy, hothers⟩, rfl⟩
        obtain rfl := Option.some.inj hother
        obtain ⟨x', y', hx', hy', hfails⟩ := hfails
        -- The operands have one value each, and so has the operator one failure.
        obtain rfl := Except.ok.inj (hx.symm.trans hx')
        obtain rfl := Except.ok.inj (hy.symm.trans hy')
        have hsame := (Value.apply_eq_error_iff.mpr hfails).symm.trans
          (Value.apply_eq_error_iff.mpr hothers)
        rw [Except.error.inj hsame]

end Term

open Term in
/-- An expression whose names are bound fails at the first of its operations that has no result, and
in no other way. So it has a value or fails with an error of the runtime at a node with an operator,
unless that operation divides a floating-point number by a fraction so small that it is rounded to
zero. -/
theorem checked_evaluation_fails_at_operator {env : Env} {e : Expr} (h : e.check env = .ok ()) :
    (∀ failure, e.evaluate env = .error failure ↔
      ∃ operation error, e.firstFailure env = some operation ∧ operation.Fails env error ∧
        failure = operationFailure operation.note error) ∧
    (((∃ v, e.evaluate env = .ok v) ∨
        ∃ op left right place, Within (.bin op left right place) e ∧
          ∃ message ∈ ["division by zero", "numeric overflow"],
            e.evaluate env = .error (.diagnostic ⟨.runtime, message, place⟩)) ↔
      ¬e.DividesByVanishing env) := by
  refine ⟨fun _ => evaluate_eq_error_iff h, ?_⟩
  constructor
  · rintro hclaim ⟨operation, hfirst, hfails⟩
    have hfault : e.evaluate env = .error (.fault .floatDivisionByZero) :=
      (evaluate_eq_error_iff h).mpr ⟨operation, _, hfirst, hfails, rfl⟩
    rw [hfault] at hclaim
    obtain ⟨v, hv⟩ | ⟨op, left, right, place, -, message, -, hfailure⟩ := hclaim
    · cases hv
    · cases hfailure
  · intro hvanishing
    cases hvalue : e.evaluate env with
    | ok v => exact .inl ⟨v, rfl⟩
    | error failure =>
        obtain ⟨operation, error, hfirst, hfails, rfl⟩ := (evaluate_eq_error_iff h).mp hvalue
        have hwithin := mem_operations_iff.mp (List.mem_of_find?_eq_some hfirst)
        refine .inr ⟨_, _, _, _, hwithin, ?_⟩
        cases error with
        | divisionByZero => exact ⟨_, List.mem_cons_self, rfl⟩
        | overflow => exact ⟨_, List.mem_cons_of_mem _ List.mem_cons_self, rfl⟩
        | vanishingDivisor => exact absurd ⟨operation, hfirst, hfails⟩ hvanishing

/-- A division by zero within a difference. -/
theorem evaluation_of_quotient_by_zero :
    let place := Extent.place (.ofString "1 - 2 / 0") ⟨4, 9⟩
    let e : Expr := .bin .sub (.num (.int 1) .unknown)
      (.bin .div (.num (.int 2) .unknown) (.num (.int 0) .unknown) place) .unknown
    e.check [] = .ok () ∧ ¬e.DividesByVanishing [] ∧
      e.evaluate [] = .error (.diagnostic ⟨.runtime, "division by zero", place⟩) := by
  intro place e
  have hcheck : e.check [] = .ok () := rfl
  have hfails : e.evaluate [] = .error (.diagnostic ⟨.runtime, "division by zero", place⟩) := by
    refine ((checked_evaluation_fails_at_operator hcheck).1 _).mpr ?_
    refine ⟨⟨.div, .num (.int 2) .unknown, .num (.int 0) .unknown, place⟩, .divisionByZero,
      rfl, ⟨.int 2, .int 0, rfl, rfl, rfl, rfl⟩, rfl⟩
  refine ⟨hcheck, ?_, hfails⟩
  apply (checked_evaluation_fails_at_operator hcheck).2.mp
  exact .inr ⟨_, _, _, _, .right .self, _, List.mem_cons_self, hfails⟩

theorem Value.vanishes_of_rational {v : Value} {q : Rat} (h : v.rational? = some q) (hne : q ≠ 0)
    (hsmall : |q| ≤ 2 ^ (-1075 : Int)) : v.Vanishes := by
  cases v with
  | int n =>
      -- No integer is that small.
      obtain rfl := Option.some.inj h
      have hone : |(n : Rat)| < 1 :=
        hsmall.trans_lt (zpow_lt_one_of_neg₀ (by norm_num) (by norm_num))
      have hzero : n = 0 := Int.abs_lt_one_iff.mp (by exact_mod_cast hone)
      exact absurd (by rw [hzero, Int.cast_zero]) hne
  | fraction p =>
      obtain rfl := Option.some.inj h
      exact ⟨p, rfl, hne, hsmall⟩
  | float x => cases h

open Term in
/-- A floating-point number divided by a fraction that is rounded to zero: the failure is none that
has a place. -/
theorem evaluation_fails_without_place :
    ¬∀ (env : Env) (e : Expr), e.check env = .ok () →
      (∃ v, e.evaluate env = .ok v) ∨
        ∃ op left right place, Within (.bin op left right place) e ∧
          ∃ message ∈ ["division by zero", "numeric overflow"],
            e.evaluate env = .error (.diagnostic ⟨.runtime, message, place⟩) := by
  intro hclaim
  obtain ⟨n, hn⟩ : ∃ n : Int, (n : Rat) = 2 ^ 1075 :=
    ⟨2 ^ 1075, by rw [Int.cast_pow, Int.cast_ofNat]⟩
  have hpositive : (0 : Rat) < n := by
    rw [hn]
    positivity
  let tiny : Expr := .bin .div (.num (.int 1) .unknown) (.num (.int n) .unknown) .unknown
  let e : Expr := .bin .div (.num (.float (.ofRat false 1)) .unknown) tiny .unknown
  have hguard : ¬(Operator.div = .div ∧ (n : Rat) = 0) := fun h => hpositive.ne' h.2
  obtain ⟨y, hy, hrational⟩ :=
    Value.apply_of_rational (x := .int 1) (y := .int n) rfl rfl hguard
  have hvanishes : y.Vanishes := by
    apply Value.vanishes_of_rational hrational
    · exact div_ne_zero (by norm_num) hpositive.ne'
    · show |((1 : Int) : Rat) / n| ≤ _
      rw [Int.cast_one, abs_of_pos (by positivity), one_div, hn, zpow_neg]
      rfl
  have htiny : tiny.evaluate [] = .ok y := by
    show (Value.apply _ _ _).mapError _ = _
    rw [hy]
    rfl
  have hfault : e.evaluate [] = .error (.fault .floatDivisionByZero) := by
    have hfails : Value.apply .div (.float (.ofRat false 1)) y = .error .vanishingDivisor :=
      Value.apply_eq_error_iff.mpr ⟨rfl, Value.isFloat_float _, hvanishes⟩
    show tiny.evaluate [] >>= _ = _
    rw [htiny]
    show (Value.apply _ _ _).mapError _ = _
    rw [hfails]
    rfl
  obtain ⟨v, hv⟩ | ⟨op, left, right, place, -, message, -, hfailure⟩ := hclaim [] e rfl
  · cases hfault.symm.trans hv
  · cases hfault.symm.trans hfailure

/-! ### Exact numbers -/

namespace Term

variable {φ α : Type}

/-- The value of an expression in the rational numbers, unless it divides by zero. -/
def rational? (env : Env) : Term φ α → Option Rat
  | num value _ => value.rational?
  | var name _ => (env.find? name).bind Value.rational?
  | neg operand _ => (operand.rational? env).map (-·)
  | bin op left right _ => do
    let p ← left.rational? env
    let q ← right.rational? env
    if op = .div ∧ q = 0 then none else some (Value.applyExact op p q)
  | foreign .. => none

def firstDivisionByZero (env : Env) (e : Term φ α) : Option (Operation φ α) :=
  e.divisions.find? (·.right.rational? env = some 0)

theorem firstDivisionByZero_bin (env : Env) (op : Operator) (left right : Term φ α) (note : α) :
    (bin op left right note).firstDivisionByZero env =
      ((left.firstDivisionByZero env).or (right.firstDivisionByZero env)).or
        (if op = .div ∧ right.rational? env = some 0 then some ⟨op, left, right, note⟩
          else none) := by
  rw [firstDivisionByZero, divisions, operations, List.filter_append, List.filter_append,
    List.find?_append, List.find?_append]
  congr 1
  by_cases hop : op = .div <;> by_cases hright : right.rational? env = some 0 <;>
    simp [hop, hright]

theorem exists_divisor_of_rational? {env : Env} {e : Term φ α} {value : Rat}
    (h : e.rational? env = some value) {division : Operation φ α} (hmem : division ∈ e.divisions) :
    ∃ q, division.right.rational? env = some q ∧ q ≠ 0 := by
  induction e generalizing value with
  | num | var | foreign => cases hmem
  | neg operand _ ih =>
      obtain ⟨q, hq, -⟩ := Option.map_eq_some_iff.mp h
      exact ih hq hmem
  | bin op left right note ihl ihr =>
      simp only [rational?, Option.bind_eq_bind, Option.bind_eq_some_iff] at h
      obtain ⟨p, hp, q, hq, hresult⟩ := h
      simp only [divisions, operations, List.filter_append, List.mem_append] at hmem
      obtain (hmem | hmem) | hmem := hmem
      · exact ihl hp hmem
      · exact ihr hq hmem
      · simp only [List.mem_filter, List.mem_singleton, decide_eq_true_eq] at hmem
        obtain ⟨rfl, hop⟩ := hmem
        refine ⟨q, hq, fun hzero => ?_⟩
        rw [if_pos ⟨hop, hzero⟩] at hresult
        cases hresult

theorem evaluate_bin_of_rational {env : Env} {left right : Term φ Place} {x y : Value}
    {p q : Rat} (hx : left.evaluate env = .ok x) (hxp : x.rational? = some p)
    (hp : left.rational? env = some p) (hy : right.evaluate env = .ok y)
    (hyq : y.rational? = some q) (hq : right.rational? env = some q) (op : Operator)
    (place : Place) :
    if op = .div ∧ q = 0 then
      (bin op left right place).evaluate env =
        .error (.diagnostic ⟨.runtime, "division by zero", place⟩)
    else ∃ v r, (bin op left right place).evaluate env = .ok v ∧ v.rational? = some r ∧
      (bin op left right place).rational? env = some r := by
  rw [evaluate_bin_of_operands hx hy op place]
  split
  · rename_i hzero
    have hdivisor : op = .div ∧ y.IsZero := by
      rwa [Value.isZero_iff_of_rational hyq]
    rw [Value.apply_of_isZero hdivisor]
    rfl
  · rename_i hzero
    obtain ⟨v, hv, hrational⟩ := Value.apply_of_rational hxp hyq hzero
    refine ⟨v, _, by rw [hv]; rfl, hrational, ?_⟩
    show (left.rational? env).bind (fun p => (right.rational? env).bind fun q => _) = _
    rw [hp, hq]
    exact if_neg hzero

/-- Over exact numbers evaluation goes on in the rational numbers up to the first division by
zero. -/
theorem evaluate_of_exact {env : Env} {e : Term φ Place}
    (henv : ∀ name v, env.find? name = some v → v.IsExact)
    (he : e.All Value.IsExact fun name => (env.find? name).isSome) :
    match e.firstDivisionByZero env with
    | none => ∃ v q, e.evaluate env = .ok v ∧ v.rational? = some q ∧ e.rational? env = some q
    | some division =>
        e.evaluate env = .error (.diagnostic ⟨.runtime, "division by zero", division.note⟩) := by
  induction e with
  | num value _ =>
      obtain ⟨q, hq⟩ := he
      exact ⟨value, q, rfl, hq, hq⟩
  | foreign => cases he
  | var name place =>
      obtain ⟨v, hv⟩ := Option.isSome_iff_exists.mp he
      obtain ⟨q, hq⟩ := henv name v hv
      refine ⟨v, q, ?_, hq, ?_⟩
      · rw [evaluate, hv]
      · rw [rational?, hv]
        exact hq
  | neg operand place ih =>
      have hoperand := ih he
      show match operand.firstDivisionByZero env with | none => _ | some division => _
      cases hfirst : operand.firstDivisionByZero env with
      | none =>
          rw [hfirst] at hoperand
          obtain ⟨v, q, hv, hrational, hq⟩ := hoperand
          refine ⟨v.neg, -q, evaluate_neg_of_ok hv place, Value.rational?_neg hrational, ?_⟩
          rw [rational?, hq]
          rfl
      | some division =>
          rw [hfirst] at hoperand
          exact evaluate_neg_of_error hoperand place
  | bin op left right place ihl ihr =>
      have hl := ihl he.1
      have hr := ihr he.2
      rw [firstDivisionByZero_bin]
      cases hfirst : left.firstDivisionByZero env with
      | some division =>
          rw [hfirst] at hl
          exact evaluate_bin_of_left hl op place
      | none =>
          rw [hfirst] at hl
          obtain ⟨x, p, hx, hxp, hp⟩ := hl
          cases hsecond : right.firstDivisionByZero env with
          | some division =>
              rw [hsecond] at hr
              exact evaluate_bin_of_right hx hr op place
          | none =>
              rw [hsecond] at hr
              obtain ⟨y, q, hy, hyq, hq⟩ := hr
              have hlast := evaluate_bin_of_rational hx hxp hp hy hyq hq op place
              simp only [hq, Option.some.injEq, Option.none_or]
              split at hlast
              · rename_i hzero
                rw [if_pos hzero]
                exact hlast
              · rename_i hzero
                rw [if_neg hzero]
                exact hlast

end Term

theorem Env.mem_of_find? {env : Env} {name : String} {v : Value} (h : env.find? name = some v) :
    (name, v) ∈ env := by
  obtain ⟨front, back, rfl, -⟩ := List.lookup_eq_some_iff.mp h
  simp

open Term in
/-- Exact arithmetic is exact: where all literals and bindings are integers and fractions, nothing
is rounded and nothing overflows. The value is the one in the rational numbers if all divisors have
one there that is not zero; otherwise evaluation fails at the first division by zero. -/
theorem exact_evaluation_is_rational (env : Env) (e : Expr)
    (henv : ∀ binding ∈ env, binding.2.IsExact)
    (he : e.All Value.IsExact fun name => (env.find? name).isSome) :
    (∀ x, e.evaluate env ≠ .ok (.float x)) ∧
    (∀ place, e.evaluate env ≠ .error (.diagnostic ⟨.runtime, "numeric overflow", place⟩)) ∧
    ((∀ division ∈ e.divisions, ∃ q, division.right.rational? env = some q ∧ q ≠ 0) →
      ∃ v q, e.evaluate env = .ok v ∧ v.rational? = some q ∧ e.rational? env = some q) ∧
    (¬(∀ division ∈ e.divisions, ∃ q, division.right.rational? env = some q ∧ q ≠ 0) →
      ∃ division, e.divisions.find? (·.right.rational? env = some 0) = some division ∧
        e.evaluate env =
          .error (.diagnostic ⟨.runtime, "division by zero", division.note⟩)) := by
  have hevaluate := evaluate_of_exact (fun name v h => henv _ (Env.mem_of_find? h)) he
  cases hfirst : e.firstDivisionByZero env with
  | none =>
      rw [hfirst] at hevaluate
      obtain ⟨v, q, hv, hrational, hq⟩ := hevaluate
      refine ⟨?_, ?_, fun _ => ⟨v, q, hv, hrational, hq⟩, fun hzero => ?_⟩
      · intro x hx
        rw [Except.ok.inj (hv.symm.trans hx)] at hrational
        cases hrational
      · simp [hv]
      · exact absurd (fun _ => exists_divisor_of_rational? hq) hzero
  | some division =>
      rw [hfirst] at hevaluate
      have hzero : division.right.rational? env = some 0 := by
        simpa using List.find?_some hfirst
      refine ⟨?_, ?_, fun hnonzero => ?_, fun _ => ⟨division, hfirst, hevaluate⟩⟩
      · simp [hevaluate]
      · simp [hevaluate]
      · obtain ⟨q, hq, hne⟩ := hnonzero division (List.mem_of_find?_eq_some hfirst)
        rw [hzero] at hq
        exact absurd (Option.some.inj hq).symm hne

/-- Six divided by a sixth, which is the difference of a fraction and a quotient; and by a
difference that is zero. -/
theorem exact_evaluation_of_differences :
    let env : Env := [("n", .int 6), ("x", .fraction (1 / 2))]
    let place := Extent.place (.ofString "n / (x - x)") ⟨0, 11⟩
    let quotient (divisor : Expr) : Expr := .bin .div (.var "n" .unknown) divisor place
    let sixth : Expr := .bin .sub (.var "x" .unknown)
      (.bin .div (.num (.int 1) .unknown) (.num (.int 3) .unknown) .unknown) .unknown
    let zero : Expr := .bin .sub (.var "x" .unknown) (.var "x" .unknown) .unknown
    (∃ v, (quotient sixth).evaluate env = .ok v ∧ v.rational? = some 36) ∧
      (quotient zero).evaluate env =
        .error (.diagnostic ⟨.runtime, "division by zero", place⟩) := by
  intro env place quotient sixth zero
  have henv : ∀ binding ∈ env, binding.2.IsExact := by
    intro binding hbinding
    simp only [env, List.mem_cons, List.not_mem_nil, or_false] at hbinding
    obtain rfl | rfl := hbinding
    · exact ⟨6, rfl⟩
    · exact ⟨1 / 2, rfl⟩
  have hx : env.find? "x" = some (.fraction (1 / 2)) := rfl
  have hsixth : sixth.rational? env = some (1 / 6) := by
    norm_num [sixth, Term.rational?, hx, Value.rational?, Value.applyExact]
  have hzero : zero.rational? env = some 0 := by
    norm_num [zero, Term.rational?, hx, Value.rational?, Value.applyExact]
  constructor
  · have he : (quotient sixth).All Value.IsExact fun name => (env.find? name).isSome :=
      ⟨rfl, rfl, ⟨1, rfl⟩, ⟨3, rfl⟩⟩
    have hdivisors : ∀ division ∈ (quotient sixth).divisions,
        ∃ q, division.right.rational? env = some q ∧ q ≠ 0 := by
      intro division hdivision
      simp only [Term.divisions, Term.operations, quotient, sixth, List.nil_append,
        List.cons_append, List.filter_cons, List.filter_nil, decide_true, if_true, reduceCtorEq,
        decide_false, Bool.false_eq_true, if_false, List.mem_cons, List.not_mem_nil,
        or_false] at hdivision
      obtain rfl | rfl := hdivision
      · exact ⟨3, rfl, by norm_num⟩
      · exact ⟨1 / 6, hsixth, by norm_num⟩
    obtain ⟨v, q, hv, hrational, hq⟩ :=
      (exact_evaluation_is_rational env _ henv he).2.2.1 hdivisors
    refine ⟨v, hv, hrational.trans (hq.symm.trans ?_)⟩
    show ((some 6).bind fun p => (sixth.rational? env).bind fun q => _) = _
    rw [hsixth]
    norm_num [Value.applyExact]
  · have he : (quotient zero).All Value.IsExact fun name => (env.find? name).isSome :=
      ⟨rfl, rfl, rfl⟩
    have hmem : ⟨.div, .var "n" .unknown, zero, place⟩ ∈ (quotient zero).divisions :=
      List.mem_singleton.mpr rfl
    obtain ⟨division, hfirst, hfails⟩ :=
      (exact_evaluation_is_rational env _ henv he).2.2.2 fun hdivisors => by
        obtain ⟨q, hq, hne⟩ := hdivisors _ hmem
        exact hne (Option.some.inj (hq.symm.trans hzero))
    have hdivision := List.mem_of_find?_eq_some hfirst
    rw [List.mem_singleton.mp hdivision] at hfails
    exact hfails

end LanguageShell.Calculator
