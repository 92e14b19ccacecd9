import LanguageShell.Calculator.Value
import LanguageShell.Proofs.Rounding

/-!
Operators on numbers. Between exact numbers they are those of the rational numbers, with no result
for a division by zero only. An exact number that meets a floating-point one is rounded first; it
may be too large for that, and as a divisor it may vanish: it is not zero, but it is rounded to
zero.
-/

namespace LanguageShell.Calculator.Value

def IsExact (v : Value) : Prop :=
  ∃ q, v.rational? = some q

def IsFloat (v : Value) : Prop :=
  ∃ x, v = float x

/-- Whether the number is exact and lies beyond the floating-point numbers. -/
def IsTooLarge (v : Value) : Prop :=
  ∃ q, v.rational? = some q ∧ Binary64.overflowThreshold ≤ |q|

/-- Whether the number is a fraction that is not zero but is rounded to zero. -/
def Vanishes (v : Value) : Prop :=
  ∃ q, v = fraction q ∧ q ≠ 0 ∧ |q| ≤ 2 ^ (-1075 : Int)

/-- Why an operator has no result for two numbers. -/
def Fails (op : Operator) (x y : Value) : ArithmeticError → Prop
  | .divisionByZero => op = .div ∧ y.IsZero
  | .overflow =>
    ¬(op = .div ∧ y.IsZero) ∧ (x.IsFloat ∧ y.IsTooLarge ∨ x.IsTooLarge ∧ y.IsFloat)
  | .vanishingDivisor => op = .div ∧ x.IsFloat ∧ y.Vanishes

/-! ### Exact numbers -/

theorem isZero_iff_of_rational {v : Value} {q : Rat} (h : v.rational? = some q) :
    v.IsZero ↔ q = 0 := by
  cases v with
  | int n =>
      cases h
      exact Int.cast_eq_zero.symm
  | fraction p =>
      cases h
      rfl
  | float x => cases h

theorem rational?_collapse (q : Rat) : (collapse q).rational? = some q := by
  unfold collapse
  split
  · rename_i hden
    rw [rational?, Rat.coe_int_num_of_den_eq_one hden]
  · rfl

theorem rational?_neg {v : Value} {q : Rat} (h : v.rational? = some q) :
    v.neg.rational? = some (-q) := by
  cases v with
  | int n =>
      cases h
      simp [neg, rational?]
  | fraction p =>
      cases h
      rfl
  | float x => cases h

theorem apply_of_rational {op : Operator} {x y : Value} {p q : Rat} (hx : x.rational? = some p)
    (hy : y.rational? = some q) (h : ¬(op = .div ∧ q = 0)) :
    ∃ v, apply op x y = .ok v ∧ v.rational? = some (applyExact op p q) := by
  have hguard : ¬(op = .div ∧ y.IsZero) := by rwa [isZero_iff_of_rational hy]
  have hrational : ∀ r, (apply.rational op r).rational? = some r := by
    intro r
    unfold apply.rational
    split
    · rfl
    · exact rational?_collapse r
  unfold apply
  rw [if_neg hguard]
  cases x <;> cases y <;> cases hx <;> cases hy
  · exact ⟨_, rfl, rational?_collapse _⟩
  · exact ⟨_, rfl, hrational _⟩
  · exact ⟨_, rfl, hrational _⟩
  · exact ⟨_, rfl, hrational _⟩

theorem apply_of_isZero {op : Operator} {x y : Value} (h : op = .div ∧ y.IsZero) :
    apply op x y = .error .divisionByZero := by
  unfold apply
  rw [if_pos h]

/-! ### Exact numbers among floating-point ones -/

theorem toBinary64?_eq_none_iff {v : Value} : v.toBinary64? = none ↔ v.IsTooLarge := by
  cases v with
  | int n => simp [toBinary64?, IsTooLarge, rational?, Binary64.ofRat?_eq_none_iff]
  | fraction q => simp [toBinary64?, IsTooLarge, rational?, Binary64.ofRat?_eq_none_iff]
  | float x => simp [toBinary64?, IsTooLarge, rational?]

/-- Rounding makes zero of a fraction that vanishes, and of no other number that is not zero. -/
theorem isZero_of_toBinary64? {v : Value} {x : Binary64} (h : v.toBinary64? = some x) :
    x.isZero = true ↔ v.IsZero ∨ v.Vanishes := by
  cases v with
  | int n =>
      rw [toBinary64?] at h
      rw [Binary64.isZero_of_ofRat?_int h]
      simp [IsZero, Vanishes]
  | fraction q =>
      rw [toBinary64?] at h
      rw [Binary64.isZero_of_ofRat? h]
      by_cases hq : q = 0
      · simp [IsZero, hq]
      · simp [IsZero, Vanishes, hq]
  | float y =>
      cases h
      simp [IsZero, Vanishes]

theorem applyFloat_eq_error_iff {op : Operator} {x y : Binary64} {error : ArithmeticError} :
    applyFloat op x y = .error error ↔
      op = .div ∧ y.isZero = true ∧ error = .vanishingDivisor := by
  cases op with
  | add | sub | mul => simp [applyFloat]
  | div =>
      rw [applyFloat]
      split <;> simp [*, eq_comm]

theorem Vanishes.not_isTooLarge {v : Value} (h : v.Vanishes) : ¬v.IsTooLarge := by
  obtain ⟨q, rfl, -, hsmall⟩ := h
  rintro ⟨p, hp, hlarge⟩
  obtain rfl := Option.some.inj hp
  have hless : (2 : Rat) ^ (-1075 : Int) < 2 ^ (1023 : Int) :=
    zpow_lt_zpow_right₀ (by norm_num) (by norm_num)
  have hbound := Binary64.overflowThreshold_bounds.1
  linarith

@[simp]
theorem isFloat_float (x : Binary64) : (float x).IsFloat :=
  ⟨x, rfl⟩

theorem IsExact.not_isFloat {v : Value} (h : v.IsExact) : ¬v.IsFloat := by
  rintro ⟨x, rfl⟩
  obtain ⟨q, hq⟩ := h
  cases hq

theorem IsFloat.not_isTooLarge {v : Value} (h : v.IsFloat) : ¬v.IsTooLarge := by
  obtain ⟨x, rfl⟩ := h
  rintro ⟨q, hq, -⟩
  cases hq

theorem Vanishes.not_isZero {v : Value} (h : v.Vanishes) : ¬v.IsZero := by
  obtain ⟨q, rfl, hq, -⟩ := h
  exact hq

theorem isFloat_or_isExact (v : Value) : v.IsFloat ∨ v.IsExact := by
  cases v with
  | int n => exact .inr ⟨n, rfl⟩
  | fraction q => exact .inr ⟨q, rfl⟩
  | float x => exact .inl ⟨x, rfl⟩

theorem apply_float_left {op : Operator} {x : Binary64} {y : Value}
    (h : ¬(op = .div ∧ y.IsZero)) :
    apply op (float x) y =
      match y.toBinary64? with
      | some y => applyFloat op x y
      | none => .error .overflow := by
  unfold apply
  refine (if_neg h).trans ?_
  cases y <;> rfl

theorem apply_float_right {op : Operator} {x : Value} {y : Binary64} (hx : x.IsExact)
    (h : ¬(op = .div ∧ (float y).IsZero)) :
    apply op x (float y) =
      match x.toBinary64? with
      | some x => applyFloat op x y
      | none => .error .overflow := by
  unfold apply
  rw [if_neg h]
  obtain ⟨q, hq⟩ := hx
  cases x with
  | int | fraction => rfl
  | float => cases hq

theorem apply_eq_error_iff {op : Operator} {x y : Value} {error : ArithmeticError} :
    apply op x y = .error error ↔ Fails op x y error := by
  by_cases hzero : op = .div ∧ y.IsZero
  · rw [apply_of_isZero hzero]
    have hvanishes : ¬y.Vanishes := fun h => h.not_isZero hzero.2
    cases error <;> simp [Fails, hzero, hvanishes]
  obtain ⟨x, rfl⟩ | hx := x.isFloat_or_isExact
  · rw [apply_float_left hzero]
    have hleft : ¬(float x).IsTooLarge := (isFloat_float x).not_isTooLarge
    cases hy : y.toBinary64? with
    | none =>
        have hlarge := toBinary64?_eq_none_iff.mp hy
        have hvanishes : ¬y.Vanishes := fun h => h.not_isTooLarge hlarge
        cases error <;> simp [Fails, hzero, hlarge, hvanishes]
    | some b =>
        have hlarge : ¬y.IsTooLarge := by simp [← toBinary64?_eq_none_iff, hy]
        simp only [applyFloat_eq_error_iff, isZero_of_toBinary64? hy]
        cases error with
        | divisionByZero => simp [Fails, hzero]
        | overflow => simp [Fails, hlarge, hleft]
        | vanishingDivisor =>
            simp only [Fails, isFloat_float, true_and, and_true]
            tauto
  have hfloat := hx.not_isFloat
  obtain ⟨y, rfl⟩ | hy := y.isFloat_or_isExact
  · rw [apply_float_right hx hzero]
    cases hx : x.toBinary64? with
    | none =>
        have hlarge := toBinary64?_eq_none_iff.mp hx
        cases error <;> simp [Fails, hzero, hlarge, hfloat]
    | some a =>
        have hlarge : ¬x.IsTooLarge := by simp [← toBinary64?_eq_none_iff, hx]
        simp only [applyFloat_eq_error_iff]
        cases error with
        | divisionByZero => simp [Fails, hzero]
        | overflow => simp [Fails, hlarge, hfloat]
        | vanishingDivisor =>
            -- The divisor itself is zero, which is found before.
            simp only [Fails, hfloat, false_and, and_false, and_true, iff_false]
            exact hzero
  · have hright := hy.not_isFloat
    obtain ⟨p, hp⟩ := hx
    obtain ⟨q, hq⟩ := hy
    obtain ⟨v, hv, -⟩ := apply_of_rational hp hq (by rwa [← isZero_iff_of_rational hq])
    rw [hv]
    cases error <;> simp [Fails, hzero, hfloat, hright]

end LanguageShell.Calculator.Value
