import LanguageShell.Numeral.Decimal

/-!
Numbers of the calculator: integers, fractions and floating-point numbers. Integers and fractions
are exact. Where one of them meets a floating-point number it is rounded to the nearest one first,
which may be impossible.
-/

namespace LanguageShell.Calculator

/-- A number. A fraction may be integral. -/
inductive Value where
  | int (n : Int)
  | fraction (q : Rat)
  | float (x : Binary64)
deriving DecidableEq

inductive Operator where
  | add
  | sub
  | mul
  | div
deriving DecidableEq, Repr

def Operator.symbol : Operator → Char
  | add => '+'
  | sub => '-'
  | mul => '*'
  | div => '/'

inductive ArithmeticError where
  /-- The divisor is zero. -/
  | divisionByZero
  /-- An exact operand is too large to meet a floating-point number. -/
  | overflow
  /-- The divisor is not zero, but it is rounded to zero to meet a floating-point number. -/
  | vanishingDivisor
deriving DecidableEq, Repr

namespace Value

def rational? : Value → Option Rat
  | int n => some n
  | fraction q => some q
  | float _ => none

/-- The floating-point number nearest to the value, if it is not too large. -/
def toBinary64? : Value → Option Binary64
  | int n => Binary64.ofRat? n
  | fraction q => Binary64.ofRat? q
  | float x => some x

def IsZero : Value → Prop
  | int n => n = 0
  | fraction q => q = 0
  | float x => x.isZero = true

instance (v : Value) : Decidable v.IsZero :=
  match v with
  | int n => inferInstanceAs (Decidable (n = 0))
  | fraction q => inferInstanceAs (Decidable (q = 0))
  | float x => inferInstanceAs (Decidable (x.isZero = true))

/-- A rational number as an integer, if it is one. -/
def collapse (q : Rat) : Value :=
  if q.den = 1 then int q.num else fraction q

def neg : Value → Value
  | int n => int (-n)
  | fraction q => fraction (-q)
  | float x => float (-x)

/-- The exact result of an operator; the divisor must not be zero. -/
def applyExact (op : Operator) (x y : Rat) : Rat :=
  match op with
  | .add => x + y
  | .sub => x - y
  | .mul => x * y
  | .div => x / y

def applyFloat (op : Operator) (x y : Binary64) : Except ArithmeticError Value :=
  match op with
  | .add => .ok (float (x + y))
  | .sub => .ok (float (x - y))
  | .mul => .ok (float (x * y))
  | .div => if y.isZero then .error .vanishingDivisor else .ok (float (x / y))

/-- The result of an operator. An exact one that is integral becomes an integer, except where a
fraction is divided or divides. -/
def apply (op : Operator) (left right : Value) : Except ArithmeticError Value :=
  if op = .div ∧ right.IsZero then .error .divisionByZero
  else
    match left, right with
    | int a, int b => .ok (collapse (applyExact op a b))
    | float x, _ =>
      match right.toBinary64? with
      | some y => applyFloat op x y
      | none => .error .overflow
    | _, float y =>
      match left.toBinary64? with
      | some x => applyFloat op x y
      | none => .error .overflow
    | int a, fraction q => .ok (rational op (applyExact op a q))
    | fraction p, int b => .ok (rational op (applyExact op p b))
    | fraction p, fraction q => .ok (rational op (applyExact op p q))
where
  /-- The result of an operator of which an operand is a fraction. -/
  rational (op : Operator) (q : Rat) : Value :=
    if op = .div then fraction q else collapse q

/-- Whether two values are the same number, of whatever kind. Nothing is the same as `nan`. -/
def Same : Value → Value → Prop
  | float .nan, _ => False
  | _, float .nan => False
  | float (.infinity a), float (.infinity b) => a = b
  | v, w =>
    let number (v : Value) : Option Rat := match v with
      | float x => x.toRat?
      | v => v.rational?
    (number v).isSome ∧ number v = number w

instance (v w : Value) : Decidable (v.Same w) := by
  unfold Same; split <;> infer_instance

/-- The text of a number. Only floating-point numbers are rounded to a number of decimals. -/
def toText (precision : Option Int) : Value → Except Fault String
  | int n => Integer.decimal n
  | fraction q => do
    let numerator ← Integer.decimal q.num
    if q.den = 1 then return numerator
    return numerator ++ "/" ++ (← Integer.decimal q.den)
  | float x =>
    match precision with
    | none => .ok x.toText
    | some places => (x.roundTo places).map Binary64.toText

end Value

end LanguageShell.Calculator
