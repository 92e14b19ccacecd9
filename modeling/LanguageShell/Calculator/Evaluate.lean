import LanguageShell.Calculator.Print
import LanguageShell.Diagnostic

/-!
Values of expressions. Before an expression is evaluated it is checked that all of its names are
bound; an operation that has no result is reported where the operator's expression stands.
-/

namespace LanguageShell.Calculator

namespace Term

/-- Refuses an expression with an unbound name, for the leftmost one. -/
def check (env : Env) : Term φ Place → Except Failure Unit
  | var name place =>
    if (env.find? name).isSome then .ok ()
    else .error (.diagnostic ⟨.typing, s!"unknown variable {name}", place⟩)
  | neg operand _ => operand.check env
  | bin _ left right _ => do
    left.check env
    right.check env
  | _ => .ok ()

/-- The failure of an operation, for the expression at a place. -/
def operationFailure (place : Place) : ArithmeticError → Failure
  | .divisionByZero => .diagnostic ⟨.runtime, "division by zero", place⟩
  | .overflow => .diagnostic ⟨.runtime, "numeric overflow", place⟩
  | .vanishingDivisor => .fault .floatDivisionByZero

/-- The value of an expression; the left operand of an operator comes first. -/
def evaluate (env : Env) : Term φ Place → Except Failure Value
  | num value _ => .ok value
  | var name _ =>
    match env.find? name with
    | some value => .ok value
    | none => .error (.fault (.unboundName name))
  | neg operand _ => do
    return (← operand.evaluate env).neg
  | bin op left right place => do
    let x ← left.evaluate env
    let y ← right.evaluate env
    (Value.apply op x y).mapError (operationFailure place)
  | foreign _ shown => .error (.fault (.notExpression shown))

end Term

end LanguageShell.Calculator
