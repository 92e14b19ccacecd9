import LanguageShell.Calculator.Term
import LanguageShell.Rendering

/-!
Expressions and bindings as text. An expression is written with as few parentheses as its shape
allows: the left operand of an operator may bind as loosely as the operator itself, the right one
must bind more tightly.
-/

namespace LanguageShell.Calculator

/-- How loosely an operator binds. -/
def Operator.level : Operator → Int
  | .mul => 2
  | .div => 2
  | .add => 3
  | .sub => 3

def negationLevel : Int := 1

namespace Term

/-- Renders an expression where `maxLevel` is the highest level allowed. -/
def render (renderer : Renderer) (maxLevel : Int) : Term φ α → RenderM String
  | num value _ => renderer.nest maxLevel 0 (ExceptT.mk fun depth => (value.toText none, depth))
  | var name _ => renderer.nest maxLevel 0 (pure name)
  | neg operand _ =>
    renderer.nest maxLevel negationLevel do
      return "-" ++ (← operand.render renderer negationLevel)
  | bin op left right _ =>
    renderer.nest maxLevel op.level do
      let leftText ← left.render renderer op.level
      let rightText ← right.render renderer (op.level - 1)
      return s!"{leftText} {op.symbol} {rightText}"
  | foreign _ shown => throw (.notExpression shown)

def toText (e : Term φ α) (maxLevel : Int := Renderer.topLevel) : Except Fault String :=
  (e.render {} maxLevel).result

end Term

/-- The bindings of names, each name once. -/
abbrev Env := List (String × Value)

namespace Env

def find? (env : Env) (name : String) : Option Value :=
  env.lookup name

/-- Binds a name, in place of a binding that it already has. -/
def insert (env : Env) (name : String) (value : Value) : Env :=
  match env with
  | [] => [(name, value)]
  | (other, old) :: rest =>
    if other = name then (name, value) :: rest else (other, old) :: insert rest name value

def sorted (env : Env) : Env :=
  env.mergeSort fun a b => a.1 ≤ b.1

def toText (env : Env) (precision : Option Int) : Except Fault String :=
  if env.isEmpty then .ok "(empty)"
  else
    let render (binding : String × Value) : RenderM String := ExceptT.mk fun depth =>
      ((binding.2.toText precision).map fun text => s!"{binding.1} = {text}", depth)
    (Renderer.sequence {} env.sorted render ",").result

end Env

end LanguageShell.Calculator
