import LanguageShell.Calculator.Value
import LanguageShell.Source.Location

/-!
Expressions and commands of the calculator. Each node is annotated, usually with its place.

A tree that is put together outside the parser may hold other things where an expression is
expected. The parameter `φ` says whether that may happen: there is no such leaf in a
`Term Empty α`.
-/

namespace LanguageShell.Calculator

/-- A tree of numbers, variables and operators, with an annotation on each node. -/
inductive Term (φ α : Type) where
  | num (value : Value) (note : α)
  | var (name : String) (note : α)
  | neg (operand : Term φ α) (note : α)
  | bin (op : Operator) (left right : Term φ α) (note : α)
  /-- Something that is no expression, with the text that shows it. -/
  | foreign (allowed : φ) (shown : String)

abbrev Expr := Term Empty Place

namespace Term

def map (f : α → β) : Term φ α → Term φ β
  | num value note => num value (f note)
  | var name note => var name (f note)
  | neg operand note => neg (operand.map f) (f note)
  | bin op left right note => bin op (left.map f) (right.map f) (f note)
  | foreign allowed shown => foreign allowed shown

/-- Whether two expressions are the same but for annotations; literals compare as numbers. -/
def Same : Term Empty α → Term Empty β → Prop
  | num v _, num w _ => v.Same w
  | var x _, var y _ => x = y
  | neg e _, neg f _ => e.Same f
  | bin op e f _, bin op' e' f' _ => op = op' ∧ e.Same e' ∧ f.Same f'
  | _, _ => False

instance decideSame : (e : Term Empty α) → (f : Term Empty β) → Decidable (e.Same f)
  | num v _, num w _ => inferInstanceAs (Decidable (v.Same w))
  | var x _, var y _ => inferInstanceAs (Decidable (x = y))
  | neg e _, neg f _ => decideSame e f
  | bin op e f _, bin op' e' f' _ =>
    have := decideSame e e'
    have := decideSame f f'
    inferInstanceAs (Decidable (op = op' ∧ e.Same e' ∧ f.Same f'))
  | num .., var .. | num .., neg .. | num .., bin .. => isFalse id
  | var .., num .. | var .., neg .. | var .., bin .. => isFalse id
  | neg .., num .. | neg .., var .. | neg .., bin .. => isFalse id
  | bin .., num .. | bin .., var .. | bin .., neg .. => isFalse id

end Term

inductive Command (α : Type) where
  /-- Binds a name to the value of an expression. -/
  | define (name : String) (expr : Term Empty α) (note : α)
  /-- Shows the value of an expression. -/
  | eval (expr : Term Empty α) (note : α)
  /-- Shows an expression. -/
  | display (expr : Term Empty α) (note : α)
  /-- Runs the commands of a file. -/
  | load (path : CodeText) (note : α)
  /-- Lists the bindings. -/
  | listing (note : α)
  | help (note : α)

namespace Command

def map (f : α → β) : Command α → Command β
  | define name expr note => define name (expr.map f) (f note)
  | eval expr note => eval (expr.map f) (f note)
  | display expr note => display (expr.map f) (f note)
  | load path note => load path (f note)
  | listing note => listing (f note)
  | help note => help (f note)

def Same : Command α → Command β → Prop
  | define x e _, define y f _ => x = y ∧ e.Same f
  | eval e _, eval f _ => e.Same f
  | display e _, display f _ => e.Same f
  | load p _, load q _ => p = q
  | listing _, listing _ => True
  | help _, help _ => True
  | _, _ => False

instance (c : Command α) (d : Command β) : Decidable (c.Same d) := by
  unfold Same; split <;> infer_instance

def AllSame : List (Command α) → List (Command β) → Prop
  | [], [] => True
  | c :: cs, d :: ds => c.Same d ∧ AllSame cs ds
  | _, _ => False

instance decideAllSame : (cs : List (Command α)) → (ds : List (Command β)) →
    Decidable (AllSame cs ds)
  | [], [] => isTrue trivial
  | c :: cs, d :: ds =>
    have := decideAllSame cs ds
    inferInstanceAs (Decidable (c.Same d ∧ AllSame cs ds))
  | [], _ :: _ => isFalse id
  | _ :: _, [] => isFalse id

end Command

end LanguageShell.Calculator
