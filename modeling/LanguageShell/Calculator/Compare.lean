import LanguageShell.Calculator.Parse
import LanguageShell.Calculator.Print

/-!
Texts that mean the same. Two files do if they hold the same commands but for places, and an
expression reads back if its printed form holds the same expression.
-/

namespace LanguageShell.Calculator

def Command.expr? : Command α → Option (Term Empty α)
  | define _ expr _ => some expr
  | eval expr _ => some expr
  | display expr _ => some expr
  | _ => none

def sameFiles (a b : String) : Except Failure Bool := do
  let first ← Parser.located parseFile (Source.ofString a)
  let second ← Parser.located parseFile (Source.ofString b)
  return decide (Command.AllSame first second)

/-- Whether the expression of a command is the same after it is printed and read again. -/
def readsBack (text : String) : Except Failure Bool := do
  let command ← Parser.located parseSingle (Source.ofString text)
  match command.expr? with
  | none => return false
  | some expr =>
    let printed ← expr.toText.mapError Failure.fault
    let again ← Parser.located parseSingle (Source.ofString (printed ++ ";"))
    match again.expr? with
    | none => return false
    | some other => return decide (expr.Same other)

end LanguageShell.Calculator
