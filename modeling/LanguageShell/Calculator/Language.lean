import LanguageShell.Calculator.Evaluate
import LanguageShell.Calculator.Parse
import LanguageShell.Language

/-!
The calculator as a language: arithmetic with bindings, in files and in the shell.
-/

namespace LanguageShell.Calculator

def helpText : String :=
  "  x := expr;      bind the value of expr to x\n" ++
  "  expr;           evaluate expr and print its value\n" ++
  "  show expr;      print expr with minimal parentheses\n" ++
  "  load \"file\";    run the commands of a file\n" ++
  "  env;            list current bindings\n" ++
  "  help;           print this message"

def precision (setup : Setup) : Option Int :=
  match setup.settings.lookup "precision" with
  | some (.integer places) => some places
  | _ => none

/-- Checks an expression, traces it and evaluates it. -/
def compute (setup : Setup) (env : Env) (expr : Expr) : Trace Value := do
  Trace.ofExcept (expr.check env)
  let text ← Trace.ofFaulty expr.toText
  setup.reporter.trace "evaluating %s" [.text text]
  Trace.ofExcept (expr.evaluate env)

/-- Shows a value after a text, in the shell. -/
def echo (setup : Setup) (interactive : Bool) (start : String) (value : Value) : Trace Unit := do
  if interactive then
    Trace.printLine (start ++ (← Trace.ofFaulty (value.toText (precision setup))))

/-- Executes a command; the function runs a file in an environment. -/
def execute (setup : Setup) (useFile : Env → FileEntry → Trace Env) (interactive : Bool)
    (env : Env) (command : Command Place) : Trace Env := do
  match command with
  | .define name expr _ =>
    let value ← compute setup env expr
    if (env.find? name).isSome then setup.reporter.warning "%s is redefined" [.text name]
    echo setup interactive s!"{name} = " value
    return env.insert name value
  | .eval expr _ =>
    let value ← compute setup env expr
    echo setup interactive "= " value
    return env
  | .display expr _ =>
    Trace.printLine (← Trace.ofFaulty expr.toText)
    return env
  | .load path _ => useFile env ⟨path, false⟩
  | .listing _ =>
    Trace.printLine (← Trace.ofFaulty (env.toText (precision setup)))
    return env
  | .help _ =>
    Trace.printLine helpText
    return env

def precisionOption : CommandOption :=
  OptionDeclaration.toOption {
    declarations := ["--precision"]
    type := some (.uniform .integer)
    placeholder := some "<digits>"
    help := "Round floating-point results to <digits> decimals when printing." }

def language : Language Env (Command Place) where
  title := "Calc"
  name := some "calc"
  options := [precisionOption]
  helpDirective := some "help;"
  prompt := "calc> "
  morePrompt := "  ... "
  initial := []
  readsMore text := !endsCommand text.toList
  parseFile := some parseFile
  parseCommand := parseSingle
  execute := execute

end LanguageShell.Calculator
