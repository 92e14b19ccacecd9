import LanguageShell.Calculator.Language
import LanguageShell.Loading

/-!
A working session with the calculator: single commands, files that are run, and between them
changes to the files and the set-up. A step that fails leaves the environment as it was.
-/

namespace LanguageShell.Calculator

structure Session where
  setup : Setup := {}
  files : FileTree := {}
  env : Env := []

namespace Session

def configured (verbosity : Int) (precision : Option Int) : Setup where
  reporter := ⟨verbosity⟩
  settings := [("precision", (precision.map Datum.integer).getD .absent)]

inductive Step where
  /-- Executes the command that a text holds. -/
  | exec (text : String) (interactive : Bool)
  | load (path : CodeText) (interactive : Bool)
  | write (path : CodeText) (contents : List UInt8)
  | configure (verbosity : Int) (precision : Option Int)
  /-- Executes something that is not a command. -/
  | foreign (shown : String)

def step (session : Session) : Step → Trace Unit × Session
  | .exec text interactive =>
    settle do
      let source := Source.ofString text
      let command ← Trace.ofExcept (Parser.located language.parseCommand source)
      execute session.setup useFile interactive session.env command
  | .load path interactive => settle (useFile session.env ⟨path, interactive⟩)
  | .write path contents => (pure (), { session with files := session.files.put path contents })
  | .configure verbosity precision =>
    (pure (), { session with setup := configured verbosity precision })
  | .foreign shown => (.fail (.fault (.notCommand shown)), session)
where
  useFile : Env → FileEntry → Trace Env :=
    language.useFile session.setup session.files
  settle (trace : Trace Env) : Trace Unit × Session :=
    ((do let _ ← trace; return), match trace.outcome with
      | .ok env => { session with env }
      | .error _ => session)

end Session

end LanguageShell.Calculator
