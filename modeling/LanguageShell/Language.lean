import LanguageShell.CommandLine.Option
import LanguageShell.Parsing
import LanguageShell.Trace

/-!
What a language supplies so that it can be run: parsers, the execution of a command, and how it
presents itself. The environments and commands are the language's own affair.
-/

namespace LanguageShell

/-- A file to be run, and whether its commands show their results as in the shell. -/
structure FileEntry where
  path : CodeText
  interactive : Bool
deriving DecidableEq, Repr

/-- What a language is told when a run starts. -/
structure Setup where
  reporter : Reporter := {}
  settings : List (String × Datum) := []

structure Language (Env Cmd : Type) where
  /-- What the language is called where its name is missing. -/
  title : String
  name : Option String
  options : List CommandOption := []
  /-- The command that prints help, if the banner is to mention one. -/
  helpDirective : Option String := none
  prompt : String := "# "
  morePrompt : String := "  "
  initial : Env
  /-- Whether another line is needed to complete what has been typed. -/
  readsMore : String → Bool := fun _ => false
  /-- The parser for files, unless there is only the shell. -/
  parseFile : Option (Parser (List Cmd)) := none
  parseCommand : Parser Cmd
  /-- Executes a command; the function runs a file in an environment. -/
  execute : Setup → (Env → FileEntry → Trace Env) → Bool → Env → Cmd → Trace Env

end LanguageShell
