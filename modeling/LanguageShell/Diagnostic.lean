import LanguageShell.Source.Location

/-!
Diagnostics: what is wrong with a command, a file or the set-up of a language, and where.
-/

namespace LanguageShell

inductive Diagnostic.Kind where
  /-- Work cannot go on. -/
  | fatal
  /-- A language is wired up wrongly. -/
  | configuration
  /-- A text has the wrong form. -/
  | form
  /-- A command is refused before it is executed. -/
  | typing
  /-- A command fails when it is executed. -/
  | runtime
  | warning
deriving DecidableEq, Repr

namespace Diagnostic.Kind

def label : Kind → String
  | fatal => "Fatal error"
  | configuration => "Fatal error"
  | form => "Syntax error"
  | typing => "Typing error"
  | runtime => "Runtime error"
  | warning => "Warning"

/-- The kinds that can be asked for by their label. -/
def labelled : List Kind := [fatal, form, typing, runtime, warning]

def ofLabel (label : String) : Except Fault Kind :=
  match labelled.find? (·.label = label) with
  | some kind => .ok kind
  | none => .error (.unknownKind (Text.quoted label))

end Diagnostic.Kind

structure Diagnostic where
  kind : Diagnostic.Kind
  message : String
  place : Place := .unknown
deriving DecidableEq, Repr

inductive Failure where
  | diagnostic (diagnostic : Diagnostic)
  /-- The user interrupted it. -/
  | interrupted
  | fault (fault : Fault)
deriving DecidableEq, Repr

namespace Failure

/-- A diagnostic without a place. -/
def fatal (message : String) : Failure :=
  .diagnostic { kind := .fatal, message }

end Failure

end LanguageShell
