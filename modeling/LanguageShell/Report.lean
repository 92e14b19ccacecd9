import LanguageShell.Diagnostic
import LanguageShell.Template
import LanguageShell.Text.Lines

/-!
Reports on the error stream. A report has a heading and an indented body, and it is written only
if its severity is within the verbosity asked for.
-/

namespace LanguageShell

/-- The text of a report: the label and the place, and below them the body, indented. -/
def Report.render (label : String) (place : Option Place) (body : String) : String :=
  let heading := match place with
    | none => label
    | some place => s!"{label} at {place.describe}"
  heading ++ ":\n" ++ String.ofList (Text.indent body.toList) ++ "\n"

def Report.interruption : String :=
  "Interrupted.\n"

/-- Writes reports up to a severity: errors have 1, warnings 2 and traces 3. -/
structure Reporter where
  verbosity : Int := 2
deriving DecidableEq, Repr

namespace Reporter

def Shows (reporter : Reporter) (severity : Int) : Prop :=
  severity ≤ reporter.verbosity

instance (reporter : Reporter) (severity : Int) : Decidable (reporter.Shows severity) :=
  inferInstanceAs (Decidable (_ ≤ _))

/-- The report of a message, if it is to be written; a template is filled only in that case. -/
def message (reporter : Reporter) (label : String) (severity : Int) (template : String)
    (arguments : List Datum) (place : Option Place) : Except Fault (Option String) :=
  if reporter.Shows severity then
    (Template.fill template arguments).map fun body => some (Report.render label place body)
  else .ok none

end Reporter

end LanguageShell
