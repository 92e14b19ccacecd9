import LanguageShell.Report

/-!
Traces of computations. A computation writes to the output and to the error stream, opens files,
and ends with a value or a failure. What happened before a failure stays.
-/

namespace LanguageShell

/-- The real path of a file, as the names on the way to it from the root. -/
abbrev RealPath := List CodeText

inductive Event where
  /-- It writes to the output. -/
  | printed (text : String)
  /-- It shows a prompt before it reads a line. -/
  | prompted (text : String)
  /-- It writes a report of the given severity. -/
  | reported (severity : Int) (text : String)
  /-- It notes an interruption. -/
  | interrupted
  /-- It starts to execute the commands of a file. -/
  | entered (file : RealPath)
  /-- It has done with the file that it entered last. -/
  | left
deriving DecidableEq, Repr

namespace Event

def output : Event → String
  | printed text => text
  | _ => ""

def errors : Event → String
  | reported _ text => text
  | .interrupted => Report.interruption
  | _ => ""

end Event

/-- What is written to the output, prompts left out. -/
def outputOf (events : List Event) : String :=
  String.join (events.map Event.output)

def errorsOf (events : List Event) : String :=
  String.join (events.map Event.errors)

/-- What is seen on a terminal's output: prompts and all that is written. -/
def screenOf (events : List Event) : String :=
  String.join (events.map fun
    | .prompted text => text
    | event => event.output)

/-- A computation that has run: what happened, in order, and how it ended. -/
structure Trace (α : Type) where
  events : List Event
  outcome : Except Failure α

namespace Trace

def pure (a : α) : Trace α :=
  ⟨[], .ok a⟩

def bind (trace : Trace α) (next : α → Trace β) : Trace β :=
  match trace.outcome with
  | .ok a =>
    let rest := next a
    ⟨trace.events ++ rest.events, rest.outcome⟩
  | .error failure => ⟨trace.events, .error failure⟩

instance : Monad Trace where
  pure := pure
  bind := bind

def fail (failure : Failure) : Trace α :=
  ⟨[], .error failure⟩

def ofExcept (result : Except Failure α) : Trace α :=
  ⟨[], result⟩

/-- A result whose only failures are faults. -/
def ofFaulty (result : Except Fault α) : Trace α :=
  ⟨[], result.mapError .fault⟩

def emit (event : Event) : Trace Unit :=
  ⟨[event], .ok ()⟩

def printLine (text : String) : Trace Unit :=
  emit (.printed (text ++ "\n"))

/-- Notes an event at the end, whether the computation fails or not. -/
def andFinally (trace : Trace α) (event : Event) : Trace α :=
  { trace with events := trace.events ++ [event] }

end Trace

namespace Reporter

/-- Writes a message, if its severity is within the verbosity. -/
def report (reporter : Reporter) (label : String) (severity : Int) (template : String)
    (arguments : List Datum) (place : Option Place) : Trace Unit := do
  match ← Trace.ofFaulty (reporter.message label severity template arguments place) with
  | some text => Trace.emit (.reported severity text)
  | none => return

def diagnostic (reporter : Reporter) (diagnostic : Diagnostic) : Trace Unit :=
  reporter.report diagnostic.kind.label 1 "%s" [.text diagnostic.message] (some diagnostic.place)

def warning (reporter : Reporter) (template : String) (arguments : List Datum) :
    Trace Unit :=
  reporter.report "Warning" 2 template arguments none

def trace (reporter : Reporter) (template : String) (arguments : List Datum) :
    Trace Unit :=
  reporter.report "Debug" 3 template arguments none

end Reporter

end LanguageShell
