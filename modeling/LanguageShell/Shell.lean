import LanguageShell.Language

/-!
The interactive shell: it reads commands of one or more lines and executes them, each in the
environment that the last successful one left. A command that fails is reported, and an interrupted
one is dropped; only the end of the input ends the shell.
-/

namespace LanguageShell

inductive Platform where
  | unix
  | cygwin
  | windows
deriving DecidableEq, Repr

namespace Platform

def ofName (name : String) : Platform :=
  if name = "win32" then windows else if name = "cygwin" then cygwin else unix

def name : Platform → String
  | unix => "Unix"
  | cygwin => "Cygwin"
  | windows => "Win32"

def endOfInputKey : Platform → String
  | unix => "Ctrl-D"
  | cygwin => "Ctrl-D"
  | windows => "Ctrl-Z"

end Platform

namespace Shell

inductive Input where
  | line (text : String)
  | interrupt
  | endOfInput
deriving DecidableEq, Repr

/-- The environment, and the lines of a command that is not complete. -/
structure State (Env : Type) where
  env : Env
  collected : Option String := none

/-- Whether the shell goes on after a line, or is left with an environment. -/
inductive Next (Env : Type) where
  | more (state : State Env)
  | over (env : Env)

variable {Env Cmd : Type}

def banner (platform : Platform) (name : String) (helpDirective : Option String) : List String :=
  let help := match helpDirective with
    | some directive => s!" or \"{directive}\" for help."
    | none => "."
  [s!"{name} @ programming languages zoo", s!"Type {platform.endOfInputKey} to exit{help}"]

def prompt (language : Language Env Cmd) (state : State Env) : String :=
  if state.collected.isSome then language.morePrompt else language.prompt

/-- The text of the command so far, a further line included. -/
def State.textWith (state : State Env) (line : String) : String :=
  match state.collected with
  | some before => before ++ "\n" ++ line
  | none => line

/-- Reports why a command came to nothing; the environment stays as it was. -/
def recover (reporter : Reporter) (env : Env) (attempt : Trace Env) : Trace Env :=
  match attempt.outcome with
  | .ok _ => attempt
  | .error (.diagnostic diagnostic) =>
    ⟨attempt.events, .ok ()⟩ >>= fun _ => do
      reporter.diagnostic diagnostic
      return env
  | .error .interrupted => ⟨attempt.events ++ [.interrupted], .ok env⟩
  | .error (.fault _) => attempt

def commandSource (text : String) : Source :=
  Source.ofString (text ++ "\n")

def runCommand (language : Language Env Cmd) (execute : Env → Cmd → Trace Env) (env : Env)
    (text : String) : Trace Env := do
  let command ← Trace.ofExcept (Parser.located language.parseCommand (commandSource text))
  execute env command

def respond (language : Language Env Cmd) (reporter : Reporter) (execute : Env → Cmd → Trace Env)
    (state : State Env) : Input → Trace (Next Env)
  | .line line =>
    let text := state.textWith line
    if language.readsMore text then return .more { state with collected := some text }
    else do
      let env ← recover reporter state.env (runCommand language execute state.env text)
      return .more { env }
  | .interrupt => do
    Trace.emit .interrupted
    return .more { env := state.env }
  | .endOfInput => do
    Trace.printLine ""
    return .over state.env

/-- A request for a line: what happened since the one before, the environment at that time, and
the prompt. -/
structure Turn (Env : Type) where
  events : List Event
  env : Env
  prompt : String

/-- A visit to the shell: the requests for lines, what happened after the last one, and how the
shell was left. -/
structure Visit (Env : Type) where
  turns : List (Turn Env)
  events : List Event
  outcome : Except Failure Env

/-- Runs the shell on inputs, the end of which is the end of the input. The events are those since
the last request. -/
def converse (language : Language Env Cmd) (reporter : Reporter) (execute : Env → Cmd → Trace Env)
    (events : List Event) (state : State Env) (inputs : List Input) : Visit Env :=
  let turn : Turn Env := ⟨events, state.env, prompt language state⟩
  let response := respond language reporter execute state (inputs.head?.getD .endOfInput)
  match response.outcome, inputs with
  | .error failure, _ => ⟨[turn], response.events, .error failure⟩
  | .ok (.over env), _ => ⟨[turn], response.events, .ok env⟩
  | .ok (.more next), _ :: rest =>
    let visit := converse language reporter execute response.events next rest
    { visit with turns := turn :: visit.turns }
  | .ok (.more next), [] => ⟨[turn], response.events, .ok next.env⟩

/-- Writes the banner of a language, which has to have a name. -/
def greet (language : Language Env Cmd) (platform : Platform) : Trace Unit :=
  match language.name with
  | none => .fail (.fault (.noName language.title))
  | some name =>
    ⟨(banner platform name language.helpDirective).map fun line => .printed (line ++ "\n"), .ok ()⟩

def visit (language : Language Env Cmd) (platform : Platform) (reporter : Reporter)
    (execute : Env → Cmd → Trace Env) (env : Env) (inputs : List Input) : Visit Env :=
  let greeting := greet language platform
  match greeting.outcome with
  | .ok _ => converse language reporter execute greeting.events { env } inputs
  | .error failure => ⟨[], greeting.events, .error failure⟩

/-- All that happened in the shell, prompts included, and how it was left. -/
def Visit.trace (visit : Visit Env) : Trace Env :=
  ⟨visit.turns.flatMap (fun turn => turn.events ++ [.prompted turn.prompt]) ++ visit.events,
    visit.outcome⟩

/-- The inputs that lines of text give. What follows the last newline is a line if it is not
empty. -/
def linesOfText (text : String) : List Input :=
  let pieces := text.splitOn "\n"
  let lines := if pieces.getLast? = some "" then pieces.dropLast else pieces
  lines.map Input.line

end Shell

end LanguageShell
