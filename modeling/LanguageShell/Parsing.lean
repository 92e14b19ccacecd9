import LanguageShell.Diagnostic
import LanguageShell.Source.Text

/-!
Parsers and the diagnostics for their failures. A parser may give up in any way it likes; the
diagnostic says where, as precisely as the failure allows.
-/

namespace LanguageShell

inductive ParserFailure where
  /-- It fails for a reason of its own. -/
  | raised (failure : Failure)
  /-- No token begins with the character at the offset. -/
  | unexpectedCharacter (offset : Option Int)
  /-- A token cannot stand where it does; the end of the input counts as a token. -/
  | unexpectedToken (isEnd : Bool) (start stop : Option Int)
  /-- It stops, perhaps at an offset that it knows. -/
  | stopped (offset : Option Int)
deriving DecidableEq, Repr

abbrev Parser (α : Type) := Source → Except ParserFailure α

namespace ParserFailure

/-- The failure at the character with an index; negative ones count from the end. An index without a
character tells nothing. -/
def atCharacter (source : Source) (index : Option Int) : ParserFailure :=
  match index with
  | some index =>
    if -(source.size : Int) ≤ index ∧ index < source.size then unexpectedCharacter (some index)
    else stopped none
  | none => stopped none

/-- One character at an offset, or the end of the input if the offset is of no use. -/
def characterAt (source : Source) (offset : Option Int) : Span :=
  match offset with
  | some offset => if 0 ≤ offset then source.slice offset 1 else source.endOfInput
  | none => source.endOfInput

def span (source : Source) : ParserFailure → Except Fault Span
  | unexpectedToken false start stop => source.nodeSpan start stop
  | unexpectedToken true start _ => .ok (characterAt source start)
  | unexpectedCharacter offset => .ok (characterAt source offset)
  | stopped offset => .ok (characterAt source offset)
  | raised _ => .ok source.endOfInput

def wording : ParserFailure → String
  | unexpectedCharacter _ => "unrecognised symbol"
  | _ => "general confusion"

/-- The diagnostic for the failure. Diagnostics, interruptions and nesting that is too deep are
not the parser's to explain. -/
def toFailure (source : Source) : ParserFailure → Failure
  | raised (.diagnostic diagnostic) => .diagnostic diagnostic
  | raised .interrupted => .interrupted
  | raised (.fault .tooDeep) => .fault .tooDeep
  | failure =>
    match failure.span source with
    | .ok span => .diagnostic ⟨.form, failure.wording, .known span⟩
    | .error fault => .fault fault

end ParserFailure

/-- The parser with its failures placed in the source and worded. -/
def Parser.located (parse : Parser α) (source : Source) : Except Failure α :=
  (parse source).mapError (·.toFailure source)

end LanguageShell
