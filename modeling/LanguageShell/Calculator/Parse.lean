import LanguageShell.Calculator.Term
import LanguageShell.Calculator.Token
import LanguageShell.Parsing
import LanguageShell.Text.Escape

/-!
Reading commands token by token. The state says what has been read of the command at hand: the
operands whose operators still wait for a right operand, and the parentheses that are open. A
token that cannot continue what was read is refused at once, so the tokens accepted so far can
always be completed.

The words `show`, `load`, `env` and `help` have their meaning only where a command begins.
-/

namespace LanguageShell.Calculator

namespace Extent

/-- From the start of one extent to the end of another. -/
def through (first last : Extent) : Extent :=
  ⟨first.start, last.stop⟩

def place (source : Source) (extent : Extent) : Place :=
  .known (source.slice extent.start (extent.stop - extent.start))

end Extent

abbrev Tree := Term Empty Extent

/-- An expression and its extent in the text, parentheses around it included. -/
structure Operand where
  tree : Tree
  extent : Extent

namespace Operand

def negate (sign : Extent) (operand : Operand) : Operand :=
  let extent := sign.through operand.extent
  ⟨.neg operand.tree extent, extent⟩

def combine (op : Operator) (left right : Operand) : Operand :=
  let extent := left.extent.through right.extent
  ⟨.bin op left.tree right.tree extent, extent⟩

end Operand

/-- A left operand whose operator waits for its right operand, if there is one. -/
abbrev Waiting := Option (Operand × Operator)

def Waiting.complete (waiting : Waiting) (right : Operand) : Operand :=
  match waiting with
  | some (left, op) => left.combine op right
  | none => right

/-- What precedes an operand inside one pair of parentheses: a sum, in it a product, and in that
minus signs, the nearest first. -/
structure Level where
  sum : Waiting := none
  product : Waiting := none
  signs : List Extent := []

/-- An open parenthesis: its extent, and what precedes it. -/
structure Enclosure where
  paren : Extent
  level : Level

inductive Progress where
  /-- An operand must come next. -/
  | wanting (level : Level) (outer : List Enclosure)
  /-- A product has been read that may go on; the sum waits for it. -/
  | having (sum : Waiting) (product : Operand) (outer : List Enclosure)

namespace Progress

def start : Progress :=
  .wanting {} []

/-- An operand has been read completely, which its minus signs and its product include. -/
def supply (level : Level) (outer : List Enclosure) (operand : Operand) : Progress :=
  let signed := level.signs.foldl (fun operand sign => operand.negate sign) operand
  .having level.sum (level.product.complete signed) outer

end Progress

namespace Token

/-- The literal that a numeral denotes: a point or a power of ten makes it a floating-point
number. -/
def literal (text : List Char) : Value :=
  if text.any fun c => c = '.' || c = 'e' || c = 'E' then
    match Binary64.readParts? text with
    | some parts => .float (parts.toBinary64 false)
    | none => .float .nan
  else .int (Text.naturalOfDigits text)

/-- Whether the token is a literal that has a value, or no literal at all. -/
def isReadable : Token → Bool
  | .number text =>
    text.any (fun c => c = '.' || c = 'e' || c = 'E') || text.length ≤ Fault.maxIntegerDigits
  | .quoted text => (Text.unquote? text).isSome
  | _ => true

def atom? (token : Token) (extent : Extent) : Option Operand :=
  match token with
  | .number text => some ⟨.num (literal text) extent, extent⟩
  | .name text => some ⟨.var (String.ofList text) extent, extent⟩
  | _ => none

def additive? : Token → Option Operator
  | .plus => some .add
  | .minus => some .sub
  | _ => none

def multiplicative? : Token → Option Operator
  | .star => some .mul
  | .slash => some .div
  | _ => none

end Token

namespace Progress

def step? (progress : Progress) (lexeme : Lexeme) : Option Progress :=
  match progress with
  | wanting level outer =>
    match lexeme.token with
    | .minus => some (wanting { level with signs := lexeme.extent :: level.signs } outer)
    | .openParen => some (wanting {} (⟨lexeme.extent, level⟩ :: outer))
    | token => (token.atom? lexeme.extent).map (supply level outer)
  | having sum product outer =>
    match lexeme.token.additive?, lexeme.token.multiplicative? with
    | some op, _ => some (wanting { sum := some (sum.complete product, op) } outer)
    | none, some op => some (wanting { sum, product := some (product, op) } outer)
    | none, none =>
      match lexeme.token, outer with
      | .closeParen, enclosure :: outer =>
        let inner := sum.complete product
        some (supply enclosure.level outer ⟨inner.tree, enclosure.paren.through lexeme.extent⟩)
      | _, _ => none

def finish? : Progress → Option Operand
  | having sum product [] => some (sum.complete product)
  | _ => none

end Progress

inductive Purpose where
  | define (name : String)
  | eval
  | display

def Purpose.command (purpose : Purpose) (tree : Tree) (extent : Extent) : Command Extent :=
  match purpose with
  | .define name => .define name tree extent
  | .eval => .eval tree extent
  | .display => .display tree extent

inductive Stage where
  /-- Nothing. -/
  | idle
  /-- A name, which may be bound or may begin an expression. -/
  | named (name : List Char) (extent : Extent)
  /-- Part of an expression; the command begins with the given extent. -/
  | expression (purpose : Purpose) (start : Extent) (progress : Progress)
  /-- The word `load`. -/
  | loading (start : Extent)
  /-- All but the semicolon. -/
  | complete (start : Extent) (command : Extent → Command Extent)

inductive Stage.Next where
  | more (stage : Stage)
  | done (command : Command Extent)

namespace Stage

/-- Reads one token of an expression, or the semicolon after it. -/
def stepExpression? (purpose : Purpose) (start : Extent) (progress : Progress) (lexeme : Lexeme) :
    Option Next :=
  match lexeme.token with
  | .semicolon =>
    progress.finish?.map fun operand =>
      .done (purpose.command operand.tree (start.through lexeme.extent))
  | _ => (progress.step? lexeme).map fun next => .more (expression purpose start next)

def begin? (lexeme : Lexeme) : Option Next :=
  match lexeme.token with
  | .name text =>
    if text = ['s', 'h', 'o', 'w'] then some (.more (expression .display lexeme.extent .start))
    else if text = ['l', 'o', 'a', 'd'] then some (.more (loading lexeme.extent))
    else if text = ['e', 'n', 'v'] then some (.more (complete lexeme.extent .listing))
    else if text = ['h', 'e', 'l', 'p'] then some (.more (complete lexeme.extent .help))
    else some (.more (named text lexeme.extent))
  | _ => stepExpression? .eval lexeme.extent .start lexeme

def step? (stage : Stage) (lexeme : Lexeme) : Option Next :=
  match stage with
  | idle => begin? lexeme
  | named name extent =>
    match lexeme.token with
    | .assign => some (.more (expression (.define (String.ofList name)) extent .start))
    | _ =>
      let operand : Operand := ⟨.var (String.ofList name) extent, extent⟩
      stepExpression? .eval extent (.having none operand []) lexeme
  | expression purpose start progress => stepExpression? purpose start progress lexeme
  | loading start =>
    match lexeme.token with
    | .quoted text =>
      -- A string without a meaning is refused when all tokens have been read.
      let path := (Text.unquote? text).getD ""
      some (.more (complete start (.load path)))
    | _ => none
  | complete start command =>
    match lexeme.token with
    | .semicolon => some (.done (command (start.through lexeme.extent)))
    | _ => none

end Stage

/-- What a text is read as: any number of commands, or exactly one. -/
inductive Entry where
  | file
  | single
deriving DecidableEq, Repr

/-- The commands that have been read, the last one first, and what was read of the next one. -/
structure Reading where
  done : List (Command Extent) := []
  stage : Stage := .idle

namespace Reading

def admits (entry : Entry) (reading : Reading) : Bool :=
  match reading.stage with
  | .idle => entry = .file || reading.done.isEmpty
  | _ => true

def step? (entry : Entry) (reading : Reading) (lexeme : Lexeme) : Option Reading :=
  if reading.admits entry then
    (reading.stage.step? lexeme).map fun
      | .more stage => { reading with stage }
      | .done command => ⟨command :: reading.done, .idle⟩
  else none

def finish? (entry : Entry) (reading : Reading) : Option (List (Command Extent)) :=
  match reading.stage with
  | .idle =>
    if entry = .file ∨ reading.done.length = 1 then some reading.done.reverse else none
  | _ => none

/-- Reads tokens up to the first one that is refused, which comes with what was read before
it. -/
def run (entry : Entry) (reading : Reading) : List Lexeme → Except Lexeme Reading
  | [] => .ok reading
  | lexeme :: rest =>
    match reading.step? entry lexeme with
    | some next => next.run entry rest
    | none => .error lexeme

end Reading

def readLexemes (entry : Entry) (lexemes : Lexemes) :
    Except ParserFailure (List (Command Extent)) :=
  match Reading.run entry {} lexemes.list, lexemes.stuck with
  | .error lexeme, _ =>
    .error (.unexpectedToken false (some lexeme.extent.start) (some lexeme.extent.stop))
  | .ok _, some offset => .error (.unexpectedCharacter (some offset))
  | .ok reading, none =>
    match reading.finish? entry with
    | none =>
      let last := lexemes.list.getLast?.map (·.extent.start)
      .error (.unexpectedToken true (some (last.getD 0 : Nat)) none)
    | some commands =>
      if lexemes.list.all (·.token.isReadable) then .ok commands else .error (.stopped none)

/-- Reads the commands of a text. A comment that is left open comes before all other errors. -/
def parse (entry : Entry) : Parser (List (Command Place)) := fun source =>
  if HasOpenComment source.text then
    .error (.raised (.diagnostic ⟨.form, "unterminated comment", .known source.endOfInput⟩))
  else
    (readLexemes entry (Lexemes.ofText source.text)).map
      (·.map (·.map (Extent.place source)))

def parseFile : Parser (List (Command Place)) :=
  parse .file

def parseSingle : Parser (Command Place) := fun source =>
  match parse .single source with
  | .ok [command] => .ok command
  | .ok _ => .error (.stopped none)
  | .error failure => .error failure

end LanguageShell.Calculator
