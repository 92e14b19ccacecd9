import LanguageShell.Template.Conversion

/-!
Message templates. A conversion is a percent sign, flags, a width, a precision and a letter; a star
in place of a number takes the next argument. `%%` stands for a percent sign. A template that is
given no arguments is not a template but the message itself.
-/

namespace LanguageShell.Template

inductive Amount where
  | unset
  | given (n : Nat)
  /-- The next argument. -/
  | star
deriving DecidableEq, Repr

/-- A conversion as a template has it. Without a letter the template ends inside of it. -/
structure Conversion where
  flags : List Char
  width : Amount
  precision : Amount
  letter : Option Char
  /-- The index of the letter in the template. -/
  index : Nat
deriving DecidableEq, Repr

inductive Piece where
  | literal (c : Char)
  | conversion (conversion : Conversion)
  /-- A conversion of an argument with a name. -/
  | named
deriving DecidableEq, Repr

/-- The amount at the start of a text, and the number of characters that it takes up. -/
def Amount.read (text : List Char) : Amount × Nat :=
  match text with
  | '*' :: _ => (.star, 1)
  | text =>
    let digits := text.takeWhile Char.isDigit
    if digits.isEmpty then (.unset, 0) else (.given (Text.naturalOfDigits digits), digits.length)

/-- The precision at the start of a text, and the number of characters that it takes up. A point
alone stands for zero. -/
def readPrecision (text : List Char) : Amount × Nat :=
  match text with
  | '.' :: rest =>
    let (amount, length) := Amount.read rest
    (if amount = .unset then .given 0 else amount, length + 1)
  | _ => (.unset, 0)

/-- The conversion that begins at an index, behind the percent sign, and its length. One letter
that tells the size of the argument is passed over. -/
def Conversion.read (index : Nat) (text : List Char) : Conversion × Nat :=
  let flags := text.takeWhile (['-', '+', ' ', '#', '0'].contains ·)
  let text := text.drop flags.length
  let (width, widthLength) := Amount.read text
  let text := text.drop widthLength
  let (precision, precisionLength) := readPrecision text
  let text := text.drop precisionLength
  let sizes := (text.take 1).takeWhile (['h', 'l', 'L'].contains ·)
  let length := flags.length + widthLength + precisionLength + sizes.length
  ({ flags, width, precision, letter := (text.drop sizes.length).head?, index := index + length },
    length + 1)

/-- The pieces of a template, of which the text begins at the given index. -/
def pieces (index : Nat) (text : List Char) : List Piece :=
  match text with
  | [] => []
  | '%' :: '%' :: rest => .literal '%' :: pieces (index + 2) rest
  | '%' :: '(' :: rest => .named :: pieces (index + 2) rest
  | '%' :: rest =>
    let (conversion, length) := Conversion.read (index + 1) rest
    .conversion conversion :: pieces (index + 1 + length) (rest.drop length)
  | c :: rest => .literal c :: pieces (index + 1) rest
termination_by text.length
decreasing_by all_goals simp only [List.length_drop, List.length_cons]; omega

/-! ### Filling -/

abbrev FillM := StateT (List Datum) (Except Fault)

def nextArgument : FillM Datum := do
  match ← get with
  | [] => throw (.template .missingArgument)
  | datum :: rest =>
    set rest
    return datum

def nextAmount : FillM Int := do
  match (← nextArgument).toInt? with
  | some n => return n
  | none => throw (.template .starNotInteger)

def maxWidth : Nat := 9223372036854775807

def maxTextWidth : Nat := 1 <<< 40

/-- The field of the flags with a width; a negative one aligns to the left. -/
def Amount.widen (field : Field) : Amount → FillM Field
  | .unset => return field
  | .given n => if maxWidth < n then throw (.template .widthOutOfRange)
    else return { field with width := n }
  | .star => do
    let n ← nextAmount
    if maxWidth < n ∨ n < -(maxWidth + 1 : Int) then throw (.template .starWidthOutOfRange)
    return { field with width := n.natAbs, leftAligned := field.leftAligned || n < 0 }

/-- The field with a precision; a negative one counts as zero. -/
def Amount.sharpen (field : Field) : Amount → FillM Field
  | .unset => return field
  | .given n => if maxPrecision < n then throw (.template .precisionOutOfRange)
    else return { field with precision := some n }
  | .star => do
    let n ← nextAmount
    if maxPrecision < n ∨ n < -(maxPrecision + 1 : Int) then
      throw (.template .starPrecisionOutOfRange)
    return { field with precision := some n.toNat }

def Conversion.fill (conversion : Conversion) : FillM String := do
  let flag (c : Char) : Bool := conversion.flags.contains c
  let field ← conversion.width.widen {
    leftAligned := flag '-', zeroFilled := flag '0', plus := flag '+', blank := flag ' '
    marked := flag '#' }
  let field ← conversion.precision.sharpen field
  match conversion.letter with
  | none => throw (.template .incomplete)
  | some letter =>
    let datum ← nextArgument
    match Form.ofLetter? letter with
    | none => throw (.template (.unknownConversion letter conversion.index))
    | some form =>
      let content ← form.content letter field datum
      if maxTextWidth < field.width then throw .outOfMemory
      return field.place content

def Piece.fill : Piece → FillM String
  | .literal c => return String.singleton c
  | .conversion item => item.fill
  | .named => throw (.template .namedArgument)

/-- The template filled with the arguments; without arguments it stands for itself. -/
def fill (template : String) (arguments : List Datum) : Except Fault String :=
  if arguments.isEmpty then .ok template
  else
    match ((pieces 0 template.toList).mapM Piece.fill).run arguments with
    | .error fault => .error fault
    | .ok (texts, []) => .ok (String.join texts)
    | .ok (_, _ :: _) => .error (.template .unusedArgument)

end LanguageShell.Template
