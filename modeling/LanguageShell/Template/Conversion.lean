import LanguageShell.Datum
import LanguageShell.Numeral.Style

/-!
Conversions of data into text. A conversion has a letter, which says what becomes of the datum, and
a field in which the text is laid out.
-/

namespace LanguageShell.Template

structure Field where
  leftAligned : Bool := false
  /-- Whether a number is filled up with zeros and not with blanks. -/
  zeroFilled : Bool := false
  /-- Whether numbers that are not negative have a plus sign. -/
  plus : Bool := false
  /-- Whether they have a blank in place of a sign. -/
  blank : Bool := false
  /-- Whether a number has a mark of its base, or always a point. -/
  marked : Bool := false
  width : Nat := 0
  precision : Option Nat := none
deriving DecidableEq, Repr

inductive Content where
  | text (text : String)
  /-- A number: what stands before its digits, and the digits. -/
  | number (start digits : String)
deriving DecidableEq, Repr

namespace Field

/-- What stands before the digits of a number: a sign, and the mark of its base. -/
def start (field : Field) (negative : Bool) (mark : String) : String :=
  (if negative then "-" else if field.plus then "+" else if field.blank then " " else "") ++ mark

/-- The content in its field. Zeros that fill it stand between the start of a number and its
digits. -/
def place (field : Field) : Content → String
  | .number start digits =>
    if field.zeroFilled && !field.leftAligned then
      start ++ "".pushn '0' (field.width - start.length - digits.length) ++ digits
    else pad (start ++ digits)
  | .text text => pad text
where
  pad (text : String) : String :=
    let padding := "".pushn ' ' (field.width - text.length)
    if field.leftAligned then text ++ padding else padding ++ text

def cut (field : Field) (text : String) : Content :=
  .text <| match field.precision with
    | some count => (text.take count).copy
    | none => text

end Field

/-- What becomes of a datum. -/
inductive Form where
  /-- A text stands for itself. -/
  | plain
  /-- A text is quoted. -/
  | quoted
  /-- A text is quoted, and only characters of ASCII are used. -/
  | ascii
  | character
  /-- An integer in the given base, with capital letters for digits or not. -/
  | integer (base : Nat) (capital : Bool)
  | real (style : Binary64.Style) (capital : Bool)
deriving DecidableEq, Repr

def Form.ofLetter? : Char → Option Form
  | 's' => some .plain
  | 'r' => some .quoted
  | 'a' => some .ascii
  | 'c' => some .character
  | 'd' => some (.integer 10 false)
  | 'i' => some (.integer 10 false)
  | 'u' => some (.integer 10 false)
  | 'o' => some (.integer 8 false)
  | 'x' => some (.integer 16 false)
  | 'X' => some (.integer 16 true)
  | 'e' => some (.real .scientific false)
  | 'E' => some (.real .scientific true)
  | 'f' => some (.real .fixed false)
  | 'F' => some (.real .fixed true)
  | 'g' => some (.real .general false)
  | 'G' => some (.real .general true)
  | _ => none

def capitalized (capital : Bool) (text : String) : String :=
  if capital then text.toUpper else text

/-- The greatest precision that is kept, and the greatest number of digits of an integer. -/
def maxPrecision : Nat := 2147483647

def maxDigits : Nat := maxPrecision - 3

/-- The digits of an integer and what stands before them. The mark of a base is a zero and the
letter. -/
def integerContent (field : Field) (letter : Char) (base : Nat) (capital : Bool) (n : Int) :
    Except Fault Content := do
  let count := field.precision.getD 0
  if maxDigits < count then throw (.template .tooManyDigits)
  let digits ← if base = 10 then Integer.decimal n.natAbs
    else pure (String.ofList (Nat.toDigits base n.natAbs))
  let mark := if field.marked ∧ base ≠ 10 then String.ofList ['0', letter] else ""
  let filled := "".pushn '0' (count - digits.length) ++ digits
  return .number (field.start (n < 0) mark) (capitalized capital filled)

/-- The integer that a conversion takes a datum for. Only whole numbers have a base. -/
def integerFor (letter : Char) (base : Nat) (datum : Datum) : Except Fault Int := do
  match ← if base = 10 then datum.truncated else pure datum.toInt? with
  | some n => return n
  | none => throw (.template (.notNumeric letter datum.kind))

/-- The character that a datum stands for: a text of that character alone, or its code point. -/
def characterFor (datum : Datum) : Except Fault Char :=
  match datum, datum.toInt? with
  | .text s, _ =>
    match s.toList with
    | [c] => .ok c
    | _ => .error (.template .notCharacter)
  | _, some n =>
    if n < 0 ∨ 0x10ffff < n then .error (.template .noSuchCharacter)
    else .ok (if n.toNat.isValidChar then Char.ofNat n.toNat else '\ufffd')
  | _, none => .error (.template .notCharacter)

def Form.content (form : Form) (letter : Char) (field : Field) (datum : Datum) :
    Except Fault Content :=
  match form with
  | plain => datum.plain.map field.cut
  | quoted => datum.quoted.map field.cut
  | ascii => datum.quoted.map fun text => field.cut (Text.asciiOnly text)
  | character => (characterFor datum).map fun c => .text (String.singleton c)
  | integer base capital => do
    integerContent field letter base capital (← integerFor letter base datum)
  | real style capital => do
    match ← datum.toBinary64 with
    | none => throw (.template (.notReal datum.kind))
    | some x =>
      let digits := x.styled style field.marked (field.precision.getD 6)
      return .number (field.start x.isNegative "") (capitalized capital digits)

end LanguageShell.Template
