import LanguageShell.Calculator.Segment
import LanguageShell.Text.Digit

/-!
Tokens of the calculator's texts. White space and comments stand between tokens and count for
nothing; each token is the longest that begins where it does.
-/

namespace LanguageShell.Calculator

inductive Token where
  | name (text : List Char)
  | number (text : List Char)
  /-- A string with its quotes. -/
  | quoted (text : List Char)
  | assign
  | semicolon
  | plus
  | minus
  | star
  | slash
  | openParen
  | closeParen
deriving DecidableEq, Repr

/-- What may come next in a text: a token, or something between tokens. -/
inductive Piece where
  | token (token : Token)
  | ignored
deriving DecidableEq, Repr

def isIgnorable (c : Char) : Bool :=
  c = ' ' || c = '\t' || c = '\x0c' || c = '\r' || c = '\n'

def isNameStart (c : Char) : Bool :=
  c.isLower || c = '_'

def isNamePart (c : Char) : Bool :=
  c.isAlphanum || c = '_'

def digitsLength (text : List Char) : Nat :=
  (text.takeWhile Text.isDigit).length

/-- How many characters a fraction takes up, from the point on. -/
def fractionLength : List Char → Nat
  | '.' :: rest => if digitsLength rest = 0 then 0 else digitsLength rest + 1
  | _ => 0

/-- How many characters a power of ten takes up, from its letter on. -/
def powerLength : List Char → Nat
  | c :: rest =>
    if c = 'e' ∨ c = 'E' then
      let sign := match rest with
        | '+' :: _ => 1
        | '-' :: _ => 1
        | _ => 0
      let digits := digitsLength (rest.drop sign)
      if digits = 0 then 0 else digits + sign + 1
    else 0
  | [] => 0

/-- How many characters a number takes up after its first digit. -/
def numberLength (rest : List Char) : Nat :=
  let whole := digitsLength rest
  let fraction := fractionLength (rest.drop whole)
  whole + fraction + powerLength (rest.drop (whole + fraction))

namespace Piece

/-- The piece with which a text begins, if there is one, and how many characters it takes up
after the first one. -/
def first? (c : Char) (rest : List Char) : Option (Piece × Nat) :=
  if isIgnorable c then some (ignored, (rest.takeWhile isIgnorable).length)
  else if isNameStart c then
    let n := (rest.takeWhile isNamePart).length
    some (token (.name (c :: rest.take n)), n)
  else if Text.isDigit c then
    let n := numberLength rest
    some (token (.number (c :: rest.take n)), n)
  else match c, rest with
    | '"', rest => (stringLength? rest).map fun n => (token (.quoted ('"' :: rest.take n)), n)
    | '#', rest => some (ignored, lineLength rest)
    | '(', '*' :: inner =>
      match commentLength? inner with
      | some n => some (ignored, n + 1)
      | none => some (token .openParen, 0)
    | '(', _ => some (token .openParen, 0)
    | ')', _ => some (token .closeParen, 0)
    | ':', '=' :: _ => some (token .assign, 1)
    | ';', _ => some (token .semicolon, 0)
    | '+', _ => some (token .plus, 0)
    | '-', _ => some (token .minus, 0)
    | '*', _ => some (token .star, 0)
    | '/', _ => some (token .slash, 0)
    | _, _ => none

end Piece

/-- A stretch of a text by its offsets. -/
structure Extent where
  start : Nat
  stop : Nat
deriving DecidableEq, Repr

structure Lexeme where
  token : Token
  extent : Extent
deriving DecidableEq, Repr

/-- The tokens of a text, up to the offset at which no token begins if there is one. -/
structure Lexemes where
  list : List Lexeme
  stuck : Option Nat
deriving DecidableEq, Repr

namespace Lexemes

def ofTextAt (offset : Nat) : List Char → Lexemes
  | [] => ⟨[], none⟩
  | c :: rest =>
    match Piece.first? c rest with
    | none => ⟨[], some offset⟩
    | some (piece, n) =>
      let stop := offset + n + 1
      let others := ofTextAt stop (rest.drop n)
      match piece with
      | .ignored => others
      | .token token => { others with list := ⟨token, ⟨offset, stop⟩⟩ :: others.list }
termination_by text => text.length
decreasing_by simp only [List.length_drop, List.length_cons]; omega

def ofText (text : List Char) : Lexemes :=
  ofTextAt 0 text

end Lexemes

end LanguageShell.Calculator
