import LanguageShell.Text.Blank

/-!
Strings and comments in a text, found before anything else about it is known. A string in quotes
hides what looks like a comment, and a comment hides what looks like a string. Comments run from
`#` to the end of the line, or from `(*` to the next `*)`.
-/

namespace LanguageShell.Calculator

/-- How many characters a string takes up after its opening quote; a backslash protects the next
character, which must not be a newline. -/
def stringLength? : List Char → Option Nat
  | '"' :: _ => some 1
  | '\\' :: c :: rest => if c = '\n' then none else (stringLength? rest).map (· + 2)
  | c :: rest => if c = '\\' then none else (stringLength? rest).map (· + 1)
  | [] => none

def commentLength? : List Char → Option Nat
  | '*' :: ')' :: _ => some 2
  | _ :: rest => (commentLength? rest).map (· + 1)
  | [] => none

def lineLength (rest : List Char) : Nat :=
  (rest.takeWhile (· ≠ '\n')).length

/-- A part of a text, as far as strings and comments are concerned. -/
inductive Segment where
  | quoted (text : List Char)
  | comment
  /-- A `(*` that nothing closes. -/
  | openComment
  | plain (c : Char)
deriving DecidableEq, Repr

namespace Segment

/-- What a text begins with, and how many characters it takes up after the first one. -/
def first (c : Char) (rest : List Char) : Segment × Nat :=
  match c, rest with
  | '"', rest =>
    match stringLength? rest with
    | some n => (quoted ('"' :: rest.take n), n)
    | none => (plain '"', 0)
  | '#', rest => (comment, lineLength rest)
  | '(', '*' :: inner =>
    match commentLength? inner with
    | some n => (comment, n + 1)
    | none => (openComment, 1)
  | c, _ => (plain c, 0)

def split : List Char → List Segment
  | [] => []
  | c :: rest => (first c rest).1 :: split (rest.drop (first c rest).2)
termination_by text => text.length
decreasing_by simp only [List.length_drop, List.length_cons]; omega

/-- The text that stands for a segment once comments are set aside. -/
def code : Segment → List Char
  | quoted text => text
  | comment => [' ']
  | openComment => [' ']
  | plain c => [c]

end Segment

/-- Whether a comment is left open somewhere in the text. -/
def HasOpenComment (text : List Char) : Prop :=
  .openComment ∈ Segment.split text

instance (text : List Char) : Decidable (HasOpenComment text) :=
  inferInstanceAs (Decidable (_ ∈ _))

/-- Whether the text ends with a semicolon, comments and blanks set aside. With a comment still
open it does not. -/
def endsCommand (text : List Char) : Bool :=
  let code := (Segment.split text).flatMap Segment.code
  !decide (HasOpenComment text) && (Text.dropEndWhile Text.isBlank code).getLast? == some ';'

end LanguageShell.Calculator
