/-!
Control sequences of terminals. They change how a text looks and take up no place in it: an escape
character and a bracket, parameters, intermediate characters, and one final character. Each of these
three kinds is a range of its own, so a sequence is never longer than its first final character.
-/

namespace LanguageShell.Text

/-- Digits, separators of numbers and the marks of private sequences. -/
def isParameter (c : Char) : Bool :=
  '0' ≤ c && c ≤ '?'

/-- The space and the signs before the digits. -/
def isIntermediate (c : Char) : Bool :=
  ' ' ≤ c && c ≤ '/'

/-- Letters, and the signs around and between them. -/
def isFinal (c : Char) : Bool :=
  '@' ≤ c && c ≤ '~'

def controlLength? : List Char → Option Nat
  | '\x1b' :: '[' :: rest =>
    let parameters := rest.takeWhile isParameter
    let intermediates := (rest.drop parameters.length).takeWhile isIntermediate
    let length := parameters.length + intermediates.length
    match rest.drop length with
    | c :: _ => if isFinal c then some (length + 3) else none
    | [] => none
  | _ => none

def visible (text : List Char) : List Char :=
  match text with
  | [] => []
  | c :: rest =>
    match controlLength? (c :: rest) with
    | some n => visible (rest.drop (n - 1))
    | none => c :: visible rest
termination_by text.length
decreasing_by all_goals simp only [List.length_drop, List.length_cons]; omega

/-- The number of places that a text takes up. -/
def visibleLength (text : List Char) : Nat :=
  (visible text).length

def splitVisible (places : Nat) (text : List Char) : List Char × List Char :=
  match text with
  | [] => ([], [])
  | c :: rest =>
    match controlLength? (c :: rest) with
    | some n =>
      let (start, others) := splitVisible places (rest.drop (n - 1))
      (c :: rest.take (n - 1) ++ start, others)
    | none =>
      if places = 0 then ([], c :: rest)
      else
        let (start, others) := splitVisible (places - 1) rest
        (c :: start, others)
termination_by text.length
decreasing_by all_goals simp only [List.length_drop, List.length_cons]; omega

/-- The text without its control sequences, as a file is given it in place of a terminal. -/
def withoutControls (text : String) : String :=
  String.ofList (visible text.toList)

end LanguageShell.Text
