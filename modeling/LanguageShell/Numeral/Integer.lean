import LanguageShell.Fault
import LanguageShell.Text.Blank
import LanguageShell.Text.Digit

/-!
Integers as text. Written out they have at most `Fault.maxIntegerDigits` digits, and no more are
read. Between two digits of an integer that is read there may be one underscore.
-/

namespace LanguageShell.Integer

def Writable (n : Nat) : Prop :=
  n < Nat.pow 10 Fault.maxIntegerDigits

instance (n : Nat) : Decidable (Writable n) :=
  inferInstanceAs (Decidable (n < _))

def decimal (n : Int) : Except Fault String :=
  if Writable n.natAbs then .ok (toString n) else .error .integerTooLong

/-- The digits of a text in which they may be grouped by single underscores. -/
def groupedDigits? : List Char → Option (List Char)
  | [] => none
  | [c] => if Text.isDigit c then some [c] else none
  | c :: '_' :: rest => if Text.isDigit c then (groupedDigits? rest).map (c :: ·) else none
  | c :: rest => if Text.isDigit c then (groupedDigits? rest).map (c :: ·) else none

/-- The integer that a text denotes: spaces at the ends, a sign, and digits of any script. -/
def read? (text : String) : Option Int := do
  let (negative, unsigned) := match Text.dropEndsWhile Text.isSpace text.toList with
    | '-' :: rest => (true, rest)
    | '+' :: rest => (false, rest)
    | rest => (false, rest)
  let digits ← groupedDigits? unsigned
  if digits.length ≤ Fault.maxIntegerDigits then
    let n : Int := Text.naturalOfDigits digits
    some (if negative then -n else n)
  else none

end LanguageShell.Integer
