import LanguageShell.Numeral.Decimal

/-!
Floating-point numbers with a number of digits that is asked for. The digits are those of the exact
value, rounded to nearest; a half goes to the even digit. Signs are left to the caller.
-/

namespace LanguageShell.Binary64

inductive Style where
  /-- With all places before the point and so many after it. -/
  | fixed
  /-- With one place before the point, so many after it, and a power of ten. -/
  | scientific
  /-- With so many digits in all; the size of the number decides which of the others is used, and
  zeros at the end of a fraction are left out. -/
  | general
deriving DecidableEq, Repr

namespace Style

/-- A point and the places after it. The point is left out if nothing follows, unless it is to be
kept. -/
def fraction (keepsPoint : Bool) (digits : List Char) : List Char :=
  if digits.isEmpty && !keepsPoint then [] else '.' :: digits

def fixedText (keepsPoint : Bool) (places : Nat) (q : Rat) : List Char :=
  let scaled := q * decimalRat 1 places
  let digits := Nat.toDigits 10 (roundQuotient scaled.num.natAbs scaled.den)
  let filled := List.replicate (places + 1 - digits.length) '0' ++ digits
  let whole := filled.length - places
  filled.take whole ++ fraction keepsPoint (filled.drop whole)

/-- The first digits of a number that is not negative, and the exponent of the power of ten that
the first one counts. -/
def leadingDigits (count : Nat) (q : Rat) : List Char × Int :=
  if q = 0 then (List.replicate count '0', 0)
  else
    let exponent := floorLog10 q
    let scaled := q * decimalRat 1 (count - 1 - exponent)
    let rounded := roundQuotient scaled.num.natAbs scaled.den
    if rounded < Nat.pow 10 count then (Nat.toDigits 10 rounded, exponent)
    else (Nat.toDigits 10 (rounded / 10), exponent + 1)

def scientificText (keepsPoint : Bool) (digits : List Char) (exponent : Int) : List Char :=
  digits.take 1 ++ fraction keepsPoint (digits.drop 1) ++ powerText exponent

/-- Digits whose first one counts a power of ten, with all places that are needed. -/
def placedText (keepsPoint : Bool) (digits : List Char) (exponent : Int) : List Char :=
  if exponent < 0 then
    '0' :: fraction keepsPoint (List.replicate (-exponent - 1).toNat '0' ++ digits)
  else
    let whole := exponent.toNat + 1
    digits.take whole ++ List.replicate (whole - digits.length) '0' ++
      fraction keepsPoint (digits.drop whole)

def text (style : Style) (keepsPoint : Bool) (count : Nat) (q : Rat) : List Char :=
  match style with
  | fixed => fixedText keepsPoint count q
  | scientific =>
    let (digits, exponent) := leadingDigits (count + 1) q
    scientificText keepsPoint digits exponent
  | general =>
    let count := max count 1
    let (digits, exponent) := leadingDigits count q
    let shown := if keepsPoint then digits else (digits.reverse.dropWhile (· = '0')).reverse
    if -4 ≤ exponent ∧ exponent < count then placedText keepsPoint shown exponent
    else scientificText keepsPoint shown exponent

end Style

/-- The size of a number in a style; `count` is the number of digits that the style asks for. -/
def styled (style : Style) (keepsPoint : Bool) (count : Nat) : Binary64 → String
  | nan => "nan"
  | infinity _ => "inf"
  | finite _ significand exponent h =>
    match (finite false significand exponent h).toRat? with
    | some q => String.ofList (style.text keepsPoint count q)
    | none => ""

end LanguageShell.Binary64
