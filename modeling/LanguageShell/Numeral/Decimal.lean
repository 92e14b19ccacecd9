import LanguageShell.Numeral.Binary64
import LanguageShell.Numeral.Integer

/-!
Floating-point numbers as decimal text. A number is written with the fewest digits that read
back as it; of two such texts the nearer one is taken, and of two equally near ones the one whose
last digit is even. Rounding to decimal places starts from the exact value.
-/

namespace LanguageShell.Binary64

def digitCount (n : Nat) : Nat :=
  (Nat.toDigits 10 n).length

def decimalRat (n : Int) (exponent : Int) : Rat :=
  mkRat (n * Nat.pow 10 exponent.toNat) (Nat.pow 10 (-exponent).toNat)

/-- The number nearest to `digits` times a power of ten. What is far outside the range is not
computed. -/
def ofDecimal (negative : Bool) (digits : Nat) (exponent : Int) : Binary64 :=
  let magnitude := digitCount digits + exponent
  if digits = 0 ∨ magnitude < -330 then zero negative
  else if 310 < magnitude then infinity negative
  else
    let size := decimalRat digits exponent
    ofRat negative (if negative then -size else size)

/-- The exponent of the greatest power of ten that is at most a positive rational number. -/
def floorLog10 (q : Rat) : Int :=
  if 1 ≤ q then digitCount (q.num.natAbs / q.den) - 1
  else
    let inverse : Int := digitCount (q.den / q.num.natAbs)
    if q.num.natAbs * Nat.pow 10 (inverse - 1).toNat = q.den then 1 - inverse else -inverse

/-- The digits and the exponent of the decimal with `count` digits that is nearest to a positive
number, among those that read back as it. -/
def nearestWithDigits? (x : Binary64) (q : Rat) (count : Nat) : Option (Nat × Int) :=
  let exponent := floorLog10 q - count + 1
  let scaled := q * decimalRat 1 (-exponent)
  let low := scaled.num.natAbs / scaled.den
  let readsBack (digits : Nat) : Bool := ofDecimal false digits exponent = x
  let twice := 2 * (scaled - low)
  let nearer := if twice < 1 ∨ (twice = 1 ∧ low % 2 = 0) then low else low + 1
  let farther := if nearer = low then low + 1 else low
  if readsBack nearer then some (nearer, exponent)
  else if readsBack farther then some (farther, exponent)
  else none

def dropTrailingZeros (digits : Nat) (exponent : Int) : Nat × Int :=
  if h : 0 < digits ∧ digits % 10 = 0 then dropTrailingZeros (digits / 10) (exponent + 1)
  else (digits, exponent)
termination_by digits
decreasing_by omega

/-- The digits and the exponent of the shortest decimal that reads back as a positive number. -/
def shortest (x : Binary64) (q : Rat) : Nat × Int :=
  match (List.range 17).findSome? fun k => nearestWithDigits? x q (k + 1) with
  | some (digits, exponent) => dropTrailingZeros digits exponent
  | none => (0, 0)

/-- A power of ten after a numeral: a sign and at least two digits. -/
def powerText (exponent : Int) : List Char :=
  let digits := Nat.toDigits 10 exponent.natAbs
  ['e', if exponent < 0 then '-' else '+'] ++ List.replicate (2 - digits.length) '0' ++ digits

/-- Lays out digits whose first one stands for a multiple of `10 ^ exponent`. Exponents from -4
to 15 are written with all places, others with a power of ten. -/
def layOut (digits : List Char) (exponent : Int) : List Char :=
  if -4 ≤ exponent ∧ exponent < 16 then
    if exponent < 0 then
      '0' :: '.' :: List.replicate (-exponent - 1).toNat '0' ++ digits
    else
      let whole := exponent.toNat + 1
      let fraction := digits.drop whole
      digits.take whole ++ List.replicate (whole - digits.length) '0' ++
        '.' :: (if fraction.isEmpty then ['0'] else fraction)
  else
    let fraction := digits.drop 1
    digits.take 1 ++ (if fraction.isEmpty then [] else '.' :: fraction) ++ powerText exponent

def toText : Binary64 → String
  | nan => "nan"
  | infinity negative => if negative then "-inf" else "inf"
  | x@(finite negative significand exponent h) =>
    let unsigned := finite false significand exponent h
    let text := match unsigned.toRat? with
      | some q =>
        if x.isZero then ['0', '.', '0']
        else
          let (digits, power) := shortest unsigned q
          let written := Nat.toDigits 10 digits
          layOut written (power + written.length - 1)
      | none => []
    String.ofList (if negative then '-' :: text else text)

/-- The number rounded to decimal places, which may be negative, halves to the even digit. Beyond
323 places nothing changes, and beyond 308 negative ones nothing is left. -/
def roundTo (x : Binary64) (places : Int) : Except Fault Binary64 :=
  match x.toRat? with
  | none => .ok x
  | some q =>
    if 323 < places then .ok x
    else if places < -308 then .ok (zero x.isNegative)
    else
      let scaled := q * decimalRat 1 places
      let digits := roundQuotient scaled.num.natAbs scaled.den
      let size := decimalRat digits (-places)
      match ofRat x.isNegative (if x.isNegative then -size else size) with
      | infinity _ => .error .roundingOverflow
      | rounded => .ok rounded

/-! ### Reading -/

/-- The parts of an unsigned decimal: the digits before and after the point, and the power. -/
structure DecimalParts where
  whole : List Char
  fraction : List Char
  power : Int

def DecimalParts.toBinary64 (parts : DecimalParts) (negative : Bool) : Binary64 :=
  ofDecimal negative (Text.naturalOfDigits (parts.whole ++ parts.fraction))
    (parts.power - parts.fraction.length)

/-- A signed exponent; without a sign it is positive. -/
def readPower (text : List Char) : Option Int :=
  match text with
  | '-' :: digits => (Integer.groupedDigits? digits).map fun ds => -(Text.naturalOfDigits ds : Int)
  | '+' :: digits => (Integer.groupedDigits? digits).map fun ds => Text.naturalOfDigits ds
  | digits => (Integer.groupedDigits? digits).map fun ds => Text.naturalOfDigits ds

/-- The parts of an unsigned decimal, with a digit at least on one side of the point. -/
def readParts? (text : List Char) : Option DecimalParts := do
  let isPowerMark (c : Char) : Bool := c = 'e' || c = 'E'
  let mantissa := text.takeWhile (!isPowerMark ·)
  let power ← match text.dropWhile (!isPowerMark ·) with
    | [] => some 0
    | _ :: rest => readPower rest
  let whole := mantissa.takeWhile (· ≠ '.')
  let optional (digits : List Char) : Option (List Char) :=
    if digits.isEmpty then some [] else Integer.groupedDigits? digits
  match mantissa.dropWhile (· ≠ '.') with
  | [] => do
    let whole ← Integer.groupedDigits? whole
    some ⟨whole, [], power⟩
  | _ :: fraction => do
    let whole ← optional whole
    let fraction ← optional fraction
    if whole.isEmpty && fraction.isEmpty then none else some ⟨whole, fraction, power⟩

/-- The number that a text denotes: spaces at the ends, a sign, and a decimal, `inf` or `nan`. -/
def read? (text : String) : Option Binary64 :=
  let (negative, unsigned) := match Text.dropEndsWhile Text.isSpace text.toList with
    | '-' :: rest => (true, rest)
    | '+' :: rest => (false, rest)
    | rest => (false, rest)
  let word := (String.ofList unsigned).toLower
  if word = "inf" ∨ word = "infinity" then some (infinity negative)
  else if word = "nan" then some nan
  else (readParts? unsigned).map (·.toBinary64 negative)

end LanguageShell.Binary64
