/-!
Floating-point numbers of 64 bits, with exact significands. Every operation gives the number
nearest to the exact result; of two equally near ones it takes the one with the even significand.
-/

namespace LanguageShell

namespace Binary64

/-- A significand and an exponent in the one form in which a finite number is kept: all 53 bits
are used unless the exponent is already the least. -/
def Canonical (significand : Nat) (exponent : Int) : Prop :=
  significand < 1 <<< 53 ∧ -1074 ≤ exponent ∧ exponent ≤ 971 ∧
    (1 <<< 52 ≤ significand ∨ exponent = -1074)

instance (significand : Nat) (exponent : Int) : Decidable (Canonical significand exponent) :=
  inferInstanceAs (Decidable (_ ∧ _))

end Binary64

/-- A floating-point number; a finite one is a significand times a power of two, with a sign. -/
inductive Binary64 where
  | nan
  | infinity (negative : Bool)
  | finite (negative : Bool) (significand : Nat) (exponent : Int)
      (canonical : Binary64.Canonical significand exponent)
deriving DecidableEq

namespace Binary64

def zero (negative : Bool) : Binary64 :=
  .finite negative 0 (-1074) (by decide)

/-- The quotient rounded to the nearest integer, and to the even one of two. -/
def roundQuotient (numerator denominator : Nat) : Nat :=
  let quotient := numerator / denominator
  let twice := 2 * (numerator % denominator)
  if twice < denominator then quotient
  else if denominator < twice then quotient + 1
  else quotient + quotient % 2

def roundScaled (numerator denominator : Nat) (exponent : Int) : Nat :=
  roundQuotient (numerator <<< (-exponent).toNat) (denominator <<< exponent.toNat)

/-- The exponent of the greatest power of two that is at most the ratio. -/
def floorLog (numerator denominator : Nat) : Int :=
  let k : Int := numerator.log2 - denominator.log2
  if denominator <<< k.toNat ≤ numerator <<< (-k).toNat then k else k - 1

/-- The number nearest to a ratio of natural numbers, with a sign. -/
def ofRatio (negative : Bool) (numerator denominator : Nat) : Binary64 :=
  if numerator = 0 then zero negative
  else
    let exponent := max (floorLog numerator denominator - 52) (-1074)
    let rounded := roundScaled numerator denominator exponent
    let (significand, exponent) :=
      if rounded = 1 <<< 53 then (1 <<< 52, exponent + 1) else (rounded, exponent)
    if h : Canonical significand exponent then .finite negative significand exponent h
    else .infinity negative

/-- The number nearest to a rational one; a result of zero has the given sign. -/
def ofRat (negativeZero : Bool) (q : Rat) : Binary64 :=
  ofRatio (if q.num = 0 then negativeZero else q.num < 0) q.num.natAbs q.den

def toRat? : Binary64 → Option Rat
  | finite negative significand exponent _ =>
    let size := mkRat (significand <<< exponent.toNat) (1 <<< (-exponent).toNat)
    some (if negative then -size else size)
  | _ => none

def isNegative : Binary64 → Bool
  | nan => false
  | infinity negative => negative
  | finite negative _ _ _ => negative

def isZero : Binary64 → Bool
  | finite _ 0 _ _ => true
  | _ => false

def neg : Binary64 → Binary64
  | nan => nan
  | infinity negative => infinity (!negative)
  | finite negative significand exponent h => finite (!negative) significand exponent h

instance : Neg Binary64 where
  neg := neg

/-- A sum that is zero is negative only if both numbers are. -/
def add (x y : Binary64) : Binary64 :=
  match x, y with
  | nan, _ => nan
  | _, nan => nan
  | infinity a, infinity b => if a = b then infinity a else nan
  | infinity a, _ => infinity a
  | _, infinity b => infinity b
  | finite .., finite .. =>
    ofRat (x.isNegative && y.isNegative) ((x.toRat?.getD 0) + (y.toRat?.getD 0))

instance : Add Binary64 where
  add := add

instance : Sub Binary64 where
  sub x y := x + -y

def mul (x y : Binary64) : Binary64 :=
  let negative := x.isNegative != y.isNegative
  match x, y with
  | nan, _ => nan
  | _, nan => nan
  | infinity _, y => if y.isZero then nan else infinity negative
  | x, infinity _ => if x.isZero then nan else infinity negative
  | finite .., finite .. => ofRat negative ((x.toRat?.getD 0) * (y.toRat?.getD 0))

instance : Mul Binary64 where
  mul := mul

/-- The quotient by a number other than zero. -/
def div (x y : Binary64) : Binary64 :=
  let negative := x.isNegative != y.isNegative
  match x, y with
  | nan, _ => nan
  | _, nan => nan
  | infinity _, infinity _ => nan
  | infinity _, _ => infinity negative
  | _, infinity _ => zero negative
  | finite .., finite .. => ofRat negative ((x.toRat?.getD 0) / (y.toRat?.getD 0))

instance : Div Binary64 where
  div := div

/-- The finite number nearest to a rational one, unless that lies beyond the largest. -/
def ofRat? (q : Rat) : Option Binary64 :=
  match ofRat (q.num < 0) q with
  | infinity _ => none
  | x => some x

end Binary64

end LanguageShell
