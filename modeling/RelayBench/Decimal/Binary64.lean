/-! Binary floating-point numbers with 53-bit significands, and the rounding of decimal numbers to
them: the nearest one, an exact half to the even significand, infinity from the overflow bound on.
Everything is exact arithmetic on natural numbers. -/
namespace RelayBench

/-- A floating-point number; a finite one is `significand * 2 ^ exponent` under its sign. -/
inductive Binary64 where
  | finite (negative : Bool) (significand : Nat) (exponent : Int)
  | infinite (negative : Bool)
  | nan
  deriving DecidableEq, Repr, Inhabited

namespace Binary64

/-- The exponent of the smallest numbers; a significand below `2 ^ 52` occurs with it only. -/
def minExponent : Int := -1074

def maxExponent : Int := 971

/-- The least natural number that is rounded to infinity: half a step above the greatest finite
number. -/
def overflowBound : Nat := Nat.pow 2 1024 - Nat.pow 2 970

def zero (negative : Bool) : Binary64 := .finite negative 0 minExponent

def isPositive : Binary64 → Bool
  | .finite negative significand _ => !negative && significand != 0
  | .infinite negative => !negative
  | .nan => false

/-- A number below zero; the negative zero is none. -/
def isNegative : Binary64 → Bool
  | .finite negative significand _ => negative && significand != 0
  | .infinite negative => negative
  | .nan => false

def isZero : Binary64 → Bool
  | .finite _ significand _ => significand == 0
  | _ => false

/-- The quotient rounded to the nearest integer, a half to the even neighbour. -/
def divideEven (numerator denominator : Nat) : Nat :=
  let quotient := numerator / denominator
  let twice := 2 * (numerator % denominator)
  if twice < denominator then quotient
  else if denominator < twice then quotient + 1
  else quotient + quotient % 2

/-- `numerator / denominator` divided by `2 ^ exponent` and rounded to an integer. -/
def scaled (numerator denominator : Nat) (exponent : Int) : Nat :=
  if 0 ≤ exponent then divideEven numerator (denominator * Nat.pow 2 exponent.toNat)
  else divideEven (numerator * Nat.pow 2 (-exponent).toNat) denominator

/-- The exponent that gives a positive quotient a significand of 53 bits, as far as there is one. -/
def fittingExponent (numerator denominator : Nat) : Int :=
  let guess : Int := (numerator.log2 : Int) - (denominator.log2 : Int) - 52
  let exponent :=
    if guess ≤ 0 then
      if numerator * Nat.pow 2 (-guess).toNat < denominator * Nat.pow 2 52 then guess - 1 else guess
    else
      if numerator < denominator * Nat.pow 2 (52 + guess.toNat) then guess - 1 else guess
  max exponent minExponent

def ofRatio (negative : Bool) (numerator denominator : Nat) : Binary64 :=
  if numerator = 0 then zero negative
  else
    let exponent := fittingExponent numerator denominator
    let significand := scaled numerator denominator exponent
    let (significand, exponent) :=
      if significand = Nat.pow 2 53 then (Nat.pow 2 52, exponent + 1) else (significand, exponent)
    if maxExponent < exponent then .infinite negative else .finite negative significand exponent

def timesNat : Binary64 → Nat → Binary64
  | .finite negative significand exponent, factor =>
    if 0 ≤ exponent then ofRatio negative (significand * factor * Nat.pow 2 exponent.toNat) 1
    else ofRatio negative (significand * factor) (Nat.pow 2 (-exponent).toNat)
  | .infinite negative, _ => .infinite negative
  | .nan, _ => .nan

def isBelowMinus : Binary64 → Nat → Bool
  | .finite negative significand exponent, bound =>
    negative &&
      (if 0 ≤ exponent then decide (bound < significand * Nat.pow 2 exponent.toNat)
      else decide (bound * Nat.pow 2 (-exponent).toNat < significand))
  | .infinite negative, _ => negative
  | .nan, _ => false

/-- The number nearest to `digits * 10 ^ power`.  Powers far outside the range are answered before
any large product is formed. -/
def ofDecimal (negative : Bool) (digits : Nat) (power : Int) : Binary64 :=
  if digits = 0 then zero negative
  else
    let places : Int := (digits.log2 : Int) * 30103 / 100000
    if 400 < places + power then .infinite negative
    else if places + power < -800 then zero negative
    else if 0 ≤ power then ofRatio negative (digits * Nat.pow 10 power.toNat) 1
    else ofRatio negative digits (Nat.pow 10 (-power).toNat)

end Binary64
end RelayBench
