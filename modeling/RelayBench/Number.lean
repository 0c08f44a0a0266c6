import RelayBench.Decimal.Shortest

/-! Numbers that are either integers or floating-point numbers, as seconds and sizes may be given.
The two kinds stay apart: they print differently. -/
namespace RelayBench

/-- An integer or a floating-point number. -/
inductive Number where
  | int (n : Int)
  | float (x : Binary64)
  deriving DecidableEq, Repr, Inhabited

namespace Number

def isPositive : Number → Bool
  | .int n => decide (0 < n)
  | .float x => x.isPositive

def isNegative : Number → Bool
  | .int n => decide (n < 0)
  | .float x => x.isNegative

def isZero : Number → Bool
  | .int n => n == 0
  | .float x => x.isZero

def isBeyondFloats : Number → Bool
  | .int n => decide (Binary64.overflowBound ≤ n.natAbs)
  | .float _ => false

def nanoseconds : Nat := Nat.pow 10 9

/-- How many nanoseconds a clock can count backwards: as many as a signed 64-bit word holds. -/
def clockReach : Nat := Nat.pow 2 63

/-- A number of seconds too far below zero for a clock that counts nanoseconds.  The nanoseconds of
an integer are exact, those of a floating-point number are rounded to such a number again. -/
def precedesClock : Number → Bool
  | .int n => decide (n * nanoseconds < -clockReach)
  | .float x => (x.timesNat nanoseconds).isBelowMinus clockReach

def text : Number → String
  | .int n => toString n
  | .float x => x.text

end Number
end RelayBench
