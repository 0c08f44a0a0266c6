import RelayBench.Decimal.Binary64

/-! The text of a floating-point number: the fewest decimal digits that read back as the number,
and of those the nearest to it.  The text is positional for exponents from -4 to 15 and has an
exponent of at least two digits outside that range. -/
namespace RelayBench.Binary64

/-- A decimal number `digits * 10 ^ power`. -/
structure Decimal where
  digits : Nat
  power : Int
  deriving DecidableEq, Repr

/-- The magnitude of a finite number as a quotient of natural numbers. -/
def ratio (significand : Nat) (exponent : Int) : Nat × Nat :=
  if 0 ≤ exponent then (significand * Nat.pow 2 exponent.toNat, 1)
  else (significand, Nat.pow 2 (-exponent).toNat)

/-- How often a quotient below one has to be multiplied by ten to reach one, up to `limit`. -/
def leadingZeros : Nat → Nat → Nat → Nat
  | 0, _, _ => 0
  | limit + 1, numerator, denominator =>
    if denominator ≤ numerator then 0 else leadingZeros limit (10 * numerator) denominator + 1

/-- The number of digits before the point; below one it counts the zeros behind the point down. -/
def magnitude (numerator denominator : Nat) : Int :=
  if denominator ≤ numerator then ((Nat.toDigits 10 (numerator / denominator)).length : Int)
  else 1 - (leadingZeros 400 numerator denominator : Int)

/-- The quotient of a positive quotient and a power of ten, with its remainder and divisor. -/
def gridPoint (numerator denominator : Nat) (power : Int) : Nat × Nat × Nat :=
  if 0 ≤ power then
    let divisor := denominator * Nat.pow 10 power.toNat
    (numerator / divisor, numerator % divisor, divisor)
  else
    let dividend := numerator * Nat.pow 10 (-power).toNat
    (dividend / denominator, dividend % denominator, denominator)

/-- The neighbour of a number on the grid of the multiples of `10 ^ power` that reads back as the
number; of two such neighbours the nearer, in the middle the even one. -/
def onGrid? (significand : Nat) (exponent : Int) (power : Int) : Option Decimal :=
  let (numerator, denominator) := ratio significand exponent
  let (below, remainder, divisor) := gridPoint numerator denominator power
  let readsBack (digits : Nat) : Bool :=
    ofDecimal false digits power = .finite false significand exponent
  match readsBack below, readsBack (below + 1) with
  | false, false => none
  | true, false => some ⟨below, power⟩
  | false, true => some ⟨below + 1, power⟩
  | true, true =>
    if 2 * remainder < divisor then some ⟨below, power⟩
    else if divisor < 2 * remainder then some ⟨below + 1, power⟩
    else some ⟨below + below % 2, power⟩

def shortestFrom (significand : Nat) (exponent top : Int) : Nat → Nat → Decimal
  | 0, _ => ⟨0, 0⟩
  | tries + 1, count =>
    match onGrid? significand exponent (top - count) with
    | some decimal => decimal
    | none => shortestFrom significand exponent top tries (count + 1)

/-- The fewest digits that read back as a positive finite number; seventeen always suffice. -/
def shortest (significand : Nat) (exponent : Int) : Decimal :=
  let (numerator, denominator) := ratio significand exponent
  shortestFrom significand exponent (magnitude numerator denominator) 17 1

def significantDigits (decimal : Decimal) : List Char :=
  ((Nat.toDigits 10 decimal.digits).reverse.dropWhile (· == '0')).reverse

def exponentText (exponent : Int) : List Char :=
  let digits := Nat.toDigits 10 exponent.natAbs
  (if exponent < 0 then '-' else '+') :: (if digits.length < 2 then '0' :: digits else digits)

def layout (digits : List Char) (point : Int) : List Char :=
  if -4 < point && point ≤ 16 then
    if point ≤ 0 then '0' :: '.' :: (List.replicate (-point).toNat '0' ++ digits)
    else if (digits.length : Int) ≤ point then
      digits ++ List.replicate (point.toNat - digits.length) '0' ++ ['.', '0']
    else digits.take point.toNat ++ '.' :: digits.drop point.toNat
  else
    match digits with
    | [] => []
    | [d] => d :: 'e' :: exponentText (point - 1)
    | d :: rest => d :: '.' :: (rest ++ 'e' :: exponentText (point - 1))

def magnitudeText (significand : Nat) (exponent : Int) : List Char :=
  if significand = 0 then ['0', '.', '0']
  else
    let decimal := shortest significand exponent
    let point := ((Nat.toDigits 10 decimal.digits).length : Int) + decimal.power
    layout (significantDigits decimal) point

def text : Binary64 → String
  | .finite negative significand exponent =>
    let digits := magnitudeText significand exponent
    String.ofList (if negative then '-' :: digits else digits)
  | .infinite negative => if negative then "-inf" else "inf"
  | .nan => "nan"

end RelayBench.Binary64
