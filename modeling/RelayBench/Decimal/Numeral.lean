import RelayBench.Decimal.Binary64
import RelayBench.Text.Numeric

/-! Reading integers and floating-point numbers from text.  Digits of every script count, blanks
around the number do not, and a single underscore may stand between two digits.  An integer is
refused when it has more digits than `maxDigits`. -/
namespace RelayBench.Numeral

open Text (digitValue? isBlank trimBlanks)

def maxDigits : Nat := 4300

/-- Why a text is no integer. -/
inductive IntegerError where
  | malformed
  | tooLong (digits : Nat)
  deriving DecidableEq, Repr

/-- A decimal digit of any script becomes the ASCII digit of its value; nothing else changes. -/
def plainDigit (c : Char) : Char :=
  if c.toNat < 127 then c
  else match digitValue? c with
    | some value => Char.ofNat (48 + value)
    | none => c

def isDigit (c : Char) : Bool := '0' ≤ c && c ≤ '9'

def value (digits : List Char) : Nat :=
  digits.foldl (fun n c => 10 * n + (c.toNat - 48)) 0

/-- Splits a sign off; a number without a sign is positive. -/
def splitSign : List Char → Bool × List Char
  | '-' :: rest => (true, rest)
  | '+' :: rest => (false, rest)
  | text => (false, text)

/-- Whether every underscore stands between two digits; `afterDigit` tells of the character before. -/
def underscoresSeparate (afterDigit : Bool) : List Char → Bool
  | [] => true
  | ['_'] => false
  | '_' :: next :: rest => afterDigit && isDigit next && underscoresSeparate false (next :: rest)
  | c :: rest => underscoresSeparate (isDigit c) rest

def integer (text : String) : Except IntegerError Int :=
  let (negative, body) := splitSign ((text.toList.map plainDigit).dropWhile isBlank)
  let run := body.takeWhile fun c => isDigit c || c == '_'
  let digits := run.filter isDigit
  if digits.isEmpty || !underscoresSeparate false run then .error .malformed
  else if maxDigits < digits.length then .error (.tooLong digits.length)
  else if (body.drop run.length).all isBlank then
    .ok (if negative then -(value digits : Int) else value digits)
  else .error .malformed

/-- An exponent part: its mark, an optional sign and at least one digit up to the end. -/
def exponent? : List Char → Option Int
  | [] => some 0
  | mark :: rest =>
    let (negative, digits) := splitSign rest
    if (mark == 'e' || mark == 'E') && !digits.isEmpty && digits.all isDigit then
      some (if negative then -(value digits : Int) else value digits)
    else none

def decimal? (negative : Bool) (text : List Char) : Option Binary64 :=
  let whole := text.takeWhile isDigit
  let rest := text.drop whole.length
  let fraction := match rest with
    | '.' :: behind => behind.takeWhile isDigit
    | _ => []
  let rest := match rest with
    | '.' :: behind => behind.drop fraction.length
    | _ => rest
  if whole.isEmpty && fraction.isEmpty then none
  else (exponent? rest).map fun exponent =>
    .ofDecimal negative (value (whole ++ fraction)) (exponent - fraction.length)

def lowerAscii (c : Char) : Char :=
  if 'A' ≤ c && c ≤ 'Z' then Char.ofNat (c.toNat + 32) else c

def binary64? (text : String) : Option Binary64 :=
  let chars := trimBlanks (text.toList.map plainDigit)
  if !underscoresSeparate false chars then none
  else
    let (negative, body) := splitSign (chars.filter (· != '_'))
    let word := body.map lowerAscii
    if word = "inf".toList || word = "infinity".toList then some (.infinite negative)
    else if word = "nan".toList then some .nan
    else decimal? negative body

end RelayBench.Numeral
