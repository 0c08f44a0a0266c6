/-! The characters that a written number may use.  Every Unicode decimal digit stands for its
value and blanks around the number do not count.  Below code point 127 the blanks are the space
and the five controls from the tab to the carriage return; above, they are all Unicode blanks. -/
namespace RelayBench.Text

/-- The zero of each run of ten decimal digits, in ascending order (Unicode 14.0). -/
def decimalZeros : List Nat := [
  48, 1632, 1776, 1984, 2406, 2534, 2662, 2790, 2918, 3046, 3174, 3302, 3430, 3558, 3664, 3792,
  3872, 4160, 4240, 6112, 6160, 6470, 6608, 6784, 6800, 6992, 7088, 7232, 7248, 42528, 43216,
  43264, 43472, 43504, 43600, 44016, 65296, 66720, 68912, 69734, 69872, 69942, 70096, 70384,
  70736, 70864, 71248, 71360, 71472, 71904, 72016, 72784, 73040, 73120, 92768, 92864, 93008,
  120782, 120792, 120802, 120812, 120822, 123200, 123632, 125264, 130032]

def digitValue? (c : Char) : Option Nat :=
  match decimalZeros.find? (fun first => first ≤ c.toNat && c.toNat ≤ first + 9) with
  | some first => some (c.toNat - first)
  | none => none

/-- The blanks from code point 127 on, as ascending ranges with both ends included. -/
def wideBlankRanges : List (Nat × Nat) := [
  (133, 133), (160, 160), (5760, 5760), (8192, 8202), (8232, 8233), (8239, 8239), (8287, 8287),
  (12288, 12288)]

def isBlank (c : Char) : Bool :=
  c = ' ' || (9 ≤ c.toNat && c.toNat ≤ 13) ||
    wideBlankRanges.any (fun (low, high) => low ≤ c.toNat && c.toNat ≤ high)

def trimBlanks (text : List Char) : List Char :=
  ((text.dropWhile isBlank).reverse.dropWhile isBlank).reverse

end RelayBench.Text
