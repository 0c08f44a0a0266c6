import RelayBench.Text.Printable

/-! Quoted texts, byte strings and hexadecimal digits.  A text is put between apostrophes, or
between quotation marks when it holds an apostrophe and no quotation mark; backslashes, the
chosen mark and everything unprintable are escaped. -/
namespace RelayBench

abbrev Bytes := List UInt8

namespace Text

def hexDigit (n : Nat) : Char :=
  if n < 10 then Char.ofNat (48 + n) else Char.ofNat (87 + n)

def hexDigits : Nat → Nat → List Char
  | 0, _ => []
  | width + 1, n => hexDigits width (n / 16) ++ [hexDigit (n % 16)]

/-- The mark around a text: the quotation mark only spares apostrophes their escape. -/
def quoteMark (hasApostrophe hasQuotation : Bool) : Char :=
  if hasApostrophe && !hasQuotation then '"' else '\''

/-- The escape of a character that is not shown, by the size of its code point. -/
def escapeCode (n : Nat) : List Char :=
  if n < 0x100 then '\\' :: 'x' :: hexDigits 2 n
  else if n < 0x10000 then '\\' :: 'u' :: hexDigits 4 n
  else '\\' :: 'U' :: hexDigits 8 n

def quoteChar (mark c : Char) : List Char :=
  if c = mark || c = '\\' then ['\\', c]
  else if c = '\t' then ['\\', 't']
  else if c = '\n' then ['\\', 'n']
  else if c = '\r' then ['\\', 'r']
  else if isPrintable c then [c]
  else escapeCode c.toNat

def quote (text : String) : String :=
  let chars := text.toList
  let mark := quoteMark (chars.contains '\'') (chars.contains '"')
  String.ofList (mark :: chars.flatMap (quoteChar mark) ++ [mark])

/-- One byte inside a byte string that stands between two of `mark`. -/
def quoteByte (mark : Char) (b : UInt8) : List Char :=
  if b.toNat < 127 then
    if 32 ≤ b.toNat then
      let c := Char.ofNat b.toNat
      if c = mark || c = '\\' then ['\\', c] else [c]
    else quoteChar mark (Char.ofNat b.toNat)
  else escapeCode b.toNat

/-- A byte string between marks, led by the letter that tells it from a text. -/
def quoteBytes (bytes : Bytes) : String :=
  let mark := quoteMark (bytes.contains 39) (bytes.contains 34)
  String.ofList ('b' :: mark :: bytes.flatMap (quoteByte mark) ++ [mark])

def hex (bytes : Bytes) : String :=
  String.ofList (bytes.flatMap fun b => hexDigits 2 b.toNat)

def hexValue? (c : Char) : Option Nat :=
  if '0' ≤ c && c ≤ '9' then some (c.toNat - 48)
  else if 'a' ≤ c && c ≤ 'f' then some (c.toNat - 87)
  else if 'A' ≤ c && c ≤ 'F' then some (c.toNat - 55)
  else none

def unhexChars : List Char → Option Bytes
  | [] => some []
  | high :: low :: rest => do
    let h ← hexValue? high
    let l ← hexValue? low
    let bytes ← unhexChars rest
    pure (UInt8.ofNat (16 * h + l) :: bytes)
  | [_] => none

def unhex? (text : String) : Option Bytes := unhexChars text.toList

end Text
end RelayBench
