/-!
# Decimal numerals

Reading an unsigned numeral into a bounded number, and writing one with leading zeros.  A numeral
is an optional `+` and at least one ASCII digit; a value above the bound is refused, not wrapped.
-/

namespace Scorebook.Text

def maxU8 : Nat := 255
def maxU16 : Nat := 65535
def maxU32 : Nat := 4294967295
def maxU64 : Nat := 18446744073709551615

def digitValue (c : Char) : Nat := c.toNat - 48

def hexValue? (c : Char) : Option Nat :=
  if c.isDigit then some (c.toNat - 48)
  else if 'a' ≤ c ∧ c ≤ 'f' then some (c.toNat - 87)
  else if 'A' ≤ c ∧ c ≤ 'F' then some (c.toNat - 55)
  else none

/-- The value of a run of digits, after those already read. -/
def digitsValueFrom (acc : Nat) : List Char → Nat
  | [] => acc
  | c :: cs => digitsValueFrom (acc * 10 + digitValue c) cs

def digitsValue (cs : List Char) : Nat := digitsValueFrom 0 cs

inductive NumeralError where
  | empty
  | badDigit
  | tooLarge
deriving DecidableEq, Repr

def NumeralError.message : NumeralError → String
  | .empty => "cannot parse integer from empty string"
  | .badDigit => "invalid digit found in string"
  | .tooLarge => "number too large to fit in target type"

/-- Reads digits up to `bound`; the digits are looked at in order, so a number that has outgrown
the bound is reported before a bad digit after it. -/
def readDigitsFrom (bound acc : Nat) : List Char → Except NumeralError Nat
  | [] => .ok acc
  | c :: cs =>
    if !c.isDigit then .error .badDigit
    else
      let next := acc * 10 + digitValue c
      if next > bound then .error .tooLarge else readDigitsFrom bound next cs

/-- Reads an unsigned numeral of at most `bound`. -/
def readNumeral (bound : Nat) : List Char → Except NumeralError Nat
  | [] => .error .empty
  | ['+'] => .error .badDigit
  | ['-'] => .error .badDigit
  | '+' :: cs => readDigitsFrom bound 0 cs
  | cs => readDigitsFrom bound 0 cs

/-- An unsigned numeral of at most `bound`, if the text is one. -/
def numeral? (bound : Nat) (cs : List Char) : Option Nat := (readNumeral bound cs).toOption

/-- A signed numeral between `low` and `high`, if the text is one. -/
def signedNumeral? (low high : Int) : List Char → Option Int
  | '-' :: c :: cs =>
    match readDigitsFrom low.natAbs 0 (c :: cs) with
    | .ok n => if low ≤ -(n : Int) then some (-(n : Int)) else none
    | .error _ => none
  | cs =>
    match readNumeral high.toNat cs with
    | .ok n => some n
    | .error _ => none

def digits (n : Nat) : List Char := Nat.toDigits 10 n

/-- The decimal digits of a number, with zeros in front up to the width. -/
def paddedDigits (width n : Nat) : List Char :=
  let ds := digits n
  List.replicate (width - ds.length) '0' ++ ds

def decimal (n : Nat) : String := String.ofList (digits n)

def signedDecimal : Int → String
  | .ofNat n => decimal n
  | .negSucc n => "-" ++ decimal (n + 1)

end Scorebook.Text
