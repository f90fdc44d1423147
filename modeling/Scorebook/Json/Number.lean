import Scorebook.Json.Basic
import Scorebook.Text.Numeral

/-!
# JSON numbers

Reading a number literal.  An integer literal that fits 64 bits is exact.  Any other literal becomes
floating point from its leading digits, as many as fit an unsigned 64-bit integer, scaled once by
a power of ten: both the digits and the power are rounded first, so a literal of more than fifteen
digits may come out one place off the nearest number.
-/

namespace Scorebook.JsonNumber
open Text Binary64

/-- Digits taken into an unsigned 64-bit integer, and how many were left over. -/
structure Leading where
  value : Nat
  taken : Nat
  left : Nat

/-- Takes digits as long as the value fits 64 bits. -/
def takeDigits (acc : Nat) (taken : Nat) : List Char → Leading
  | [] => ⟨acc, taken, 0⟩
  | c :: cs =>
    let next := acc * 10 + digitValue c
    if next > maxU64 then ⟨acc, taken, (c :: cs).length⟩ else takeDigits next (taken + 1) cs

/-- The number `significand · 10 ^ exponent`, scaled by powers of ten up to `10 ^ 308`; `none`
beyond the range. -/
def scale (x : Binary64) (exponent : Int) : Option Binary64 :=
  if exponent > 308 then (if x.isZero then some x else none)
  else if exponent ≥ 0 then
    let y := mul x (powerOfTen exponent.toNat)
    if y.isFinite then some y else none
  else if exponent ≥ -308 then some (div x (powerOfTen (-exponent).toNat))
  else
    let y := div x (powerOfTen 308)
    if exponent ≥ -616 then some (div y (powerOfTen (-exponent - 308).toNat)) else some (ofNat 0)

def ofParts (neg : Bool) (significand : Nat) (exponent : Int) : Option JsonNumber :=
  (scale (ofNat significand) exponent).map fun x => float (if neg then Binary64.neg x else x)

/-- The parts of an exponent: its sign and digits, and the rest of the text. -/
def exponentPart (cs : List Char) : Option (Bool × List Char × List Char) :=
  let (neg, rest) := match cs with
    | '+' :: r => (false, r)
    | '-' :: r => (true, r)
    | r => (false, r)
  let ds := rest.takeWhile Char.isDigit
  if ds.isEmpty then none else some (neg, ds, rest.dropWhile Char.isDigit)

/-- The largest exponent that is told apart from larger ones. -/
def maxExponentValue : Nat := 2147483647

/-- Finishes a floating-point literal whose exponent part may follow. -/
def finish (neg : Bool) (significand : Nat) (exponent : Int) :
    List Char → Option (JsonNumber × List Char)
  | c :: cs =>
    if c = 'e' ∨ c = 'E' then
      match exponentPart cs with
      | none => none
      | some (expNeg, ds, rest) =>
        let e := digitsValue ds
        if e > maxExponentValue then
          if significand ≠ 0 ∧ !expNeg then none else some (float (zero neg), rest)
        else
          let e' : Int := if expNeg then exponent - e else exponent + e
          (ofParts neg significand e').map (·, rest)
    else (ofParts neg significand exponent).map (·, c :: cs)
  | [] => (ofParts neg significand exponent).map (·, [])

/-- Reads the part of a literal after its whole digits. -/
def afterWhole (neg : Bool) (whole : List Char) : List Char → Option (JsonNumber × List Char)
  | '.' :: cs =>
    let fraction := cs.takeWhile Char.isDigit
    let rest := cs.dropWhile Char.isDigit
    if fraction.isEmpty then none
    else
      let lead := takeDigits 0 0 whole
      if lead.left > 0 then
        -- The whole part alone fills 64 bits: a first fraction digit may still fit after it.
        let more := takeDigits lead.value 0 fraction
        finish neg more.value (lead.left - more.taken) rest
      else
        let more := takeDigits lead.value 0 fraction
        finish neg more.value (-(more.taken : Int)) rest
  | cs =>
    let lead := takeDigits 0 0 whole
    match cs with
    | c :: _ =>
      if c = 'e' ∨ c = 'E' then finish neg lead.value lead.left cs
      else if lead.left > 0 then finish neg lead.value lead.left cs
      else integer neg lead.value cs
    | [] => if lead.left > 0 then finish neg lead.value lead.left cs else integer neg lead.value cs
where
  /-- An integer literal that fits 64 bits; `-0` is floating point. -/
  integer (neg : Bool) (n : Nat) (cs : List Char) : Option (JsonNumber × List Char) :=
    if !neg then some (int n, cs)
    else if n = 0 then some (float (zero true), cs)
    else if n ≤ 9223372036854775808 then some (int (-(n : Int)), cs)
    else some (float (Binary64.neg (ofNat n)), cs)

/-- Reads a number literal at the start of the text. -/
def read (cs : List Char) : Option (JsonNumber × List Char) :=
  let (neg, rest) := match cs with
    | '-' :: r => (true, r)
    | r => (false, r)
  match rest with
  | '0' :: r =>
    match r with
    | c :: _ => if c.isDigit then none else afterWhole neg ['0'] r
    | [] => afterWhole neg ['0'] r
  | _ =>
    let whole := rest.takeWhile Char.isDigit
    if whole.isEmpty then none else afterWhole neg whole (rest.dropWhile Char.isDigit)

end Scorebook.JsonNumber
