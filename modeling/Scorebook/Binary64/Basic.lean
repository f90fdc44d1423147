import Scorebook.Powers

/-!
# 64-bit binary floating point

A number of the 64-bit interchange format is its bit pattern.  A finite pattern denotes
`± m · 2 ^ q` with natural `m`; every operation goes through that reading and rounds the exact
rational result once, to the nearest number, a tie to the even one.  All of it is exact arithmetic
on `Nat` and `Int`.
-/

namespace Scorebook

/-- A number of the 64-bit binary interchange format, as its bits. -/
structure Binary64 where
  bits : UInt64
deriving DecidableEq, Repr, Inhabited

namespace Binary64

def minExponent : Int := -1074
/-- The largest exponent of a significand with all its bits. -/
def maxExponent : Int := 971

def negative (x : Binary64) : Bool := x.bits.toNat / twoTo 63 == 1

def exponentField (x : Binary64) : Nat := x.bits.toNat / twoTo 52 % twoTo 11

def fractionField (x : Binary64) : Nat := x.bits.toNat % twoTo 52

def isFinite (x : Binary64) : Bool := x.exponentField != 2047

def isNaN (x : Binary64) : Bool := x.exponentField == 2047 && x.fractionField != 0

def significand (x : Binary64) : Nat :=
  if x.exponentField = 0 then x.fractionField else twoTo 52 + x.fractionField

def exponent (x : Binary64) : Int :=
  if x.exponentField = 0 then minExponent else (x.exponentField : Int) - 1075

/-- Whether the pattern denotes zero, of either sign. -/
def isZero (x : Binary64) : Bool := x.exponentField == 0 && x.fractionField == 0

/-- The pattern with the given sign, exponent field and fraction field. -/
def ofFields (neg : Bool) (exponent fraction : Nat) : Binary64 :=
  ⟨UInt64.ofNat ((if neg then twoTo 63 else 0) + exponent * twoTo 52 + fraction)⟩

def zero (neg : Bool) : Binary64 := ofFields neg 0 0

def infinity (neg : Bool) : Binary64 := ofFields neg 2047 0

def nan : Binary64 := ofFields false 2047 (twoTo 51)

/-- The pattern of `± m · 2 ^ q`, for `m < 2 ^ 53` and `q` the exponent that `m` needs. -/
def assemble (neg : Bool) (m : Nat) (q : Int) : Binary64 :=
  if q > maxExponent then infinity neg
  else if m < twoTo 52 then ofFields neg 0 m
  else ofFields neg (q + 1075).toNat (m - twoTo 52)

/-- The integer nearest to `n / d`, a tie going to the even one. -/
def roundDiv (n d : Nat) : Nat :=
  let quotient := n / d
  let rest := n % d
  if 2 * rest < d then quotient
  else if 2 * rest > d then quotient + 1
  else if quotient % 2 = 0 then quotient else quotient + 1

/-- The exponent at which `num / den` has a significand of full precision, or the least one. -/
def exponentFor (num den : Nat) : Int :=
  let e : Int := (num.log2 : Int) - den.log2
  let reaches := if e ≥ 0 then num ≥ den * twoTo e.toNat else num * twoTo (-e).toNat ≥ den
  let q := if reaches then e - 52 else e - 53
  if q < minExponent then minExponent else q

/-- The number nearest to `± num / den`, a tie going to the even significand. -/
def ofRatio (neg : Bool) (num den : Nat) : Binary64 :=
  if num = 0 then zero neg
  else
    let q := exponentFor num den
    let m := if q ≥ 0 then roundDiv num (den * twoTo q.toNat)
      else roundDiv (num * twoTo (-q).toNat) den
    if m = twoTo 53 then assemble neg (twoTo 52) (q + 1) else assemble neg m q

def ofNat (n : Nat) : Binary64 := ofRatio false n 1

def ofInt (i : Int) : Binary64 := ofRatio (i < 0) i.natAbs 1

def neg (x : Binary64) : Binary64 :=
  if x.negative then ⟨x.bits - 0x8000000000000000⟩ else ⟨x.bits + 0x8000000000000000⟩

/-- The number nearest to `± num / den · 2 ^ q`. -/
def ofScaledRatio (neg : Bool) (num den : Nat) (q : Int) : Binary64 :=
  if q ≥ 0 then ofRatio neg (num * twoTo q.toNat) den
  else ofRatio neg num (den * twoTo (-q).toNat)

def mul (x y : Binary64) : Binary64 :=
  let sign := x.negative != y.negative
  if x.isNaN || y.isNaN then nan
  else if !x.isFinite || !y.isFinite then
    if x.isZero || y.isZero then nan else infinity sign
  else ofScaledRatio sign (x.significand * y.significand) 1 (x.exponent + y.exponent)

/-- The quotient by a number other than zero, rounded once. -/
def div (x y : Binary64) : Binary64 :=
  let sign := x.negative != y.negative
  if x.isNaN || y.isNaN || y.isZero then nan
  else if !x.isFinite then (if y.isFinite then infinity sign else nan)
  else if !y.isFinite then zero sign
  else ofScaledRatio sign x.significand y.significand (x.exponent - y.exponent)

def powerOfTen (k : Nat) : Binary64 := ofNat (tenTo k)

/-- The power `x ^ n` by repeated squaring from the low bit of `n` on, every product rounded. -/
def power (x : Binary64) (n : Nat) : Binary64 := go 8 x n (ofNat 1)
where
  /-- One bit of the exponent per step. -/
  go : Nat → Binary64 → Nat → Binary64 → Binary64
    | 0, _, _, r => r
    | steps + 1, a, n, r =>
      let r := if n % 2 = 1 then mul r a else r
      if n / 2 = 0 then r else go steps (mul a a) (n / 2) r

/-- Whether the number is below one; a NaN is not. -/
def belowOne (x : Binary64) : Bool :=
  !x.isNaN && (x.negative || x.exponentField < 1023)

/-- The larger of the number and one; one in place of a NaN. -/
def atLeastOne (x : Binary64) : Binary64 := if x.isNaN || x.belowOne then ofNat 1 else x

/-- The number without its fraction, held between zero and `bound`; zero for a NaN. -/
def truncateTo (bound : Nat) (x : Binary64) : Nat :=
  if x.isNaN || x.negative then 0
  else if !x.isFinite then bound
  else
    let n :=
      if x.exponent ≥ 0 then x.significand * twoTo x.exponent.toNat
      else x.significand / twoTo (-x.exponent).toNat
    min bound n

/-- The integer nearest to the number, a half going away from zero, held between the bounds. -/
def roundBetween (low high : Int) (x : Binary64) : Int :=
  if x.isNaN then 0
  else if !x.isFinite then (if x.negative then low else high)
  else
    let n : Nat :=
      if x.exponent ≥ 0 then x.significand * twoTo x.exponent.toNat
      else (2 * x.significand + twoTo (-x.exponent).toNat) / (2 * twoTo (-x.exponent).toNat)
    let i : Int := if x.negative then -(n : Int) else n
    if i < low then low else if i > high then high else i

end Binary64

end Scorebook
