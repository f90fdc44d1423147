import Scorebook.Binary64.Basic
import Scorebook.Text.Numeral

/-!
# Decimal text of 64-bit floating point

Reading rounds the written decimal to the nearest number.  Writing takes the shortest decimal that
reads back, and of several the one nearest to the number: for one digit, two digits and so on it
tests the two neighbours of the number on that decimal grid against the interval of reals that
round to it.  Two layouts are offered: the plain one never uses an exponent, the scientific one
does outside `10 ^ -5 … 10 ^ 16`.
-/

namespace Scorebook.Binary64
open Scorebook.Text

/-- A decimal `digits · 10 ^ scale`. -/
structure Shortest where
  digits : Nat
  scale : Int
deriving DecidableEq, Repr

/-- Drops the zeros at the end of the digits; the first argument bounds their number. -/
def stripZeros : Nat → Shortest → Shortest
  | 0, s => s
  | n + 1, s =>
    if s.digits ≠ 0 ∧ s.digits % 10 = 0 then stripZeros n ⟨s.digits / 10, s.scale + 1⟩ else s

/-- A ratio `num / den` with `10 ^ k` divided out. -/
def scaledBy (num den : Nat) (k : Int) : Nat × Nat :=
  if k ≥ 0 then (num, den * tenTo k.toNat) else (num * tenTo (-k).toNat, den)

/-- The greatest `e` with `10 ^ e ≤ num / den`, searched downwards from `e` in `steps` steps. -/
def magnitudeFrom : Nat → Int → Nat → Nat → Int
  | 0, e, _, _ => e
  | steps + 1, e, num, den =>
    let (n, d) := scaledBy num den e
    if n ≥ d then e else magnitudeFrom steps (e - 1) num den

/-- The greatest `e` with `10 ^ e ≤ num / den`. -/
def magnitude (num den : Nat) : Int :=
  let bits : Int := (num.log2 : Int) - den.log2
  magnitudeFrom 4 ((bits + 1) * 30103 / 100000 + 1) num den

/-- The interval of reals that round to a number, in quarters of its last place, and whether its
ends belong to it. -/
structure RoundingInterval where
  low : Nat
  value : Nat
  high : Nat
  closed : Bool

/-- The rounding interval of a finite number other than zero. -/
def roundingInterval (x : Binary64) : RoundingInterval :=
  let m := x.significand
  let low := if m = twoTo 52 ∧ x.exponent > minExponent then 4 * m - 1 else 4 * m - 2
  ⟨low, 4 * m, 4 * m + 2, m % 2 == 0⟩

/-- `a ≤ b`, or `a < b` for an open end. -/
def within (closed : Bool) (a b : Nat) : Bool := if closed then a ≤ b else a < b

/-- The neighbour on the grid `10 ^ k` that lies in the rounding interval and is nearest, if one
does.  A neighbour `d` stands for `d · 10 ^ k`; the ends and the value are quarters times `unit`. -/
def onGrid (iv : RoundingInterval) (unitNum unitDen : Nat) (k : Int) : Option Shortest :=
  let (gridNum, gridDen) := if k ≥ 0 then (tenTo k.toNat, 1) else (1, tenTo (-k).toNat)
  -- Both sides of a comparison are multiplied by the two denominators.
  let step := gridNum * unitDen
  let scale := unitNum * gridDen
  let value := iv.value * scale
  let d := value / step
  let lowFits := within iv.closed (iv.low * scale) (d * step)
  let highFits := within iv.closed ((d + 1) * step) (iv.high * scale)
  if lowFits && highFits then
    let down := value - d * step
    let up := (d + 1) * step - value
    if down < up then some ⟨d, k⟩
    else if up < down then some ⟨d + 1, k⟩
    else if d % 2 = 0 then some ⟨d, k⟩ else some ⟨d + 1, k⟩
  else if lowFits then some ⟨d, k⟩
  else if highFits then some ⟨d + 1, k⟩
  else none

/-- The first grid with a hit, starting at `10 ^ k` and getting finer. -/
def firstHit (iv : RoundingInterval) (unitNum unitDen : Nat) : Nat → Int → Shortest
  | 0, k => ⟨0, k⟩
  | steps + 1, k =>
    match onGrid iv unitNum unitDen k with
    | some s => s
    | none => firstHit iv unitNum unitDen steps (k - 1)

/-- The shortest decimal that reads back as the finite number `|x|`. -/
def shortest (x : Binary64) : Shortest :=
  if x.isZero then ⟨0, 0⟩
  else
    let q := x.exponent - 2
    let (unitNum, unitDen) := if q ≥ 0 then (twoTo q.toNat, 1) else (1, twoTo (-q).toNat)
    let iv := x.roundingInterval
    let e := magnitude (iv.value * unitNum) unitDen
    stripZeros 20 (firstHit iv unitNum unitDen 20 e)

def signText (x : Binary64) : List Char := if x.negative then ['-'] else []

def zeros (n : Nat) : List Char := List.replicate n '0'

/-- The layout of structured data: a fraction always, and an exponent outside
`10 ^ -5 … 10 ^ 16`. -/
def scientific (x : Binary64) : List Char :=
  let s := x.shortest
  let ds := digits s.digits
  let point : Int := ds.length + s.scale
  let body :=
    if s.digits = 0 then ['0', '.', '0']
    else if 0 ≤ s.scale ∧ point ≤ 16 then ds ++ zeros s.scale.toNat ++ ['.', '0']
    else if 0 < point ∧ point ≤ 16 then ds.take point.toNat ++ '.' :: ds.drop point.toNat
    else if -5 < point ∧ point ≤ 0 then ['0', '.'] ++ zeros (-point).toNat ++ ds
    else
      let power := (signedDecimal (point - 1)).toList
      match ds with
      | [d] => d :: 'e' :: power
      | d :: rest => d :: '.' :: rest ++ 'e' :: power
      | [] => []
  x.signText ++ body

/-- The plain layout: no exponent, and a fraction only where there is one. -/
def plain (x : Binary64) : List Char :=
  if x.isNaN then ['N', 'a', 'N']
  else if !x.isFinite then x.signText ++ ['i', 'n', 'f']
  else
    let s := x.shortest
    let ds := digits s.digits
    let point : Int := ds.length + s.scale
    let body :=
      if s.digits = 0 then ['0']
      else if 0 ≤ s.scale then ds ++ zeros s.scale.toNat
      else if 0 < point then ds.take point.toNat ++ '.' :: ds.drop point.toNat
      else ['0', '.'] ++ zeros (-point).toNat ++ ds
    x.signText ++ body

/-- The number nearest to `± digits · 10 ^ scale`.  A magnitude far outside the range of the format
is settled by the count of digits, without computing the power. -/
def ofDecimal (neg : Bool) (significant : Nat) (scale : Int) : Binary64 :=
  let point : Int := (digits significant).length + scale
  if significant = 0 then zero neg
  else if point > 310 then infinity neg
  else if point < -330 then zero neg
  else if scale ≥ 0 then ofRatio neg (significant * tenTo scale.toNat) 1
  else ofRatio neg significant (tenTo (-scale).toNat)

/-- Reads an exponent part: an optional sign and at least one digit, and nothing after it. -/
def readExponent? (cs : List Char) : Option Int :=
  let (neg, ds) := match cs with
    | '+' :: r => (false, r)
    | '-' :: r => (true, r)
    | r => (false, r)
  if ds.isEmpty || !ds.all Char.isDigit then none
  else
    let n : Int := digitsValue ds
    some (if neg then -n else n)

/-- Reads an unsigned decimal: digits with at most one point and at least one digit, and an optional
exponent. -/
def readUnsigned? (neg : Bool) (cs : List Char) : Option Binary64 :=
  let whole := cs.takeWhile Char.isDigit
  let afterWhole := cs.dropWhile Char.isDigit
  let (fraction, rest) := match afterWhole with
    | '.' :: r => (r.takeWhile Char.isDigit, r.dropWhile Char.isDigit)
    | r => ([], r)
  if whole.isEmpty && fraction.isEmpty then none
  else
    let build (e : Int) := ofDecimal neg (digitsValue (whole ++ fraction)) (e - fraction.length)
    match rest with
    | [] => some (build 0)
    | c :: r => if c = 'e' ∨ c = 'E' then (readExponent? r).map build else none

/-- Reads a decimal number: an optional sign, then a decimal, `inf`, `infinity` or `nan` in any
case. -/
def read? (cs : List Char) : Option Binary64 :=
  let (neg, rest) := match cs with
    | '+' :: r => (false, r)
    | '-' :: r => (true, r)
    | r => (false, r)
  let lower := rest.map Char.toLower
  if lower = ['i', 'n', 'f'] ∨ lower = ['i', 'n', 'f', 'i', 'n', 'i', 't', 'y'] then
    some (infinity neg)
  else if lower = ['n', 'a', 'n'] then some (if neg then Binary64.neg nan else nan)
  else readUnsigned? neg rest

end Scorebook.Binary64
