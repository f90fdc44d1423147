/-!
# Labels outside ASCII

The Punycode form of a label: its ASCII characters, then for every other character, in the order of
code points, how far it lies from the one before, as a numeral with digits of varying weight.
-/

namespace Scorebook.Url.Punycode

def digit (n : Nat) : Char := if n < 26 then Char.ofNat (97 + n) else Char.ofNat (22 + n)

def digitValue? (c : Char) : Option Nat :=
  if c.isLower then some (c.toNat - 97)
  else if c.isUpper then some (c.toNat - 65)
  else if c.isDigit then some (c.toNat - 22)
  else none

/-- The least value of a digit after which a numeral goes on. -/
def threshold (bias position : Nat) : Nat := min 26 (max 1 (position - bias))

theorem threshold_pos (bias position : Nat) : 0 < threshold bias position := by
  unfold threshold; omega

/-- How often a distance is scaled down, and what is left of it. -/
def scale (distance steps : Nat) : Nat × Nat :=
  if 455 < distance then scale (distance / 35) (steps + 36) else (distance, steps)
termination_by distance
decreasing_by omega

/-- The bias after a distance, of which the first counts less. -/
def adapt (distance length : Nat) (first : Bool) : Nat :=
  let d := if first then distance / 700 else distance / 2
  let (d, steps) := scale (d + d / length) 0
  steps + 36 * d / (d + 38)

def numeral (bias position distance : Nat) : List Char :=
  let t := threshold bias position
  if distance < t then [digit distance]
  else
    digit (t + (distance - t) % (36 - t)) ::
      numeral bias (position + 36) ((distance - t) / (36 - t))
termination_by distance
decreasing_by
  have h := threshold_pos bias position
  have := Nat.div_le_self (distance - threshold bias position) (36 - threshold bias position)
  omega

/-! ### Writing -/

structure Writer where
  /-- The digits written, the last first. -/
  reversed : List Char
  distance : Nat
  bias : Nat
  /-- The number of characters dealt with. -/
  done : Nat

/-- Passes a character of the label while those of one code point are written. -/
def Writer.pass (basic point : Nat) (w : Writer) (c : Char) : Writer :=
  if c.toNat < point then { w with distance := w.distance + 1 }
  else if c.toNat = point then
    { reversed := (numeral w.bias 36 w.distance).reverse ++ w.reversed
      distance := 0
      bias := adapt w.distance (w.done + 1) (w.done == basic)
      done := w.done + 1 }
  else w

/-- Writes the characters of the given code points, in ascending order. -/
def Writer.points (label : List Char) (basic : Nat) : List Nat → Nat → Writer → Writer
  | [], _, w => w
  | point :: rest, before, w =>
    let w := { w with distance := w.distance + (point - before) * (w.done + 1) }
    let w := label.foldl (Writer.pass basic point) w
    points label basic rest (point + 1) { w with distance := w.distance + 1 }

def encode (label : List Char) : List Char :=
  let basic := label.filter fun c => c.toNat < 128
  let others := ((label.filter fun c => 128 ≤ c.toNat).map Char.toNat).mergeSort.eraseReps
  let w := Writer.points label basic.length others 128 ⟨[], 0, 72, basic.length⟩
  basic ++ (if basic.isEmpty then [] else ['-']) ++ w.reversed.reverse

/-! ### Reading -/

structure Reader where
  /-- The characters read so far, in their places. -/
  label : List Char
  point : Nat
  place : Nat
  bias : Nat
  /-- The value of the digits of an unfinished numeral, the weight of its next digit and that
  digit's position; a numeral begins at position 36. -/
  distance : Nat
  weight : Nat
  position : Nat

/-- Puts the character in its place that a finished numeral stands for. -/
def Reader.put (r : Reader) : Option Reader :=
  let length := r.label.length + 1
  let sum := r.place + r.distance
  let point := r.point + sum / length
  let place := sum % length
  if h : point.isValidChar then
    some
      { label := r.label.take place ++ Char.ofNatAux point h :: r.label.drop place
        point := point
        place := place + 1
        bias := adapt r.distance length (r.place == 0)
        distance := 0
        weight := 1
        position := 36 }
  else none

def Reader.take (r : Reader) (c : Char) : Option Reader := do
  let d ← digitValue? c
  let t := threshold r.bias r.position
  let r := { r with distance := r.distance + d * r.weight }
  if d < t then r.put
  else some { r with weight := r.weight * (36 - t), position := r.position + 36 }

/-- The part in front of the last hyphen, and the part behind it. -/
def cutAtLastHyphen (cs : List Char) : List Char × List Char :=
  let last := (cs.reverse.takeWhile (· ≠ '-')).reverse
  let front := cs.take (cs.length - last.length)
  match front with
  | [] => ([], cs)
  | ['-'] => ([], cs)
  | _ => (front.dropLast, last)

def decode (cs : List Char) : Option (List Char) := do
  let (basic, rest) := cutAtLastHyphen cs
  let r ← rest.foldlM Reader.take ⟨basic, 128, 0, 72, 0, 1, 36⟩
  if r.position = 36 then some r.label else none

end Scorebook.Url.Punycode
