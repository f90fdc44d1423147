import Scorebook.Count
import Scorebook.Text.Blank
import Scorebook.Text.Search

/-!
# Innings pitched, as outs

Three outs make an inning.  Score sheets print innings in thirds (`5 1/3`), with a fraction
character (`5⅓`), or dotted (`5.1`); all of them are read into a whole number of outs, which is the
only form in which they can be added.
-/

namespace Scorebook

structure Outs where
  count : Count
deriving DecidableEq, Repr, Inhabited

namespace Outs
open Text

/-- The outs of so many whole innings and thirds, when they fit. -/
def ofInnings? (whole thirds : Nat) : Option Outs := (Count.ofNat? (3 * whole + thirds)).map Outs.mk

def innings (o : Outs) : Nat := o.count.toNat / 3

def thirds (o : Outs) : Nat := o.count.toNat % 3

/-- The dotted form, such as `5.1` for 16 outs. -/
def dotted (o : Outs) : List Char := digits o.innings ++ '.' :: digits o.thirds

/-- The form in thirds, such as `5 1/3`; a part that is zero is left out. -/
def fractional (o : Outs) : List Char :=
  if o.thirds = 0 then digits o.innings
  else if o.innings = 0 then digits o.thirds ++ ['/', '3']
  else digits o.innings ++ ' ' :: digits o.thirds ++ ['/', '3']

def readThirds? (cs : List Char) : Option Nat :=
  match cutAt? ['/'] cs with
  | some (numerator, ['3']) => (numeral? maxU32 numerator).filter (· < 3)
  | _ => none

/-- Reads whole innings, or dotted ones with one digit below three behind the point; the whole part
may be missing in front of a point. -/
def readDotted? (cs : List Char) : Option Outs :=
  match cutAt? ['.'] cs with
  | none => (numeral? maxU32 cs).bind (ofInnings? · 0)
  | some (whole, point) => do
    let w ← if whole.isEmpty then some 0 else numeral? maxU32 whole
    let t ← match point with
      | ['0'] => some 0
      | ['1'] => some 1
      | ['2'] => some 2
      | _ => none
    ofInnings? w t

/-- Fraction characters spelled out as a word of their own. -/
def spellFractions (cs : List Char) : List Char :=
  replaceChar '⅔' [' ', '2', '/', '3'] (replaceChar '⅓' [' ', '1', '/', '3'] cs)

def readChars? (cs : List Char) : Option Outs :=
  match words (spellFractions cs) with
  | [whole, part] => do
    let w ← numeral? maxU32 whole
    let t ← readThirds? part
    ofInnings? w t
  | [only] => if only.contains '/' then (readThirds? only).bind (ofInnings? 0) else readDotted? only
  | _ => none

def read? (s : String) : Option Outs := readChars? s.toList

def add (a b : Outs) : Outs := ⟨Count.add a.count b.count⟩

def sum (os : List Outs) : Outs := os.foldl add ⟨0⟩

/-- Adds the outs of one more appearance to those counted so far. -/
def tally (o : Outs) : StateM Outs Unit := modify (add · o)

end Outs

end Scorebook
