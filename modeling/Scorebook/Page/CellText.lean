import Scorebook.Binary64.Decimal
import Scorebook.PlayerId
import Scorebook.Text.Search

/-!
# Reading the text of cells

A blank cell and a dash are missing values, never zero.
-/

namespace Scorebook.Page
open Text

/-- The texts of a cell without a value. -/
def missingTexts : List String := ["", "-", "null", "NULL"]

/-- The trimmed text of a cell with a value, its commas dropped. -/
def valueChars? (s : String) : Option (List Char) :=
  if missingTexts.contains (trimmed s) then none
  else some ((trim s.toList).filter (· ≠ ','))

/-- Reads a count; commas may group its digits. -/
def readCount? (s : String) : Option Count := (valueChars? s).bind Count.read?

/-- Reads a rate; what is no finite number is missing. -/
def readRate? (s : String) : Option Binary64 :=
  ((valueChars? s).bind Binary64.read?).filter Binary64.isFinite

def leadingNumber? (s : String) : Option Count :=
  Count.read? (leadingDigits (s.toList.dropWhile fun c => !c.isDigit))

/-- Reads a duration in hours and minutes, as minutes.  They are words of 32 bits and are added as
such, so hours that are too many wrap around. -/
def readMinutes? (s : String) : Option Count := do
  let (hours, minutes) ← cutAt? [':'] (trim s.toList)
  let hours ← Count.read? (trim hours)
  let minutes ← Count.read? (trim minutes)
  if minutes < 60 then some (hours * 60 + minutes) else none

/-- Reads the digits after the first occurrence of a mark as a player number. -/
def playerAfter? (mark : List Char) (s : String) : Option PlayerId := do
  let (_, rest) ← cutAt? mark s.toList
  (Count.read? (leadingDigits rest)).map PlayerId.mk

def linkedPlayer? (href : String) : Option PlayerId := playerAfter? "playerId=".toList href

/-- The trimmed text of a cell that is not blank. -/
def filledText? (s : String) : Option String := if isBlankText s then none else some (trimmed s)

end Scorebook.Page
