import Scorebook.Calendar.Reading
import Scorebook.Powers

/-!
# Instants

A point in time, in UTC, to the nanosecond.  The second of a minute may be 60: such an instant is
kept as the 59th second with a thousand million more nanoseconds.  Two readers are given: the
strict one takes exactly the timestamp format of the internet, the lenient one also blanks,
unpadded numbers, signed years, a missing colon in the offset, and `UTC` for the offset.
-/

namespace Scorebook

/-- A point in time, in UTC. -/
structure Instant where
  date : Date
  /-- The second of the day, below 86400. -/
  second : Nat
  /-- The nanosecond; a second 60 adds a thousand million. -/
  nano : Nat
deriving DecidableEq, Inhabited

namespace Instant
open Text Calendar

def epoch : Instant := ⟨Date.epoch, 0, 0⟩

/-- The fraction of a second with the fewest of 0, 3, 6 and 9 digits that hold it. -/
def fractionText (nano : Nat) : List Char :=
  let n := nano % 1000000000
  if n = 0 then []
  else if n % 1000000 = 0 then '.' :: paddedDigits 3 (n / 1000000)
  else if n % 1000 = 0 then '.' :: paddedDigits 6 (n / 1000)
  else '.' :: paddedDigits 9 n

def timeText (t : Instant) : List Char :=
  let s := t.second % 60 + t.nano / 1000000000
  paddedDigits 2 (t.second / 3600) ++ ':' :: paddedDigits 2 (t.second / 60 % 60) ++
    ':' :: paddedDigits 2 s ++ fractionText t.nano

def textWith (offset : List Char) (t : Instant) : String :=
  String.ofList (t.date.isoChars ++ 'T' :: t.timeText ++ offset)

def zuluText (t : Instant) : String := t.textWith ['Z']

def offsetText (t : Instant) : String := t.textWith ['+', '0', '0', ':', '0', '0']

/-- The instant of a local day and time at an offset of so many seconds east. -/
def ofLocal (date : Date) (second nano : Nat) (offset : Int) : Except ReadError Instant :=
  let s : Int := second - offset
  let shifted : Option Date :=
    if s < 0 then date.yesterday? else if s ≥ 86400 then date.tomorrow? else some date
  match shifted with
  | some d => .ok ⟨d, (s % 86400).toNat, nano⟩
  | none => .error .outOfRange

/-- Reads a fraction of a second, if one is there: nine digits count, further ones are skipped. -/
def fraction : List Char → Reading Nat
  | '.' :: cs =>
    match number 9 cs with
    | .error e => .error e
    | .ok (n, rest) =>
      let used := cs.length - rest.length
      .ok (n * tenTo (9 - used), rest.dropWhile Char.isDigit)
  | cs => .ok (0, cs)

/-- Reads an offset in seconds: `Z`, or a sign, two digits of hours, a separator that `separator`
takes, and two digits of minutes. -/
def offset (separator : List Char → Except ReadError (List Char)) :
    List Char → Except ReadError (Int × List Char)
  | [] => .error .tooShort
  | c :: cs =>
    if c = 'Z' ∨ c = 'z' then .ok (0, cs)
    else if c = '+' ∨ c = '-' ∨ c = '−' then do
      let (hours, cs) ← exactNumber 2 cs
      let cs ← separator cs
      let (minutes, cs) ← exactNumber 2 cs
      if minutes ≥ 60 then .error .outOfRange
      else
        let s : Int := hours * 3600 + minutes * 60
        .ok (if c = '+' then s else -s, cs)
    else .error .invalid

def ofParts (day : Int × Nat × Nat) (hour minute second nano : Nat) (offset : Int) :
    Except ReadError Instant := do
  let (year, month, dayOfMonth) := day
  let date ← realDate year month dayOfMonth
  if hour > 23 ∨ minute > 59 ∨ second > 60 then .error .outOfRange
  else if offset ≤ -86400 ∨ offset ≥ 86400 then .error .outOfRange
  else
    let seconds := hour * 3600 + minute * 60 + min second 59
    ofLocal date seconds (if second = 60 then 1000000000 + nano else nano) offset

def daySeparator : List Char → Except ReadError (List Char)
  | [] => .error .tooShort
  | c :: cs => if c = 'T' ∨ c = 't' ∨ c = ' ' then .ok cs else .error .invalid

/-- Reads a timestamp in exactly the internet format. -/
def readStrict (cs : List Char) : Except ReadError Instant := do
  let (year, cs) ← exactNumber 4 cs
  let cs ← mark '-' cs
  let (month, cs) ← exactNumber 2 cs
  let cs ← mark '-' cs
  let (day, cs) ← exactNumber 2 cs
  let cs ← daySeparator cs
  let (hour, cs) ← exactNumber 2 cs
  let cs ← mark ':' cs
  let (minute, cs) ← exactNumber 2 cs
  let cs ← mark ':' cs
  let (second, cs) ← exactNumber 2 cs
  let (nano, cs) ← fraction cs
  let (east, cs) ← offset (mark ':') cs
  if cs.isEmpty then ofParts (year, month, day) hour minute second nano east
  else .error .trailing

def skipSeparators (cs : List Char) : List Char := cs.dropWhile fun c => c == ':' || isBlank c

/-- Takes `UTC` in any case, or else an offset with a lax separator. -/
def lenientOffset (cs : List Char) : Reading Int :=
  if (cs.take 3).map Char.toUpper = ['U', 'T', 'C'] then .ok (0, cs.drop 3)
  else offset (fun r => .ok (skipSeparators r)) cs

def readLenient (cs : List Char) : Except ReadError Instant := do
  let (day, cs) ← hyphenated cs
  let cs ← daySeparator cs
  let (hour, cs) ← numberBetween 0 23 2 cs
  let cs ← mark ':' (trimLeft cs)
  let (minute, cs) ← numberBetween 0 59 2 cs
  let cs ← mark ':' (trimLeft cs)
  let (second, cs) ← numberBetween 0 60 2 cs
  let (nano, cs) ← fraction cs
  let (east, cs) ← lenientOffset (trimLeft cs)
  if cs.isEmpty then ofParts day hour minute second nano east else .error .trailing

end Instant

end Scorebook
