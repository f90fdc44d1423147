import Scorebook.BoxScore.Basic
import Scorebook.Page.CellText
import Scorebook.Page.Table

/-!
# The information block and the notes

The information block prints labels with values, `label : value`, where the colon may be of full
width and a value ends at the next blank.  Notes stand in a table of their own.
-/

namespace Scorebook.Page
open Text

/-- What follows a colon, of either width, in text without blanks in front. -/
def afterColon? : List Char → Option (List Char)
  | c :: cs => if c = ':' ∨ c = '：' then some cs else none
  | [] => none

/-- The value at the start of the text behind a label, unless it is empty. -/
def valueAfterLabel? (rest : List Char) : Option (List Char) := do
  let behind ← afterColon? (trimLeft rest)
  let value := (trimLeft behind).takeWhile fun c => !isBlank c
  if value.isEmpty then none else some value

/-- The first value behind an occurrence of a label, occurrences being looked for from left to right
and, after one without a value, behind it; `skip` characters are passed over first. -/
def labelledFrom? (label : List Char) : Nat → List Char → Option (List Char)
  | _, [] => none
  | skip + 1, _ :: cs => labelledFrom? label skip cs
  | 0, c :: cs =>
    match afterStart? label (c :: cs) with
    | none => labelledFrom? label 0 cs
    | some rest =>
      match valueAfterLabel? rest with
      | some value => some value
      | none => labelledFrom? label (label.length - 1) cs

def labelled? (text : List Char) (label : String) : Option (List Char) :=
  labelledFrom? label.toList 0 text

/-- A clock text: the leading digits and colons, if any. -/
def clock? (value : List Char) : Option String :=
  let t := value.takeWhile fun c => c.isDigit || c == ':'
  if t.isEmpty then none else some (String.ofList t)

/-- An attendance: the leading digits and commas, as a count. -/
def attendance? (value : List Char) : Option Count :=
  readCount? (String.ofList (value.takeWhile fun c => c.isDigit || c == ','))

def readInfo (text : String) : EventInfo :=
  let cs := collapse text.toList
  { stadium := (labelled? cs "구장").map String.ofList
    attendance := (labelled? cs "관중").bind attendance?
    startTime := (labelled? cs "개시").bind clock?
    endTime := (labelled? cs "종료").bind clock?
    minutes := ((labelled? cs "경기시간").bind clock?).bind readMinutes? }

def notesId : String := "tblEtc"

/-- The text of an entry without a note. -/
def noNote : String := "없음"

/-- The note of a row, if there is one. -/
def noteOfRow? : List Cell → Option Note
  | kind :: text :: _ =>
    let t := trimmed text.text
    if t.isEmpty ∨ t = noNote then none else some ⟨trimmed kind.text, t⟩
  | _ => none

def notes (tables : List Table) : List Note :=
  match tableById? tables notesId with
  | some t => t.rows.filterMap noteOfRow?
  | none => []

end Scorebook.Page
