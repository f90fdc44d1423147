import Scorebook.Json.Basic
import Scorebook.Binary64.Decimal
import Scorebook.Text.Quoted

/-!
# Writing JSON

The compact form has no blanks; the pretty form puts every item and field on a line of its own,
two blanks deeper than what holds it, and sorts the fields of every object by name.
-/

namespace Scorebook.Json
open Text

def escapeChar (c : Char) : List Char :=
  if c = '"' then ['\\', '"']
  else if c = '\\' then ['\\', '\\']
  else if c = '\x08' then ['\\', 'b']
  else if c = '\x0c' then ['\\', 'f']
  else if c = '\n' then ['\\', 'n']
  else if c = '\r' then ['\\', 'r']
  else if c = '\t' then ['\\', 't']
  else if c.toNat < 0x20 then
    let ds := hexDigits c.toNat
    ['\\', 'u'] ++ List.replicate (4 - ds.length) '0' ++ ds
  else [c]

def stringText (s : String) : String :=
  String.ofList ('"' :: (s.toList.flatMap escapeChar ++ ['"']))

def numberText : JsonNumber → String
  | .int i => signedDecimal i
  | .float x => String.ofList x.scientific

def openBrace : String := "\x7b"
def closeBrace : String := "\x7d"

mutual
def compact : Json → String
  | .null => "null"
  | .bool true => "true"
  | .bool false => "false"
  | .num n => numberText n
  | .str s => stringText s
  | .arr items => "[" ++ ",".intercalate (compactItems items) ++ "]"
  | .obj fields => openBrace ++ ",".intercalate (compactFields fields) ++ closeBrace
/-- The items of an array in compact form. -/
def compactItems : List Json → List String
  | [] => []
  | v :: vs => compact v :: compactItems vs
/-- The fields of an object in compact form. -/
def compactFields : List (String × Json) → List String
  | [] => []
  | (name, v) :: rest => (stringText name ++ ":" ++ compact v) :: compactFields rest
end

/-- So many levels of indentation, on a new line. -/
def newLine (level : Nat) : String := String.ofList ('\n' :: List.replicate (2 * level) ' ')

/-- A field goes before another whose name is not smaller, by code points. -/
def nameBefore (a b : String × String) : Bool := a.1 < b.1 || a.1 == b.1

/-- Parts between brackets, each on its own line. -/
def bracketed (level : Nat) (opening closing : String) (parts : List String) : String :=
  if parts.isEmpty then opening ++ closing
  else
    opening ++ newLine (level + 1) ++ ("," ++ newLine (level + 1)).intercalate parts ++
      newLine level ++ closing

mutual
/-- The value in pretty form, inside so many levels. -/
def prettyAt (level : Nat) : Json → String
  | .arr items => bracketed level "[" "]" (prettyItems (level + 1) items)
  | .obj fields =>
    let parts := (prettyFields (level + 1) fields).mergeSort nameBefore
    bracketed level openBrace closeBrace
      (parts.map fun (name, text) => stringText name ++ ": " ++ text)
  | .null => "null"
  | .bool true => "true"
  | .bool false => "false"
  | .num n => numberText n
  | .str s => stringText s
/-- The items of an array in pretty form. -/
def prettyItems (level : Nat) : List Json → List String
  | [] => []
  | v :: vs => prettyAt level v :: prettyItems level vs
/-- The names of fields with their values in pretty form. -/
def prettyFields (level : Nat) : List (String × Json) → List (String × String)
  | [] => []
  | (name, v) :: rest => (name, prettyAt level v) :: prettyFields level rest
end

def pretty (v : Json) : String := prettyAt 0 v

end Scorebook.Json
