import Scorebook.Franchise.Reference
import Scorebook.Json.Reading
import Scorebook.Settings.Basic
import Scorebook.Settings.Conversion
import Scorebook.Settings.KeyPath

/-!
# Loading settings

Settings come in layers: a file, and over it the variables of the environment whose names start with
`DUGOUT_`.  Two underlines in such a name lead into a table.  Capital and small letters are not told
apart.
-/

namespace Scorebook
open Text

abbrev Environment := List (String × String)

namespace Layer

mutual
/-- A value of a file: an integer that does not fit 64 bits with a sign becomes floating point. -/
def signed : Json → Json
  | .num (.int i) =>
    if i ≤ Conversion.maxI64 then .num (.int i) else .num (.float (.ofInt i))
  | .arr items => .arr (signedItems items)
  | .obj fields => .obj (signedFields fields)
  | v => v
def signedItems : List Json → List Json
  | [] => []
  | v :: vs => signed v :: signedItems vs
def signedFields : List (String × Json) → List (String × Json)
  | [] => []
  | (n, v) :: rest => (n, signed v) :: signedFields rest
end

def putAll (layer : Json) (entries : List (String × Json)) : Json :=
  entries.foldl (fun root (key, v) => (KeyPath.ofKey key).put v root) layer

/-- The layer of a file's text, which has to be a table. -/
def ofText? (text : String) : Option Json :=
  match (Json.read? text).map fun v => signed v.withoutRepeats with
  | some (.obj fields) => some (putAll (.obj []) fields)
  | _ => none

/-- What the names of variables start with, in small letters. -/
def variableStart : List Char := "dugout_".toList

/-- A name with every two underlines made one dot, from the left. -/
def dotted : List Char → List Char
  | '_' :: '_' :: cs => '.' :: dotted cs
  | c :: cs => c :: dotted cs
  | [] => []

/-- The value of a variable: a truth value, a number or a text. -/
def variableValue (s : String) : Json :=
  let cs := s.toList
  if foldKey s == "true" then .bool true
  else if foldKey s == "false" then .bool false
  else
    match signedNumeral? Conversion.minI64 Conversion.maxI64 cs, Binary64.read? cs with
    | some i, _ => .ofInt i
    | none, some x => .num (.float x)
    | none, none => .str s

def settingOf? (name value : String) : Option (String × Json) :=
  (afterStart? variableStart (foldKey name).toList).map fun key =>
    (String.ofList (dotted key), variableValue value)

def overlay (layer : Json) (env : Environment) : Json :=
  putAll layer (env.filterMap fun (name, value) => settingOf? name value)

end Layer

/-- Loads settings from the text of a file, if there is one, and the environment. -/
def Settings.load (file : Option String) (env : Environment) : Option Settings := do
  let layer ← match file with
    | none => some (.obj [])
    | some text => Layer.ofText? text
  Settings.read Conversion.loose (Layer.overlay layer env)

def Franchise.Reference.load (text : String) : Option Franchise.Reference :=
  (Layer.ofText? text).bind (Franchise.Reference.read Conversion.loose)

end Scorebook
