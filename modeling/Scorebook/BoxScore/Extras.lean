import Scorebook.Json.Decoding

/-!
# Extra columns

Columns that no dictionary knows are kept with a row under their labels, in ascending order of the
labels.
-/

namespace Scorebook

/-- The text of cells by column label. -/
structure Extras where
  entries : List (String × String)
deriving DecidableEq, Repr, Inhabited

namespace Extras

def empty : Extras := ⟨[]⟩

/-- Puts a value at the place of its label among ascending labels, replacing an older one. -/
def putEntry (label value : String) : List (String × String) → List (String × String)
  | [] => [(label, value)]
  | (l, v) :: rest =>
    if label < l then (label, value) :: (l, v) :: rest
    else if label = l then (label, value) :: rest
    else (l, v) :: putEntry label value rest

/-- The columns with one more, or with the value of one replaced. -/
def insert (x : Extras) (label value : String) : Extras := ⟨putEntry label value x.entries⟩

def get? (x : Extras) (label : String) : Option String := x.entries.lookup label

def labels (x : Extras) : List String := x.entries.map Prod.fst

def toJson (x : Extras) : Json := .obj (x.entries.map fun (label, value) => (label, .str value))

/-- Puts the texts of fields; `none` when one of them is no text. -/
def ofFields? : Extras → List (String × Json) → Option Extras
  | x, [] => some x
  | x, (label, .str value) :: rest => ofFields? (x.insert label value) rest
  | _, _ :: _ => none

/-- Reads columns from an object of texts; of a label given twice the last text counts. -/
def ofJson? : Json.Decoder Extras
  | .obj fields => ofFields? empty fields
  | _ => none

end Extras

end Scorebook
