import Scorebook.Json.Basic
import Scorebook.Text.Case
import Scorebook.Text.Numeral
import Scorebook.Text.Search

/-!
# Paths of keys

A key may name a place within nested tables and lists: `throttle.min_delay_ms`,
`player_aliases[0].old_name`.  Putting a value at a path makes the tables and lists on the way.
Names do not tell capital from small letters where they are put.
-/

namespace Scorebook

/-- A place within nested tables and lists. -/
inductive KeyPath where
  | top (s : String)
  | child (path : KeyPath) (s : String)
  | item (path : KeyPath) (index : Int)
deriving DecidableEq, Repr

namespace KeyPath
open Text

/-- Whether a character may stand in a name. -/
def isNameChar (c : Char) : Bool := c.isAlphanum || c == ' ' || c == '_' || c == '-'

/-- The index that a list path starts with, up to its closing bracket, and the rest. -/
def index? (cs : List Char) : Option (Int × List Char) := do
  let isGap := fun (c : Char) => c == ' ' || c == '\t'
  let (body, rest) ← cutAt? [']'] cs
  let inner := ((body.dropWhile isGap).reverse.dropWhile isGap).reverse
  if inner.head? == some '+' then none
  else (signedNumeral? (-9223372036854775808) 9223372036854775807 inner).map (·, rest)

/-- Reads the steps behind a path; the number bounds how many. -/
def stepsFrom : Nat → KeyPath → List Char → Option KeyPath
  | _, path, [] => some path
  | 0, _, _ :: _ => none
  | steps + 1, path, '.' :: cs =>
    let s := cs.takeWhile isNameChar
    if s.isEmpty then none
    else stepsFrom steps (.child path (String.ofList s)) (cs.dropWhile isNameChar)
  | steps + 1, path, '[' :: cs => do
    let (i, rest) ← index? cs
    stepsFrom steps (.item path i) rest
  | _, _, _ => none

def read? (key : String) : Option KeyPath :=
  let cs := key.toList
  let s := cs.takeWhile isNameChar
  if s.isEmpty then none else stepsFrom cs.length (.top (String.ofList s)) (cs.dropWhile isNameChar)

/-- The path of a key; a key that is no path is a name as a whole. -/
def ofKey (key : String) : KeyPath := (read? key).getD (.top key)

/-! ### Putting values -/

/-- The fields of a table; what is no table has none. -/
def fieldsOf : Json → List (String × Json)
  | .obj fields => fields
  | _ => []

/-- The items of a list; what is no list has none. -/
def itemsOf : Json → List Json
  | .arr items => items
  | _ => []

/-- The value of a field, `null` when there is none. -/
def valueOf (name : String) (v : Json) : Json := ((fieldsOf v).lookup name).getD .null

mutual
/-- Puts a value under a name of a table.  A table that is put is merged into the one that is
there. -/
def place (name : String) (target : Json) : Json → Json
  | .obj fields =>
    let within := ((fieldsOf target).lookup (foldKey name)).getD (.obj [])
    .obj (Json.putField (foldKey name) (placeAll within fields) (fieldsOf target))
  | v => .obj (Json.putField (foldKey name) v (fieldsOf target))
def placeAll (target : Json) : List (String × Json) → Json
  | [] => target
  | (name, v) :: rest => placeAll (place name target v) rest
end

/-- The place of an index in a list; a negative one counts from the end. -/
def position (index : Int) (length : Nat) : Nat :=
  if index ≥ 0 then index.toNat else length - index.natAbs

/-- A list with an item changed; it grows by `null` up to the place. -/
def modifyItem (items : List Json) (i : Nat) (f : Json → Json) : List Json :=
  (items ++ List.replicate (i + 1 - items.length) Json.null).modify i f

/-- Changes the value at a path, making the tables and lists on the way. -/
def modify : KeyPath → (Json → Json) → Json → Json
  | .top s, f, root => .obj (Json.putField s (f (valueOf s root)) (fieldsOf root))
  | .child path s, f, root =>
    path.modify (fun v => .obj (Json.putField s (f (valueOf s v)) (fieldsOf v))) root
  | .item path i, f, root =>
    path.modify (fun v =>
      let items := itemsOf v
      .arr (modifyItem items (position i items.length) f)) root

def put (path : KeyPath) (value root : Json) : Json :=
  match path with
  | .top s => place s root value
  | .child path s => path.modify (fun v => place s v value) root
  | .item path i =>
    path.modify (fun v =>
      let items := itemsOf v
      .arr (modifyItem items (position i items.length) fun _ => value)) root

end KeyPath

end Scorebook
