import Scorebook.Markup.Node

/-!
# The tree under construction

While a page is read its nodes are moved about, so they are kept in a table, each with its parent
and its children.  Node 0 is the document.  `toDocument` gives the finished tree.
-/

namespace Scorebook.Markup

/-- The language that an element belongs to: that of pages, or one of the two that may be embedded
in them. -/
inductive Language where
  | page
  | drawing
  | formula
deriving DecidableEq, Repr, Inhabited

inductive NodeKind where
  | document
  | element (language : Language) (tag : Tag)
  /-- A text, its last character first. -/
  | text (reversed : List Char)
  | comment
deriving Inhabited

structure Entry where
  kind : NodeKind
  parent : Option Nat
  children : Array Nat
deriving Inhabited

structure Arena where
  entries : Array Entry

namespace Arena

def initial : Arena := ⟨#[⟨.document, none, #[]⟩]⟩

def get (a : Arena) (n : Nat) : Entry := a.entries[n]?.getD ⟨.comment, none, #[]⟩

def modify (a : Arena) (n : Nat) (f : Entry → Entry) : Arena := ⟨a.entries.modify n f⟩

def add (a : Arena) (kind : NodeKind) : Arena × Nat :=
  (⟨a.entries.push ⟨kind, none, #[]⟩⟩, a.entries.size)

def detach (a : Arena) (n : Nat) : Arena :=
  match (a.get n).parent with
  | none => a
  | some p =>
    (a.modify p fun e => { e with children := e.children.filter (· ≠ n) }).modify n
      fun e => { e with parent := none }

/-- Puts a node behind the other children of a parent. -/
def append (a : Arena) (parent n : Nat) : Arena :=
  ((a.detach n).modify parent fun e => { e with children := e.children.push n }).modify n
    fun e => { e with parent := some parent }

/-- Puts a node in front of a child. -/
def insertBefore (a : Arena) (sibling n : Nat) : Arena :=
  let a := a.detach n
  match (a.get sibling).parent with
  | none => a
  | some p =>
    let place := fun (done : Array Nat) (c : Nat) =>
      if c = sibling then (done.push n).push c else done.push c
    (a.modify p fun e => { e with children := e.children.foldl place #[] }).modify n
      fun e => { e with parent := some p }

def isText (a : Arena) (n : Nat) : Bool :=
  match (a.get n).kind with
  | .text _ => true
  | _ => false

def extendText (a : Arena) (n : Nat) (cs : List Char) : Arena :=
  a.modify n fun e =>
    match e.kind with
    | .text reversed => { e with kind := .text (cs.reverse ++ reversed) }
    | _ => e

/-- Puts text behind the other children of a parent; a text that is the last child grows. -/
def appendText (a : Arena) (parent : Nat) (cs : List Char) : Arena :=
  match (a.get parent).children.back? with
  | some last =>
    if a.isText last then a.extendText last cs
    else
      let (a, n) := a.add (.text cs.reverse)
      a.append parent n
  | none =>
    let (a, n) := a.add (.text cs.reverse)
    a.append parent n

def previousSibling? (a : Arena) (n : Nat) : Option Nat := do
  let p ← (a.get n).parent
  let children := (a.get p).children
  let i ← children.idxOf? n
  if i = 0 then none else children[i - 1]?

/-- Puts text in front of a child; a text that stands there grows. -/
def insertTextBefore (a : Arena) (sibling : Nat) (cs : List Char) : Arena :=
  match a.previousSibling? sibling with
  | some previous =>
    if a.isText previous then a.extendText previous cs
    else
      let (a, n) := a.add (.text cs.reverse)
      a.insertBefore sibling n
  | none =>
    let (a, n) := a.add (.text cs.reverse)
    a.insertBefore sibling n

/-- Moves all children of a node behind those of another. -/
def moveChildren (a : Arena) (source target : Nat) : Arena :=
  (a.get source).children.foldl (fun a n => a.append target n) a

/-- Gives an element the attributes that it has not. -/
def addAttributes (a : Arena) (n : Nat) (attributes : List (String × String)) : Arena :=
  a.modify n fun e =>
    match e.kind with
    | .element language tag =>
      let more := attributes.filter fun (name, _) => !tag.attributes.any fun t => t.1 == name
      { e with kind := .element language { tag with attributes := tag.attributes ++ more } }
    | _ => e

/-- The finished nodes of a list of entries; the first argument bounds the depth. -/
def toNodes (a : Arena) : Nat → List Nat → List Node
  | 0, _ => []
  | depth + 1, ns =>
    ns.map fun n =>
      let e := a.get n
      match e.kind with
      | .element _ tag => .element ⟨n, tag⟩ (toNodes a depth e.children.toList)
      | .text reversed => .text (String.ofList reversed.reverse)
      | _ => .comment

/-- The finished tree.  No branch is longer than there are nodes. -/
def toDocument (a : Arena) : Document := ⟨a.toNodes a.entries.size (a.get 0).children.toList⟩

end Arena

end Scorebook.Markup
