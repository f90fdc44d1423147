import Scorebook.Markup.Builder.State

/-!
# Formatting elements

Formatting elements such as `b` and `a` may be closed in another order than they were opened, and
are opened again where their effect goes on.  The end tag of one that is not innermost moves
elements so that the tree is nested again.
-/

namespace Scorebook.Markup.Builder

/-- The entries after the last marker, the last first. -/
def afterMarker (entries : List Formatting) : List Formatting :=
  entries.takeWhile fun
    | .marker => false
    | .element .. => true

def isFormatting (b : Builder) (node : Nat) : Bool := b.formatting.any (Formatting.isFor node)

def pushMarker (b : Builder) : Builder := { b with formatting := .marker :: b.formatting }

/-- Drops the formatting elements up to and with the last marker. -/
def clearToMarker (b : Builder) : Builder :=
  { b with formatting := b.formatting.drop ((afterMarker b.formatting).length + 1) }

/-- Takes an element out of the formatting elements. -/
def removeFormatting (b : Builder) (node : Nat) : Builder :=
  { b with formatting := b.formatting.filter fun f => !Formatting.isFor node f }

/-! ### Opening again -/

/-- Opens elements again, and gives the new entries, the last first. -/
def reopenAll : Builder → List Formatting → List Formatting → Builder × List Formatting
  | b, done, [] => (b, done)
  | b, done, .marker :: rest => reopenAll b (.marker :: done) rest
  | b, done, .element _ tag :: rest =>
    let b := b.insert tag
    reopenAll b (.element (b.current?.getD 0) tag :: done) rest

/-- Whether an entry needs no opening: it is a marker, or its element is open. -/
def needsNoOpening (b : Builder) : Formatting → Bool
  | .marker => true
  | .element n _ => b.stack.contains n

/-- Opens the last formatting elements again that are not open. -/
def reopenFormatting (b : Builder) : Builder :=
  let closed := b.formatting.takeWhile fun f => !b.needsNoOpening f
  let kept := b.formatting.drop closed.length
  let (b, entries) := reopenAll b kept closed.reverse
  { b with formatting := entries }

/-! ### Adding -/

/-- Whether two tags have the same name and attributes, in any order. -/
def sameTag (s t : Tag) : Bool :=
  s.name == t.name && s.attributes.length == t.attributes.length &&
    s.attributes.all t.attributes.contains

/-- Drops the earliest of three entries with the same tag after the last marker. -/
def limitRepeats (tag : Tag) (entries : List Formatting) : List Formatting :=
  let same := (afterMarker entries).filterMap fun
    | .marker => none
    | .element n t => if sameTag t tag then some n else none
  if same.length ≥ 3 then
    match same.getLast? with
    | some earliest => entries.filter fun f => !Formatting.isFor earliest f
    | none => entries
  else entries

def insertFormatting (b : Builder) (tag : Tag) : Builder :=
  let entries := limitRepeats tag b.formatting
  let b := b.insert tag
  { b with formatting := .element (b.current?.getD 0) tag :: entries }

/-! ### End tags -/

/-- The end tag of an element without rules of its own: the innermost such element is closed, unless
an element with rules of its own is further in. -/
def closeOrdinary (b : Builder) (name : String) : Builder :=
  match b.stack.find? fun n => b.isNamed name n || b.isSpecial n with
  | some node =>
    if b.isNamed name node then (b.closeImpliedExcept name).popThrough (· == node) else b
  | none => b

/-- Where the entry for the new element goes. -/
inductive Bookmark where
  | replacing (node : Nat)
  | behind (node : Nat)

/-- What the inner loop of `closeFormatting` works on: the open elements outside of the innermost
moved one, outermost last, and those inside, innermost first. -/
structure Moving where
  builder : Builder
  /-- The open elements that are kept, from the furthest block up, the innermost first. -/
  kept : List Nat
  last : Nat
  bookmark : Bookmark

/-- A copy of an element, with its entry replaced. -/
def copyFormatting (b : Builder) (node : Nat) (tag : Tag) : Builder × Nat :=
  let (arena, copy) := b.arena.add (.element .page tag)
  let entries := b.formatting.map fun f =>
    if Formatting.isFor node f then .element copy tag else f
  ({ b with arena := arena, formatting := entries }, copy)

def formattingTag? (b : Builder) (node : Nat) : Option Tag :=
  b.formatting.findSome? fun
    | .marker => none
    | .element n tag => if n = node then some tag else none

/-- The inner loop: goes outwards from the furthest block to the formatting element through
`between`, copying formatting elements (the first three of them) and dropping the others, and nests
what has been moved into each copy. -/
def moveOutwards (furthest : Nat) : Nat → List Nat → Moving → Moving
  | _, [], m => m
  | count, node :: rest, m =>
    let b := m.builder
    match b.formattingTag? node with
    | none => moveOutwards furthest (count + 1) rest m
    | some tag =>
      if count > 3 then
        moveOutwards furthest (count + 1) rest { m with builder := b.removeFormatting node }
      else
        let (b, copy) := b.copyFormatting node tag
        let bookmark := if m.last = furthest then .behind copy else m.bookmark
        let b := { b with arena := b.arena.append copy m.last }
        moveOutwards furthest (count + 1) rest
          { builder := b, kept := m.kept ++ [copy], last := copy, bookmark := bookmark }

/-- Puts the entry of the new element at the bookmark, in place of that of the formatting
element. -/
def placeEntry (entries : List Formatting) (bookmark : Bookmark) (node : Nat)
    (entry : Formatting) : List Formatting :=
  match bookmark with
  | .replacing n => entries.map fun f => if Formatting.isFor n f then entry else f
  | .behind n =>
    (entries.flatMap fun f => if Formatting.isFor n f then [entry, f] else [f]).filter fun f =>
      !Formatting.isFor node f

/-- One round of closing a formatting element: `none` when there is no more to do but to treat the
end tag as an ordinary one, and whether another round follows. -/
def closeFormattingOnce (b : Builder) (name : String) : Builder × Bool :=
  match (afterMarker b.formatting).find? (Formatting.hasName name) with
  | none => (b.closeOrdinary name, false)
  | some .marker => (b, false)
  | some (.element node tag) =>
    if !b.stack.contains node then (b.removeFormatting node, false)
    else if !b.inScope (b.boundsScope []) (· == node) then (b, false)
    else
      let inside := b.stack.takeWhile (· ≠ node)
      match inside.reverse.find? b.isSpecial with
      | none => ((b.popThrough (· == node)).removeFormatting node, false)
      | some furthest =>
        let ancestors := (b.stack.dropWhile (· ≠ node)).drop 1
        let ancestor := ancestors.headD 0
        let deeper := b.stack.takeWhile (· ≠ furthest)
        let between := (inside.dropWhile (· ≠ furthest)).drop 1
        let m := moveOutwards furthest 1 between ⟨b, [], furthest, .replacing node⟩
        let b := m.builder
        let b := { b with arena := b.arena.detach m.last }
        let b := b.put (b.placeIn ancestor) m.last
        let (arena, copy) := b.arena.add (.element .page tag)
        let arena := (arena.moveChildren furthest copy).append furthest copy
        ({ b with
            arena := arena
            formatting := placeEntry b.formatting m.bookmark node (.element copy tag)
            stack := deeper ++ copy :: furthest :: m.kept ++ ancestors },
          true)

def closeFormattingRounds (name : String) : Nat → Builder → Builder
  | 0, b => b
  | rounds + 1, b =>
    let (b, more) := b.closeFormattingOnce name
    if more then closeFormattingRounds name rounds b else b

def closeFormatting (b : Builder) (name : String) : Builder :=
  match b.current? with
  | some node =>
    if b.isNamed name node && !b.isFormatting node then b.pop
    else closeFormattingRounds name 8 b
  | none => b

/-- A link inside a link ends the outer one. -/
def closeOuterLink (b : Builder) : Builder :=
  match (afterMarker b.formatting).find? (Formatting.hasName "a") with
  | some (.element node _) => ((b.closeFormatting "a").removeFormatting node).removeOpen node
  | _ => b

end Scorebook.Markup.Builder
