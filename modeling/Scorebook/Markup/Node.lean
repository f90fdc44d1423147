import Scorebook.Markup.Token
import Scorebook.Text.Blank

/-!
# Trees of markup

A parsed page is a tree of elements, texts and comments.  Elements carry a number that tells the
order in which they were made, which is the order of their start tags on the page.  Selections look
at an element together with the elements around it, the nearest first.
-/

namespace Scorebook.Markup
open Text

/-- The head of an element: its tag, and its number in the order in which elements were made. -/
structure Head where
  number : Nat
  tag : Tag
deriving DecidableEq, Repr

inductive Node where
  | element (head : Head) (children : List Node)
  | text (s : String)
  | comment
deriving Repr

structure Element where
  head : Head
  children : List Node

namespace Element

def name (e : Element) : String := e.head.tag.name

def attribute? (e : Element) (name : String) : Option String := e.head.tag.attribute? name

def classes (e : Element) : List String :=
  (words ((e.attribute? "class").getD "").toList).map String.ofList

end Element

/-- An element with the elements around it, the nearest first. -/
structure Placed where
  element : Element
  ancestors : List Element

mutual
/-- The elements at and below a node, in document order, with the elements around them. -/
def Node.placed (around : List Element) : Node → List Placed
  | .element head children =>
    ⟨⟨head, children⟩, around⟩ :: placedIn (⟨head, children⟩ :: around) children
  | .text _ => []
  | .comment => []
def placedIn (around : List Element) : List Node → List Placed
  | [] => []
  | n :: ns => n.placed around ++ placedIn around ns
end

mutual
/-- The texts at and below a node, in document order. -/
def Node.texts : Node → List String
  | .element _ children => textsIn children
  | .text s => [s]
  | .comment => []
def textsIn : List Node → List String
  | [] => []
  | n :: ns => n.texts ++ textsIn ns
end

namespace Placed

def name (p : Placed) : String := p.element.name

def below (p : Placed) : List Placed := placedIn (p.element :: p.ancestors) p.element.children

/-- Whether the element is inside one of the given name. -/
def isInside (p : Placed) (name : String) : Bool := p.ancestors.any fun a => a.name == name

def isChildOf (p : Placed) (name : String) : Bool :=
  match p.ancestors with
  | a :: _ => a.name == name
  | [] => false

/-- The text of the element: the texts below it joined by blanks, blanks collapsed. -/
def text (p : Placed) : String := collapsed (" ".intercalate (textsIn p.element.children))

end Placed

def Element.text (e : Element) : String := collapsed (" ".intercalate (textsIn e.children))

/-- A parsed page: its nodes at the top. -/
structure Document where
  nodes : List Node

namespace Document

/-- An element goes before another that was not made before it. -/
def madeBefore (p q : Placed) : Bool := p.element.head.number ≤ q.element.head.number

/-- The elements of a page that pass a test, in the order in which they were made. -/
def select (d : Document) (test : Placed → Bool) : List Placed :=
  ((placedIn [] d.nodes).filter test).mergeSort madeBefore

end Document

end Scorebook.Markup
