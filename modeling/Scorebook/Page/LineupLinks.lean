import Scorebook.Markup.Parsing
import Scorebook.Page.CellText
import Scorebook.Roster.Lineup

/-!
# Reading lineup pages

The lineup page of a game links every player of both teams.  A link tells the number and the name of
a player, and the list item around it may print the uniform.
-/

namespace Scorebook.Lineup
open Text Markup

/-- The player of a link: the newer parameter of its address, or else the older one. -/
def playerOfLink? (href : String) : Option PlayerId :=
  (Page.linkedPlayer? href).or (Page.playerAfter? "p_id=".toList href)

/-- The digits after the first mark of a uniform. -/
def uniformIn? (s : String) : Option String := do
  let (_, rest) ← cutAt? "No.".toList s.toList
  let digits := leadingDigits (trimLeft rest)
  if digits.isEmpty then none else some (String.ofList digits)

/-- The uniform printed in the nearest list item around an element. -/
def uniformAround? (p : Placed) : Option String := do
  let item ← p.ancestors.find? fun a => a.name == "li"
  uniformIn? item.text

def isPlayerLink (p : Placed) : Bool :=
  p.name == "a" &&
    (p.element.attribute? "href").any fun h => hasPiece "PlayerDetail".toList h.toList

def insertLink (l : Lineup) (p : Placed) : Lineup :=
  match (p.element.attribute? "href").bind playerOfLink? with
  | some player => l.insert p.text ⟨player, uniformAround? p⟩
  | none => l

def ofDocument (d : Document) : Lineup := (d.select isPlayerLink).foldl insertLink .empty

def ofMarkup (markup : String) : Lineup := ofDocument (Markup.parse markup)

end Scorebook.Lineup
