/-!
# Tokens of markup
-/

namespace Scorebook.Markup

/-- A tag: its name, its attributes in order, and whether it closes itself. -/
structure Tag where
  name : String
  attributes : List (String × String)
  selfClosing : Bool
deriving DecidableEq, Repr, Inhabited

def Tag.bare (name : String) : Tag := ⟨name, [], false⟩

def Tag.attribute? (t : Tag) (name : String) : Option String := t.attributes.lookup name

inductive Token where
  /-- A document type, and whether it asks for the rules of old pages. -/
  | doctype (old : Bool)
  | startTag (tag : Tag)
  | endTag (name : String)
  | comment
  | text (cs : List Char)
  /-- The end of the page. -/
  | finish
deriving Repr, Inhabited

/-- How the text that follows a start tag is read. -/
inductive Content where
  /-- Text with references and tags. -/
  | data
  /-- Text with references up to the end tag. -/
  | referenceText
  /-- Text up to the end tag. -/
  | rawText
  /-- A script up to its end tag, where comments may hide the end tag. -/
  | script
  /-- Text up to the end of the page. -/
  | plain
deriving DecidableEq, Repr, Inhabited

end Scorebook.Markup
