import Scorebook.Markup.Arena
import Scorebook.Markup.Doctype

/-!
# The state of the tree builder

The builder keeps the elements that are open, the innermost first, the formatting elements that are
to be opened again, and the mode in which the next token is taken.
-/

namespace Scorebook.Markup

/-- How the builder takes the next token. -/
inductive Mode where
  | initial
  | beforeHtml
  | beforeHead
  | inHead
  | afterHead
  | inBody
  | text
  | inTable
  | inTableText
  | inCaption
  | inColumnGroup
  | inTableBody
  | inRow
  | inCell
  | inSelect
  | inSelectInTable
  | inTemplate
  | afterBody
  | inFrameset
  | afterFrameset
  | afterAfterBody
  | afterAfterFrameset
deriving DecidableEq, Repr, Inhabited

/-- An entry of the list of formatting elements. -/
inductive Formatting where
  /-- A boundary, such as a cell. -/
  | marker
  | element (node : Nat) (tag : Tag)

namespace Formatting

def isFor (node : Nat) : Formatting → Bool
  | .marker => false
  | .element n _ => n == node

def hasName (name : String) : Formatting → Bool
  | .marker => false
  | .element _ tag => tag.name == name

end Formatting

structure Builder where
  arena : Arena
  mode : Mode
  /-- The mode to which text or the text of a table returns. -/
  returnMode : Mode
  /-- The modes of the open templates, the innermost first. -/
  templateModes : List Mode
  /-- The open elements, the innermost first. -/
  stack : List Nat
  /-- The formatting elements, the last first. -/
  formatting : List Formatting
  head : Option Nat
  form : Option Nat
  /-- Whether a set of frames may still take the place of the body. -/
  framesAllowed : Bool
  /-- Whether a line feed that comes next is dropped. -/
  dropsLineFeed : Bool
  /-- Whether the page is laid out by the rules of old pages. -/
  isOld : Bool
  /-- Whether what does not belong into a table is put in front of it. -/
  fosters : Bool
  /-- Text of a table that has not been placed, its last character first. -/
  tableText : List Char
  /-- How the lexer has to read the text that follows. -/
  content : Option Content

/-- Whether a token has been dealt with, or has to be taken again in the mode now set. -/
inductive Outcome where
  | done (b : Builder)
  | again (b : Builder)

namespace Builder

def start : Builder where
  arena := .initial
  mode := .initial
  returnMode := .inBody
  templateModes := []
  stack := []
  formatting := []
  head := none
  form := none
  framesAllowed := true
  dropsLineFeed := false
  isOld := false
  fosters := false
  tableText := []
  content := none

def inMode (b : Builder) (mode : Mode) : Builder := { b with mode := mode }

def againIn (b : Builder) (mode : Mode) : Outcome := .again (b.inMode mode)

/-! ### Elements -/

def elementName (b : Builder) (n : Nat) : Language × String :=
  match (b.arena.get n).kind with
  | .element language tag => (language, tag.name)
  | _ => (.page, "")

/-- Whether a node is an element of the page's own language with the name. -/
def isNamed (b : Builder) (name : String) (n : Nat) : Bool := b.elementName n == (.page, name)

/-- Whether a node is an element of the page's own language with one of the names. -/
def isAmong (b : Builder) (names : List String) (n : Nat) : Bool :=
  let (language, name) := b.elementName n
  language == .page && names.contains name

/-- Elements of formulas that hold text of the page's own language. -/
def isFormulaText (b : Builder) (n : Nat) : Bool :=
  let (language, name) := b.elementName n
  language == .formula && ["mi", "mo", "mn", "ms", "mtext"].contains name

/-- Elements of drawings that hold elements of the page's own language. -/
def isDrawingText (b : Builder) (n : Nat) : Bool :=
  let (language, name) := b.elementName n
  language == .drawing && ["foreignobject", "desc", "title"].contains name

def current? (b : Builder) : Option Nat := b.stack.head?

/-- Whether the innermost open element has the name. -/
def currentIs (b : Builder) (name : String) : Bool := b.current?.any (b.isNamed name)

/-- Whether the innermost open element has one of the names. -/
def currentIsAmong (b : Builder) (names : List String) : Bool := b.current?.any (b.isAmong names)

def hasOpen (b : Builder) (name : String) : Bool := b.stack.any (b.isNamed name)

def root? (b : Builder) : Option Nat := b.stack.getLast?

/-! ### Scopes -/

def scopeBounds : List String :=
  ["applet", "caption", "html", "table", "td", "th", "marquee", "object", "template"]

/-- Whether an element bounds the scope, with more names for a particular scope. -/
def boundsScope (b : Builder) (more : List String) (n : Nat) : Bool :=
  b.isAmong scopeBounds n || b.isAmong more n || b.isFormulaText n || b.isDrawingText n

/-- Whether an element that passes a test is open and no bound is further in. -/
def inScope (b : Builder) (bounds test : Nat → Bool) : Bool :=
  match b.stack.find? fun n => test n || bounds n with
  | some n => test n
  | none => false

def inDefaultScope (b : Builder) (name : String) : Bool :=
  b.inScope (b.boundsScope []) (b.isNamed name)

def inListScope (b : Builder) (name : String) : Bool :=
  b.inScope (b.boundsScope ["ol", "ul"]) (b.isNamed name)

def inButtonScope (b : Builder) (name : String) : Bool :=
  b.inScope (b.boundsScope ["button"]) (b.isNamed name)

def inTableScope (b : Builder) (names : List String) : Bool :=
  b.inScope (b.isAmong ["html", "table", "template"]) (b.isAmong names)

def inSelectScope (b : Builder) (name : String) : Bool :=
  b.inScope (fun n => !b.isAmong ["optgroup", "option"] n) (b.isNamed name)

def specialNames : List String :=
  ["address", "applet", "area", "article", "aside", "base", "basefont", "bgsound", "blockquote",
    "body", "br", "button", "caption", "center", "col", "colgroup", "dd", "details", "dir", "div",
    "dl", "dt", "embed", "fieldset", "figcaption", "figure", "footer", "form", "frame", "frameset",
    "h1", "h2", "h3", "h4", "h5", "h6", "head", "header", "hgroup", "hr", "html", "iframe", "img",
    "input", "isindex", "li", "link", "listing", "main", "marquee", "menu", "meta", "nav",
    "noembed", "noframes", "noscript", "object", "ol", "p", "param", "plaintext", "pre", "script",
    "section", "select", "source", "style", "summary", "table", "tbody", "td", "template",
    "textarea", "tfoot", "th", "thead", "title", "tr", "track", "ul", "wbr", "xmp"]

/-- Whether an element has rules of its own. -/
def isSpecial (b : Builder) (n : Nat) : Bool :=
  b.isAmong specialNames n || b.isFormulaText n || b.isDrawingText n

/-! ### Closing elements -/

def pop (b : Builder) : Builder := { b with stack := b.stack.drop 1 }

/-- Closes elements up to and with the first that passes a test. -/
def popThrough (b : Builder) (test : Nat → Bool) : Builder :=
  { b with stack := (b.stack.dropWhile fun n => !test n).drop 1 }

/-- Closes elements up to and with the first of the name. -/
def popNamed (b : Builder) (name : String) : Builder := b.popThrough (b.isNamed name)

/-- Closes elements up to the first with one of the names, which stays open. -/
def popUntil (b : Builder) (names : List String) : Builder :=
  { b with stack := b.stack.dropWhile fun n => !b.isAmong names n }

/-- Takes an element out of the open ones. -/
def removeOpen (b : Builder) (node : Nat) : Builder :=
  { b with stack := b.stack.filter (· ≠ node) }

/-- Elements whose end tag may be left out. -/
def impliedNames : List String :=
  ["dd", "dt", "li", "option", "optgroup", "p", "rb", "rp", "rt", "rtc"]

/-- Elements whose end tag may be left out, those of tables among them. -/
def thoroughlyImpliedNames : List String :=
  impliedNames ++ ["caption", "colgroup", "tbody", "td", "tfoot", "th", "thead", "tr"]

def closeWhileAmong (b : Builder) (names : List String) : Builder :=
  { b with stack := b.stack.dropWhile (b.isAmong names) }

/-- Closes elements whose end tag may be left out. -/
def closeImplied (b : Builder) : Builder := b.closeWhileAmong impliedNames

/-- Closes elements whose end tag may be left out, but for one name. -/
def closeImpliedExcept (b : Builder) (name : String) : Builder :=
  b.closeWhileAmong (impliedNames.filter (· ≠ name))

def closeParagraph (b : Builder) : Builder := (b.closeImpliedExcept "p").popNamed "p"

def closeParagraphInScope (b : Builder) : Builder :=
  if b.inButtonScope "p" then b.closeParagraph else b

/-! ### Placing nodes -/

inductive Place where
  /-- Behind the other children of a node. -/
  | inside (parent : Nat)
  /-- In front of a table, or inside the element around it when the table has no parent. -/
  | beforeTable (table around : Nat)

/-- The place in front of the innermost table. -/
def fosterPlace (b : Builder) : List Nat → Place
  | [] => .inside (b.root?.getD 0)
  | n :: rest =>
    if b.isNamed "template" n then .inside n
    else if b.isNamed "table" n then .beforeTable n (rest.headD 0)
    else fosterPlace b rest

/-- Elements into which nothing but rows and cells belongs. -/
def tableParts : List String := ["table", "tbody", "tfoot", "thead", "tr"]

/-- The place for a node that belongs into `target`. -/
def placeIn (b : Builder) (target : Nat) : Place :=
  if b.fosters && b.isAmong tableParts target then b.fosterPlace b.stack else .inside target

def nextPlace (b : Builder) : Place := b.placeIn (b.current?.getD 0)

def put (b : Builder) (place : Place) (node : Nat) : Builder :=
  match place with
  | .inside parent => { b with arena := b.arena.append parent node }
  | .beforeTable table around =>
    if (b.arena.get table).parent.isSome then
      { b with arena := b.arena.insertBefore table node }
    else { b with arena := b.arena.append around node }

def putText (b : Builder) (cs : List Char) : Builder :=
  if cs.isEmpty then b
  else
    match b.nextPlace with
    | .inside parent => { b with arena := b.arena.appendText parent cs }
    | .beforeTable table around =>
      if (b.arena.get table).parent.isSome then
        { b with arena := b.arena.insertTextBefore table cs }
      else { b with arena := b.arena.appendText around cs }

def putComment (b : Builder) : Builder :=
  let (arena, node) := b.arena.add .comment
  let b := { b with arena := arena }
  b.put b.nextPlace node

/-- Puts a comment behind the other children of a node. -/
def putCommentIn (b : Builder) (parent : Nat) : Builder :=
  let (arena, node) := b.arena.add .comment
  { b with arena := arena.append parent node }

/-- Puts a new element at the next place. -/
def putElement (b : Builder) (language : Language) (tag : Tag) : Builder × Nat :=
  let (arena, node) := b.arena.add (.element language tag)
  let b := { b with arena := arena }
  (b.put b.nextPlace node, node)

/-- Puts a new element at the next place and opens it. -/
def insertIn (b : Builder) (language : Language) (tag : Tag) : Builder :=
  let (b, node) := b.putElement language tag
  { b with stack := node :: b.stack }

/-- Puts a new element of the page's own language and opens it. -/
def insert (b : Builder) (tag : Tag) : Builder := b.insertIn .page tag

/-- Puts and opens an element for which there was no tag. -/
def insertNamed (b : Builder) (name : String) : Builder := b.insert (.bare name)

/-- Puts a new element that has no content. -/
def insertEmpty (b : Builder) (tag : Tag) : Builder := (b.putElement .page tag).1

/-- Puts and opens an element whose text is read in a way of its own. -/
def insertRaw (b : Builder) (tag : Tag) (content : Content) : Builder :=
  { b.insert tag with content := some content, returnMode := b.mode, mode := .text }

/-- The builder after which a set of frames is not allowed. -/
def forbidFrames (b : Builder) : Builder := { b with framesAllowed := false }

/-! ### The mode that fits the open elements -/

/-- The mode for a selection, by the elements around it. -/
def selectMode (b : Builder) : List Nat → Mode
  | [] => .inSelect
  | n :: rest =>
    if b.isNamed "template" n then .inSelect
    else if b.isNamed "table" n then .inSelectInTable
    else selectMode b rest

/-- The mode that fits open elements, the innermost first. -/
def modeFor (b : Builder) : List Nat → Mode
  | [] => .inBody
  | n :: rest =>
    if (b.elementName n).1 ≠ .page then modeFor b rest
    else
      match (b.elementName n).2 with
      | "select" => b.selectMode rest
      | "td" => if rest.isEmpty then modeFor b rest else .inCell
      | "th" => if rest.isEmpty then modeFor b rest else .inCell
      | "tr" => .inRow
      | "tbody" => .inTableBody
      | "thead" => .inTableBody
      | "tfoot" => .inTableBody
      | "caption" => .inCaption
      | "colgroup" => .inColumnGroup
      | "table" => .inTable
      | "template" => b.templateModes.headD .inBody
      | "head" => if rest.isEmpty then modeFor b rest else .inHead
      | "body" => .inBody
      | "frameset" => .inFrameset
      | "html" => if b.head.isNone then .beforeHead else .afterHead
      | _ => modeFor b rest

/-- The builder in the mode that fits its open elements. -/
def resetMode (b : Builder) : Builder := b.inMode (b.modeFor b.stack)

/-- Takes the attributes of a second tag of the outermost element. -/
def mergeRoot (b : Builder) (tag : Tag) : Builder :=
  if b.hasOpen "template" then b
  else
    match b.root? with
    | some root => { b with arena := b.arena.addAttributes root tag.attributes }
    | none => b

end Builder

end Scorebook.Markup
