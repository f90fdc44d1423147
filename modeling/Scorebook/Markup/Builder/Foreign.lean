import Scorebook.Markup.Builder.Frames

/-!
# Drawings and formulas

Elements of other languages that are embedded in a page.  Their tags have no rules of their own, but
the start tag of an ordinary element ends them.
-/

namespace Scorebook.Markup.Builder

def takeInMode (b : Builder) (t : Token) : Outcome :=
  match b.mode with
  | .initial => b.inInitial t
  | .beforeHtml => b.inBeforeHtml t
  | .beforeHead => b.inBeforeHead t
  | .inHead => b.inHead t
  | .afterHead => b.inAfterHead t
  | .inBody => b.inBody t
  | .text => b.inText t
  | .inTable => b.inTable t
  | .inTableText => b.inTableText t
  | .inCaption => b.inCaption t
  | .inColumnGroup => b.inColumnGroup t
  | .inTableBody => b.inTableBody t
  | .inRow => b.inRow t
  | .inCell => b.inCell t
  | .inSelect => b.inSelect t
  | .inSelectInTable => b.inSelectInTable t
  | .inTemplate => b.inTemplate t
  | .afterBody => b.inAfterBody t
  | .inFrameset => b.inFrameset t
  | .afterFrameset => b.inAfterFrameset t
  | .afterAfterBody => b.inAfterAfterBody t
  | .afterAfterFrameset => b.inAfterAfterFrameset t

/-- Whether the innermost element is of another language. -/
def isForeign (b : Builder) : Bool := b.current?.any fun n => (b.elementName n).1 != .page

/-- Whether a token inside an element of another language is taken by the rules of that language. -/
def takesForeign (b : Builder) (t : Token) : Bool :=
  match b.current? with
  | none => false
  | some n =>
    let (language, name) := b.elementName n
    if language = .page then false
    else
      match t with
      | .finish => false
      | .text _ => !b.isFormulaText n && !b.isDrawingText n
      | .startTag tag =>
        if b.isFormulaText n && !(["mglyph", "malignmark"].contains tag.name) then false
        else if b.isDrawingText n then false
        else !(language = .formula && name = "annotation-xml" && tag.name = "svg")
      | _ => true

/-- Start tags that end elements of other languages. -/
def leavingNames : List String :=
  ["b", "big", "blockquote", "body", "br", "center", "code", "dd", "div", "dl", "dt", "em", "embed",
    "h1", "h2", "h3", "h4", "h5", "h6", "head", "hr", "i", "img", "li", "listing", "menu", "meta",
    "nobr", "ol", "p", "pre", "ruby", "s", "small", "span", "strong", "strike", "sub", "sup",
    "table", "tt", "u", "ul", "var"]

/-- Whether a start tag ends elements of other languages. -/
def leavesForeign (tag : Tag) : Bool :=
  leavingNames.contains tag.name ||
    (tag.name == "font" &&
      tag.attributes.any fun a => ["color", "face", "size"].contains a.1)

/-- Closes elements of other languages up to one that holds ordinary elements. -/
def leaveForeign (b : Builder) : Builder :=
  let holds := fun n => (b.elementName n).1 == .page || b.isFormulaText n || b.isDrawingText n
  { b with stack := b.stack.dropWhile fun n => !holds n }

/-- The end tag of an element of another language: the innermost element of the name is closed; when
an ordinary element is further in, the tag is taken in the mode that is set. -/
def endForeign (b : Builder) (name : String) (isFirst : Bool) : List Nat → Outcome
  | [] => .done b
  | n :: rest =>
    let (language, own) := b.elementName n
    if rest.isEmpty then .done b
    else if !isFirst && language == .page then b.takeInMode (.endTag name)
    else if own = name then .done (b.popThrough (· == n))
    else endForeign b name false rest

/-- A token inside an element of another language. -/
def inForeign (b : Builder) : Token → Outcome
  | .text cs =>
    let cs := cs.map fun c => if c = '\x00' then '�' else c
    let b := if cs.all isMarkupBlank then b else b.forbidFrames
    .done (b.putText cs)
  | .comment => .done b.putComment
  | .startTag tag =>
    if leavesForeign tag then b.leaveForeign.takeInMode (.startTag tag)
    else
      let language := match b.current? with
        | some n => (b.elementName n).1
        | none => .page
      .done (b.insertForeign language tag)
  | .endTag name =>
    if name = "br" ∨ name = "p" then b.leaveForeign.takeInMode (.endTag name)
    else b.endForeign name true b.stack
  | _ => .done b

end Scorebook.Markup.Builder
