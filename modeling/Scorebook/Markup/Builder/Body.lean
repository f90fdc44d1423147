import Scorebook.Markup.Builder.Head

/-!
# The body of a page
-/

namespace Scorebook.Markup.Builder

/-! ### Start tags -/

def blockNames : List String :=
  ["address", "article", "aside", "blockquote", "center", "details", "dialog", "dir", "div", "dl",
    "fieldset", "figcaption", "figure", "footer", "header", "hgroup", "main", "menu", "nav", "ol",
    "p", "section", "summary", "ul"]

def headingNames : List String := ["h1", "h2", "h3", "h4", "h5", "h6"]

def formattingNames : List String :=
  ["b", "big", "code", "em", "font", "i", "s", "small", "strike", "strong", "tt", "u"]

/-- Start tags that have no meaning outside of tables and frames. -/
def misplacedNames : List String :=
  ["caption", "col", "colgroup", "frame", "head", "tbody", "td", "tfoot", "th", "thead", "tr"]

def embeddedNames : List String := ["applet", "marquee", "object"]

def isHiddenField (tag : Tag) : Bool :=
  ((tag.attribute? "type").map fun s => lowered s.toList) == some "hidden".toList

/-- The list item that an item ends: the innermost one of its kind, unless an element with rules of
its own, blocks of text aside, is further in. -/
def openItem? (b : Builder) (names : List String) : Option String :=
  let stops := fun n =>
    b.isAmong names n || (b.isSpecial n && !b.isAmong ["address", "div", "p"] n)
  match b.stack.find? stops with
  | some n => if b.isAmong names n then some (b.elementName n).2 else none
  | none => none

def startItem (b : Builder) (tag : Tag) (names : List String) : Builder :=
  let b := b.forbidFrames
  let b := match b.openItem? names with
    | some name => (b.closeImpliedExcept name).popNamed name
    | none => b
  b.closeParagraphInScope.insert tag

/-- A set of frames takes the place of the body. -/
def replaceBody (b : Builder) (tag : Tag) : Builder :=
  match b.stack.reverse with
  | root :: body :: _ =>
    if b.framesAllowed && b.isNamed "body" body then
      let b := { b with arena := b.arena.detach body, stack := [root] }
      (b.insert tag).inMode .inFrameset
    else b
  | _ => b

/-- A second start tag of the body gives it more attributes. -/
def mergeBody (b : Builder) (tag : Tag) : Builder :=
  match b.stack.reverse with
  | _ :: body :: _ =>
    if b.isNamed "body" body && !b.hasOpen "template" then
      { b.forbidFrames with arena := b.arena.addAttributes body tag.attributes }
    else b
  | _ => b

def startForm (b : Builder) (tag : Tag) : Builder :=
  let inTemplate := b.hasOpen "template"
  if b.form.isSome && !inTemplate then b
  else
    let b := b.closeParagraphInScope.insert tag
    if inTemplate then b else { b with form := b.current? }

def selectionMode (b : Builder) : Mode :=
  if [Mode.inTable, .inCaption, .inTableBody, .inRow, .inCell].contains b.mode then
    .inSelectInTable
  else .inSelect

/-- Puts and opens an embedded element of another language. -/
def insertForeign (b : Builder) (language : Language) (tag : Tag) : Builder :=
  if tag.selfClosing then (b.putElement language tag).1 else b.insertIn language tag

/-- A start tag in the body, of an element that does not belong into the head. -/
def startInBody (b : Builder) (tag : Tag) : Builder :=
  let name := tag.name
  if blockNames.contains name then b.closeParagraphInScope.insert tag
  else if headingNames.contains name then
    let b := b.closeParagraphInScope
    (if b.currentIsAmong headingNames then b.pop else b).insert tag
  else if formattingNames.contains name then b.reopenFormatting.insertFormatting tag
  else if embeddedNames.contains name then
    (b.reopenFormatting.insert tag).pushMarker.forbidFrames
  else if misplacedNames.contains name then b
  else
    match name with
    | "html" => b.mergeRoot tag
    | "body" => b.mergeBody tag
    | "frameset" => b.replaceBody tag
    | "pre" => { (b.closeParagraphInScope.insert tag).forbidFrames with dropsLineFeed := true }
    | "listing" => { (b.closeParagraphInScope.insert tag).forbidFrames with dropsLineFeed := true }
    | "form" => b.startForm tag
    | "li" => b.startItem tag ["li"]
    | "dd" => b.startItem tag ["dd", "dt"]
    | "dt" => b.startItem tag ["dd", "dt"]
    | "plaintext" => { b.closeParagraphInScope.insert tag with content := some .plain }
    | "button" =>
      let b := if b.inDefaultScope "button" then b.closeImplied.popNamed "button" else b
      (b.reopenFormatting.insert tag).forbidFrames
    | "a" => b.closeOuterLink.reopenFormatting.insertFormatting tag
    | "nobr" =>
      let b := b.reopenFormatting
      let b := if b.inDefaultScope "nobr" then (b.closeFormatting "nobr").reopenFormatting else b
      b.insertFormatting tag
    | "table" =>
      let b := if b.isOld then b else b.closeParagraphInScope
      (b.insert tag).forbidFrames.inMode .inTable
    | "area" => (b.reopenFormatting.insertEmpty tag).forbidFrames
    | "br" => (b.reopenFormatting.insertEmpty tag).forbidFrames
    | "embed" => (b.reopenFormatting.insertEmpty tag).forbidFrames
    | "img" => (b.reopenFormatting.insertEmpty tag).forbidFrames
    | "image" => (b.reopenFormatting.insertEmpty { tag with name := "img" }).forbidFrames
    | "keygen" => (b.reopenFormatting.insertEmpty tag).forbidFrames
    | "wbr" => (b.reopenFormatting.insertEmpty tag).forbidFrames
    | "input" =>
      let b := b.reopenFormatting.insertEmpty tag
      if isHiddenField tag then b else b.forbidFrames
    | "param" => b.insertEmpty tag
    | "source" => b.insertEmpty tag
    | "track" => b.insertEmpty tag
    | "hr" => (b.closeParagraphInScope.insertEmpty tag).forbidFrames
    | "textarea" =>
      { b.forbidFrames.insertRaw tag .referenceText with dropsLineFeed := true }
    | "xmp" => b.closeParagraphInScope.reopenFormatting.forbidFrames.insertRaw tag .rawText
    | "iframe" => b.forbidFrames.insertRaw tag .rawText
    | "noembed" => b.insertRaw tag .rawText
    | "noscript" => b.insertRaw tag .rawText
    | "select" =>
      let mode := b.selectionMode
      (b.reopenFormatting.insert tag).forbidFrames.inMode mode
    | "optgroup" =>
      ((if b.currentIs "option" then b.pop else b).reopenFormatting).insert tag
    | "option" =>
      ((if b.currentIs "option" then b.pop else b).reopenFormatting).insert tag
    | "rb" => (if b.inDefaultScope "ruby" then b.closeImplied else b).insert tag
    | "rtc" => (if b.inDefaultScope "ruby" then b.closeImplied else b).insert tag
    | "rp" => (if b.inDefaultScope "ruby" then b.closeImpliedExcept "rtc" else b).insert tag
    | "rt" => (if b.inDefaultScope "ruby" then b.closeImpliedExcept "rtc" else b).insert tag
    | "math" => b.reopenFormatting.insertForeign .formula tag
    | "svg" => b.reopenFormatting.insertForeign .drawing tag
    | _ => b.reopenFormatting.insert tag

/-! ### End tags -/

def closedWhole : List String :=
  ["address", "article", "aside", "blockquote", "button", "center", "details", "dialog", "dir",
    "div", "dl", "fieldset", "figcaption", "figure", "footer", "header", "hgroup", "listing",
    "main", "menu", "nav", "ol", "pre", "section", "summary", "ul"]

def endForm (b : Builder) : Builder :=
  if b.hasOpen "template" then
    if b.inDefaultScope "form" then b.closeImplied.popNamed "form" else b
  else
    match b.form with
    | none => b
    | some node =>
      let b := { b with form := none }
      if b.inScope (b.boundsScope []) (· == node) then b.closeImplied.removeOpen node else b

/-- An end tag in the body, of an element that is no part of the page's frame. -/
def endInBody (b : Builder) (name : String) : Builder :=
  if closedWhole.contains name then
    if b.inDefaultScope name then b.closeImplied.popNamed name else b
  else if headingNames.contains name then
    if b.inScope (b.boundsScope []) (b.isAmong headingNames) then
      b.closeImplied.popThrough (b.isAmong headingNames)
    else b
  else if formattingNames.contains name then b.closeFormatting name
  else if embeddedNames.contains name then
    if b.inDefaultScope name then (b.closeImplied.popNamed name).clearToMarker else b
  else
    match name with
    | "a" => b.closeFormatting name
    | "nobr" => b.closeFormatting name
    | "form" => b.endForm
    | "p" => (if b.inButtonScope "p" then b else b.insertNamed "p").closeParagraph
    | "li" => if b.inListScope "li" then (b.closeImpliedExcept "li").popNamed "li" else b
    | "dd" => if b.inDefaultScope "dd" then (b.closeImpliedExcept "dd").popNamed "dd" else b
    | "dt" => if b.inDefaultScope "dt" then (b.closeImpliedExcept "dt").popNamed "dt" else b
    | "br" => b.startInBody (.bare "br")
    | "template" => b.closeTemplate
    | _ => b.closeOrdinary name

/-! ### Tokens -/

def charInBody (b : Builder) (c : Char) : Builder :=
  if c = '\x00' then b
  else
    let b := b.reopenFormatting.putText [c]
    if isMarkupBlank c then b else b.forbidFrames

/-- The end of the page inside of templates closes them. -/
def finishTemplates (b : Builder) : Outcome :=
  if b.hasOpen "template" then
    let b := (b.popNamed "template").clearToMarker
    .again { b with templateModes := b.templateModes.drop 1 }.resetMode
  else .done b

def inBody (b : Builder) : Token → Outcome
  | .text cs => .done (cs.foldl charInBody b)
  | .comment => .done b.putComment
  | .doctype _ => .done b
  | .startTag tag =>
    if headNames.contains tag.name then .done (b.startHeadElement tag)
    else .done (b.startInBody tag)
  | .endTag name =>
    if name = "body" then
      if b.inDefaultScope "body" then .done (b.inMode .afterBody) else .done b
    else if name = "html" then
      if b.inDefaultScope "body" then b.againIn .afterBody else .done b
    else .done (b.endInBody name)
  | .finish => if b.templateModes.isEmpty then .done b else b.finishTemplates

/-- A token in an element whose text is read in a way of its own. -/
def inText (b : Builder) : Token → Outcome
  | .text cs => .done (b.putText cs)
  | .finish => b.pop.againIn b.returnMode
  | .endTag _ => .done (b.pop.inMode b.returnMode)
  | _ => .done b

end Scorebook.Markup.Builder
