import Scorebook.Markup.Builder.Formatting

/-!
# The head of a page

Rules for what stands in front of the body, and for templates.
-/

namespace Scorebook.Markup.Builder

/-- Elements that belong into the head and may stand elsewhere. -/
def headNames : List String :=
  ["base", "basefont", "bgsound", "link", "meta", "noframes", "script", "style", "template",
    "title"]

def closeTemplate (b : Builder) : Builder :=
  if b.hasOpen "template" then
    let b := (b.closeWhileAmong thoroughlyImpliedNames).popNamed "template"
    { b.clearToMarker with templateModes := b.templateModes.drop 1 }.resetMode
  else b

def openTemplate (b : Builder) (tag : Tag) : Builder :=
  let b := (b.insert tag).pushMarker.forbidFrames
  { b with mode := .inTemplate, templateModes := .inTemplate :: b.templateModes }

def startHeadElement (b : Builder) (tag : Tag) : Builder :=
  match tag.name with
  | "title" => b.insertRaw tag .referenceText
  | "noframes" => b.insertRaw tag .rawText
  | "style" => b.insertRaw tag .rawText
  | "script" => b.insertRaw tag .script
  | "template" => b.openTemplate tag
  | _ => b.insertEmpty tag

/-- The names of end tags that stand for the end of whatever comes first on a page. -/
def bodyEndNames : List String := ["body", "html", "br"]

def inInitial (b : Builder) : Token → Outcome
  | .text (c :: _) =>
    if isMarkupBlank c then .done b else { b with isOld := true }.againIn .beforeHtml
  | .comment => .done (b.putCommentIn 0)
  | .doctype old => .done { b with isOld := old, mode := .beforeHtml }
  | _ => { b with isOld := true }.againIn .beforeHtml

def insertRoot (b : Builder) (tag : Tag) : Builder :=
  let (arena, node) := b.arena.add (.element .page tag)
  { b with arena := arena.append 0 node, stack := [node], mode := .beforeHead }

/-- A token in front of the outermost element. -/
def inBeforeHtml (b : Builder) (t : Token) : Outcome :=
  let otherwise := Outcome.again (b.insertRoot (.bare "html"))
  match t with
  | .comment => .done (b.putCommentIn 0)
  | .text (c :: _) => if isMarkupBlank c then .done b else otherwise
  | .startTag tag => if tag.name = "html" then .done (b.insertRoot tag) else otherwise
  | .endTag name => if name = "head" ∨ bodyEndNames.contains name then otherwise else .done b
  | .doctype _ => .done b
  | _ => otherwise

def openHead (b : Builder) (tag : Tag) : Builder :=
  let b := b.insert tag
  { b with head := b.current?, mode := .inHead }

def inBeforeHead (b : Builder) (t : Token) : Outcome :=
  let otherwise := Outcome.again (b.openHead (.bare "head"))
  match t with
  | .comment => .done b.putComment
  | .text (c :: _) => if isMarkupBlank c then .done b else otherwise
  | .startTag tag =>
    if tag.name = "html" then .done (b.mergeRoot tag)
    else if tag.name = "head" then .done (b.openHead tag)
    else otherwise
  | .endTag name => if name = "head" ∨ bodyEndNames.contains name then otherwise else .done b
  | .doctype _ => .done b
  | _ => otherwise

def inHead (b : Builder) (t : Token) : Outcome :=
  let otherwise := b.pop.againIn .afterHead
  match t with
  | .comment => .done b.putComment
  | .text (c :: _) => if isMarkupBlank c then .done (b.putText [c]) else otherwise
  | .startTag tag =>
    if tag.name = "html" then .done (b.mergeRoot tag)
    else if headNames.contains tag.name then .done (b.startHeadElement tag)
    else if tag.name = "noscript" then .done (b.insertRaw tag .rawText)
    else if tag.name = "head" then .done b
    else otherwise
  | .endTag name =>
    if name = "head" then .done (b.pop.inMode .afterHead)
    else if name = "template" then .done b.closeTemplate
    else if bodyEndNames.contains name then otherwise
    else .done b
  | .doctype _ => .done b
  | _ => otherwise

/-- Takes the start tag of an element that belongs into the head behind the head. -/
def startInClosedHead (b : Builder) (tag : Tag) : Builder :=
  match b.head with
  | none => b.startHeadElement tag
  | some head => ({ b with stack := head :: b.stack }.startHeadElement tag).removeOpen head

def inAfterHead (b : Builder) (t : Token) : Outcome :=
  let otherwise := (b.insertNamed "body").againIn .inBody
  match t with
  | .comment => .done b.putComment
  | .text (c :: _) => if isMarkupBlank c then .done (b.putText [c]) else otherwise
  | .startTag tag =>
    if tag.name = "html" then .done (b.mergeRoot tag)
    else if tag.name = "body" then .done ((b.insert tag).forbidFrames.inMode .inBody)
    else if tag.name = "frameset" then .done ((b.insert tag).inMode .inFrameset)
    else if headNames.contains tag.name then .done (b.startInClosedHead tag)
    else if tag.name = "head" then .done b
    else otherwise
  | .endTag name =>
    if name = "template" then .done b.closeTemplate
    else if bodyEndNames.contains name then otherwise
    else .done b
  | .doctype _ => .done b
  | _ => otherwise

end Scorebook.Markup.Builder
