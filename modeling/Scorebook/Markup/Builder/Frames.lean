import Scorebook.Markup.Builder.Table

/-!
# Templates, sets of frames, and what follows the body
-/

namespace Scorebook.Markup.Builder

def templateIn (b : Builder) (mode : Mode) : Outcome :=
  .again { b with templateModes := mode :: b.templateModes.drop 1, mode := mode }

def inTemplate (b : Builder) (t : Token) : Outcome :=
  match t with
  | .startTag tag =>
    let name := tag.name
    if headNames.contains name then .done (b.startHeadElement tag)
    else if name = "caption" ∨ name = "colgroup" ∨ rowGroupNames.contains name then
      b.templateIn .inTable
    else if name = "col" then b.templateIn .inColumnGroup
    else if name = "tr" then b.templateIn .inTableBody
    else if name = "td" ∨ name = "th" then b.templateIn .inRow
    else b.templateIn .inBody
  | .endTag name => .done (if name = "template" then b.closeTemplate else b)
  | .finish => b.finishTemplates
  | _ => b.inBody t

def inAfterBody (b : Builder) (t : Token) : Outcome :=
  let otherwise := b.againIn .inBody
  match t with
  | .text (c :: _) => if isMarkupBlank c then b.inBody t else otherwise
  | .comment => .done (b.putCommentIn (b.root?.getD 0))
  | .doctype _ => .done b
  | .startTag tag => if tag.name = "html" then .done (b.mergeRoot tag) else otherwise
  | .endTag name => if name = "html" then .done (b.inMode .afterAfterBody) else otherwise
  | .finish => .done b
  | _ => otherwise

def inFrameset (b : Builder) (t : Token) : Outcome :=
  match t with
  | .text (c :: _) => .done (if isMarkupBlank c then b.putText [c] else b)
  | .comment => .done b.putComment
  | .startTag tag =>
    match tag.name with
    | "html" => .done (b.mergeRoot tag)
    | "frameset" => .done (b.insert tag)
    | "frame" => .done (b.insertEmpty tag)
    | "noframes" => .done (b.startHeadElement tag)
    | _ => .done b
  | .endTag name =>
    if name = "frameset" ∧ b.stack.length > 1 then
      let b := b.pop
      .done (if b.currentIs "frameset" then b else b.inMode .afterFrameset)
    else .done b
  | _ => .done b

def inAfterFrameset (b : Builder) (t : Token) : Outcome :=
  match t with
  | .text (c :: _) => .done (if isMarkupBlank c then b.putText [c] else b)
  | .comment => .done b.putComment
  | .startTag tag =>
    match tag.name with
    | "html" => .done (b.mergeRoot tag)
    | "noframes" => .done (b.startHeadElement tag)
    | _ => .done b
  | .endTag name => .done (if name = "html" then b.inMode .afterAfterFrameset else b)
  | _ => .done b

def inAfterAfterBody (b : Builder) (t : Token) : Outcome :=
  let otherwise := b.againIn .inBody
  match t with
  | .text (c :: _) => if isMarkupBlank c then b.inBody t else otherwise
  | .comment => .done (b.putCommentIn 0)
  | .doctype _ => .done b
  | .startTag tag => if tag.name = "html" then .done (b.mergeRoot tag) else otherwise
  | .finish => .done b
  | _ => otherwise

/-- A token behind everything that follows a set of frames. -/
def inAfterAfterFrameset (b : Builder) (t : Token) : Outcome :=
  match t with
  | .text (c :: _) => if isMarkupBlank c then b.inBody t else .done b
  | .comment => .done (b.putCommentIn 0)
  | .startTag tag =>
    match tag.name with
    | "html" => .done (b.mergeRoot tag)
    | "noframes" => .done (b.startHeadElement tag)
    | _ => .done b
  | _ => .done b

end Scorebook.Markup.Builder
