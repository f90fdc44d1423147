import Scorebook.Markup.Builder.Body

/-!
# Tables

What does not belong into a table is put in front of it.
-/

namespace Scorebook.Markup.Builder

def rowGroupNames : List String := ["tbody", "tfoot", "thead"]

def tablePartNames : List String :=
  ["caption", "col", "colgroup", "tbody", "td", "tfoot", "th", "thead", "tr"]

/-- A token is taken as in the body, and what it gives is put in front of the table. -/
def fosterInBody (b : Builder) (t : Token) : Outcome :=
  match { b with fosters := true }.inBody t with
  | .done b => .done { b with fosters := false }
  | .again b => .again { b with fosters := false }

/-- A token in a table, outside of its parts. -/
def inTable (b : Builder) (t : Token) : Outcome :=
  let toTable := b.popUntil ["table", "template", "html"]
  match t with
  | .text cs =>
    if cs = ['\x00'] then .done b
    else if b.currentIsAmong tableParts then
      .again { b with returnMode := b.mode, mode := .inTableText }
    else b.fosterInBody t
  | .comment => .done b.putComment
  | .doctype _ => .done b
  | .startTag tag =>
    let name := tag.name
    if name = "caption" then .done ((toTable.pushMarker.insert tag).inMode .inCaption)
    else if name = "colgroup" then .done ((toTable.insert tag).inMode .inColumnGroup)
    else if name = "col" then (toTable.insertNamed "colgroup").againIn .inColumnGroup
    else if rowGroupNames.contains name then .done ((toTable.insert tag).inMode .inTableBody)
    else if ["td", "th", "tr"].contains name then
      (toTable.insertNamed "tbody").againIn .inTableBody
    else if name = "table" then
      if b.inTableScope ["table"] then .again (b.popNamed "table").resetMode else .done b
    else if ["style", "script", "template"].contains name then .done (b.startHeadElement tag)
    else if name = "input" ∧ isHiddenField tag = true then .done (b.insertEmpty tag)
    else if name = "form" then
      if b.hasOpen "template" || b.form.isSome then .done b
      else
        let (b, node) := b.putElement .page tag
        .done { b with form := some node }
    else b.fosterInBody t
  | .endTag name =>
    if name = "table" then
      if b.inTableScope ["table"] then .done (b.popNamed "table").resetMode else .done b
    else if tablePartNames.contains name ∨ name = "body" ∨ name = "html" then .done b
    else if name = "template" then .done b.closeTemplate
    else b.fosterInBody t
  | .finish => b.inBody t

/-- Places the text of a table: in front of the table unless it is blank. -/
def placeTableText (b : Builder) : Builder :=
  let cs := b.tableText.reverse
  let b := { b with tableText := [] }
  if cs.all isMarkupBlank then b.putText cs
  else { cs.foldl charInBody { b with fosters := true } with fosters := false }

def inTableText (b : Builder) : Token → Outcome
  | .text cs => .done { b with tableText := (cs.filter (· ≠ '\x00')).reverse ++ b.tableText }
  | _ => b.placeTableText.againIn b.returnMode

def inCaption (b : Builder) (t : Token) : Outcome :=
  let closed := (b.closeImplied.popNamed "caption").clearToMarker
  let isIn := b.inTableScope ["caption"]
  match t with
  | .startTag tag =>
    if tablePartNames.contains tag.name then
      if isIn then closed.againIn .inTable else .done b
    else b.inBody t
  | .endTag name =>
    if name = "caption" then if isIn then .done (closed.inMode .inTable) else .done b
    else if name = "table" then if isIn then closed.againIn .inTable else .done b
    else if tablePartNames.contains name ∨ name = "body" ∨ name = "html" then .done b
    else b.inBody t
  | _ => b.inBody t

def inColumnGroup (b : Builder) (t : Token) : Outcome :=
  let otherwise :=
    if b.currentIs "colgroup" then b.pop.againIn .inTable else .done b
  match t with
  | .text (c :: _) => if isMarkupBlank c then .done (b.putText [c]) else otherwise
  | .comment => .done b.putComment
  | .doctype _ => .done b
  | .startTag tag =>
    if tag.name = "html" then .done (b.mergeRoot tag)
    else if tag.name = "col" then .done (b.insertEmpty tag)
    else if tag.name = "template" then .done (b.startHeadElement tag)
    else otherwise
  | .endTag name =>
    if name = "colgroup" then
      if b.currentIs "colgroup" then .done (b.pop.inMode .inTable) else .done b
    else if name = "col" then .done b
    else if name = "template" then .done b.closeTemplate
    else otherwise
  | .finish => b.inBody t
  | _ => otherwise

def inTableBody (b : Builder) (t : Token) : Outcome :=
  let toGroup := b.popUntil ["tbody", "tfoot", "thead", "template", "html"]
  let leave := if b.inTableScope rowGroupNames then toGroup.pop.againIn .inTable else .done b
  match t with
  | .startTag tag =>
    let name := tag.name
    if name = "tr" then .done ((toGroup.insert tag).inMode .inRow)
    else if name = "th" ∨ name = "td" then (toGroup.insertNamed "tr").againIn .inRow
    else if ["caption", "col", "colgroup"].contains name || rowGroupNames.contains name then leave
    else b.inTable t
  | .endTag name =>
    if rowGroupNames.contains name then
      if b.inTableScope [name] then .done (toGroup.pop.inMode .inTable) else .done b
    else if name = "table" then leave
    else if tablePartNames.contains name ∨ name = "body" ∨ name = "html" then .done b
    else b.inTable t
  | _ => b.inTable t

def inRow (b : Builder) (t : Token) : Outcome :=
  let toRow := b.popUntil ["tr", "template", "html"]
  let leave := if b.inTableScope ["tr"] then toRow.pop.againIn .inTableBody else .done b
  match t with
  | .startTag tag =>
    let name := tag.name
    if name = "th" ∨ name = "td" then .done ((toRow.insert tag).inMode .inCell).pushMarker
    else if tablePartNames.contains name then leave
    else b.inTable t
  | .endTag name =>
    if name = "tr" then
      if b.inTableScope ["tr"] then .done (toRow.pop.inMode .inTableBody) else .done b
    else if name = "table" then leave
    else if rowGroupNames.contains name then
      if b.inTableScope [name] then leave else .done b
    else if tablePartNames.contains name ∨ name = "body" ∨ name = "html" then .done b
    else b.inTable t
  | _ => b.inTable t

def closeCell (b : Builder) : Builder :=
  (b.closeImplied.popThrough (b.isAmong ["td", "th"])).clearToMarker

def inCell (b : Builder) (t : Token) : Outcome :=
  match t with
  | .startTag tag =>
    if tablePartNames.contains tag.name then
      if b.inTableScope ["td", "th"] then b.closeCell.againIn .inRow else .done b
    else b.inBody t
  | .endTag name =>
    if name = "td" ∨ name = "th" then
      if b.inTableScope [name] then
        .done ((b.closeImplied.popNamed name).clearToMarker.inMode .inRow)
      else .done b
    else if ["body", "caption", "col", "colgroup", "html"].contains name then .done b
    else if name = "table" ∨ name = "tr" ∨ rowGroupNames.contains name then
      if b.inTableScope [name] then b.closeCell.againIn .inRow else .done b
    else b.inBody t
  | _ => b.inBody t

/-! ### Selections -/

def inSelect (b : Builder) (t : Token) : Outcome :=
  let closed := (b.popNamed "select").resetMode
  match t with
  | .text cs => .done (b.putText (cs.filter (· ≠ '\x00')))
  | .comment => .done b.putComment
  | .doctype _ => .done b
  | .startTag tag =>
    let leftOption := if b.currentIs "option" then b.pop else b
    match tag.name with
    | "html" => .done (b.mergeRoot tag)
    | "option" => .done (leftOption.insert tag)
    | "optgroup" =>
      .done ((if leftOption.currentIs "optgroup" then leftOption.pop else leftOption).insert tag)
    | "select" => if b.inSelectScope "select" then .done closed else .done b
    | "input" => if b.inSelectScope "select" then .again closed else .done b
    | "keygen" => if b.inSelectScope "select" then .again closed else .done b
    | "textarea" => if b.inSelectScope "select" then .again closed else .done b
    | "script" => .done (b.startHeadElement tag)
    | "template" => .done (b.startHeadElement tag)
    | _ => .done b
  | .endTag name =>
    match name with
    | "optgroup" =>
      let optionInGroup := b.currentIs "option" && b.pop.currentIs "optgroup"
      let b := if optionInGroup then b.pop else b
      .done (if b.currentIs "optgroup" then b.pop else b)
    | "option" => .done (if b.currentIs "option" then b.pop else b)
    | "select" => if b.inSelectScope "select" then .done closed else .done b
    | "template" => .done b.closeTemplate
    | _ => .done b
  | .finish => b.inBody t

/-- Tags of tables that end a selection inside of a table. -/
def endsSelection : List String :=
  ["caption", "table", "tbody", "tfoot", "thead", "tr", "td", "th"]

/-- A token in a selection inside of a table. -/
def inSelectInTable (b : Builder) (t : Token) : Outcome :=
  let closed := (b.popNamed "select").resetMode
  match t with
  | .startTag tag => if endsSelection.contains tag.name then .again closed else b.inSelect t
  | .endTag name =>
    if endsSelection.contains name then
      if b.inTableScope [name] then .again closed else .done b
    else b.inSelect t
  | _ => b.inSelect t

end Scorebook.Markup.Builder
