import LiveText.Markup.Builder.Body

/-!
# Content of tables and selections

What each token does inside tables, their parts, selections and templates. A token may close
elements and then be read once more in another mode.

## Main definitions

- `Outcome`: a token is settled, or it is to be read again.
- One function for each mode other than ordinary content and text.
-/

namespace LiveText.Markup

/-- What became of a token. -/
inductive Outcome where
  | done (b : Builder)
  /-- The token is read again in the mode of the state. -/
  | again (b : Builder)

namespace Builder

/-- Reads the token again in a mode. -/
def againIn (b : Builder) (mode : Mode) : Outcome :=
  .again { b with mode }

/-- Whether a tag is that of an input that is not shown. -/
def isHiddenInput (tag : Tag) : Bool :=
  match tag.attributes.lookup "type" with
  | some value => Text.sameUpToAsciiCase value "hidden"
  | none => false

/-! ## Tables -/

/-- The table around: it is closed, if there is one. -/
def closeTable? (b : Builder) : Option Builder :=
  if b.inScopeNamed Label.boundsTableScope "table" then
    some (b.popUntilNamed "table").resetMode
  else none

/-- Text inside a table waits for its place; inside another element it has one. -/
def tableChars (b : Builder) (token : Token) : Outcome :=
  if b.currentIn tableParts then
    .again { b with modeAfterText := b.mode, mode := .tableText }
  else .done (b.fosterToken token)

/-- A start tag in a table. -/
def tableStart (b : Builder) (tag : Tag) : Outcome :=
  let inTable := b.popUntilCurrent ["html", "table", "template"]
  match tag.name with
  | "caption" => .done { inTable.pushBoundary.openTag tag with mode := .caption }
  | "colgroup" => .done { inTable.openTag tag with mode := .columnGroup }
  | "col" => (inTable.openImplied "colgroup").againIn .columnGroup
  | "tbody" | "tfoot" | "thead" => .done { inTable.openTag tag with mode := .tableBody }
  | "td" | "th" | "tr" => (inTable.openImplied "tbody").againIn .tableBody
  | "table" =>
    match b.closeTable? with
    | some b => .again b
    | none => .done b
  | "style" | "script" | "template" => .done (b.headTag tag)
  | "input" =>
    if isHiddenInput tag then .done (b.emptyTag tag) else .done (b.fosterToken (.start tag))
  | "form" =>
    if !b.hasOpen "template" && b.form.isNone then
      let (i, b) := b.insertClosed ⟨.html, "form"⟩ tag.attributes
      .done { b with form := some i }
    else .done b
  | _ => .done (b.fosterToken (.start tag))

/-- A token in a table. -/
def tableStep (b : Builder) (token : Token) : Outcome :=
  match token with
  | .start tag => b.tableStart tag
  | .close "table" => .done (b.closeTable?.getD b)
  | .close "template" => .done b.closeTemplate
  | .close name =>
    if ["body", "caption", "col", "colgroup", "html", "tbody", "td", "tfoot", "th", "thead",
        "tr"].contains name then .done b
    else .done (b.fosterToken token)
  | .text _ _ | .nul => b.tableChars token
  | .comment => .done b.insertComment
  | .fault => .done b

/-- Puts the text that waits to its place: in front of the table when any of it is not blank. -/
def placeTableText (b : Builder) : Builder :=
  let waiting := b.tableText
  let b := { b with tableText := [] }
  if waiting.any fun (blank, _) => !blank then
    waiting.foldl (fun b (blank, chars) => b.fosterToken (.text blank chars)) b
  else waiting.foldl (fun b (_, chars) => b.insertText chars) b

/-- A token while text inside a table waits. -/
def tableTextStep (b : Builder) (token : Token) : Outcome :=
  match token with
  | .nul => .done b
  | .text blank chars => .done { b with tableText := b.tableText ++ [(blank, chars)] }
  | _ => b.placeTableText.againIn b.modeAfterText

/-! ## Parts of tables -/

/-- Closes the caption that is open, if it can be reached. -/
def closeCaption? (b : Builder) : Option Builder :=
  if b.inScopeNamed Label.boundsTableScope "caption" then
    some ((b.closeImplied impliedEnds).popUntilNamed "caption").clearToBoundary
  else none

/-- A token in a caption. -/
def captionStep (b : Builder) (token : Token) : Outcome :=
  let closing : Outcome := match b.closeCaption? with
    | some b => b.againIn .table
    | none => .done b
  match token with
  | .start tag =>
    if ["caption", "col", "colgroup", "tbody", "td", "tfoot", "th", "thead", "tr"].contains tag.name
    then closing
    else .done (b.bodyStart tag)
  | .close "table" => closing
  | .close "caption" =>
    match b.closeCaption? with
    | some b => .done { b with mode := .table }
    | none => .done b
  | .close name =>
    let others := ["body", "col", "colgroup", "html", "tbody", "td", "tfoot", "th", "thead", "tr"]
    if others.contains name then .done b
    else .done (b.bodyEnd name)
  | _ => .done (b.bodyToken token)

/-- A token in a group of columns. -/
def columnGroupStep (b : Builder) (token : Token) : Outcome :=
  let closing : Outcome :=
    if b.currentIn ["colgroup"] then b.pop.againIn .table else .done b
  match token with
  | .text true chars => .done (b.insertText chars)
  | .comment => .done b.insertComment
  | .start tag =>
    match tag.name with
    | "html" => .done b
    | "col" => .done (b.emptyTag tag)
    | "template" => .done (b.headTag tag)
    | _ => closing
  | .close "colgroup" =>
    .done (if b.currentIn ["colgroup"] then { b.pop with mode := .table } else b)
  | .close "col" => .done b
  | .close "template" => .done b.closeTemplate
  | .fault => .done b
  | _ => closing

/-- What the innermost open element has to be for a row to go into it. -/
def rowGroupContext : List String :=
  ["tbody", "tfoot", "thead", "template", "html"]

/-- A token in a group of rows. -/
def tableBodyStep (b : Builder) (token : Token) : Outcome :=
  let inGroup := b.popUntilCurrent rowGroupContext
  let closing : Outcome :=
    if b.inScope Label.boundsTableScope (b.isHtmlIn ["table", "tbody", "tfoot"]) then
      inGroup.pop.againIn .table
    else .done b
  match token with
  | .start tag =>
    match tag.name with
    | "tr" => .done { inGroup.openTag tag with mode := .row }
    | "th" | "td" => (inGroup.openImplied "tr").againIn .row
    | "caption" | "col" | "colgroup" | "tbody" | "tfoot" | "thead" => closing
    | _ => b.tableStep token
  | .close name =>
    match name with
    | "tbody" | "tfoot" | "thead" =>
      if b.inScopeNamed Label.boundsTableScope name then .done { inGroup.pop with mode := .table }
      else .done b
    | "table" => closing
    | "body" | "caption" | "col" | "colgroup" | "html" | "td" | "th" | "tr" => .done b
    | _ => b.tableStep token
  | _ => b.tableStep token

/-- Closes the row that is open, if it can be reached. -/
def closeRow? (b : Builder) : Option Builder :=
  if b.inScopeNamed Label.boundsTableScope "tr" then
    some (b.popUntilCurrent ["tr", "template", "html"]).pop
  else none

/-- A token in a row. -/
def rowStep (b : Builder) (token : Token) : Outcome :=
  let closing : Outcome := match b.closeRow? with
    | some b => b.againIn .tableBody
    | none => .done b
  match token with
  | .start tag =>
    match tag.name with
    | "th" | "td" =>
      let inRow := b.popUntilCurrent ["tr", "template", "html"]
      .done { (inRow.openTag tag).pushBoundary with mode := .cell }
    | "caption" | "col" | "colgroup" | "tbody" | "tfoot" | "thead" | "tr" => closing
    | _ => b.tableStep token
  | .close name =>
    match name with
    | "tr" =>
      match b.closeRow? with
      | some b => .done { b with mode := .tableBody }
      | none => .done b
    | "table" => closing
    | "tbody" | "tfoot" | "thead" =>
      if b.inScopeNamed Label.boundsTableScope name then closing else .done b
    | "body" | "caption" | "col" | "colgroup" | "html" | "td" | "th" => .done b
    | _ => b.tableStep token
  | _ => b.tableStep token

/-- Closes the cell that is open. -/
def closeCell (b : Builder) : Builder :=
  let b := b.closeImplied impliedEnds
  (b.popUntil (b.isHtmlIn ["td", "th"])).clearToBoundary

/-- A token in a cell. -/
def cellStep (b : Builder) (token : Token) : Outcome :=
  match token with
  | .start tag =>
    if ["caption", "col", "colgroup", "tbody", "td", "tfoot", "th", "thead", "tr"].contains tag.name
    then
      if b.inScope Label.boundsTableScope (b.isHtmlIn ["td", "th"]) then
        b.closeCell.againIn .row
      else .done b
    else .done (b.bodyStart tag)
  | .close name =>
    match name with
    | "td" | "th" =>
      if b.inScopeNamed Label.boundsTableScope name then
        let b := ((b.closeImplied impliedEnds).popUntilNamed name).clearToBoundary
        .done { b with mode := .row }
      else .done b
    | "body" | "caption" | "col" | "colgroup" | "html" => .done b
    | "table" | "tbody" | "tfoot" | "thead" | "tr" =>
      if b.inScopeNamed Label.boundsTableScope name then b.closeCell.againIn .row else .done b
    | _ => .done (b.bodyEnd name)
  | _ => .done (b.bodyToken token)

/-! ## Selections -/

/-- Closes the selection that is open, if it can be reached. -/
def closeSelect? (b : Builder) : Option Builder :=
  if b.inScopeNamed Label.boundsSelectScope "select" then
    some (b.popUntilNamed "select").resetMode
  else none

/-- A start tag in a selection. -/
def selectStart (b : Builder) (tag : Tag) : Outcome :=
  match tag.name with
  | "option" => .done ((b.closeCurrent "option").openTag tag)
  | "optgroup" => .done (((b.closeCurrent "option").closeCurrent "optgroup").openTag tag)
  | "hr" => .done (((b.closeCurrent "option").closeCurrent "optgroup").emptyTag tag)
  | "select" => .done (b.closeSelect?.getD b)
  | "input" | "keygen" | "textarea" =>
    match b.closeSelect? with
    | some b => .again b
    | none => .done b
  | "script" | "template" => .done (b.headTag tag)
  | _ => .done b

/-- A token in a selection. -/
def selectStep (b : Builder) (token : Token) : Outcome :=
  match token with
  | .start tag => b.selectStart tag
  | .close "optgroup" =>
    let insideGroup := b.currentIn ["option"] &&
      match b.stack with
      | _ :: i :: _ => b.isHtmlIn ["optgroup"] i
      | _ => false
    .done ((if insideGroup then b.pop else b).closeCurrent "optgroup")
  | .close "option" => .done (b.closeCurrent "option")
  | .close "select" => .done (b.closeSelect?.getD b)
  | .close "template" => .done b.closeTemplate
  | .text _ chars => .done (b.insertText chars)
  | .comment => .done b.insertComment
  | _ => .done b

/-- A token in a selection inside a table. -/
def selectInTableStep (b : Builder) (token : Token) : Outcome :=
  let names := ["caption", "table", "tbody", "tfoot", "thead", "tr", "td", "th"]
  let closed := (b.popUntilNamed "select").resetMode
  match token with
  | .start tag => if names.contains tag.name then .again closed else b.selectStart tag
  | .close name =>
    if names.contains name then
      if b.inScopeNamed Label.boundsTableScope name then .again closed else .done b
    else b.selectStep token
  | _ => b.selectStep token

/-! ## Templates -/

/-- Goes on in a template in another mode. -/
def templateAgain (b : Builder) (mode : Mode) : Outcome :=
  .again { b with mode, templateModes := mode :: b.templateModes.drop 1 }

/-- A token in a template whose content has not shown what it is. -/
def templateStep (b : Builder) (token : Token) : Outcome :=
  match token with
  | .start tag =>
    if headNames.contains tag.name then .done (b.headTag tag)
    else match tag.name with
      | "caption" | "colgroup" | "tbody" | "tfoot" | "thead" => b.templateAgain .table
      | "col" => b.templateAgain .columnGroup
      | "tr" => b.templateAgain .tableBody
      | "td" | "th" => b.templateAgain .row
      | _ => b.templateAgain .body
  | .close "template" => .done b.closeTemplate
  | .close _ => .done b
  | .text _ _ | .comment => .done (b.bodyToken token)
  | .nul | .fault => .done b

end Builder

end LiveText.Markup
