import LiveText.Markup.Builder.Foreign

/-!
# Content of a body

What each token does where ordinary content is read.

## Main definitions

- `Builder.headTag`: the tags that are the same wherever they stand.
- `Builder.bodyStart`, `Builder.bodyEnd`, `Builder.bodyToken`.
-/

namespace LiveText.Markup.Builder

/-! ## Tags that are the same everywhere -/

/-- The elements that belong into a head but are taken wherever they stand. -/
def headNames : List String :=
  [ "base", "basefont", "bgsound", "link", "meta", "noframes", "script", "style", "template",
    "title" ]

/-- The start tag of an element that belongs into a head. -/
def headTag (b : Builder) (tag : Tag) : Builder :=
  match tag.name with
  | "title" => b.openText tag (.replaceable "title")
  | "noframes" | "style" => b.openText tag (.raw tag.name)
  | "script" => b.openText tag .script
  | "template" =>
    { (b.openTag tag).pushBoundary with
      mode := .template, templateModes := .template :: b.templateModes }
  | _ => b.emptyTag tag

/-- The end tag of a template. -/
def closeTemplate (b : Builder) : Builder :=
  if b.hasOpen "template" then
    let b := ((b.closeImplied allImpliedEnds).popUntilNamed "template").clearToBoundary
    { b with templateModes := b.templateModes.drop 1 }.resetMode
  else b

/-! ## Start tags -/

/-- The elements that end a paragraph and hold others. -/
def blockNames : List String :=
  [ "address", "article", "aside", "blockquote", "center", "details", "dialog", "dir", "div", "dl",
    "fieldset", "figcaption", "figure", "footer", "header", "hgroup", "main", "menu", "nav", "ol",
    "p", "search", "section", "summary", "ul" ]

/-- The formatting elements that are opened without more ado. -/
def formattingNames : List String :=
  ["b", "big", "code", "em", "font", "i", "s", "small", "strike", "strong", "tt", "u"]

/-- The elements without content that stand in a line of text. -/
def inlineVoidNames : List String :=
  ["area", "br", "embed", "img", "keygen", "wbr", "input"]

/-- The tags that mean nothing in ordinary content. -/
def ignoredNames : List String :=
  [ "html", "body", "frameset", "caption", "col", "colgroup", "frame", "head", "tbody", "td",
    "tfoot", "th", "thead", "tr" ]

/-- Closes the item of a list that a new one would be inside of. -/
def closeItem (b : Builder) (names : List String) : Builder :=
  let bounds := specialNames.filter fun name => !(["address", "div", "p"].contains name)
  match b.stack.find? fun i => b.isHtmlIn names i || b.isHtmlIn bounds i with
  | some i =>
    if b.isHtmlIn names i then
      let name := (b.labelOf i).name
      (b.closeImpliedBut name).popUntilNamed name
    else b
  | none => b

/-- Closes an innermost element of a name. -/
def closeCurrent (b : Builder) (name : String) : Builder :=
  if b.currentIn [name] then b.pop else b

/-- A start tag in ordinary content. -/
def bodyStart (b : Builder) (tag : Tag) : Builder :=
  let name := if tag.name = "image" then "img" else tag.name
  let tag := { tag with name }
  if headNames.contains name then b.headTag tag
  else if ignoredNames.contains name then b
  else if blockNames.contains name then b.closeParagraphInScope.openTag tag
  else if headings.contains name then
    let b := b.closeParagraphInScope
    (if b.currentIn headings then b.pop else b).openTag tag
  else if formattingNames.contains name then b.reopenFormatting.openFormatting tag
  else if inlineVoidNames.contains name then b.reopenFormatting.emptyTag tag
  else match name with
    | "pre" | "listing" => { b.closeParagraphInScope.openTag tag with dropsNewline := true }
    | "form" =>
      let inTemplate := b.hasOpen "template"
      if b.form.isSome && !inTemplate then b
      else
        let (i, b) := b.closeParagraphInScope.insertElement ⟨.html, "form"⟩ tag.attributes
        if inTemplate then b else { b with form := some i }
    | "li" => ((b.closeItem ["li"]).closeParagraphInScope).openTag tag
    | "dd" | "dt" => ((b.closeItem ["dd", "dt"]).closeParagraphInScope).openTag tag
    | "plaintext" => { b.closeParagraphInScope.openTag tag with lexing := .plain }
    | "button" =>
      let b := if b.inScopeNamed Label.boundsScope "button" then
          (b.closeImplied impliedEnds).popUntilNamed "button"
        else b
      b.reopenFormatting.openTag tag
    | "a" => b.closeOuterLink.reopenFormatting.openFormatting tag
    | "nobr" =>
      let b := b.reopenFormatting
      let b := if b.inScopeNamed Label.boundsScope "nobr" then
          (b.closeFormatting "nobr").reopenFormatting
        else b
      b.openFormatting tag
    | "applet" | "marquee" | "object" => (b.reopenFormatting.openTag tag).pushBoundary
    | "table" => { b.closeParagraphInScope.openTag tag with mode := .table }
    | "param" | "source" | "track" => b.emptyTag tag
    | "hr" => b.closeParagraphInScope.emptyTag tag
    | "textarea" => { b.openText tag (.replaceable "textarea") with dropsNewline := true }
    | "xmp" => b.closeParagraphInScope.reopenFormatting.openText tag (.raw "xmp")
    | "iframe" | "noembed" | "noscript" => b.openText tag (.raw name)
    | "select" =>
      let inTable := [Mode.table, .caption, .tableBody, .row, .cell].contains b.mode
      { b.reopenFormatting.openTag tag with mode := if inTable then .selectInTable else .select }
    | "optgroup" | "option" => ((b.closeCurrent "option").reopenFormatting).openTag tag
    | "rb" | "rtc" =>
      let inRuby := b.inScopeNamed Label.boundsScope "ruby"
      (if inRuby then b.closeImplied impliedEnds else b).openTag tag
    | "rp" | "rt" =>
      let inRuby := b.inScopeNamed Label.boundsScope "ruby"
      (if inRuby then b.closeImpliedBut "rtc" else b).openTag tag
    | "math" => b.openForeign .math tag
    | "svg" => b.openForeign .svg tag
    | _ => b.reopenFormatting.openTag tag

/-! ## End tags -/

/-- The end tag of a form. -/
def closeForm (b : Builder) : Builder :=
  if b.hasOpen "template" then
    if b.inScopeNamed Label.boundsScope "form" then
      (b.closeImplied impliedEnds).popUntilNamed "form"
    else b
  else
    match b.form with
    | none => b
    | some i =>
      let b := { b with form := none }
      if b.inScope Label.boundsScope (· == i) then
        let b := b.closeImplied impliedEnds
        { b with stack := b.stack.filter (· ≠ i) }
      else b

/-- An end tag in ordinary content. -/
def bodyEnd (b : Builder) (name : String) : Builder :=
  if name = "p" then
    (if b.inScopeNamed Label.boundsButtonScope "p" then b else b.openImplied "p").closeParagraph
  else if blockNames.contains name || ["button", "listing", "pre"].contains name then
    if b.inScopeNamed Label.boundsScope name then
      (b.closeImplied impliedEnds).popUntilNamed name
    else b
  else if headings.contains name then
    if b.inScope Label.boundsScope (b.isHtmlIn headings) then
      (b.closeImplied impliedEnds).popUntil (b.isHtmlIn headings)
    else b
  else if formattingNames.contains name || ["a", "nobr"].contains name then b.closeFormatting name
  else match name with
    | "template" => b.closeTemplate
    | "body" | "html" => b
    | "form" => b.closeForm
    | "li" =>
      if b.inScopeNamed Label.boundsListScope "li" then
        (b.closeImpliedBut "li").popUntilNamed "li"
      else b
    | "dd" | "dt" =>
      if b.inScopeNamed Label.boundsScope name then
        (b.closeImpliedBut name).popUntilNamed name
      else b
    | "applet" | "marquee" | "object" =>
      if b.inScopeNamed Label.boundsScope name then
        ((b.closeImplied impliedEnds).popUntilNamed name).clearToBoundary
      else b
    | "br" => b.reopenFormatting.emptyTag { name := "br", attributes := [], selfClosing := false }
    | _ => b.closeNamed name

/-- A token in ordinary content. -/
def bodyToken (b : Builder) : Token → Builder
  | .start tag => b.bodyStart tag
  | .close name => b.bodyEnd name
  | .text _ chars => b.reopenFormatting.insertText chars
  | .comment => b.insertComment
  | .nul | .fault => b

/-- A token inside a table that does not belong there. -/
def fosterToken (b : Builder) (token : Token) : Builder :=
  { { b with fostering := true }.bodyToken token with fostering := false }

end LiveText.Markup.Builder
