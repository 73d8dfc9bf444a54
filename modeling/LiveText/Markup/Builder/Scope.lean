import LiveText.Markup.Builder.Basic

/-!
# The stack of open elements

Searches in the stack go outwards from the innermost open element and stop at elements that bound a
scope. Some end tags may be left out; closing an element closes such elements inside it.

## Main definitions

- `Builder.inScope`: whether an open element can be reached.
- `Builder.popUntil`, `Builder.closeImplied`: closing elements.
-/

namespace LiveText.Markup

/-! ## Sets of elements -/

/-- The elements of MathML whose text is HTML. -/
def Label.isMathText (l : Label) : Bool :=
  l.vocabulary == .math && ["mi", "mo", "mn", "ms", "mtext"].contains l.name

/-- The elements of SVG whose content is HTML. -/
def Label.isSvgHtml (l : Label) : Bool :=
  l.vocabulary == .svg && ["foreignobject", "desc", "title"].contains l.name

/-- The elements that bound the usual scope. -/
def Label.boundsScope (l : Label) : Bool :=
  l.isHtmlIn
    ["applet", "caption", "html", "table", "td", "th", "marquee", "object", "template"] ||
  l.isMathText || l.isSvgHtml

/-- The elements that bound the scope of list items. -/
def Label.boundsListScope (l : Label) : Bool :=
  l.boundsScope || l.isHtmlIn ["ol", "ul"]

/-- The elements that bound the scope of paragraphs. -/
def Label.boundsButtonScope (l : Label) : Bool :=
  l.boundsScope || l.isHtmlIn ["button"]

/-- The elements that bound the scope of table parts. -/
def Label.boundsTableScope (l : Label) : Bool :=
  l.isHtmlIn ["html", "table", "template"]

/-- The elements that bound the scope of a `select`: all but the two that may stand in it. -/
def Label.boundsSelectScope (l : Label) : Bool :=
  !l.isHtmlIn ["optgroup", "option"]

/-- The elements whose end tags are usually left out. -/
def impliedEnds : List String :=
  ["dd", "dt", "li", "option", "optgroup", "p", "rb", "rp", "rt", "rtc"]

/-- The elements whose end tags may be left out before the end of a template. -/
def allImpliedEnds : List String :=
  impliedEnds ++ ["caption", "colgroup", "tbody", "td", "tfoot", "th", "thead", "tr"]

/-- The headings. -/
def headings : List String :=
  ["h1", "h2", "h3", "h4", "h5", "h6"]

/-- The elements that an end tag of another kind does not reach across. -/
def specialNames : List String :=
  [ "address", "applet", "area", "article", "aside", "base", "basefont", "bgsound", "blockquote",
    "body", "br", "button", "caption", "center", "col", "colgroup", "dd", "details", "dir", "div",
    "dl", "dt", "embed", "fieldset", "figcaption", "figure", "footer", "form", "frame", "frameset",
    "h1", "h2", "h3", "h4", "h5", "h6", "head", "header", "hgroup", "hr", "html", "iframe", "img",
    "input", "isindex", "li", "link", "listing", "main", "marquee", "menu", "meta", "nav",
    "noembed", "noframes", "noscript", "object", "ol", "p", "param", "plaintext", "pre", "script",
    "section", "select", "source", "style", "summary", "table", "tbody", "td", "template",
    "textarea", "tfoot", "th", "thead", "title", "tr", "track", "ul", "wbr", "xmp" ]

namespace Builder

/-! ## Searches -/

/-- Whether an element on the way outwards is one that is looked for, before a bound. -/
def reaches (b : Builder) (bound : Label → Bool) (target : Nat → Bool) : List Nat → Bool
  | [] => false
  | i :: outer => target i || (!bound (b.labelOf i) && b.reaches bound target outer)

/-- Whether an open element can be reached before a bound. -/
def inScope (b : Builder) (bound : Label → Bool) (target : Nat → Bool) : Bool :=
  b.reaches bound target b.stack

/-- Whether an open HTML element with a name can be reached before a bound. -/
def inScopeNamed (b : Builder) (bound : Label → Bool) (name : String) : Bool :=
  b.inScope bound (b.isHtmlIn [name])

/-! ## Closing -/

/-- Closes the innermost open element. -/
def pop (b : Builder) : Builder :=
  { b with stack := b.stack.drop 1 }

/-- Closes elements up to and including the first of a kind. -/
def popUntil (b : Builder) (target : Nat → Bool) : Builder :=
  { b with stack := (b.stack.dropWhile (!target ·)).drop 1 }

/-- Closes elements up to and including the first HTML element with a name. -/
def popUntilNamed (b : Builder) (name : String) : Builder :=
  b.popUntil (b.isHtmlIn [name])

/-- Closes elements until the innermost is an HTML element with one of some names. -/
def popUntilCurrent (b : Builder) (names : List String) : Builder :=
  { b with stack := b.stack.dropWhile (!b.isHtmlIn names ·) }

/-- Closes the innermost elements as long as they have one of some names. -/
def closeImplied (b : Builder) (names : List String) : Builder :=
  { b with stack := b.stack.dropWhile (b.isHtmlIn names) }

/-- Closes the innermost elements whose end tags are usually left out, but not one with a name. -/
def closeImpliedBut (b : Builder) (name : String) : Builder :=
  b.closeImplied (impliedEnds.filter (· ≠ name))

/-- Closes a paragraph. -/
def closeParagraph (b : Builder) : Builder :=
  (b.closeImpliedBut "p").popUntilNamed "p"

/-- Closes the paragraph that a new block would be inside of. -/
def closeParagraphInScope (b : Builder) : Builder :=
  if b.inScopeNamed Label.boundsButtonScope "p" then b.closeParagraph else b

/-- The mode in which content of an open element inside others is read; none where that hangs on
the elements around it. -/
def modeInside? (b : Builder) (outer : List Nat) (i : Nat) : Option Mode :=
  let label := b.labelOf i
  if label.vocabulary ≠ .html then none
  else match label.name with
    | "select" =>
      match outer.find? (b.isHtmlIn ["template", "table"]) with
      | some j => some (if b.isHtmlIn ["table"] j then .selectInTable else .select)
      | none => some .select
    | "td" | "th" => some .cell
    | "tr" => some .row
    | "tbody" | "thead" | "tfoot" => some .tableBody
    | "caption" => some .caption
    | "colgroup" => some .columnGroup
    | "table" => some .table
    | "template" => some (b.templateModes.headD .body)
    | _ => none

/-- The mode that the open elements call for. -/
def modeOfStack (b : Builder) : List Nat → Mode
  | [] => .body
  | [_] => .body
  | i :: outer =>
    match b.modeInside? outer i with
    | some mode => mode
    | none => b.modeOfStack outer

/-- Goes to the mode that the open elements call for. -/
def resetMode (b : Builder) : Builder :=
  { b with mode := b.modeOfStack b.stack }

end Builder

end LiveText.Markup
