import LiveText.Markup.Builder.Formatting

/-!
# Foreign elements

Elements of SVG and MathML inside HTML. Their attributes have spellings of their own, they may close
themselves, and some HTML tags end them.

## Main definitions

- `Builder.openForeign`: opens a foreign element.
- `Builder.isForeign`: whether a token is read by the rules for foreign elements.
-/

namespace LiveText.Markup

/-! ## Attributes -/

/-- The names of SVG attributes that hold capital letters. -/
def svgAttributeNames : List String :=
  [ "attributeName", "attributeType", "baseFrequency", "baseProfile", "calcMode", "clipPathUnits",
    "diffuseConstant", "edgeMode", "filterUnits", "glyphRef", "gradientTransform", "gradientUnits",
    "kernelMatrix", "kernelUnitLength", "keyPoints", "keySplines", "keyTimes", "lengthAdjust",
    "limitingConeAngle", "markerHeight", "markerUnits", "markerWidth", "maskContentUnits",
    "maskUnits", "numOctaves", "pathLength", "patternContentUnits", "patternTransform",
    "patternUnits", "pointsAtX", "pointsAtY", "pointsAtZ", "preserveAlpha", "preserveAspectRatio",
    "primitiveUnits", "refX", "refY", "repeatCount", "repeatDur", "requiredExtensions",
    "requiredFeatures", "specularConstant", "specularExponent", "spreadMethod", "startOffset",
    "stdDeviation", "stitchTiles", "surfaceScale", "systemLanguage", "tableValues", "targetX",
    "targetY", "textLength", "viewBox", "viewTarget", "xChannelSelector", "yChannelSelector",
    "zoomAndPan" ]

/-- The attributes of foreign elements that belong to vocabularies of their own, with the names that
they have there. -/
def qualifiedNames : List (String × String) :=
  [ ("xlink:actuate", "actuate"), ("xlink:arcrole", "arcrole"), ("xlink:href", "href"),
    ("xlink:role", "role"), ("xlink:show", "show"), ("xlink:title", "title"),
    ("xlink:type", "type"), ("xml:lang", "lang"), ("xml:space", "space"), ("xmlns:xlink", "xlink") ]

/-- The name of an attribute in a vocabulary, from the name in small letters. -/
def attributeName (vocabulary : Vocabulary) (name : String) : String :=
  match qualifiedNames.lookup name with
  | some own => own
  | none =>
    match vocabulary with
    | .svg => (svgAttributeNames.find? fun n => Text.lowerAscii n == name).getD name
    | .math => if name = "definitionurl" then "definitionURL" else name
    | .html => name

/-! ## Which rules apply -/

/-- The HTML elements that end foreign ones. -/
def breakingNames : List String :=
  [ "b", "big", "blockquote", "body", "br", "center", "code", "dd", "div", "dl", "dt", "em",
    "embed", "h1", "h2", "h3", "h4", "h5", "h6", "head", "hr", "i", "img", "li", "listing", "menu",
    "meta", "nobr", "ol", "p", "pre", "ruby", "s", "small", "span", "strong", "strike", "sub",
    "sup", "table", "tt", "u", "ul", "var" ]

/-- Whether a tag ends the foreign elements that are open. -/
def Tag.breaksOut (tag : Tag) : Bool :=
  breakingNames.contains tag.name ||
    (tag.name == "font" && tag.attributes.any fun (name, _) =>
      ["color", "face", "size"].contains name)

namespace Builder

/-- Whether an `annotation-xml` says that its content is HTML. -/
def holdsHtml (b : Builder) (i : Nat) : Bool :=
  match (b.attributesOf i).lookup "encoding" with
  | some value =>
    Text.sameUpToAsciiCase value "text/html" ||
      Text.sameUpToAsciiCase value "application/xhtml+xml"
  | none => false

/-- Whether a token is read by the rules for foreign elements. -/
def isForeign (b : Builder) (token : Token) : Bool :=
  let label := b.labelOf b.current
  let isText := match token with
    | .text _ _ | .nul => true
    | _ => false
  let started? := match token with
    | .start tag => some tag.name
    | _ => none
  if label.vocabulary = .html then false
  else if label.isMathText &&
      (isText || started?.any fun name => name != "mglyph" && name != "malignmark") then
    false
  else if label.isSvgHtml && (isText || started?.isSome) then false
  else if label = ⟨.math, "annotation-xml"⟩ then
    if started? = some "svg" then false
    else if isText || started?.isSome then !b.holdsHtml b.current
    else true
  else true

/-- Whether the innermost open element is foreign. -/
def inForeign (b : Builder) : Bool :=
  (b.labelOf b.current).vocabulary ≠ .html

/-! ## Opening and closing -/

/-- Opens the foreign element of a tag, or puts it where it belongs if the tag closes itself. -/
def openForeign (b : Builder) (vocabulary : Vocabulary) (tag : Tag) : Builder :=
  let attributes := tag.attributes.map fun (name, value) => (attributeName vocabulary name, value)
  if tag.selfClosing then (b.insertClosed ⟨vocabulary, tag.name⟩ attributes).2
  else (b.insertElement ⟨vocabulary, tag.name⟩ attributes).2

/-- Closes foreign elements up to one whose content is HTML. -/
def leaveForeign (b : Builder) : Builder :=
  let isHtmlInside (i : Nat) : Bool :=
    let label := b.labelOf i
    label.vocabulary == .html || label.isMathText || label.isSvgHtml
  { b with stack := b.stack.dropWhile (!isHtmlInside ·) }

/-- What an end tag among foreign elements closes: the stack without the element of its name, or
nothing when an HTML element comes first. The innermost element is looked at whatever it is, and the
outermost is never closed. -/
def foreignClosed? (b : Builder) (name : String) : Bool → List Nat → Option (List Nat)
  | _, [] => some b.stack
  | _, [_] => some b.stack
  | first, i :: outer =>
    let label := b.labelOf i
    if !first && label.vocabulary == .html then none
    else if Text.sameUpToAsciiCase label.name name then some outer
    else b.foreignClosed? name false outer

end Builder

end LiveText.Markup
