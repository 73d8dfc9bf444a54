import LiveText.Document.Basic

/-!
# Writing documents as markup

## Main definitions

- `Document.markup`: a node with all that is below it.
- `Document.innerMarkup`: what is below a node.

An element that cannot have content gets no end tag; of what is below it the texts are written and
the tags are not. Text directly inside an element with raw text is written as it is, provided that
the element is written with it.
-/

namespace LiveText.Markup

/-- The elements that have no content and no end tag. -/
def voidTags : List String :=
  [ "area", "base", "basefont", "bgsound", "br", "col", "embed", "frame", "hr", "img", "input",
    "keygen", "link", "meta", "param", "source", "track", "wbr" ]

/-- The elements whose text is written without escapes. -/
def rawTextTags : List String :=
  ["style", "script", "xmp", "iframe", "noembed", "noframes", "plaintext", "noscript"]

/-- A character of a text. -/
def escapeText (c : Char) : List Char :=
  if c = '&' then "&amp;".toList
  else if c = '\u00a0' then "&nbsp;".toList
  else if c = '<' then "&lt;".toList
  else if c = '>' then "&gt;".toList
  else [c]

/-- A character of an attribute value. -/
def escapeValue (c : Char) : List Char :=
  if c = '&' then "&amp;".toList
  else if c = '\u00a0' then "&nbsp;".toList
  else if c = '"' then "&quot;".toList
  else [c]

/-- A text inside an element, if it is inside one that is being written. -/
def writeText (enclosing : Option String) (text : String) : List Char :=
  match enclosing with
  | some tag => if rawTextTags.contains tag then text.toList else text.toList.flatMap escapeText
  | none => text.toList.flatMap escapeText

/-- An attribute with the blank before it. -/
def writeAttribute (name value : String) : List Char :=
  ' ' :: (name.toList ++ '=' :: '"' :: (value.toList.flatMap escapeValue ++ ['"']))

/-- A start tag. -/
def writeStart (tag : String) (attributes : Entries String) : List Char :=
  let written := attributes.flatMap fun (name, value) => writeAttribute name value
  '<' :: (tag.toList ++ written ++ ['>'])

/-- An end tag. -/
def writeEnd (tag : String) : List Char :=
  '<' :: '/' :: (tag.toList ++ ['>'])

end LiveText.Markup

namespace LiveText.Document

open Markup

variable (d : Document)

/-- A node with what is below it down to a depth. `enclosing` is the innermost element around it
that is being written, and `silent` says that tags are left out. -/
def writeTo : Nat → Option String → Bool → NodeId → List Char
  | 0, _, _, _ => []
  | depth + 1, enclosing, silent, i =>
    match d.data i with
    | .text s => writeText enclosing s
    | .fragment => (d.children i).flatMap (writeTo depth enclosing silent)
    | .element tag attributes =>
      if silent then (d.children i).flatMap (writeTo depth (some tag) true)
      else if voidTags.contains tag then
        writeStart tag attributes ++ (d.children i).flatMap (writeTo depth (some tag) true)
      else
        writeStart tag attributes ++ (d.children i).flatMap (writeTo depth (some tag) false) ++
          writeEnd tag

/-- The markup of a node with all that is below it. -/
def markup (i : NodeId) : String :=
  String.ofList (writeTo d d.size none false i)

/-- The markup of what is below a node. -/
def innerMarkup (i : NodeId) : String :=
  String.ofList ((d.children i).flatMap (writeTo d d.size none false))

end LiveText.Document
