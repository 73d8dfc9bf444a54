import LiveText.Document.Traversal

/-!
# Selectors

A selector is an optional tag followed by parts: `#name` asks for an id, `.name` for a class.

## Main definitions

- `Selector.parse`: the selector that a text spells.
- `Selector.accepts`: whether a node satisfies a selector.
- `Document.queryAll`, `Document.queryFirst?`: the elements of a document that a selector matches.
-/

namespace LiveText

/-- One part of a selector. -/
inductive SelectorPart where
  | id (name : String)
  | className (name : String)
deriving DecidableEq, Repr

/-- What a selector asks for. -/
structure Selector where
  tag : Option String := none
  id : Option String := none
  classes : List String := []
deriving DecidableEq, Repr

namespace Selector

/-- Whether a character starts a part. -/
def isMarker (c : Char) : Bool :=
  c == '#' || c == '.'

/-- The parts that a text spells; a part without a name is an error. -/
def parts? (cs : List Char) : Option (List SelectorPart) :=
  match cs with
  | [] => some []
  | marker :: body =>
    let name := body.takeWhile (!isMarker ·)
    if name.isEmpty then none
    else
      let part := if marker = '#' then SelectorPart.id else SelectorPart.className
      (parts? (body.dropWhile (!isMarker ·))).map (part (String.ofList name) :: ·)
termination_by cs.length
decreasing_by
  simp only [List.length_cons]
  exact Nat.lt_succ_of_le (List.dropWhile_suffix _).length_le

/-- A selector with one more part. There is room for one id: a later one takes its place. -/
def add (s : Selector) : SelectorPart → Selector
  | .id name => { s with id := some name }
  | .className name => { s with classes := s.classes ++ [name] }

/-- The tag, in small letters, and the parts that a text spells. Blanks around it do not count;
inside they are an error, and so is nothing at all. -/
def spelled? (source : String) : Option (Option String × List SelectorPart) :=
  let cs := Text.trim source.toList
  if cs.isEmpty || cs.any Text.isBlank then none
  else
    let tag := cs.takeWhile (!isMarker ·)
    (parts? (cs.dropWhile (!isMarker ·))).map fun parts =>
      (if tag.isEmpty then none else some (Text.lowerAscii (String.ofList tag)), parts)

/-- The selector that a text spells. -/
def parse (source : String) : Option Selector :=
  (spelled? source).map fun (tag, parts) => parts.foldl add { tag }

/-- The names in a class attribute. -/
def classNames (value : String) : List String :=
  (Text.words value.toList).map String.ofList

/-- Whether a node is an element that has all that the selector asks for. -/
def accepts (s : Selector) : NodeData → Bool
  | .element tag attributes =>
    (match s.tag with
      | some t => t == tag
      | none => true) &&
    (match s.id with
      | some i => attributes.lookup "id" == some i
      | none => true) &&
    s.classes.all fun c => (classNames ((attributes.lookup "class").getD "")).contains c
  | _ => false

end Selector

namespace Document

/-- The elements below the root that a selector matches, in document order. A text that spells no
selector matches nothing. -/
def queryAll (d : Document) (selector : String) : List NodeId :=
  match Selector.parse selector with
  | some s => (d.visit (d.children root)).filter fun i => s.accepts (d.data i)
  | none => []

/-- The first element that a selector matches. -/
def queryFirst? (d : Document) (selector : String) : Option NodeId :=
  (d.queryAll selector).head?

end Document

end LiveText
