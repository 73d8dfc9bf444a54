import LiveText.Fault
import LiveText.Text.Blank
import LiveText.Value.Text

/-!
# Templates

A template is a text with placeholders. A placeholder is two opening braces, blanks, identifiers
with points between them, blanks, two closing braces. All other text is literal, unfinished
placeholders included.

## Main definitions

- `placeholder?`: the placeholder at the front of a text.
- `segments`: a text cut into literal stretches and placeholders.
- `Template.parse`: the template of a text that has a placeholder.
- `Template.renderWith`: the text with every placeholder replaced by what a lookup answers.

## Main statements

- `placeholder?_rest_shorter`: a placeholder takes characters away.
-/

namespace LiveText

/-- One piece of a template. -/
inductive Segment where
  | literal (text : String)
  | placeholder (path : Path)
deriving DecidableEq, Repr

/-! ## Placeholders -/

/-- A character that may start an identifier. -/
def isIdentifierStart (c : Char) : Bool :=
  c.isAlpha || c == '_' || c == '$'

/-- A character that may continue an identifier. -/
def isIdentifierPart (c : Char) : Bool :=
  isIdentifierStart c || c.isDigit

/-- Whether the characters are an identifier. -/
def isIdentifier : List Char → Bool
  | [] => false
  | c :: cs => isIdentifierStart c && cs.all isIdentifierPart

/-- A character of identifiers with points between them. -/
def isDottedPart (c : Char) : Bool :=
  isIdentifierPart c || c == '.'

/-- What follows two closing braces, if those stand at the front after blanks. -/
def afterClosing? (cs : List Char) : Option (List Char) :=
  match Text.trimStart cs with
  | '\x7d' :: '\x7d' :: rest => some rest
  | _ => none

/-- The inside of a placeholder up to its closing braces, with what follows it. The identifiers are
all that stands between blanks, since neither a blank nor a brace can be part of them. -/
def placeholderBody? (cs : List Char) : Option (Path × List Char) :=
  let body := Text.trimStart cs
  let names := (body.takeWhile isDottedPart).splitOn '.'
  if names.all isIdentifier then
    (afterClosing? (body.dropWhile isDottedPart)).map fun rest =>
      (⟨names.map String.ofList⟩, rest)
  else none

/-- The placeholder at the front of a text, with what follows it. -/
def placeholder? : List Char → Option (Path × List Char)
  | '\x7b' :: '\x7b' :: rest => placeholderBody? rest
  | _ => none

theorem length_afterClosing?_lt {cs rest : List Char} (h : afterClosing? cs = some rest) :
    rest.length < cs.length := by
  unfold afterClosing? at h
  split at h
  · next rest' heq =>
    have hlen : (Text.trimStart cs).length ≤ cs.length :=
      (List.dropWhile_suffix _).length_le
    rw [heq] at hlen
    simp at h hlen
    subst h
    omega
  · simp at h

/-- A placeholder takes characters away. -/
theorem placeholder?_rest_shorter {cs rest : List Char} {p : Path}
    (h : placeholder? cs = some (p, rest)) : rest.length < cs.length := by
  unfold placeholder? at h
  split at h
  · next inner =>
    unfold placeholderBody? at h
    simp only at h
    split at h
    · obtain ⟨r, hr, he⟩ := Option.map_eq_some_iff.1 h
      have h1 := length_afterClosing?_lt hr
      have h2 : ((Text.trimStart inner).dropWhile isDottedPart).length ≤ inner.length :=
        ((List.dropWhile_suffix _).trans (List.dropWhile_suffix _)).length_le
      simp only [Prod.mk.injEq] at he
      obtain ⟨-, rfl⟩ := he
      simp only [List.length_cons]
      omega
    · simp at h
  · simp at h

/-! ## Segments -/

/-- A literal stretch in front of segments, unless it is empty. The stretch is given backwards. -/
def prependLiteral (backwards : List Char) (segments : List Segment) : List Segment :=
  if backwards.isEmpty then segments
  else .literal (String.ofList backwards.reverse) :: segments

/-- The segments of a text: the leftmost placeholder is found first and the search goes on behind
it. The literal stretch read so far is given backwards. -/
def segmentsFrom (backwards : List Char) (cs : List Char) : List Segment :=
  match _h : placeholder? cs with
  | some (path, rest) => prependLiteral backwards (.placeholder path :: segmentsFrom [] rest)
  | none =>
    match cs with
    | [] => prependLiteral backwards []
    | c :: rest => segmentsFrom (c :: backwards) rest
termination_by cs.length
decreasing_by
  · exact placeholder?_rest_shorter ‹_›
  · simp

/-- The path of a placeholder. -/
def Segment.path? : Segment → Option Path
  | .placeholder path => some path
  | .literal _ => none

/-! ## Templates -/

/-- A text with at least one placeholder, cut into segments. -/
structure Template where
  source : String
  segments : List Segment
deriving DecidableEq, Repr

namespace Template

/-- The template of a text; a text without placeholder is none. -/
def parse (text : String) : Option Template :=
  let segments := segmentsFrom [] text.toList
  if segments.any fun s => s.path?.isSome then some ⟨text, segments⟩ else none

/-- The paths of the placeholders in textual order, repeats included. -/
def paths (t : Template) : List Path :=
  t.segments.filterMap Segment.path?

/-- The number of placeholders. -/
def placeholderCount (t : Template) : Nat :=
  t.paths.length

/-- Renders segments with a lookup that may change a state. Every placeholder is looked up, also
after one has failed; the first fault is the answer. -/
def renderSegments {σ : Type} (lookup : Path → σ → Except Fault Value × σ) :
    List Segment → σ → Except Fault String × σ
  | [], s => (.ok "", s)
  | .literal text :: rest, s =>
    let (rendered, s) := renderSegments lookup rest s
    (rendered.map (text ++ ·), s)
  | .placeholder path :: rest, s =>
    let (found, s) := lookup path s
    let (rendered, s) := renderSegments lookup rest s
    match found with
    | .ok v => (rendered.map (v.text ++ ·), s)
    | .error fault => (.error fault, s)

/-- Renders the template with a lookup that may change a state. -/
def renderWith {σ : Type} (lookup : Path → σ → Except Fault Value × σ) (t : Template) (s : σ) :
    Except Fault String × σ :=
  renderSegments lookup t.segments s

end Template

end LiveText
