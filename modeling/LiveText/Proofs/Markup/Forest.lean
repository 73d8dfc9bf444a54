import Mathlib
import LiveText.Document.Writer
import LiveText.Markup.Tree

/-!
# Plain forests

Forests of elements that may stand inside each other in any way, with texts between them. Markup
does not show where one of two adjacent texts ends, nor that there is an empty one. Everything else
that a document tells of a forest, its markup among it, is the same once adjacent texts are joined
and empty ones are left out.

## Main definitions

- `Plain`: the forests in question.
- `writeForest`, `textOf`, `elementsOf`: the markup, the text and the elements of a forest.
- `skeleton`: a forest without its texts and without the values of its attributes.
- `joinTexts`: adjacent texts joined, empty ones left out.
- `TextsApart`: no text is empty or next to another.

## Main statements

- `forest_induction`: induction over the elements and texts of a forest.
- `textsApart_joinTexts`, `writeForest_joinTexts`, `elementsOf_joinTexts`, `skeleton_joinTexts`.
- `isPlainChar_of_mem_writeForest`: the characters of the markup of a plain forest.
-/

namespace LiveText.Markup

/-! ## Induction -/

/-- A forest is empty, or it begins with a text, or with an element around another forest, or with
something else. -/
@[elab_as_elim]
theorem forest_induction {motive : List Tree → Prop} (nil : motive [])
    (text : ∀ s ts, motive ts → motive (.text s :: ts))
    (element : ∀ name attributes children ts, motive children → motive ts →
      motive (.element name attributes children :: ts))
    (other : ∀ ts, motive ts → motive (.other :: ts)) : ∀ ts, motive ts
  | [] => nil
  | .text s :: ts => text s ts (forest_induction nil text element other ts)
  | .element name attributes children :: ts =>
    element name attributes children ts (forest_induction nil text element other children)
      (forest_induction nil text element other ts)
  | .other :: ts => other ts (forest_induction nil text element other ts)

/-! ## Plain forests -/

/-- The tags of elements that may stand inside each other in any way. -/
def plainTags : List String :=
  ["div", "section", "span", "article"]

/-- A small letter, and then small letters, digits and hyphens. -/
def isAttributeName (name : String) : Bool :=
  match name.toList with
  | c :: cs => c.isLower && cs.all fun c => c.isLower || c.isDigit || c == '-'
  | [] => false

/-- The characters that markup can hold without a change: not the null character, which is replaced,
not the carriage return, which becomes a line feed, and not the byte order mark. -/
def isPlainChar (c : Char) : Bool :=
  c != '\x00' && c != '\r' && c != '\ufeff'

/-- A text of such characters. -/
def isPlainText (s : String) : Bool :=
  s.toList.all isPlainChar

/-- Attributes with distinct names, and values that markup can hold. -/
structure PlainAttributes (attributes : Entries String) : Prop where
  nodup : (Entries.keys attributes).Nodup
  names : ∀ a ∈ attributes, isAttributeName a.1
  values : ∀ a ∈ attributes, isPlainText a.2

/-- A forest of plain elements and texts. -/
def Plain : List Tree → Prop
  | [] => True
  | .text s :: ts => isPlainText s ∧ Plain ts
  | .element name attributes children :: ts =>
    (name ∈ plainTags ∧ PlainAttributes attributes ∧ Plain children) ∧ Plain ts
  | .other :: _ => False

/-! ## What a forest says -/

/-- The markup of a plain forest. -/
def writeForest : List Tree → List Char
  | [] => []
  | .text s :: ts => s.toList.flatMap escapeText ++ writeForest ts
  | .element name attributes children :: ts =>
    writeStart name attributes ++ (writeForest children ++ (writeEnd name ++ writeForest ts))
  | .other :: ts => writeForest ts

/-- The texts of a forest, one after the other. -/
def textOf : List Tree → String
  | [] => ""
  | .text s :: ts => s ++ textOf ts
  | .element _ _ children :: ts => textOf children ++ textOf ts
  | .other :: ts => textOf ts

/-- The elements of a forest in document order. -/
def elementsOf : List Tree → List NodeData
  | [] => []
  | .text _ :: ts => elementsOf ts
  | .element name attributes children :: ts =>
    .element name attributes :: (elementsOf children ++ elementsOf ts)
  | .other :: ts => elementsOf ts

/-- A forest without its texts and without the values of its attributes. -/
def skeleton : List Tree → List Tree
  | [] => []
  | .text _ :: ts => skeleton ts
  | .element name attributes children :: ts =>
    .element name (attributes.map fun (name, _) => (name, "")) (skeleton children) :: skeleton ts
  | .other :: ts => skeleton ts

/-! ## Joined texts -/

/-- A text in front of a forest. It goes into a text with which the forest begins, and where it is
empty nothing is put there. -/
def putText (s : String) : List Tree → List Tree
  | .text s' :: ts => .text (s ++ s') :: ts
  | ts => if s = "" then ts else .text s :: ts

/-- A forest with adjacent texts joined and empty ones left out. -/
def joinTexts : List Tree → List Tree
  | [] => []
  | .text s :: ts => putText s (joinTexts ts)
  | .element name attributes children :: ts =>
    .element name attributes (joinTexts children) :: joinTexts ts
  | .other :: ts => .other :: joinTexts ts

/-- Whether a forest begins with a text. -/
def startsWithText : List Tree → Bool
  | .text _ :: _ => true
  | _ => false

/-- No text is empty or next to another. -/
def TextsApart : List Tree → Prop
  | [] => True
  | .text s :: ts => s ≠ "" ∧ startsWithText ts = false ∧ TextsApart ts
  | .element _ _ children :: ts => TextsApart children ∧ TextsApart ts
  | .other :: ts => TextsApart ts

/-- What a text in front of a forest comes to: it is joined, left out or put there. -/
theorem putText_cases (s : String) (ts : List Tree) :
    (∃ s' rest, ts = .text s' :: rest ∧ putText s ts = .text (s ++ s') :: rest) ∨
      (s = "" ∧ putText s ts = ts) ∨
      (s ≠ "" ∧ startsWithText ts = false ∧ putText s ts = .text s :: ts) := by
  unfold putText
  split
  · exact .inl ⟨_, _, rfl, rfl⟩
  · next hother =>
    by_cases hs : s = ""
    · exact .inr (.inl ⟨hs, if_pos hs⟩)
    · refine .inr (.inr ⟨hs, ?_, if_neg hs⟩)
      unfold startsWithText
      split
      · next s' rest => exact absurd rfl (hother s' rest)
      · rfl

theorem textsApart_putText (s : String) {ts : List Tree} (h : TextsApart ts) :
    TextsApart (putText s ts) := by
  obtain ⟨s', rest, rfl, heq⟩ | ⟨-, heq⟩ | ⟨hs, hts, heq⟩ := putText_cases s ts
  · simp only [heq, TextsApart] at h ⊢
    refine ⟨fun hjoined => h.1 ?_, h.2⟩
    exact (String.append_eq_empty_iff.mp hjoined).2
  · rwa [heq]
  · rw [heq, TextsApart]
    exact ⟨hs, hts, h⟩

theorem textsApart_joinTexts (ts : List Tree) : TextsApart (joinTexts ts) := by
  induction ts using forest_induction with
  | nil => rw [joinTexts, TextsApart]; trivial
  | text s ts ih => rw [joinTexts]; exact textsApart_putText s ih
  | element name attributes children ts inside ih =>
    rw [joinTexts, TextsApart]
    exact ⟨inside, ih⟩
  | other ts ih => rwa [joinTexts, TextsApart]

theorem plain_putText {s : String} (hs : isPlainText s) {ts : List Tree} (h : Plain ts) :
    Plain (putText s ts) := by
  obtain ⟨s', rest, rfl, heq⟩ | ⟨-, heq⟩ | ⟨-, -, heq⟩ := putText_cases s ts
  · rw [Plain] at h
    rw [heq, Plain]
    refine ⟨?_, h.2⟩
    rw [isPlainText, String.toList_append, List.all_append, Bool.and_eq_true]
    exact ⟨hs, h.1⟩
  · rwa [heq]
  · rw [heq, Plain]
    exact ⟨hs, h⟩

theorem plain_joinTexts {ts : List Tree} (h : Plain ts) : Plain (joinTexts ts) := by
  induction ts using forest_induction with
  | nil => rwa [joinTexts]
  | text s ts ih =>
    rw [Plain] at h
    rw [joinTexts]
    exact plain_putText h.1 (ih h.2)
  | element name attributes children ts inside ih =>
    rw [Plain] at h
    rw [joinTexts, Plain]
    exact ⟨⟨h.1.1, h.1.2.1, inside h.1.2.2⟩, ih h.2⟩
  | other ts ih => rw [Plain] at h; exact h.elim

/-! ### What stays -/

theorem writeForest_putText (s : String) (ts : List Tree) :
    writeForest (putText s ts) = s.toList.flatMap escapeText ++ writeForest ts := by
  obtain ⟨s', rest, rfl, heq⟩ | ⟨rfl, heq⟩ | ⟨-, -, heq⟩ := putText_cases s ts
  · simp [heq, writeForest]
  · simp [heq]
  · rw [heq, writeForest]

/-- Markup does not tell adjacent texts apart. -/
theorem writeForest_joinTexts (ts : List Tree) : writeForest (joinTexts ts) = writeForest ts := by
  induction ts using forest_induction with
  | nil => rw [joinTexts]
  | text s ts ih => rw [joinTexts, writeForest_putText, ih, writeForest]
  | element name attributes children ts inside ih =>
    rw [joinTexts, writeForest, writeForest, inside, ih]
  | other ts ih => rw [joinTexts, writeForest, writeForest, ih]

theorem textOf_putText (s : String) (ts : List Tree) :
    textOf (putText s ts) = s ++ textOf ts := by
  obtain ⟨s', rest, rfl, heq⟩ | ⟨rfl, heq⟩ | ⟨-, -, heq⟩ := putText_cases s ts
  · simp only [heq, textOf, String.append_assoc]
  · simp [heq]
  · rw [heq, textOf]

theorem textOf_joinTexts (ts : List Tree) : textOf (joinTexts ts) = textOf ts := by
  induction ts using forest_induction with
  | nil => rw [joinTexts]
  | text s ts ih => rw [joinTexts, textOf_putText, ih, textOf]
  | element name attributes children ts inside ih => rw [joinTexts, textOf, textOf, inside, ih]
  | other ts ih => rw [joinTexts, textOf, textOf, ih]

theorem elementsOf_putText (s : String) (ts : List Tree) :
    elementsOf (putText s ts) = elementsOf ts := by
  obtain ⟨s', rest, rfl, heq⟩ | ⟨-, heq⟩ | ⟨-, -, heq⟩ := putText_cases s ts
  · rw [heq, elementsOf, elementsOf]
  · rw [heq]
  · rw [heq, elementsOf]

theorem elementsOf_joinTexts (ts : List Tree) : elementsOf (joinTexts ts) = elementsOf ts := by
  induction ts using forest_induction with
  | nil => rw [joinTexts]
  | text s ts ih => rw [joinTexts, elementsOf_putText, ih, elementsOf]
  | element name attributes children ts inside ih =>
    rw [joinTexts, elementsOf, elementsOf, inside, ih]
  | other ts ih => rw [joinTexts, elementsOf, elementsOf, ih]

theorem skeleton_putText (s : String) (ts : List Tree) :
    skeleton (putText s ts) = skeleton ts := by
  obtain ⟨s', rest, rfl, heq⟩ | ⟨-, heq⟩ | ⟨-, -, heq⟩ := putText_cases s ts
  · rw [heq, skeleton, skeleton]
  · rw [heq]
  · rw [heq, skeleton]

/-- No element comes, goes or moves. -/
theorem skeleton_joinTexts (ts : List Tree) : skeleton (joinTexts ts) = skeleton ts := by
  induction ts using forest_induction with
  | nil => rw [joinTexts]
  | text s ts ih => rw [joinTexts, skeleton_putText, ih, skeleton]
  | element name attributes children ts inside ih =>
    rw [joinTexts, skeleton, skeleton, inside, ih]
  | other ts ih => rw [joinTexts, skeleton, skeleton, ih]

/-! ## Characters of the markup -/

/-- The characters of a name of an attribute. -/
theorem isAttributeName_iff {name : String} : isAttributeName name ↔
    ∃ c cs, name.toList = c :: cs ∧ c.isLower ∧
      ∀ x ∈ cs, x.isLower ∨ x.isDigit ∨ x = '-' := by
  unfold isAttributeName
  split
  · next c cs heq => simp [heq, or_assoc]
  · next heq => simp [heq]

/-- Characters that a test tells apart. -/
theorem ne_of_test {test : Char → Bool} {c other : Char} (h : test c = true)
    (hother : test other = false) : c ≠ other := by
  rintro rfl
  rw [h] at hother
  exact Bool.noConfusion hother

theorem isPlainChar_of_isAlphanum {c : Char} (h : c.isAlphanum) : isPlainChar c := by
  have hnul : c ≠ '\x00' := ne_of_test h rfl
  have hreturn : c ≠ '\r' := ne_of_test h rfl
  have hmark : c ≠ '\ufeff' := ne_of_test h rfl
  simp [isPlainChar, hnul, hreturn, hmark]

theorem isPlainChar_of_mem_name {name : String} (h : isAttributeName name) :
    ∀ c ∈ name.toList, isPlainChar c := by
  obtain ⟨first, rest, heq, hfirst, hrest⟩ := isAttributeName_iff.mp h
  have hlower (c : Char) (hc : c.isLower) : isPlainChar c :=
    isPlainChar_of_isAlphanum (by simp [Char.isAlphanum, Char.isAlpha, hc])
  rw [heq, List.forall_mem_cons]
  refine ⟨hlower first hfirst, fun c hc => ?_⟩
  obtain hc | hc | rfl := hrest c hc
  · exact hlower c hc
  · exact isPlainChar_of_isAlphanum (by simp [Char.isAlphanum, hc])
  · rfl

theorem isPlainChar_of_mem {s : String} (h : isPlainText s) {c : Char} (hc : c ∈ s.toList) :
    isPlainChar c :=
  List.all_eq_true.mp h c hc

/-- The references that are written for characters with a meaning in markup. -/
theorem isPlainText_reference :
    ∀ r ∈ ["&amp;", "&nbsp;", "&lt;", "&gt;", "&quot;"], isPlainText r := by
  decide

theorem isPlainText_tag : ∀ tag ∈ plainTags, isPlainText tag := by
  decide

theorem isPlainChar_of_mem_escapeText {c x : Char} (hc : isPlainChar c) (h : x ∈ escapeText c) :
    isPlainChar x := by
  unfold escapeText at h
  split_ifs at h
  · exact isPlainChar_of_mem (isPlainText_reference _ (by simp)) h
  · exact isPlainChar_of_mem (isPlainText_reference _ (by simp)) h
  · exact isPlainChar_of_mem (isPlainText_reference _ (by simp)) h
  · exact isPlainChar_of_mem (isPlainText_reference _ (by simp)) h
  · rwa [List.mem_singleton.mp h]

theorem isPlainChar_of_mem_escapeValue {c x : Char} (hc : isPlainChar c) (h : x ∈ escapeValue c) :
    isPlainChar x := by
  unfold escapeValue at h
  split_ifs at h
  · exact isPlainChar_of_mem (isPlainText_reference _ (by simp)) h
  · exact isPlainChar_of_mem (isPlainText_reference _ (by simp)) h
  · exact isPlainChar_of_mem (isPlainText_reference _ (by simp)) h
  · rwa [List.mem_singleton.mp h]

theorem isPlainChar_of_mem_writeStart {name : String} (hname : name ∈ plainTags)
    {attributes : Entries String} (h : PlainAttributes attributes) :
    ∀ c ∈ writeStart name attributes, isPlainChar c := by
  intro c hc
  simp only [writeStart, List.mem_cons, List.mem_append, List.mem_flatMap, List.not_mem_nil,
    or_false] at hc
  obtain rfl | (hc | ⟨a, ha, hc⟩) | rfl := hc
  · rfl
  · exact isPlainChar_of_mem (isPlainText_tag name hname) hc
  · simp only [writeAttribute, List.mem_cons, List.mem_append, List.mem_flatMap, List.not_mem_nil,
      or_false] at hc
    obtain rfl | hc | rfl | rfl | ⟨x, hx, hc⟩ | rfl := hc
    · rfl
    · exact isPlainChar_of_mem_name (h.names a ha) c hc
    · rfl
    · rfl
    · exact isPlainChar_of_mem_escapeValue (isPlainChar_of_mem (h.values a ha) hx) hc
    · rfl
  · rfl

theorem isPlainChar_of_mem_writeEnd {name : String} (hname : name ∈ plainTags) :
    ∀ c ∈ writeEnd name, isPlainChar c := by
  intro c hc
  simp only [writeEnd, List.mem_cons, List.mem_append, List.not_mem_nil, or_false] at hc
  obtain rfl | rfl | hc | rfl := hc
  · rfl
  · rfl
  · exact isPlainChar_of_mem (isPlainText_tag name hname) hc
  · rfl

/-- Nothing that reading replaces is ever written. -/
theorem isPlainChar_of_mem_writeForest {ts : List Tree} (h : Plain ts) :
    ∀ c ∈ writeForest ts, isPlainChar c := by
  induction ts using forest_induction with
  | nil => simp [writeForest]
  | text s ts ih =>
    rw [Plain] at h
    intro c hc
    rw [writeForest, List.mem_append, List.mem_flatMap] at hc
    obtain ⟨x, hx, hc⟩ | hc := hc
    · exact isPlainChar_of_mem_escapeText (isPlainChar_of_mem h.1 hx) hc
    · exact ih h.2 c hc
  | element name attributes children ts inside ih =>
    rw [Plain] at h
    obtain ⟨⟨hname, hattributes, hchildren⟩, hts⟩ := h
    intro c hc
    simp only [writeForest, List.mem_append] at hc
    obtain hc | hc | hc | hc := hc
    · exact isPlainChar_of_mem_writeStart hname hattributes c hc
    · exact inside hchildren c hc
    · exact isPlainChar_of_mem_writeEnd hname c hc
    · exact ih hts c hc
  | other ts ih => rw [Plain] at h; exact h.elim

end LiveText.Markup
