import Mathlib
import LiveText.Markup.Reader
import LiveText.Proofs.Markup.Growth

/-!
# Building plain trees

What a token does while nothing but plain elements is open. No rule for tables, forms, formatting or
foreign elements applies then: a start tag opens an element inside the innermost one, its end tag
closes it, and text goes to the end of the innermost element, into the text that stands there.

## Main definitions

- `Builder.Ordinary`: nothing but plain elements is open, and nothing is remembered.
- `Builder.numbering`: the nodes of a builder by their numbers.
- `Builder.hang`: a new node at the end of another's children.

## Main statements

- `feed_text`, `feed_start`, `feed_close`: what a token does.
- `insertText_insertText`: a text may come in pieces.
- `grown_insertText`, `grown_openTag`: what is put at the end of the innermost element.
-/

namespace LiveText.Markup

/-- What can be told of a node of a builder. -/
def PartData.seen : PartData → NodeData
  | .element label attributes _ => .element label.name attributes
  | .text s => .text s
  | .comment | .content => .fragment

namespace Builder

variable {b b' : Builder} {p : Nat} {chars : List Char}

/-- The nodes of a builder by their numbers. -/
def numbering (b : Builder) : Numbering where
  size := b.parts.size
  data i := (b.dataOf i).seen
  children := b.childrenOf

/-! ## Nodes -/

theorem dataOf_eq (b : Builder) (i : Nat) :
    b.dataOf i = ((b.parts[i]?).map Part.data).getD .comment := by
  rw [dataOf]
  cases b.parts[i]? <;> rfl

theorem childrenOf_eq (b : Builder) (i : Nat) :
    b.childrenOf i = ((b.parts[i]?).map Part.children).getD [] := by
  rw [childrenOf]
  cases b.parts[i]? <;> rfl

/-- An element or a text has a number below the next one. -/
theorem lt_size_of_dataOf {i : Nat} (h : b.dataOf i ≠ .comment) : i < b.parts.size := by
  by_contra hout
  rw [dataOf_eq, Array.getElem?_eq_none (Nat.le_of_not_lt hout)] at h
  exact h rfl

/-- A new node at the end of another's children. -/
def hang (b : Builder) (p : Nat) (data : PartData) : Builder :=
  (b.create data).2.attach (.lastIn p) b.parts.size

theorem getElem?_hang (b : Builder) (hp : p < b.parts.size) (data : PartData) (j : Nat) :
    (b.hang p data).parts[j]? =
      if j = b.parts.size then some { data, parent := some p }
      else (b.parts[j]?).map fun n =>
        { n with children := n.children ++ if j = p then [b.parts.size] else [] } := by
  simp only [hang, create, attach, update, Array.getElem?_modify, Array.getElem?_push]
  by_cases hj : j = b.parts.size
  · subst hj
    simp [Nat.ne_of_lt hp]
  · by_cases hjp : j = p
    · simp [hjp, Nat.ne_of_lt hp, Ne.symm (Nat.ne_of_lt hp)]
    · simp [hj, Ne.symm hj, hjp, Ne.symm hjp]

theorem dataOf_hang (hp : p < b.parts.size) (data : PartData) (j : Nat) :
    (b.hang p data).dataOf j = if j = b.parts.size then data else b.dataOf j := by
  rw [dataOf_eq, getElem?_hang b hp, dataOf_eq]
  split
  · rfl
  · rw [Option.map_map]
    rfl

theorem childrenOf_hang (hp : p < b.parts.size) (data : PartData) (j : Nat) :
    (b.hang p data).childrenOf j = b.childrenOf j ++ if j = p then [b.parts.size] else [] := by
  rw [childrenOf_eq, getElem?_hang b hp, childrenOf_eq]
  by_cases hj : j = b.parts.size
  · simp [hj, Ne.symm (Nat.ne_of_lt hp)]
  · rw [if_neg hj]
    cases hpart : b.parts[j]? with
    | none =>
      have hjp : j ≠ p := by
        rintro rfl
        exact absurd (Array.getElem?_eq_none_iff.mp hpart) (Nat.not_le_of_lt hp)
      simp [hjp]
    | some n => simp

theorem size_hang (b : Builder) (p : Nat) (data : PartData) :
    (b.hang p data).parts.size = b.parts.size + 1 := by
  simp [hang, create, attach, update]

/-- A new node makes a forest grow by a tree of one node. -/
theorem grown_hang (hp : p < b.parts.size) {data : PartData} {t : Tree} (hsize : t.size = 1)
    (ht : ∀ a : Numbering, a.data b.parts.size = data.seen → a.children b.parts.size = [] →
      a.Numbers b.parts.size [t]) :
    b.numbering.Grown (b.hang p data).numbering p [t] where
  size := by
    rw [forestSize, hsize, forestSize]
    exact b.size_hang p data
  data i hi := congrArg PartData.seen ((dataOf_hang hp data i).trans (if_neg (Nat.ne_of_lt hi)))
  children i _ := childrenOf_hang hp data i
  numbers := by
    apply ht
    · exact congrArg PartData.seen ((dataOf_hang hp data _).trans (if_pos rfl))
    · refine (childrenOf_hang hp data _).trans ?_
      rw [if_neg (Nat.ne_of_lt hp).symm, List.append_nil, childrenOf_eq,
        Array.getElem?_eq_none (Nat.le_refl _)]
      rfl

/-! ## Ordinary states -/

/-- Whether an element can be open while plain trees are built: the one around everything, or a
plain one. -/
def IsOrdinary (b : Builder) (i : Nat) : Prop :=
  ∃ name attributes, name ∈ "html" :: plainTags ∧
    b.dataOf i = .element ⟨.html, name⟩ attributes none

theorem IsOrdinary.lt_size {i : Nat} (h : b.IsOrdinary i) : i < b.parts.size := by
  obtain ⟨name, attributes, -, hdata⟩ := h
  exact lt_size_of_dataOf (by rw [hdata]; exact PartData.noConfusion)

/-- Nothing but plain elements is open, and nothing is remembered that would change the meaning of a
token. -/
structure Ordinary (b : Builder) : Prop where
  mode : b.mode = .body
  formatting : b.formatting = []
  fostering : b.fostering = false
  dropsNewline : b.dropsNewline = false
  lexing : b.lexing = .data
  current : ∃ outer, b.stack = b.current :: outer
  stack : ∀ i ∈ b.stack, b.IsOrdinary i

theorem ordinary_start : start.Ordinary where
  mode := rfl
  formatting := rfl
  fostering := rfl
  dropsNewline := rfl
  lexing := rfl
  current := ⟨[], rfl⟩
  stack i hi := by
    rw [List.mem_singleton.mp hi]
    exact ⟨"html", [], by decide, rfl⟩

/-- Nodes may be added or changed as long as the open elements are as they were. -/
theorem Ordinary.congr (h : b.Ordinary) {parts : Array Part}
    (hdata : ∀ i, b.IsOrdinary i → { b with parts }.dataOf i = b.dataOf i) :
    { b with parts }.Ordinary where
  mode := h.mode
  formatting := h.formatting
  fostering := h.fostering
  dropsNewline := h.dropsNewline
  lexing := h.lexing
  current := h.current
  stack i hi := by
    have hordinary := h.stack i hi
    rw [IsOrdinary, hdata i hordinary]
    exact hordinary

namespace Ordinary

variable (h : b.Ordinary)

include h

theorem isOrdinary_current : b.IsOrdinary b.current := by
  obtain ⟨outer, heq⟩ := h.current
  exact h.stack _ (heq ▸ List.mem_cons_self)

theorem current_lt_size : b.current < b.parts.size :=
  h.isOrdinary_current.lt_size

/-- New things go to the end of the innermost element. -/
theorem placeIn_current : b.placeIn b.current = .lastIn b.current := by
  obtain ⟨name, attributes, -, hdata⟩ := h.isOrdinary_current
  simp [placeIn, h.fostering, lastInside, hdata]

/-- None of the open elements has a name that is not one of a plain element. -/
theorem isHtmlIn_eq_false {i : Nat} (hi : i ∈ b.stack) {names : List String}
    (hnames : ∀ name ∈ "html" :: plainTags, names.contains name = false) :
    b.isHtmlIn names i = false := by
  obtain ⟨name, attributes, hname, hdata⟩ := h.stack i hi
  rw [isHtmlIn, labelOf, hdata, Label.isHtmlIn, hnames name hname, Bool.and_false]

/-- No paragraph is open. -/
theorem closeParagraphInScope_eq : b.closeParagraphInScope = b := by
  have hreaches : ∀ stack : List Nat, (∀ i ∈ stack, i ∈ b.stack) →
      b.reaches Label.boundsButtonScope (b.isHtmlIn ["p"]) stack = false := by
    -- On the open elements, none of which is a paragraph.
    intro stack hstack
    induction stack with
    | nil => rfl
    | cons i outer ih =>
      rw [reaches, h.isHtmlIn_eq_false (hstack i List.mem_cons_self) (by decide), Bool.false_or,
        ih fun j hj => hstack j (List.mem_cons_of_mem _ hj), Bool.and_false]
  rw [closeParagraphInScope, inScopeNamed, inScope, hreaches b.stack fun _ hi => hi,
    if_neg Bool.false_ne_true]

/-- No formatting waits to be opened again. -/
theorem reopenFormatting_eq : b.reopenFormatting = b := by
  have hformatting := h.formatting
  obtain ⟨parts, stack, formatting⟩ := b
  simp only at hformatting
  subst hformatting
  rfl

/-- Every token is read by the rules for ordinary content. -/
theorem feed_eq {token : Token} (htoken : token ≠ .fault) : b.feed token = b.bodyToken token := by
  have hclear : { b with dropsNewline := false } = b := by
    have hdrops := h.dropsNewline
    obtain ⟨parts, stack, formatting, mode, modeAfterText, templateModes, fostering, form,
      dropsNewline⟩ := b
    simp only at hdrops
    rw [hdrops]
  have hforeign : b.isForeign token = false := by
    obtain ⟨name, attributes, -, hdata⟩ := h.isOrdinary_current
    simp [isForeign, labelOf, hdata]
  have hsettle : settle (4 * b.stack.length + 16) b token = b.bodyToken token := by
    rw [settle, hforeign, if_neg Bool.false_ne_true, modeStep, h.mode]
  rw [feed, hclear, h.dropsNewline, if_neg Bool.false_ne_true]
  cases token with
  | fault => exact absurd rfl htoken
  | start tag => exact hsettle
  | close name => exact hsettle
  | text blank chars => exact hsettle
  | nul => exact hsettle
  | comment => exact hsettle

end Ordinary

/-! ## Texts -/

theorem feed_text (h : b.Ordinary) (blank : Bool) (chars : List Char) :
    b.feed (.text blank chars) = b.insertText chars := by
  rw [h.feed_eq Token.noConfusion, bodyToken, h.reopenFormatting_eq]

/-- A text node with another text. -/
def setText (b : Builder) (i : Nat) (s : String) : Builder :=
  b.update i fun n => { n with data := .text s }

theorem getElem?_setText (b : Builder) (i : Nat) (s : String) (j : Nat) :
    (b.setText i s).parts[j]? =
      (b.parts[j]?).map fun n => if i = j then { n with data := .text s } else n := by
  simp only [setText, update, Array.getElem?_modify]
  split
  · rfl
  · rw [Option.map_id']

theorem dataOf_setText {i : Nat} (hi : i < b.parts.size) (s : String) (j : Nat) :
    (b.setText i s).dataOf j = if i = j then .text s else b.dataOf j := by
  rw [dataOf_eq, getElem?_setText, Option.map_map, dataOf_eq]
  by_cases hj : i = j
  · subst hj
    simp [Array.getElem?_eq_getElem hi]
  · simp [hj, Function.comp_def]

theorem childrenOf_setText (b : Builder) (i : Nat) (s : String) (j : Nat) :
    (b.setText i s).childrenOf j = b.childrenOf j := by
  rw [childrenOf_eq, getElem?_setText, Option.map_map, childrenOf_eq]
  congr 2
  funext n
  rw [Function.comp_apply]
  split <;> rfl

/-- Builders that differ in their nodes only are equal if their nodes are. -/
theorem ext_parts (b : Builder) (parts parts' : Array Part)
    (h : ∀ j : Nat, parts[j]? = parts'[j]?) :
    { b with parts } = { b with parts := parts' } :=
  congrArg (fun parts => { b with parts }) (Array.ext_getElem? h)

/-- Of two texts set one after the other the second stays. -/
theorem setText_setText (b : Builder) (i : Nat) (s t : String) :
    (b.setText i s).setText i t = b.setText i t := by
  refine ext_parts b ((b.setText i s).setText i t).parts (b.setText i t).parts fun j => ?_
  rw [getElem?_setText, getElem?_setText, getElem?_setText, Option.map_map]
  congr 1
  funext n
  rw [Function.comp_apply]
  split <;> rfl

/-- A new text can as well be made with the text that it gets. -/
theorem setText_hang (hp : p < b.parts.size) (s t : String) :
    (b.hang p (.text s)).setText b.parts.size t = b.hang p (.text t) := by
  refine ext_parts b ((b.hang p (.text s)).setText b.parts.size t).parts
    (b.hang p (.text t)).parts fun j => ?_
  rw [getElem?_setText, getElem?_hang b hp, getElem?_hang b hp]
  by_cases hj : j = b.parts.size
  · simp [hj]
  · simp [hj, Ne.symm hj, Function.comp_def]

/-- A text after a text goes into it. -/
theorem insertText_of_text (h : b.Ordinary) {i : Nat} {old : String}
    (hlast : (b.childrenOf b.current).getLast? = some i) (hdata : b.dataOf i = .text old)
    (chars : List Char) : b.insertText chars = b.setText i (old ++ String.ofList chars) := by
  rw [insertText, h.placeIn_current, attachText, nodeBefore?, hlast]
  simp only [hdata]
  rfl

/-- A text elsewhere makes a new node. -/
theorem insertText_of_not_text (h : b.Ordinary)
    (hlast : ∀ i ∈ (b.childrenOf b.current).getLast?, ∀ s, b.dataOf i ≠ .text s)
    (chars : List Char) :
    b.insertText chars = b.hang b.current (.text (String.ofList chars)) := by
  rw [insertText, h.placeIn_current, attachText, nodeBefore?]
  cases hi : (b.childrenOf b.current).getLast? with
  | none => rfl
  | some i =>
    cases hdata : b.dataOf i with
    | text s => exact absurd hdata (hlast i hi s)
    | element label attributes content => simp only [hdata]; rfl
    | comment => simp only [hdata]; rfl
    | content => simp only [hdata]; rfl

theorem ordinary_insertText (h : b.Ordinary) (chars : List Char) :
    (b.insertText chars).Ordinary ∧ (b.insertText chars).stack = b.stack := by
  by_cases hlast : ∀ i ∈ (b.childrenOf b.current).getLast?, ∀ s, b.dataOf i ≠ .text s
  · rw [insertText_of_not_text h hlast]
    refine ⟨h.congr fun i hi => ?_, rfl⟩
    exact (dataOf_hang h.current_lt_size _ i).trans (if_neg (Nat.ne_of_lt hi.lt_size))
  · push Not at hlast
    obtain ⟨j, hj, old, hold⟩ := hlast
    have hlt : j < b.parts.size := lt_size_of_dataOf (by rw [hold]; exact PartData.noConfusion)
    rw [insertText_of_text h hj hold]
    refine ⟨h.congr fun i hi => ?_, rfl⟩
    obtain ⟨name, attributes, -, hdata⟩ := hi
    -- The text is no element, so that none of the open ones has changed.
    have hne : j ≠ i := by
      rintro rfl
      rw [hold] at hdata
      cases hdata
    exact (dataOf_setText hlt _ i).trans (if_neg hne)

/-- A text may come in pieces. -/
theorem insertText_insertText (h : b.Ordinary) (chars more : List Char) :
    (b.insertText chars).insertText more = b.insertText (chars ++ more) := by
  obtain ⟨h', hstack⟩ := ordinary_insertText h chars
  have hcurrent : (b.insertText chars).current = b.current := by
    rw [current, hstack, current]
  by_cases hlast : ∀ i ∈ (b.childrenOf b.current).getLast?, ∀ s, b.dataOf i ≠ .text s
  · -- The first piece makes a node, and the second goes into it.
    have hp := h.current_lt_size
    rw [insertText_of_not_text h hlast] at h' hcurrent ⊢
    have hlast' : ((b.hang b.current (.text (String.ofList chars))).childrenOf
        (b.hang b.current (.text (String.ofList chars))).current).getLast? = some b.parts.size := by
      rw [hcurrent, childrenOf_hang hp, if_pos rfl, List.getLast?_append]
      rfl
    have hdata : (b.hang b.current (.text (String.ofList chars))).dataOf b.parts.size =
        .text (String.ofList chars) :=
      (dataOf_hang hp _ _).trans (if_pos rfl)
    rw [insertText_of_text h' hlast' hdata, insertText_of_not_text h hlast, ← String.ofList_append,
      setText_hang hp]
  · -- Both pieces go into the text that stands there.
    push Not at hlast
    obtain ⟨i, hi, old, hold⟩ := hlast
    have hlt : i < b.parts.size := lt_size_of_dataOf (by rw [hold]; exact PartData.noConfusion)
    rw [insertText_of_text h hi hold] at h' hcurrent ⊢
    have hlast' := hi
    rw [← b.childrenOf_setText i (old ++ String.ofList chars), ← hcurrent] at hlast'
    have hdata : (b.setText i (old ++ String.ofList chars)).dataOf i =
        .text (old ++ String.ofList chars) :=
      (dataOf_setText hlt _ i).trans (if_pos rfl)
    rw [insertText_of_text h' hlast' hdata, insertText_of_text h hi hold, String.append_assoc,
      ← String.ofList_append, setText_setText]

/-- A text that does not follow another is a new tree. -/
theorem grown_insertText (h : b.Ordinary)
    (hlast : ∀ i ∈ (b.childrenOf b.current).getLast?, ∀ s, b.dataOf i ≠ .text s) (s : String) :
    b.numbering.Grown (b.insertText s.toList).numbering b.current [.text s] := by
  rw [insertText_of_not_text h hlast, String.ofList_toList]
  refine grown_hang h.current_lt_size rfl fun a hdata hchildren => ?_
  simp only [Numbering.Numbers, and_true]
  exact ⟨hdata, hchildren⟩

/-! ## Tags -/

/-- The tags of plain elements are those of blocks, but for one. -/
theorem plainTags_facts : ∀ name ∈ plainTags,
    name ≠ "image" ∧ name ≠ "template" ∧ name ≠ "p" ∧ headNames.contains name = false ∧
      ignoredNames.contains name = false ∧ (blockNames.contains name = true ∨ name = "span") := by
  decide

/-- The start tag of a plain element closes nothing and opens nothing else. -/
theorem feed_start (h : b.Ordinary) {tag : Tag} (hname : tag.name ∈ plainTags) :
    b.feed (.start tag) = b.openTag tag := by
  obtain ⟨himage, -, -, hhead, hignored, hblock⟩ := plainTags_facts _ hname
  rw [h.feed_eq Token.noConfusion, bodyToken, bodyStart]
  simp only [if_neg himage, hhead, hignored, if_neg Bool.false_ne_true]
  -- A block closes an open paragraph and a span opens formatting again; there is neither.
  obtain hblock | hspan := hblock
  · rw [if_pos hblock, h.closeParagraphInScope_eq]
  · obtain ⟨name, attributes, selfClosing⟩ := tag
    simp only at hspan ⊢
    subst hspan
    rw [if_neg (by decide), if_neg (by decide), if_neg (by decide), if_neg (by decide)]
    exact congrArg (openTag · _) h.reopenFormatting_eq

/-- A plain element is hung below the innermost one and becomes the innermost itself. -/
theorem openTag_eq (h : b.Ordinary) {tag : Tag} (hname : tag.name ∈ plainTags) :
    b.openTag tag =
      { b.hang b.current (.element ⟨.html, tag.name⟩ tag.attributes none) with
        stack := b.parts.size :: b.stack } := by
  have htemplate : (⟨.html, tag.name⟩ : Label) ≠ ⟨.html, "template"⟩ :=
    fun heq => (plainTags_facts _ hname).2.1 (Label.mk.inj heq).2
  simp only [openTag, insertElement, insertClosed, h.placeIn_current, createElement,
    if_neg htemplate]
  rfl

theorem ordinary_openTag (h : b.Ordinary) {tag : Tag} (hname : tag.name ∈ plainTags) :
    (b.openTag tag).Ordinary := by
  have hp := h.current_lt_size
  rw [openTag_eq h hname]
  -- The new element is plain, and the others are what they were.
  refine ⟨h.mode, h.formatting, h.fostering, h.dropsNewline, h.lexing, ⟨b.stack, rfl⟩,
    fun i hi => ?_⟩
  obtain rfl | hi := List.mem_cons.mp hi
  · refine ⟨tag.name, tag.attributes, List.mem_cons_of_mem _ hname, ?_⟩
    exact (dataOf_hang hp _ _).trans (if_pos rfl)
  · have hne : i ≠ b.parts.size := Nat.ne_of_lt (h.stack i hi).lt_size
    obtain ⟨name, attributes, hmem, hdata⟩ := h.stack i hi
    exact ⟨name, attributes, hmem, ((dataOf_hang hp _ _).trans (if_neg hne)).trans hdata⟩

theorem grown_openTag (h : b.Ordinary) {tag : Tag} (hname : tag.name ∈ plainTags) :
    b.numbering.Grown (b.openTag tag).numbering b.current
      [.element tag.name tag.attributes []] := by
  rw [openTag_eq h hname]
  refine grown_hang h.current_lt_size rfl fun a hdata hchildren => ?_
  simp only [Numbering.Numbers, roots, and_true]
  exact ⟨hdata, hchildren⟩

/-- The end tag of the innermost element closes it and nothing else. -/
theorem feed_close (h : b.Ordinary) {name : String} (hname : name ∈ plainTags)
    {attributes : List (String × String)} {i : Nat} {outer : List Nat}
    (hstack : b.stack = i :: outer)
    (hdata : b.dataOf i = .element ⟨.html, name⟩ attributes none) :
    b.feed (.close name) = { b with stack := outer } := by
  have hmem : i ∈ b.stack := hstack ▸ List.mem_cons_self
  have hhere : b.isHtmlIn [name] i = true := by
    simp [isHtmlIn, labelOf, hdata, Label.isHtmlIn]
  -- No end tag is left out inside it.
  have himplied : b.closeImplied impliedEnds = b := by
    rw [closeImplied, hstack, List.dropWhile_cons_of_neg
      (by rw [h.isHtmlIn_eq_false hmem (by decide)]; exact Bool.false_ne_true), ← hstack]
  have hblock : (if b.inScopeNamed Label.boundsScope name then
      (b.closeImplied impliedEnds).popUntilNamed name else b) = { b with stack := outer } := by
    rw [inScopeNamed, inScope, hstack, reaches, hhere, Bool.true_or, if_pos rfl, himplied,
      popUntilNamed, popUntil, hstack, List.dropWhile_cons_of_neg (by simp [hhere])]
    rfl
  obtain ⟨-, -, hp, -, -, hname⟩ := plainTags_facts _ hname
  rw [h.feed_eq Token.noConfusion, bodyToken]
  unfold bodyEnd
  rw [if_neg hp]
  -- The end tag of a block closes what is left open inside, that of a span only looks for it.
  obtain hname | rfl := hname
  · rw [if_pos (by rw [hname, Bool.true_or]), hblock]
  · rw [if_neg (by decide), if_neg (by decide), if_neg (by decide)]
    change b.closeNamed "span" = _
    have hfind : b.stack.find? (fun j => b.isHtmlIn ["span"] j || b.isHtmlIn specialNames j) =
        some i := by
      rw [hstack, List.find?_cons_of_pos (by simp [hhere])]
    have himplied : b.closeImpliedBut "span" = b := himplied
    rw [closeNamed, hfind]
    simp [hhere, himplied, hstack]

end Builder

end LiveText.Markup
