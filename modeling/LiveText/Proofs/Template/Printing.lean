import Mathlib
import LiveText.Proofs.Template.Grammar

/-!
# Templates written out

A list of segments in normal form, written out, is read back as the same list. No placeholder is
found where none has been written: one that began in a literal and ended behind it would have the
next placeholder begin inside it, and no placeholder does. What is read back is rendered piece by
piece. The answers of a lookup take the places of the placeholders and are not looked into again.

## Main definitions

- `Writes`: segments and a text in which they are written out.
- `IsNormal`: segments that a text can be cut into.
- `fillAll`: segments with answers in place of the placeholders.

## Main statements

- `placeholder?_literal`: no placeholder begins in a literal without one.
- `segmentsFrom_written`: segments in normal form are read back.
- `written_templates_are_read_back`: templates in normal form, read back and rendered.
-/

namespace LiveText

/-! ## Writing -/

/-- Segments written out: a literal as it is, a path between two opening and two closing braces,
with any blanks around it. -/
inductive Writes : List Segment → List Char → Prop
  | nil : Writes [] []
  | literal {text : String} {segments : List Segment} {cs : List Char} (h : Writes segments cs) :
      Writes (.literal text :: segments) (text.toList ++ cs)
  | placeholder {p : Path} {segments : List Segment} {before after cs : List Char}
      (hbefore : ∀ c ∈ before, Text.isBlank c = true) (hafter : ∀ c ∈ after, Text.isBlank c = true)
      (h : Writes segments cs) :
      Writes (.placeholder p :: segments)
        ('\x7b' :: '\x7b' :: (before ++ (p.text.toList ++ (after ++ '\x7d' :: '\x7d' :: cs))))

/-- Segments in normal form: no literal is empty, stands next to another one or holds a placeholder,
and all paths are of identifiers. -/
structure IsNormal (segments : List Segment) : Prop where
  nonempty : ∀ text, .literal text ∈ segments → text ≠ ""
  apart : segments.IsChain fun a b => a.path?.isSome = true ∨ b.path?.isSome = true
  literal : ∀ text, .literal text ∈ segments → ∀ inner p, inner <:+: text.toList →
    ¬ IsPlaceholder inner p
  path : ∀ p, .placeholder p ∈ segments → p.OfIdentifiers

theorem IsNormal.tail {segment : Segment} {segments : List Segment}
    (h : IsNormal (segment :: segments)) : IsNormal segments where
  nonempty text ht := h.nonempty text (List.mem_cons_of_mem _ ht)
  apart := h.apart.tail
  literal text ht := h.literal text (List.mem_cons_of_mem _ ht)
  path p hp := h.path p (List.mem_cons_of_mem _ hp)

/-- Whether a text holds a placeholder can be seen from what the scanner finds in it. -/
theorem not_isPlaceholder_iff {l : List Char} :
    (∀ inner p, inner <:+: l → ¬ IsPlaceholder inner p) ↔
      ∀ cs ∈ l.tails, placeholder? cs = none := by
  constructor
  · intro h cs hcs
    by_contra hfound
    obtain ⟨⟨p, rest⟩, hfound⟩ := Option.ne_none_iff_exists'.mp hfound
    obtain ⟨inner, rfl, hinner⟩ := placeholder?_eq_some_iff.mp hfound
    have hinfix := (List.prefix_append inner rest).isInfix.trans
      ((List.mem_tails ..).mp hcs).isInfix
    exact h inner p hinfix hinner
  · intro h inner p hinfix hinner
    obtain ⟨cs, ⟨rest, rfl⟩, hcs⟩ := List.infix_iff_prefix_suffix.mp hinfix
    have hnone := h _ ((List.mem_tails ..).mpr hcs)
    rw [hinner.placeholder? rest] at hnone
    cases hnone

/-! ## Reading -/

/-- Text that is at its end or goes on with a placeholder. -/
def GoesOn (cs : List Char) : Prop :=
  cs = [] ∨ ∃ inner p rest, cs = inner ++ rest ∧ IsPlaceholder inner p

/-- Behind a literal the text is at its end or goes on with a placeholder. -/
theorem Writes.goesOn {text : String} {segments : List Segment} {cs : List Char}
    (h : Writes segments cs) (hnormal : IsNormal (.literal text :: segments)) : GoesOn cs := by
  cases h with
  | nil => exact .inl rfl
  | literal h =>
    have hapart := hnormal.apart
    rw [List.isChain_cons_cons] at hapart
    rcases hapart.1 with hpath | hpath <;> cases hpath
  | @placeholder p segments before after cs hbefore hafter h =>
    have hp : p.OfIdentifiers := hnormal.path p (List.mem_cons_of_mem _ (List.mem_cons_self ..))
    exact .inr ⟨_, p, cs, by simp, .mk hbefore hp hafter⟩

/-- In a literal that holds no placeholder none begins. One that ended behind the literal would go
on where another one begins. -/
theorem placeholder?_literal {l cs : List Char} (hl : l ≠ [])
    (hliteral : ∀ inner p, inner <:+: l → ¬ IsPlaceholder inner p) (hcs : GoesOn cs) :
    placeholder? (l ++ cs) = none := by
  by_contra hfound
  obtain ⟨⟨p, rest⟩, hfound⟩ := Option.ne_none_iff_exists'.mp hfound
  obtain ⟨inner, heq, hinner⟩ := placeholder?_eq_some_iff.mp hfound
  -- It does not end in the literal, which holds none.
  have hlong : l.length < inner.length := by
    by_contra hshort
    have hprefix : inner <+: l :=
      List.prefix_of_prefix_length_le ⟨rest, heq.symm⟩ (List.prefix_append l cs)
        (Nat.le_of_not_lt hshort)
    exact hliteral inner p hprefix.isInfix hinner
  -- So it would reach over the end of the text, or into the placeholder that begins there.
  obtain rfl | ⟨inner', p', rest', rfl, hinner'⟩ := hcs
  · rw [List.append_nil] at heq
    exact absurd (heq ▸ List.length_append ▸ Nat.le_add_right ..) (Nat.not_le_of_lt hlong)
  · exact absurd (hinner.length_le hinner' heq.symm hl) (Nat.not_le_of_lt hlong)

theorem segmentsFrom_nil (backwards : List Char) :
    segmentsFrom backwards [] = prependLiteral backwards [] := by
  rw [segmentsFrom]
  rfl

theorem segmentsFrom_cons {c : Char} {cs : List Char} (h : placeholder? (c :: cs) = none)
    (backwards : List Char) :
    segmentsFrom backwards (c :: cs) = segmentsFrom (c :: backwards) cs := by
  rw [segmentsFrom]
  split
  · next hfound => rw [h] at hfound; cases hfound
  · rfl

/-- The search for placeholders goes on behind one that begins right here. -/
theorem IsPlaceholder.segmentsFrom {inner : List Char} {p : Path} (h : IsPlaceholder inner p)
    (backwards rest : List Char) :
    segmentsFrom backwards (inner ++ rest) =
      prependLiteral backwards (.placeholder p :: LiveText.segmentsFrom [] rest) := by
  rw [LiveText.segmentsFrom]
  split
  · next hfound =>
    rw [h.placeholder? rest] at hfound
    cases hfound
    rfl
  · next hfound =>
    rw [h.placeholder? rest] at hfound
    cases hfound

/-- A literal ends where the text does, and where a placeholder begins. -/
theorem segmentsFrom_of_goesOn {cs : List Char} (h : GoesOn cs) (backwards : List Char) :
    segmentsFrom backwards cs = prependLiteral backwards (segmentsFrom [] cs) := by
  obtain rfl | ⟨inner, p, rest, rfl, hinner⟩ := h
  · rw [segmentsFrom_nil, segmentsFrom_nil]
    rfl
  · rw [hinner.segmentsFrom, hinner.segmentsFrom]
    rfl

/-- A literal is passed over character by character. -/
theorem segmentsFrom_literal {l cs : List Char}
    (hliteral : ∀ inner p, inner <:+: l → ¬ IsPlaceholder inner p) (hcs : GoesOn cs)
    (backwards : List Char) :
    segmentsFrom backwards (l ++ cs) = segmentsFrom (l.reverse ++ backwards) cs := by
  -- The rest of a literal is a literal too, and `hcs` is about what comes behind all of it.
  induction l generalizing backwards with
  | nil => rfl
  | cons c l ih =>
    have hnone := placeholder?_literal (List.cons_ne_nil c l) hliteral hcs
    have hrest : ∀ inner p, inner <:+: l → ¬ IsPlaceholder inner p := fun inner p hinner =>
      hliteral inner p (hinner.trans (List.suffix_cons c l).isInfix)
    rw [List.cons_append] at hnone
    rw [List.cons_append, segmentsFrom_cons hnone, ih hrest, List.reverse_cons, List.append_assoc,
      List.singleton_append]

/-- Segments in normal form that have been written out are read back. -/
theorem segmentsFrom_written {segments : List Segment} {cs : List Char} (h : Writes segments cs)
    (hnormal : IsNormal segments) : segmentsFrom [] cs = segments := by
  -- On what is written. A literal is held back until what is behind it puts an end to it, and there
  -- the search begins anew.
  induction h with
  | nil => exact segmentsFrom_nil []
  | @literal text segments cs h ih =>
    have hcs := h.goesOn hnormal
    have htext : text.toList.reverse ≠ [] := by
      rw [Ne, List.reverse_eq_nil_iff, String.toList_eq_nil_iff]
      exact hnormal.nonempty text (List.mem_cons_self ..)
    rw [segmentsFrom_literal (hnormal.literal text (List.mem_cons_self ..)) hcs, List.append_nil,
      segmentsFrom_of_goesOn hcs, ih hnormal.tail, prependLiteral,
      List.isEmpty_eq_false_iff.mpr htext, if_neg Bool.false_ne_true, List.reverse_reverse,
      String.ofList_toList]
  | @placeholder p segments before after cs hbefore hafter h ih =>
    have hp : p.OfIdentifiers := hnormal.path p (List.mem_cons_self ..)
    have hread := (IsPlaceholder.mk hbefore hp hafter).segmentsFrom [] cs
    rw [ih hnormal.tail] at hread
    simpa [prependLiteral] using hread

/-! ## Rendering -/

section Rendering

variable {σ : Type} (answer : Path → σ → Value × σ)

/-- A segment with the text of an answer in place of a placeholder. -/
def Segment.fill : Segment → σ → String × σ
  | .literal text, s => (text, s)
  | .placeholder p, s => ((answer p s).1.text, (answer p s).2)

/-- Segments with the texts of answers in place of the placeholders, which are asked for one after
the other. -/
def fillAll : List Segment → σ → List String × σ
  | [], s => ([], s)
  | segment :: segments, s =>
    let (text, s) := segment.fill answer s
    let (texts, s) := fillAll segments s
    (text :: texts, s)

/-- What has been filled in is only put together. -/
theorem renderSegments_of_answers (segments : List Segment) (s : σ) :
    Template.renderSegments (fun p s => (.ok (answer p s).1, (answer p s).2)) segments s =
      (.ok (String.join (fillAll answer segments s).1), (fillAll answer segments s).2) := by
  induction segments generalizing s with
  | nil => rfl
  | cons segment segments ih =>
    cases segment with
    | literal _ | placeholder _ =>
      rw [Template.renderSegments, fillAll]
      simp only [ih, Segment.fill, String.join_cons]
      rfl

end Rendering

/-! ## Templates -/

/-- Segments in normal form with a placeholder are a template: written out, with any blanks in the
placeholders, they are read back as they are. Rendered with a lookup that has an answer for every
path they come to the literals and the texts of the answers in their order, whatever these are. -/
theorem written_templates_are_read_back {segments : List Segment} {text : String}
    (hnormal : IsNormal segments) (hpath : ∃ p, .placeholder p ∈ segments)
    (h : Writes segments text.toList) :
    Template.parse text = some ⟨text, segments⟩ ∧
    (∀ {σ : Type} (answer : Path → σ → Value × σ) (s : σ),
      (Template.mk text segments).renderWith (fun p s => (.ok (answer p s).1, (answer p s).2)) s =
        (.ok (String.join (fillAll answer segments s).1), (fillAll answer segments s).2)) ∧
    ∀ s, (Value.str s).text = s := by
  refine ⟨?read, fun answer s => ?rendered, fun s => ?text⟩
  case read =>
    have hread := segmentsFrom_written h hnormal
    obtain ⟨p, hp⟩ := hpath
    have hany : segments.any (fun segment => segment.path?.isSome) = true :=
      List.any_eq_true.mpr ⟨_, hp, rfl⟩
    rw [Template.parse, hread, if_pos hany]
  case rendered =>
    rw [Template.renderWith]
    exact renderSegments_of_answers answer segments s
  case text => exact String.ofList_toList

/-- Braces crowd around placeholders that stand side by side, and the first answer looks like the
second placeholder. -/
theorem crowded_template_is_read_back :
    let segments : List Segment :=
      [.literal "\x7b\x7b\x7b", .placeholder ⟨["a", "b"]⟩, .placeholder ⟨["c"]⟩,
        .literal "\x7d\x7d \x7b\x7ba"]
    let text := "\x7b\x7b\x7b\x7b\x7b \n a.b\t\x7d\x7d\x7b\x7bc\x7d\x7d\x7d\x7d \x7b\x7ba"
    let answer : Path → Nat → Value × Nat := fun p asked =>
      (.str (if p = ⟨["c"]⟩ then "C" else "\x7b\x7bc\x7d\x7d"), asked + 1)
    Template.parse text = some ⟨text, segments⟩ ∧
      (Template.mk text segments).renderWith (fun p s => (.ok (answer p s).1, (answer p s).2)) 0 =
        (.ok "\x7b\x7b\x7b\x7b\x7bc\x7d\x7dC\x7d\x7d \x7b\x7ba", 2) := by
  intro segments text answer
  have hliterals : ∀ l, .literal l ∈ segments → l ∈ ["\x7b\x7b\x7b", "\x7d\x7d \x7b\x7ba"] := by
    intro l hl
    simpa [segments] using hl
  have hpaths : ∀ p, .placeholder p ∈ segments → p ∈ [Path.mk ["a", "b"], Path.mk ["c"]] := by
    intro p hp
    simpa [segments] using hp
  have hnormal : IsNormal segments := by
    refine ⟨fun l hl => ?_, by decide, fun l hl => not_isPlaceholder_iff.mpr ?_, fun p hp => ?_⟩
    · have hall : ∀ l ∈ ["\x7b\x7b\x7b", "\x7d\x7d \x7b\x7ba"], l ≠ "" := by decide
      exact hall l (hliterals l hl)
    · have hall : ∀ l ∈ ["\x7b\x7b\x7b", "\x7d\x7d \x7b\x7ba"], ∀ cs ∈ l.toList.tails,
          placeholder? cs = none := by
        decide +kernel
      exact hall l (hliterals l hl)
    · have hall : ∀ p ∈ [Path.mk ["a", "b"], Path.mk ["c"]], p.segments ≠ [] ∧
          ∀ name ∈ p.segments, isIdentifier name.toList = true := by
        decide +kernel
      obtain ⟨hne, hnames⟩ := hall p (hpaths p hp)
      exact ⟨hne, fun name hname => (isIdentifier_iff _).mp (hnames name hname)⟩
  have hblanks : ∀ cs : List Char, cs.all Text.isBlank = true → ∀ c ∈ cs, Text.isBlank c = true :=
    fun _ h => List.all_eq_true.mp h
  have hlast : Writes [.literal "\x7d\x7d \x7b\x7ba"] ("\x7d\x7d \x7b\x7ba".toList ++ []) :=
    .literal .nil
  have hwritten : Writes segments _ :=
    .literal (@Writes.placeholder _ _ [' ', '\n', ' '] ['\t'] _ (hblanks _ (by decide))
      (hblanks _ (by decide))
      (@Writes.placeholder _ _ [] [] _ (hblanks _ rfl) (hblanks _ rfl) hlast))
  have hwrites : Writes segments text.toList := by
    convert hwritten using 1
    decide +kernel
  obtain ⟨hparse, hrender, -⟩ := written_templates_are_read_back hnormal
    ⟨⟨["c"]⟩, by decide⟩ hwrites
  refine ⟨hparse, (hrender answer 0).trans ?_⟩
  decide +kernel

end LiveText
