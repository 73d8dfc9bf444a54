import Mathlib
import LiveText.Document.Selector
import LiveText.Proofs.Document.Links
import LiveText.Proofs.Template.Grammar

/-!
# What selectors mean

The grammar of selectors is described without a scanner: a tag, or none, and then parts, each of
them a marker with a name. A selector asks for its tag, for each of its classes and for the last one
of its ids: an id that is followed by another is not asked for. Where no two ids differ, this is the
conjunction of all that is spelled.

## Main definitions

- `Text.IsWord`: a word of a text.
- `SelectorPart.Holds`: an element has what a part asks for.
- `Selector.Spells`: the grammar.

## Main statements

- `Text.mem_words_iff`: which words a text has.
- `Selector.Spells.spelled?`, `Selector.exists_spells`: the scanner reads what is spelled, and
  nothing else.
- `Selector.Spells.unique`: a text spells one selector at most.
- `Selector.selectors_ask_for_the_last_id`: what a selector accepts.
- `Selector.first_id_is_overwritten`: a part that is not asked for.
-/

namespace LiveText

/-! ## Words -/

namespace Text

/-- A stretch of a text without blanks that has a blank or nothing on either side. -/
def IsWord (cs w : List Char) : Prop :=
  w ≠ [] ∧ (∀ c ∈ w, isBlank c = false) ∧ ∃ front back, cs = front ++ (w ++ back) ∧
    (∀ c ∈ front.getLast?, isBlank c = true) ∧ ∀ c ∈ back.head?, isBlank c = true

/-- Neighbours that belong to one stretch of a text. -/
def alike (a b : Char) : Bool :=
  isBlank a == isBlank b

theorem words_eq (cs : List Char) :
    words cs = (cs.splitBy alike).filter fun w => w.any fun c => !isBlank c := rfl

/-- Where neighbours are alike, all characters are. -/
theorem isBlank_eq_of_isChain {a : Char} {w : List Char}
    (h : (a :: w).IsChain fun x y => alike x y = true) : ∀ c ∈ w, isBlank c = isBlank a := by
  induction w generalizing a with
  | nil => simp
  | cons b w ih =>
    obtain ⟨hab, hw⟩ := List.isChain_cons_cons.mp h
    have hb : isBlank b = isBlank a := (beq_iff_eq.mp hab).symm
    intro c hc
    rcases List.mem_cons.mp hc with rfl | hc
    · exact hb
    · exact (ih hw c hc).trans hb

/-- A stretch of a text that is not blank throughout has no blank at all. -/
theorem isBlank_of_mem_words {cs w : List Char} (h : w ∈ words cs) :
    ∀ c ∈ w, isBlank c = false := by
  rw [words_eq, List.mem_filter, List.any_eq_true] at h
  obtain ⟨hw, d, hd, hblank⟩ := h
  have hchain := List.isChain_of_mem_splitBy hw
  cases w with
  | nil => simp
  | cons a w =>
    -- All are like the first one, and so is the one that is no blank.
    have hall : ∀ c ∈ a :: w, isBlank c = isBlank a :=
      List.forall_mem_cons.mpr ⟨rfl, isBlank_eq_of_isChain hchain⟩
    have ha : isBlank a = false := by
      rw [← hall d hd]
      simpa using hblank
    intro c hc
    rw [hall c hc, ha]

theorem isWord_of_mem_words {cs w : List Char} (h : w ∈ words cs) : IsWord cs w := by
  have hblank := isBlank_of_mem_words h
  have hmem : w ∈ cs.splitBy alike := (List.mem_filter.mp (words_eq cs ▸ h)).1
  have hne := List.ne_nil_of_mem_splitBy hmem
  have hflat := List.flatten_splitBy alike cs
  have hchain := List.isChain_getLast_head_splitBy alike cs
  obtain ⟨front, back, hsplit⟩ := List.append_of_mem hmem
  rw [hsplit] at hflat hchain
  obtain ⟨-, hafter, hbefore⟩ := List.isChain_append.mp hchain
  refine ⟨hne, hblank, front.flatten, back.flatten, ?_, fun c hc => ?_, fun c hc => ?_⟩
  · rw [← hflat, List.flatten_append, List.flatten_cons]
  · -- The stretch before the word ends in a character that is not like the first of the word.
    rcases List.eq_nil_or_concat front with rfl | ⟨front, g, rfl⟩
    · cases hc
    · obtain ⟨hg, hw, hdiffer⟩ := hbefore g (by simp) w rfl
      obtain rfl : g.getLast hg = c := by
        simpa [List.getLast?_append, List.getLast?_eq_some_getLast hg] using hc
      simpa [alike, hblank _ (List.head_mem hne)] using hdiffer
  · cases back with
    | nil => cases hc
    | cons g back =>
      obtain ⟨hw, hg, hdiffer⟩ := (List.isChain_cons_cons.mp hafter).1
      obtain rfl : g.head hg = c := by
        simpa [List.head?_append, List.head?_eq_some_head hg] using hc
      simpa [alike, hblank _ (List.getLast_mem hne)] using hdiffer

theorem IsWord.mem_words {cs w : List Char} (h : IsWord cs w) : w ∈ words cs := by
  obtain ⟨hne, hblank, front, back, rfl, hfront, hback⟩ := h
  have halone : w.splitBy alike = [w] := by
    refine List.splitBy_of_isChain hne (List.Pairwise.isChain ?_)
    refine List.pairwise_of_forall_mem_list fun a ha b hb => ?_
    rw [alike, hblank a ha, hblank b hb]
    rfl
  -- The text is split where the word begins and where it ends, since a blank is next to it there.
  have hafter : ∀ x ∈ w.getLast?, ∀ y ∈ back.head?, alike x y = false := by
    intro x hx y hy
    rw [alike, hblank x (List.mem_of_mem_getLast? hx), hback y hy]
    rfl
  have hbefore : ∀ x ∈ front.getLast?, ∀ y ∈ (w ++ back).head?, alike x y = false := by
    intro x hx y hy
    rw [List.head?_append_of_ne_nil w hne] at hy
    rw [alike, hfront x hx, hblank y (List.mem_of_mem_head? hy)]
    rfl
  rw [words_eq, List.splitBy_append hbefore, List.splitBy_append hafter, halone, List.mem_filter]
  refine ⟨by simp, ?_⟩
  obtain ⟨c, w, rfl⟩ := List.exists_cons_of_ne_nil hne
  simp [hblank c (List.mem_cons_self ..)]

/-- The words of a text are the stretches without blanks that cannot be made longer. -/
theorem mem_words_iff {cs w : List Char} : w ∈ words cs ↔ IsWord cs w :=
  ⟨isWord_of_mem_words, IsWord.mem_words⟩

instance (cs w : List Char) : Decidable (IsWord cs w) :=
  decidable_of_iff (w ∈ words cs) mem_words_iff

end Text

/-! ## Parts -/

namespace SelectorPart

/-- The name that a part asks for. -/
def name : SelectorPart → String
  | .id name | .className name => name

/-- How a part is spelled. -/
def spelling : SelectorPart → List Char
  | .id name => '#' :: name.toList
  | .className name => '.' :: name.toList

/-- The id that a part asks for. -/
def id? : SelectorPart → Option String
  | .id name => some name
  | .className _ => none

/-- The class that a part asks for. -/
def class? : SelectorPart → Option String
  | .id _ => none
  | .className name => some name

/-- An element with some attributes has what a part asks for. -/
def Holds (attributes : Entries String) : SelectorPart → Prop
  | .id name => attributes.lookup "id" = some name
  | .className name => Text.IsWord ((attributes.lookup "class").getD "").toList name.toList

/-- A name can be spelled in a selector if it is not empty and has no marker. -/
def IsNamed (part : SelectorPart) : Prop :=
  part.name.toList ≠ [] ∧ ∀ c ∈ part.name.toList, Selector.isMarker c = false

-- Not by the bounded quantifier itself: that would be decided over all characters.
instance (part : SelectorPart) : Decidable part.IsNamed :=
  decidable_of_iff
    (part.name.toList ≠ [] ∧ part.name.toList.all (!Selector.isMarker ·) = true)
    (by simp [IsNamed])

theorem mem_filterMap_id? {parts : List SelectorPart} {name : String} :
    name ∈ parts.filterMap id? ↔ .id name ∈ parts := by
  rw [List.mem_filterMap]
  constructor
  · rintro ⟨part, hpart, hname⟩
    cases part with
    | id i =>
      cases hname
      exact hpart
    | className c => cases hname
  · exact fun h => ⟨_, h, rfl⟩

theorem mem_filterMap_class? {parts : List SelectorPart} {name : String} :
    name ∈ parts.filterMap class? ↔ .className name ∈ parts := by
  rw [List.mem_filterMap]
  constructor
  · rintro ⟨part, hpart, hname⟩
    cases part with
    | id i => cases hname
    | className c =>
      cases hname
      exact hpart
  · exact fun h => ⟨_, h, rfl⟩

/-- Where no two ids differ, the last one stands for all of them. -/
theorem holds_iff_of_ids {parts : List SelectorPart}
    (hids : ∀ a b, .id a ∈ parts → .id b ∈ parts → a = b) (attributes : Entries String) :
    (∀ part ∈ parts, part.Holds attributes) ↔
      (∀ i, (parts.filterMap id?).getLast? = some i → (SelectorPart.id i).Holds attributes) ∧
        ∀ c, .className c ∈ parts → (SelectorPart.className c).Holds attributes := by
  constructor
  · refine fun h => ⟨fun i hi => h _ ?_, fun c hc => h _ hc⟩
    exact mem_filterMap_id?.mp (List.mem_of_getLast? hi)
  · rintro ⟨hlast, hclasses⟩ part hpart
    cases part with
    | id a =>
      have ha : a ∈ parts.filterMap id? := mem_filterMap_id?.mpr hpart
      have hb := List.getLast?_eq_some_getLast (List.ne_nil_of_mem ha)
      rw [hids a _ hpart (mem_filterMap_id?.mp (List.mem_of_getLast? hb))]
      exact hlast _ hb
    | className c => exact hclasses c hpart

theorem exists_spelling (part : SelectorPart) :
    ∃ marker, Selector.isMarker marker = true ∧ part.spelling = marker :: part.name.toList := by
  cases part with
  | id name => exact ⟨'#', rfl, rfl⟩
  | className name => exact ⟨'.', rfl, rfl⟩

/-- Behind the name of a part there is nothing or the marker of the next part. -/
theorem isMarker_of_head? {parts : List SelectorPart} :
    ∀ c ∈ (parts.flatMap spelling).head?, Selector.isMarker c = true := by
  cases parts with
  | nil => simp
  | cons part rest =>
    obtain ⟨marker, hmarker, hspelling⟩ := part.exists_spelling
    intro c hc
    rw [List.flatMap_cons, hspelling, List.cons_append, List.head?_cons, Option.mem_def,
      Option.some.injEq] at hc
    exact hc ▸ hmarker

end SelectorPart

namespace Selector

open SelectorPart

/-- A name is all that is taken up to the next marker. -/
theorem span_name {name rest : List Char} (hname : ∀ c ∈ name, isMarker c = false)
    (hrest : ∀ c ∈ rest.head?, isMarker c = true) :
    (name ++ rest).takeWhile (!isMarker ·) = name ∧ (name ++ rest).dropWhile (!isMarker ·) = rest :=
  takeWhile_append_of_head (fun c hc => by simp [hname c hc]) fun c hc => by simp [hrest c hc]

/-- Whoever spells a marker and a name spells a part. -/
theorem parts?_cons {marker : Char} {name rest : List Char} (hne : name ≠ [])
    (hname : ∀ c ∈ name, isMarker c = false) (hrest : ∀ c ∈ rest.head?, isMarker c = true) :
    parts? (marker :: (name ++ rest)) = (parts? rest).map
      ((if marker = '#' then .id (String.ofList name)
        else .className (String.ofList name)) :: ·) := by
  obtain ⟨htake, hdrop⟩ := span_name hname hrest
  rw [parts?, htake, hdrop]
  have hempty : name.isEmpty = false := by simpa using hne
  simp only [hempty, Bool.false_eq_true, if_false]
  congr 2
  split <;> rfl

theorem parts?_flatMap {parts : List SelectorPart} (h : ∀ part ∈ parts, part.IsNamed) :
    parts? (parts.flatMap spelling) = some parts := by
  induction parts with
  | nil => rw [List.flatMap_nil, parts?]
  | cons part rest ih =>
    obtain ⟨⟨hne, hname⟩, hrest⟩ := List.forall_mem_cons.mp h
    have hcons : ∀ marker, parts? (marker :: (part.name.toList ++ rest.flatMap spelling)) = _ :=
      fun marker => parts?_cons hne hname isMarker_of_head?
    simp only [ih hrest, Option.map_some] at hcons
    cases part with
    | id name => exact (hcons '#').trans (by simp [SelectorPart.name])
    | className name => exact (hcons '.').trans (by simp [SelectorPart.name])

theorem isMarker_of_dropWhile (cs : List Char) :
    ∀ c ∈ (cs.dropWhile (!isMarker ·)).head?, isMarker c = true := by
  intro c hc
  have hfirst := List.head?_dropWhile_not (!isMarker ·) cs
  rw [Option.mem_def.mp hc] at hfirst
  simpa using hfirst

theorem isMarker_of_mem_takeWhile {cs : List Char} :
    ∀ c ∈ cs.takeWhile (!isMarker ·), isMarker c = false := by
  intro c hc
  simpa using List.mem_takeWhile_imp hc

/-- What is read as parts is spelled so, if it begins with a marker. -/
theorem of_parts? {cs : List Char} {parts : List SelectorPart}
    (hcs : ∀ c ∈ cs.head?, isMarker c = true) (h : parts? cs = some parts) :
    cs = parts.flatMap spelling ∧ ∀ part ∈ parts, part.IsNamed := by
  -- On the text, which loses its first part from one step to the next.
  induction cs using parts?.induct generalizing parts with
  | case1 =>
    rw [parts?] at h
    obtain rfl := Option.some.inj h
    exact ⟨rfl, by simp⟩
  | case2 marker body name =>
    rename_i hempty
    rw [parts?, if_pos hempty] at h
    cases h
  | case3 marker body name =>
    rename_i hempty ih
    rw [parts?, if_neg hempty] at h
    obtain ⟨rest, hrest, rfl⟩ := Option.map_eq_some_iff.mp h
    obtain ⟨hspelled, hnamed⟩ := ih (isMarker_of_dropWhile body) hrest
    have hmarker := hcs marker rfl
    rw [isMarker, Bool.or_eq_true, beq_iff_eq, beq_iff_eq] at hmarker
    have hname : (String.ofList name).toList ≠ [] ∧
        ∀ c ∈ (String.ofList name).toList, isMarker c = false := by
      rw [String.toList_ofList]
      exact ⟨mt List.isEmpty_iff.mpr hempty, isMarker_of_mem_takeWhile⟩
    rw [List.flatMap_cons, ← hspelled, List.forall_mem_cons]
    rcases hmarker with rfl | rfl
    · exact ⟨by simp [spelling], hname, hnamed⟩
    · exact ⟨by simp [spelling], hname, hnamed⟩

/-! ## The grammar -/

/-- A text, trimmed, spells a tag, or an empty one, and parts: it is not empty and has no blank. -/
structure Spells (source tag : String) (parts : List SelectorPart) : Prop where
  text : Text.trim source.toList = tag.toList ++ parts.flatMap spelling
  ne_nil : Text.trim source.toList ≠ []
  no_blank : ∀ c ∈ Text.trim source.toList, Text.isBlank c = false
  tag : ∀ c ∈ tag.toList, isMarker c = false
  named : ∀ part ∈ parts, part.IsNamed

instance (source tag : String) (parts : List SelectorPart) : Decidable (Spells source tag parts) :=
  decidable_of_iff
    (Text.trim source.toList = tag.toList ++ parts.flatMap spelling ∧
      Text.trim source.toList ≠ [] ∧ (Text.trim source.toList).all (!Text.isBlank ·) = true ∧
      tag.toList.all (!isMarker ·) = true ∧ ∀ part ∈ parts, part.IsNamed) <| by
    simp only [List.all_eq_true, Bool.not_eq_true']
    exact ⟨fun ⟨text, ne_nil, no_blank, tag, named⟩ => ⟨text, ne_nil, no_blank, tag, named⟩,
      fun h => ⟨h.text, h.ne_nil, h.no_blank, h.tag, h.named⟩⟩

/-- The tag that is asked for, if any, in small letters. -/
def askedTag (tag : String) : Option String :=
  if tag.toList.isEmpty then none else some (Text.lowerAscii tag)

/-- The scanner reads what is spelled. -/
theorem Spells.spelled? {source tag : String} {parts : List SelectorPart}
    (h : Spells source tag parts) : spelled? source = some (askedTag tag, parts) := by
  have hfine : ((Text.trim source.toList).isEmpty || (Text.trim source.toList).any Text.isBlank) =
      false := by
    rw [Bool.or_eq_false_iff, List.isEmpty_eq_false_iff, List.any_eq_false]
    exact ⟨h.ne_nil, fun c hc => by simp [h.no_blank c hc]⟩
  obtain ⟨htake, hdrop⟩ := span_name h.tag (@isMarker_of_head? parts)
  simp only [Selector.spelled?, hfine, Bool.false_eq_true, if_false]
  simp only [h.text, htake, hdrop, parts?_flatMap h.named, Option.map_some, String.ofList_toList,
    askedTag]

/-- A text spells one selector at most. -/
theorem Spells.unique {source tag tag' : String} {parts parts' : List SelectorPart}
    (h : Spells source tag parts) (h' : Spells source tag' parts') :
    tag = tag' ∧ parts = parts' := by
  have htag : tag.toList = tag'.toList := by
    rw [← (span_name h.tag (@isMarker_of_head? parts)).1, ← h.text, h'.text]
    exact (span_name h'.tag (@isMarker_of_head? parts')).1
  have hread := h.spelled?.symm.trans h'.spelled?
  rw [Option.some.injEq, Prod.mk.injEq] at hread
  exact ⟨String.toList_inj.mp htag, hread.2⟩

/-- What the scanner reads is spelled. -/
theorem exists_spells {source : String} {read : Option String × List SelectorPart}
    (h : Selector.spelled? source = some read) : ∃ tag, Spells source tag read.2 := by
  rw [Selector.spelled?] at h
  split at h
  · cases h
  · next hfine =>
    rw [Bool.or_eq_true, not_or, List.isEmpty_iff, Bool.not_eq_true, List.any_eq_false] at hfine
    obtain ⟨parts, hparts, rfl⟩ := Option.map_eq_some_iff.mp h
    obtain ⟨hspelled, hnamed⟩ := of_parts? (isMarker_of_dropWhile _) hparts
    refine ⟨String.ofList ((Text.trim source.toList).takeWhile (!isMarker ·)), ?_, hfine.1,
      fun c hc => by simpa using hfine.2 c hc, ?_, hnamed⟩
    · rw [String.toList_ofList, ← hspelled, List.takeWhile_append_dropWhile]
    · rw [String.toList_ofList]
      exact isMarker_of_mem_takeWhile

/-! ## What is asked for -/

/-- Of the ids the last one stays, and all classes are kept. -/
theorem foldl_add (parts : List SelectorPart) (tag : Option String) :
    parts.foldl add { tag } =
      { tag, id := (parts.filterMap id?).getLast?, classes := parts.filterMap class? } := by
  induction parts using List.reverseRecOn with
  | nil => rfl
  | append_singleton parts part ih =>
    rw [List.foldl_concat, ih]
    cases part with
    | id name => simp [add, id?, class?]
    | className name => simp [add, id?, class?]

theorem Spells.parse {source tag : String} {parts : List SelectorPart}
    (h : Spells source tag parts) : Selector.parse source = some
      { tag := askedTag tag, id := (parts.filterMap id?).getLast?
        classes := parts.filterMap class? } := by
  rw [Selector.parse, h.spelled?]
  exact congrArg some (foldl_add parts _)

theorem contains_classNames {value name : String} :
    (classNames value).contains name = true ↔ Text.IsWord value.toList name.toList := by
  rw [List.contains_iff_mem, classNames, List.mem_map, ← Text.mem_words_iff]
  constructor
  · rintro ⟨w, hw, rfl⟩
    rwa [String.toList_ofList]
  · exact fun h => ⟨name.toList, h, String.ofList_toList⟩

/-- An element has the tag that is spelled, up to the case of letters; the empty tag asks for
nothing. -/
def TagFits (tag name : String) : Prop :=
  tag = "" ∨ Text.sameUpToAsciiCase tag name = true

theorem tagFits_iff {tag name : String} (hname : Text.lowerAscii name = name) :
    TagFits tag name ↔ ∀ t, askedTag tag = some t → t = name := by
  rw [TagFits, askedTag, Text.sameUpToAsciiCase, hname, beq_iff_eq]
  by_cases htag : tag = ""
  · simp [htag]
  · simp [htag]

/-- What a selector accepts: an element with the tag that is spelled, with the last id and with all
classes. -/
theorem Spells.accepts_iff {source tag : String} {parts : List SelectorPart}
    (h : Spells source tag parts) {s : Selector} (hs : Selector.parse source = some s)
    {name : String} (hname : Text.lowerAscii name = name) (attributes : Entries String) :
    s.accepts (.element name attributes) = true ↔ TagFits tag name ∧
      (∀ id, (parts.filterMap id?).getLast? = some id → (SelectorPart.id id).Holds attributes) ∧
      ∀ c, .className c ∈ parts → (SelectorPart.className c).Holds attributes := by
  obtain rfl := Option.some.inj (h.parse.symm.trans hs)
  rw [tagFits_iff hname, accepts, Bool.and_eq_true, Bool.and_eq_true, List.all_eq_true, and_assoc]
  refine and_congr ?_ (and_congr ?_ ?_)
  · cases askedTag tag with
    | none => simp
    | some t => simp
  · cases (parts.filterMap id?).getLast? with
    | none => simp
    | some i => simp [Holds]
  · simp only [mem_filterMap_class?, contains_classNames]
    rfl

/-- Selectors ask for the tag, for each class and for the last id that is spelled. A text is
accepted exactly if, trimmed, it is not empty, has no blank, and is a tag, or none, followed by
parts with names; this it is in one way only. If no two different ids are spelled, an element is
accepted exactly if it has all that is spelled. Texts and fragments never are. -/
theorem selectors_ask_for_the_last_id (source : String) :
    ((Selector.parse source).isSome = true ↔ ∃ tag parts, Spells source tag parts) ∧
    ∀ tag parts s, Spells source tag parts → Selector.parse source = some s →
      (∀ tag' parts', Spells source tag' parts' → tag = tag' ∧ parts = parts') ∧
      (∀ (d : Document) i name attributes, d.Linked → d.data i = .element name attributes →
        (s.accepts (d.data i) = true ↔ TagFits tag name ∧
          (∀ id, (parts.filterMap id?).getLast? = some id →
            (SelectorPart.id id).Holds attributes) ∧
          ∀ c, .className c ∈ parts → (SelectorPart.className c).Holds attributes) ∧
        ((∀ a b, .id a ∈ parts → .id b ∈ parts → a = b) →
          (s.accepts (d.data i) = true ↔
            TagFits tag name ∧ ∀ part ∈ parts, part.Holds attributes))) ∧
      (∀ text, s.accepts (.text text) = false) ∧ s.accepts .fragment = false := by
  refine ⟨⟨fun h => ?_, ?_⟩, ?_⟩
  · obtain ⟨s, hs⟩ := Option.isSome_iff_exists.mp h
    obtain ⟨read, hread, -⟩ := Option.map_eq_some_iff.mp hs
    obtain ⟨tag, htag⟩ := exists_spells hread
    exact ⟨tag, read.2, htag⟩
  · rintro ⟨tag, parts, h⟩
    rw [h.parse]
    rfl
  · intro tag parts s h hs
    refine ⟨fun _ _ h' => h.unique h', fun d i name attributes hlinked hi => ?_, fun _ => rfl, rfl⟩
    have haccepts := h.accepts_iff hs (hlinked.tag_lower i name attributes hi) attributes
    rw [hi]
    exact ⟨haccepts, fun hids => haccepts.trans (and_congr_right fun _ =>
      (holds_iff_of_ids hids attributes).symm)⟩

/-- A paragraph is found by a tag in the other case and by classes in another order. -/
theorem paragraph_has_both_classes :
    let page := ((Document.empty.createElement "p").2.setAttribute 1 "class" "b a")
    ∃ s, Selector.parse "P.a.b" = some s ∧ s.accepts (page.data 1) = true := by
  intro page
  have hspells : Spells "P.a.b" "P" [.className "a", .className "b"] := by decide +kernel
  have hlinked : page.Linked := by decide +kernel
  obtain ⟨-, hall⟩ := ((selectors_ask_for_the_last_id "P.a.b").2 _ _ _ hspells
    hspells.parse).2.1 page 1 "p" [("class", "b a")] hlinked (by decide +kernel)
  refine ⟨_, hspells.parse, (hall (by simp)).mpr ⟨.inr (by decide +kernel), ?_⟩⟩
  simp only [List.forall_mem_cons, SelectorPart.Holds]
  exact ⟨by decide +kernel, by decide +kernel, by simp⟩

/-- An id that is followed by another is not asked for. -/
theorem first_id_is_overwritten :
    ∃ s, Selector.parse "#a#b" = some s ∧ Spells "#a#b" "" [.id "a", .id "b"] ∧
      s.accepts (.element "p" [("id", "b")]) = true ∧
      ¬ (SelectorPart.id "a").Holds [("id", "b")] := by
  have hspells : Spells "#a#b" "" [.id "a", .id "b"] := by decide +kernel
  refine ⟨_, hspells.parse, hspells, by decide +kernel, ?_⟩
  rw [SelectorPart.Holds]
  decide

end Selector

end LiveText
