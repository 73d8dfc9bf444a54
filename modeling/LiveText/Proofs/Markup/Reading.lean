import Mathlib
import LiveText.Markup.Reader
import LiveText.Proofs.Markup.Building
import LiveText.Proofs.Markup.Tokens

/-!
# Reading plain markup

The markup of a plain forest is read as that forest, with adjacent texts joined and empty ones left
out. Reading goes round by round, and a round takes one tag, or a stretch of text up to the next
reference; so the statement about a forest is put together from what happens between two states
while some of the markup is taken away.

## Main definitions

- `Builder.ReadsTo`: reading gets from one state to another and leaves some text.

## Main statements

- `readsTo_escapeText`: a text goes to the end of the innermost element, whatever it holds.
- `readsTo_writeForest`: a forest grows at the end of the innermost element.
- `parse_writeForest`: markup is read as the forest for which it was written.
-/

namespace LiveText.Markup

namespace Builder

variable {intake : Intake} {b b' b'' : Builder} {cs rest rest' : List Char}

/-! ## Rounds -/

/-- Reading gets from one state to another and leaves some text, however many rounds there are
left as long as they are enough. -/
def ReadsTo (intake : Intake) (b : Builder) (cs : List Char) (b' : Builder) (rest : List Char) :
    Prop :=
  ∀ fuel, cs.length ≤ fuel →
    ∃ fuel', rest.length ≤ fuel' ∧ read intake fuel b cs = read intake fuel' b' rest

theorem ReadsTo.refl (intake : Intake) (b : Builder) (cs : List Char) : ReadsTo intake b cs b cs :=
  fun fuel hfuel => ⟨fuel, hfuel, rfl⟩

theorem ReadsTo.trans (h : ReadsTo intake b cs b' rest) (h' : ReadsTo intake b' rest b'' rest') :
    ReadsTo intake b cs b'' rest' := by
  intro fuel hfuel
  obtain ⟨between, hbetween, hread⟩ := h fuel hfuel
  obtain ⟨left, hleft, hread'⟩ := h' between hbetween
  exact ⟨left, hleft, hread.trans hread'⟩

/-- Nothing happens when no text is left. -/
theorem read_nil (intake : Intake) (fuel : Nat) (b : Builder) : read intake fuel b [] = b := by
  cases fuel <;> rfl

/-- One round. -/
theorem readsTo_step (intake : Intake) (h : b.Ordinary) {tokens : List Token}
    (hnext : nextTokens? .data b.inForeign cs = some (tokens, rest))
    (hshort : rest.length < cs.length) : ReadsTo intake b cs (tokens.foldl feed b) rest := by
  intro fuel hfuel
  obtain ⟨fuel, rfl⟩ : ∃ n, fuel = n + 1 := ⟨fuel - 1, by omega⟩
  refine ⟨fuel, by omega, ?_⟩
  -- No script is being read that could end.
  have hscript (next : Builder) : b.scriptEnds next = false := by
    rw [scriptEnds, h.lexing]
    rfl
  rw [read, h.lexing, hnext]
  simp only [hscript, if_neg Bool.false_ne_true]

/-! ## Texts -/

/-- The tokens of a text are put together again. -/
theorem foldl_feed_texts (h : b.Ordinary) (run : Bool × List Char)
    (runs : List (Bool × List Char)) :
    ((run :: runs).map fun (blank, run) => Token.text blank run).foldl feed b =
      b.insertText ((run :: runs).map Prod.snd).flatten := by
  induction runs generalizing b run with
  | nil =>
    simp only [List.map_cons, List.map_nil, List.foldl_cons, List.foldl_nil, List.flatten_cons,
      List.flatten_nil, List.append_nil]
    exact feed_text h run.1 run.2
  | cons next runs ih =>
    rw [List.map_cons, List.foldl_cons, feed_text h, ih (ordinary_insertText h run.2).1,
      insertText_insertText h]
    rfl

theorem escapeText_ne_nil (c : Char) : escapeText c ≠ [] := by
  obtain ⟨heq, -⟩ | ⟨name, heq, -⟩ := escapeText_cases c
  · rw [heq]
    exact List.cons_ne_nil _ _
  · rw [heq]
    exact List.cons_ne_nil _ _

/-- A text is read to its end and goes to the end of the innermost element. -/
theorem readsTo_escapeText (intake : Intake) (h : b.Ordinary) (hne : cs ≠ [])
    (hplain : cs.all isPlainChar) (hrest : OpensTag rest) :
    ReadsTo intake b (cs.flatMap escapeText ++ rest) (b.insertText cs) rest := by
  -- On the length of the text: every round takes a start of it.
  induction hn : cs.length using Nat.strong_induction_on generalizing b cs with
  | h n ih =>
    obtain ⟨runs, done, left, rfl, hdone, hruns, hnext⟩ :=
      nextTokens?_escapeText hne hplain b.inForeign hrest
    obtain ⟨c, more, rfl⟩ := List.exists_cons_of_ne_nil hdone
    obtain ⟨run, runs, rfl⟩ : ∃ run others, runs = run :: others := by
      cases runs with
      | nil => cases hruns
      | cons run others => exact ⟨run, others, rfl⟩
    have hshort : (left.flatMap escapeText ++ rest).length <
        ((c :: more ++ left).flatMap escapeText ++ rest).length := by
      have hpos := List.length_pos_of_ne_nil (escapeText_ne_nil c)
      rw [List.flatMap_append, List.flatMap_cons, List.length_append, List.length_append,
        List.length_append, List.length_append]
      omega
    have hfirst := readsTo_step intake h hnext hshort
    rw [foldl_feed_texts h, hruns] at hfirst
    by_cases hleft : left = []
    · subst hleft
      rwa [List.append_nil] at hfirst ⊢
    · have hsecond := ih left.length (by simp [← hn])
        (ordinary_insertText h (c :: more)).1 hleft
        (List.all_eq_true.mpr fun x hx =>
          List.all_eq_true.mp hplain x (List.mem_append_right _ hx)) rfl
      rw [insertText_insertText h] at hsecond
      exact hfirst.trans hsecond

/-! ## Tags -/

theorem readsTo_writeStart (intake : Intake) (h : b.Ordinary) {name : String}
    (hname : name ∈ plainTags) {attributes : Entries String}
    (hattributes : PlainAttributes attributes) (rest : List Char) :
    ReadsTo intake b (writeStart name attributes ++ rest) (b.openTag ⟨name, attributes, false⟩)
      rest := by
  have hshort : rest.length < (writeStart name attributes ++ rest).length := by
    rw [List.length_append]
    exact Nat.lt_add_of_pos_left (Nat.succ_pos _)
  have hstep := readsTo_step intake h
    (nextTokens?_writeStart hname hattributes b.inForeign rest) hshort
  rwa [List.foldl_cons, List.foldl_nil, feed_start h hname] at hstep

theorem readsTo_writeEnd (intake : Intake) (h : b.Ordinary) {name : String}
    (hname : name ∈ plainTags) {attributes : List (String × String)} {i : Nat} {outer : List Nat}
    (hstack : b.stack = i :: outer)
    (hdata : b.dataOf i = .element ⟨.html, name⟩ attributes none) (rest : List Char) :
    ReadsTo intake b (writeEnd name ++ rest) { b with stack := outer } rest := by
  have hshort : rest.length < (writeEnd name ++ rest).length := by
    rw [List.length_append]
    exact Nat.lt_add_of_pos_left (Nat.succ_pos _)
  have hstep := readsTo_step intake h (nextTokens?_writeEnd hname b.inForeign rest)
    hshort
  rwa [List.foldl_cons, List.foldl_nil, feed_close h hname hstack hdata] at hstep

/-! ## Forests -/

/-- The markup of a forest that does not begin with a text begins with a tag, if there is any. -/
theorem opensTag_writeForest {ts : List Tree} (hplain : Plain ts)
    (hstart : startsWithText ts = false) (hrest : OpensTag rest) :
    OpensTag (writeForest ts ++ rest) := by
  cases ts with
  | nil => rwa [writeForest, List.nil_append]
  | cons t ts =>
    cases t with
    | text s => cases hstart
    | element name attributes children =>
      rw [writeForest]
      exact .inr ⟨_, rfl⟩
    | other => rw [Plain] at hplain; exact hplain.elim

/-- Closing the innermost element leaves an ordinary state, unless it is the one around
everything. -/
theorem Ordinary.close (h : b.Ordinary) {i j : Nat} {outer : List Nat}
    (hstack : b.stack = i :: j :: outer) : { b with stack := j :: outer }.Ordinary where
  mode := h.mode
  formatting := h.formatting
  fostering := h.fostering
  dropsNewline := h.dropsNewline
  lexing := h.lexing
  current := ⟨outer, rfl⟩
  stack k hk := h.stack k (hstack ▸ List.mem_cons_of_mem _ hk)

/-- What an open element is can be told from the nodes. -/
theorem Ordinary.dataOf_eq (h : b.Ordinary) {i : Nat} (hi : i ∈ b.stack) {name : String}
    {attributes : Entries String} (hdata : b.numbering.data i = .element name attributes) :
    b.dataOf i = .element ⟨.html, name⟩ attributes none := by
  obtain ⟨name', attributes', -, heq⟩ := h.stack i hi
  change (b.dataOf i).seen = _ at hdata
  rw [heq, PartData.seen, NodeData.element.injEq] at hdata
  obtain ⟨rfl, rfl⟩ := hdata
  exact heq

/-- A forest is read to its end and grows at the end of the innermost element. -/
theorem readsTo_writeForest (intake : Intake) {ts : List Tree} (hplain : Plain ts)
    (hapart : TextsApart ts) (h : b.Ordinary) (hrest : OpensTag rest)
    (hlast : startsWithText ts = true →
      ∀ i ∈ (b.childrenOf b.current).getLast?, ∀ s, b.dataOf i ≠ .text s) :
    ∃ b', ReadsTo intake b (writeForest ts ++ rest) b' rest ∧ b'.Ordinary ∧ b'.stack = b.stack ∧
      b.numbering.Grown b'.numbering b.current ts := by
  induction ts using forest_induction generalizing b rest with
  | nil =>
    rw [writeForest, List.nil_append]
    exact ⟨b, .refl intake b rest, h, rfl, .nil _ _⟩
  | text s ts ih =>
    rw [Plain] at hplain
    rw [TextsApart] at hapart
    have hs : s.toList ≠ [] := fun hnil => hapart.1 (String.toList_eq_nil_iff.mp hnil)
    have hopens := opensTag_writeForest hplain.2 hapart.2.1 hrest
    have hread := readsTo_escapeText intake h hs hplain.1 hopens
    have hgrown := grown_insertText h (hlast rfl) s
    obtain ⟨hordinary, hstack⟩ := ordinary_insertText h s.toList
    have hcurrent : (b.insertText s.toList).current = b.current := by
      rw [current, hstack, current]
    -- What follows does not begin with a text, which would go into this one.
    obtain ⟨b', hread', hordinary', hstack', hgrown'⟩ :=
      ih hplain.2 hapart.2.2 hordinary hrest (by rw [hapart.2.1]; exact fun h => by cases h)
    rw [hcurrent] at hgrown'
    rw [writeForest, List.append_assoc]
    exact ⟨b', hread.trans hread', hordinary', hstack'.trans hstack,
      hgrown.append hgrown' h.current_lt_size⟩
  | element name attributes children ts inside ih =>
    rw [Plain] at hplain
    rw [TextsApart] at hapart
    obtain ⟨⟨hname, hattributes, hchildren⟩, hts⟩ := hplain
    obtain ⟨outer, houter⟩ := h.current
    -- The start tag.
    let tag : Tag := ⟨name, attributes, false⟩
    have hread₁ := readsTo_writeStart intake h hname hattributes
      (writeForest children ++ (writeEnd name ++ (writeForest ts ++ rest)))
    have hopen := ordinary_openTag h (show tag.name ∈ plainTags from hname)
    have hgrown₁ := grown_openTag h (show tag.name ∈ plainTags from hname)
    have hstack₁ : (b.openTag tag).stack = b.parts.size :: b.stack := by
      rw [openTag_eq h hname]
    have hcurrent₁ : (b.openTag tag).current = b.parts.size := by
      rw [current, hstack₁, List.headD_cons]
    -- The content: the new element has no children yet.
    have hnone : (b.openTag tag).childrenOf (b.openTag tag).current = [] := by
      have hnumbers := hgrown₁.numbers
      simp only [Numbering.Numbers, roots, and_true] at hnumbers
      rw [hcurrent₁]
      exact hnumbers.2
    obtain ⟨b₂, hread₂, hordinary₂, hstack₂, hgrown₂⟩ :=
      inside hchildren hapart.1 hopen (.inr ⟨_, rfl⟩) (by rw [hnone]; simp)
    rw [hcurrent₁] at hgrown₂
    rw [hstack₁, houter] at hstack₂
    -- The end tag.
    have hdata₂ : b₂.numbering.data b.parts.size = .element name attributes := by
      have hnumbers := hgrown₁.numbers
      simp only [Numbering.Numbers, and_true] at hnumbers
      refine (hgrown₂.data _ ?_).trans hnumbers.1
      rw [hgrown₁.size]
      exact Nat.lt_succ_self _
    have hread₃ := readsTo_writeEnd intake hordinary₂ hname hstack₂
      (hordinary₂.dataOf_eq (hstack₂ ▸ List.mem_cons_self) hdata₂) (writeForest ts ++ rest)
    -- What follows: the element stands there, so that a text is a node of its own.
    have hgrown := hgrown₁.inside hgrown₂
    obtain ⟨b', hread', hordinary', hstack', hgrown'⟩ :=
      ih hts hapart.2 (hordinary₂.close hstack₂) hrest (by
        intro _ i hi s hs
        have hchildren₂ := hgrown.children b.current h.current_lt_size
        rw [if_pos rfl, roots, roots] at hchildren₂
        change i ∈ (b₂.numbering.children b.current).getLast? at hi
        rw [hchildren₂, List.getLast?_append] at hi
        obtain rfl : b.parts.size = i := Option.some.inj hi
        change (b₂.dataOf b.parts.size).seen = _ at hdata₂
        change b₂.dataOf b.parts.size = _ at hs
        rw [hs] at hdata₂
        cases hdata₂)
    rw [writeForest, List.append_assoc, List.append_assoc, List.append_assoc]
    refine ⟨b', hread₁.trans (hread₂.trans (hread₃.trans hread')), hordinary',
      hstack'.trans houter.symm, ?_⟩
    exact hgrown.append hgrown' h.current_lt_size
  | other ts ih => rw [Plain] at hplain; exact hplain.elim

/-! ## Trees -/

/-- The trees of nodes that stand in document order. -/
theorem map_treeTo_roots {ts : List Tree} {n depth : Nat} (h : b.numbering.Numbers n ts)
    (hdepth : forestSize ts ≤ depth) : (roots n ts).map (b.treeTo depth) = ts := by
  induction ts using forest_induction generalizing n depth with
  | nil => rfl
  | text s ts ih =>
    obtain ⟨levels, rfl, hothers⟩ := exists_levels_of_text hdepth
    rw [Numbering.Numbers] at h
    · have hdata : b.dataOf n = .text s := by
        have hseen : (b.dataOf n).seen = .text s := h.1.1
        cases hd : b.dataOf n <;> simp_all [PartData.seen]
      rw [roots, List.map_cons, treeTo, hdata, Tree.size_text, ih h.2 (Nat.le_succ_of_le hothers)]
  | element name attributes children ts inside ih =>
    obtain ⟨levels, rfl, hcontent, hothers⟩ := exists_levels_of_element hdepth
    rw [Numbering.Numbers] at h
    obtain ⟨⟨hseen, hchildren, hinside⟩, hafter⟩ := h
    obtain ⟨label, content, hdata, rfl⟩ : ∃ label content,
        b.dataOf n = .element label attributes content ∧ label.name = name := by
      change (b.dataOf n).seen = _ at hseen
      cases hd : b.dataOf n <;> simp_all [PartData.seen]
    change b.childrenOf n = _ at hchildren
    rw [roots, List.map_cons, treeTo, hdata, Tree.size_element, ih hafter (by omega)]
    simp only [hchildren, inside hinside hcontent]
  | other ts ih => rw [Numbering.Numbers] at h; exact h.elim

end Builder

/-! ## Intake -/

theorem normalizeNewlines_of_plain {cs : List Char} (h : ∀ c ∈ cs, isPlainChar c) :
    normalizeNewlines cs = cs := by
  induction cs with
  | nil => rfl
  | cons c cs ih =>
    have hc : c ≠ '\r' := by
      rintro rfl
      exact absurd (h _ List.mem_cons_self) (by decide)
    rw [normalizeNewlines, ih fun x hx => h x (List.mem_cons_of_mem _ hx)]
    · exact fun _ heq => absurd heq hc
    · exact hc

theorem withoutMark_of_plain {cs : List Char} (h : ∀ c ∈ cs, isPlainChar c) :
    Text.withoutMark cs = cs := by
  unfold Text.withoutMark
  split
  · exact absurd (h _ List.mem_cons_self) (by decide)
  · rfl

/-- Text without anything that is replaced is taken in as it is, wherever portions begin. -/
theorem chars_ofText {text : String} (h : ∀ c ∈ text.toList, isPlainChar c) :
    (Intake.ofText text).chars = text.toList := by
  have hportions : (portions text.toList).flatMap Text.withoutMark = text.toList := by
    conv_rhs => rw [← flatten_portions text.toList]
    rw [List.flatMap_def]
    congr 1
    conv_rhs => rw [← List.map_id (portions text.toList)]
    refine List.map_congr_left fun portion hportion => withoutMark_of_plain fun c hc => h c ?_
    rw [← flatten_portions text.toList]
    exact List.mem_flatten.mpr ⟨portion, hportion, hc⟩
  change normalizeNewlines ((portions text.toList).flatMap Text.withoutMark) = _
  rw [hportions, normalizeNewlines_of_plain h]

/-! ## Markup -/

/-- Markup is read as the forest for which it was written, if no text of it is empty or next to
another. -/
theorem parse_writeForest_of_textsApart {ts : List Tree} (hplain : Plain ts)
    (hapart : TextsApart ts) : parse (String.ofList (writeForest ts)) = ts := by
  have hchars : (Intake.ofText (String.ofList (writeForest ts))).chars = writeForest ts := by
    rw [chars_ofText, String.toList_ofList]
    rw [String.toList_ofList]
    exact isPlainChar_of_mem_writeForest hplain
  obtain ⟨b, hread, hordinary, -, hgrown⟩ :=
    Builder.readsTo_writeForest (Intake.ofText (String.ofList (writeForest ts))) hplain hapart
      Builder.ordinary_start (.inl rfl) (fun _ i hi => by cases hi)
  rw [List.append_nil] at hread
  obtain ⟨fuel, -, hread⟩ := hread _ (Nat.le_refl _)
  -- Nothing is left to be done when the markup ends.
  have hfinish : b.finish = b := by
    rw [Builder.finish, hordinary.mode]
  have hchildren : b.childrenOf 0 = roots 1 ts := hgrown.children 0 Nat.one_pos
  have hsize : forestSize ts ≤ b.parts.size := by
    have heq : b.parts.size = 1 + forestSize ts := hgrown.size
    omega
  rw [parse]
  simp only [hchars, hread, Builder.read_nil, hfinish]
  rw [Builder.forest, hchildren]
  exact Builder.map_treeTo_roots hgrown.numbers hsize

/-- The markup of a plain forest is read as the forest with its texts joined. -/
theorem parse_writeForest {ts : List Tree} (hplain : Plain ts) :
    parse (String.ofList (writeForest ts)) = joinTexts ts := by
  rw [← writeForest_joinTexts]
  exact parse_writeForest_of_textsApart (plain_joinTexts hplain) (textsApart_joinTexts ts)

end LiveText.Markup
