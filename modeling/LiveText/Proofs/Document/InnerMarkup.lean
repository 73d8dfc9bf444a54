import Mathlib
import LiveText.Document.Writer
import LiveText.Proofs.Session.Arena

/-!
# Inner and outer markup

The markup of a node and that of what is below it come from one traversal, which is entered in two
ways. On the one way the element around a text is known, on the other it is not; that makes a
difference for texts directly inside the element itself, and for no others. Inside an element with
raw text they are written as they are on the one way and with references on the other. So the outer
markup of an element is its inner markup between its tags exactly if no such text has a character to
be escaped.

## Main definitions

- `Document.DirectText`: texts that have no other element between them and a node.
- `Markup.Unescaped`: texts in which there is nothing to be escaped.

## Main statements

- `Document.writeTo_succ`: the bound on the depth is no restriction.
- `Document.markup_is_inner_between_tags`: when inner and outer markup agree.
- `Document.script_is_escaped_inside`: an element for which they do not.
-/

namespace LiveText

/-! ## Lengths of escaped texts -/

/-- Where one function writes no more than another, they write equally much in all only if they do
so for each. -/
theorem length_flatMap_le {α β : Type} {f g : α → List β} {xs : List α}
    (h : ∀ x ∈ xs, (f x).length ≤ (g x).length) :
    (xs.flatMap f).length ≤ (xs.flatMap g).length ∧
      ((xs.flatMap f).length = (xs.flatMap g).length → ∀ x ∈ xs, (f x).length = (g x).length) := by
  induction xs with
  | nil => simp
  | cons x xs ih =>
    obtain ⟨hx, hxs⟩ := List.forall_mem_cons.mp h
    obtain ⟨hle, heq⟩ := ih hxs
    rw [List.flatMap_cons, List.flatMap_cons, List.length_append, List.length_append,
      List.forall_mem_cons]
    exact ⟨Nat.add_le_add hx hle, fun hsum => ⟨by omega, heq (by omega)⟩⟩

namespace Markup

/-- A text in which there is nothing to be escaped. -/
def Unescaped (s : String) : Prop :=
  ∀ c ∈ s.toList, escapeText c = [c]

/-- A character becomes longer when it is escaped. -/
theorem length_escapeText (c : Char) :
    1 ≤ (escapeText c).length ∧ ((escapeText c).length = 1 → escapeText c = [c]) := by
  unfold escapeText
  split_ifs
  · exact ⟨by decide, fun h => absurd h (by decide)⟩
  · exact ⟨by decide, fun h => absurd h (by decide)⟩
  · exact ⟨by decide, fun h => absurd h (by decide)⟩
  · exact ⟨by decide, fun h => absurd h (by decide)⟩
  · exact ⟨Nat.le_refl 1, fun _ => rfl⟩

theorem Unescaped.flatMap {s : String} (h : Unescaped s) :
    s.toList.flatMap escapeText = s.toList := by
  rw [List.flatMap_congr h, List.flatMap_singleton']

/-- A text is not shorter when it is escaped, and is as long as before only if nothing has been. -/
theorem length_flatMap_escapeText (s : String) :
    s.toList.length ≤ (s.toList.flatMap escapeText).length ∧
      (s.toList.length = (s.toList.flatMap escapeText).length → Unescaped s) := by
  have h := @length_flatMap_le _ _ (fun c => [c]) escapeText s.toList fun c _ =>
    (length_escapeText c).1
  rw [List.flatMap_singleton'] at h
  exact ⟨h.1, fun heq c hc => (length_escapeText c).2 (h.2 heq c hc).symm⟩

end Markup

namespace Document

open Markup

variable {careful : Prop} {d d' : Document} {i c : NodeId} {tag : String}

/-! ## Depth -/

/-- What is written of a node does not depend on a level more, if all below has been reached before
the levels are used up. -/
theorem writeTo_succ (hlinked : d.Linked) (hi : ¬ d.Above i i) {depth : Nat}
    (hdepth : d.size ≤ d.rank i + depth) (enclosing : Option String) (silent : Bool) :
    d.writeTo (depth + 1) enclosing silent i = d.writeTo depth enclosing silent i := by
  induction depth generalizing i enclosing silent with
  | zero =>
    obtain ⟨hdata, hchildren⟩ := empty_of_size_le_rank hi hdepth
    simp only [writeTo, hdata, hchildren, List.flatMap_nil]
  | succ depth ih =>
    have hchildren : ∀ enclosing silent, (d.children i).flatMap
        (d.writeTo (depth + 1) enclosing silent) =
          (d.children i).flatMap (d.writeTo depth enclosing silent) := by
      intro enclosing silent
      refine List.flatMap_congr fun c hc => ih (not_above_child hlinked hi hc) ?_ enclosing silent
      have hrank := rank_lt_rank_of_not_above hlinked hi hc
      omega
    rw [writeTo, writeTo]
    simp only [hchildren]

/-! ## What is directly inside -/

/-- A text stands directly inside a node: there are at most fragments between them. -/
inductive DirectText (d : Document) : NodeId → String → Prop where
  | child {i c : NodeId} {s : String} (hc : c ∈ d.children i) (hs : d.data c = .text s) :
      DirectText d i s
  | through {i c : NodeId} {s : String} (hc : c ∈ d.children i) (hfragment : d.data c = .fragment)
      (h : DirectText d c s) : DirectText d i s

/-- The texts for which it matters what is around a node: a text itself, and those directly inside a
fragment. An element is around all texts inside it. -/
def Exposed (d : Document) (i : NodeId) (s : String) : Prop :=
  d.data i = .text s ∨ d.data i = .fragment ∧ d.DirectText i s

theorem directText_iff {s : String} :
    d.DirectText i s ↔ ∃ c ∈ d.children i, d.Exposed c s := by
  constructor
  · rintro (⟨hc, hs⟩ | ⟨hc, hfragment, h⟩)
    · exact ⟨_, hc, .inl hs⟩
    · exact ⟨_, hc, .inr ⟨hfragment, h⟩⟩
  · rintro ⟨c, hc, hs | ⟨hfragment, h⟩⟩
    · exact .child hc hs
    · exact .through hc hfragment h

/-- Where there is nothing to be escaped, it does not matter what is around a node. -/
theorem writeTo_enclosed (depth : Nat)
    (h : tag ∈ rawTextTags → ∀ s, d.Exposed i s → Unescaped s) :
    d.writeTo depth (some tag) false i = d.writeTo depth none false i := by
  induction depth generalizing i with
  | zero => rfl
  | succ depth ih =>
    rw [writeTo, writeTo]
    cases hdata : d.data i with
    | element name attributes => rfl
    | fragment =>
      refine List.flatMap_congr fun c hc => ih fun htag s hs => h htag s (.inr ⟨hdata, ?_⟩)
      exact directText_iff.mpr ⟨c, hc, hs⟩
    | text s =>
      simp only [writeText]
      split
      · next htag =>
        rw [List.contains_iff_mem] at htag
        exact (h htag s (.inl hdata)).flatMap.symm
      · rfl

/-- Inside an element with raw text no more is written than elsewhere, and less if there is anything
to be escaped. -/
theorem length_writeTo_enclosed (hlinked : d.Linked) (htag : tag ∈ rawTextTags)
    (hi : ¬ d.Above i i) {depth : Nat} (hdepth : d.size ≤ d.rank i + depth) :
    (d.writeTo depth (some tag) false i).length ≤ (d.writeTo depth none false i).length ∧
      ((d.writeTo depth (some tag) false i).length = (d.writeTo depth none false i).length →
        ∀ s, d.Exposed i s → Unescaped s) := by
  induction depth generalizing i with
  | zero =>
    refine ⟨Nat.le_refl _, fun _ s hs => ?_⟩
    obtain ⟨hdata, hchildren⟩ := empty_of_size_le_rank hi hdepth
    rcases hs with hs | ⟨-, hs⟩
    · rw [hdata] at hs
      cases hs
    · obtain ⟨c, hc, -⟩ := directText_iff.mp hs
      rw [hchildren] at hc
      cases hc
  | succ depth ih =>
    rw [writeTo, writeTo]
    cases hdata : d.data i with
    | element name attributes =>
      refine ⟨Nat.le_refl _, fun _ s hs => ?_⟩
      simp [Exposed, hdata] at hs
    | text s =>
      have hraw : rawTextTags.contains tag = true := List.contains_iff_mem.mpr htag
      obtain ⟨hle, heq⟩ := length_flatMap_escapeText s
      simp only [writeText, hraw, if_true]
      refine ⟨hle, fun hsame s' hs => ?_⟩
      obtain rfl : s = s' := by simpa [Exposed, hdata] using hs
      exact heq hsame
    | fragment =>
      -- What is written of all children is as long only if it is so for each of them.
      have hchildren : ∀ c ∈ d.children i, _ := fun c hc =>
        ih (not_above_child hlinked hi hc)
          (by have hrank := rank_lt_rank_of_not_above hlinked hi hc; omega)
      obtain ⟨hle, heq⟩ := length_flatMap_le fun c hc => (hchildren c hc).1
      refine ⟨hle, fun hsame s hs => ?_⟩
      obtain ⟨c, hc, hexposed⟩ := directText_iff.mp (by simpa [Exposed, hdata] using hs)
      exact (hchildren c hc).2 (heq hsame c hc) s hexposed

/-! ## Inner and outer markup -/

/-- What is written of the children of a node does not depend on a level more or less. -/
theorem flatMap_writeTo (hlinked : d.Linked) (hi : ¬ d.Above i i) {depth : Nat}
    (hsize : d.size = depth + 1) (enclosing : Option String) (silent : Bool) :
    (d.children i).flatMap (d.writeTo depth enclosing silent) =
      (d.children i).flatMap (d.writeTo d.size enclosing silent) := by
  refine List.flatMap_congr fun c hc => ?_
  have hrank := rank_lt_rank_of_not_above hlinked hi hc
  rw [hsize]
  refine (writeTo_succ hlinked (not_above_child hlinked hi hc) ?_ enclosing silent).symm
  omega

/-- The outer markup of a fragment is its inner markup. -/
theorem markup_of_fragment (hlinked : d.Linked) (hi : ¬ d.Above i i)
    (hdata : d.data i = .fragment) : d.markup i = d.innerMarkup i := by
  rw [markup, innerMarkup]
  cases hsize : d.size with
  | zero =>
    rw [children_of_le (by rw [hsize]; exact Nat.zero_le i)]
    rfl
  | succ depth =>
    rw [writeTo, hdata, ← hsize]
    exact congrArg String.ofList (flatMap_writeTo hlinked hi hsize none false)

/-- The outer markup of an element that is not void: its tags, and between them what is below it,
written as inside of it. -/
theorem markup_of_element (hlinked : d.Linked) (hi : ¬ d.Above i i) {attributes : Entries String}
    (hdata : d.data i = .element tag attributes) (hvoid : tag ∉ voidTags) :
    d.markup i = String.ofList (writeStart tag attributes ++
      (d.children i).flatMap (d.writeTo d.size (some tag) false) ++ writeEnd tag) := by
  have hlt : i < d.size := lt_size_of_data (by rw [hdata]; exact NodeData.noConfusion)
  obtain ⟨depth, hsize⟩ := Nat.exists_eq_add_one_of_ne_zero (Nat.ne_zero_of_lt hlt)
  have hcontains : voidTags.contains tag = false := by
    rw [Bool.eq_false_iff, ne_eq, List.contains_iff_mem]
    exact hvoid
  have hwrite : d.writeTo (depth + 1) none false i = writeStart tag attributes ++
      (d.children i).flatMap (d.writeTo depth (some tag) false) ++ writeEnd tag := by
    rw [writeTo, hdata]
    simp only [Bool.false_eq_true, if_false, hcontains]
  rw [markup, ← flatMap_writeTo hlinked hi hsize, hsize, hwrite]

/-- Inner and outer markup agree, except for raw text. In every document that comes about, the
markup of the root, and of every other fragment, is its inner markup; the markup of an element that
is not void is its inner markup between its tags exactly if its text is not raw, or there is nothing
to be escaped in the texts directly inside. Nodes on a cycle are left out. -/
theorem markup_is_inner_between_tags (h : Reached careful d) :
    d.data root = .fragment ∧
    ∀ i, ¬ d.Above i i →
      (d.data i = .fragment → d.markup i = d.innerMarkup i) ∧
      ∀ tag attributes, d.data i = .element tag attributes → tag ∉ voidTags →
        (d.markup i = String.ofList
            (writeStart tag attributes ++ (d.innerMarkup i).toList ++ writeEnd tag) ↔
          (tag ∈ rawTextTags → ∀ s, d.DirectText i s → Unescaped s)) := by
  have hlinked := h.linked
  refine ⟨data_root_of_reached h, fun i hi => ⟨markup_of_fragment hlinked hi, ?_⟩⟩
  intro tag attributes hdata hvoid
  rw [markup_of_element hlinked hi hdata hvoid, String.ofList_inj, List.append_cancel_right_eq,
    List.append_cancel_left_eq, innerMarkup, String.toList_ofList]
  constructor
  · intro hsame htag s hs
    have hdepth : ∀ c ∈ d.children i, _ := fun c hc =>
      length_writeTo_enclosed hlinked htag (not_above_child hlinked hi hc) (Nat.le_add_left ..)
    obtain ⟨c, hc, hexposed⟩ := directText_iff.mp hs
    have hall := (length_flatMap_le fun c hc => (hdepth c hc).1).2 (congrArg List.length hsame)
    exact (hdepth c hc).2 (hall c hc) s hexposed
  · intro h
    refine List.flatMap_congr fun c hc => writeTo_enclosed d.size fun htag s hs => ?_
    exact h htag s (directText_iff.mpr ⟨c, hc, hs⟩)

/-- A paragraph is its tags with its inner markup between them. -/
theorem paragraph_agrees_with_its_inside :
    let page := (((empty.createElement "p").2.createText "a<b").2.append 0 1).append 1 2
    page.innerMarkup 1 = "a&lt;b" ∧ page.markup 1 = String.ofList
      (writeStart "p" [] ++ (page.innerMarkup 1).toList ++ writeEnd "p") := by
  intro page
  have hreached : Reached False page := by
    have hmade : Reached False ((empty.createElement "p").2.createText "a<b").2 :=
      (Reached.empty.changed (.edited (.createElement "p"))).changed (.edited (.createText "a<b"))
    have hcareless : ∀ {d : Document} {parent child : NodeId}, Reached False d →
        parent < d.size ∧ child < d.size → Reached False (d.append parent child) :=
      fun h hlt => h.changed (.edited (.append hlt.1 hlt.2 False.elim))
    exact hcareless (hcareless hmade (by decide +kernel)) (by decide +kernel)
  have hacyclic : page.Acyclic := acyclic_of_parent_lt (by decide +kernel)
  have hagrees := ((markup_is_inner_between_tags hreached).2 1 (hacyclic 1)).2 "p" []
    (by decide +kernel) (by decide)
  refine ⟨by decide +kernel, hagrees.mpr fun hraw => ?_⟩
  exact absurd hraw (by decide)

/-- A script is written as it is, but what is inside of it is written with references. -/
theorem script_is_escaped_inside :
    let page := (((empty.createElement "script").2.createText "a<b").2.append 0 1).append 1 2
    page.markup 1 = "<script>a<b</script>" ∧ page.innerMarkup 1 = "a&lt;b" ∧
      page.markup 1 ≠ String.ofList
        (writeStart "script" [] ++ (page.innerMarkup 1).toList ++ writeEnd "script") := by
  decide +kernel

end Document

end LiveText
