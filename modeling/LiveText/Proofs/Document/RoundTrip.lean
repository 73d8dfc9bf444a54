import Mathlib
import LiveText.Proofs.Document.Copies
import LiveText.Proofs.Document.Forests
import LiveText.Proofs.Markup.Reading

/-!
# Markup that is read back

A document is written as markup and read again. If the forest under its root is plain, the document
that is read shows the same forest, with adjacent texts joined and empty ones left out: the same
elements stand in the same places with the same attributes, so that markup, text and the answers to
queries are the same. What a text or the value of an attribute holds makes no difference to this: it
may look like a tag or like a reference.

## Main statements

- `kept_of_plain`, `holds_of_hasNodes`: a plain forest that is copied.
- `shows_graft`: a document that shows a given forest.
- `markup_reads_back`: writing and reading.
-/

namespace LiveText

namespace Document

open Markup

variable {d : Document} {p : NodeId}

/-! ## Copied forests -/

/-- Of a plain forest everything is copied. -/
theorem kept_of_plain {ts : List Tree} (hplain : Plain ts) : kept ts = ts := by
  have hlower : ∀ tag ∈ plainTags, Text.lowerAscii tag = tag := by
    decide
  induction ts using forest_induction with
  | nil => rw [kept]
  | text s ts ih =>
    rw [Plain] at hplain
    rw [kept, ih hplain.2]
  | element name attributes children ts inside ih =>
    rw [Plain] at hplain
    obtain ⟨⟨hname, hattributes, hchildren⟩, hts⟩ := hplain
    rw [kept, hlower name hname, Entries.lastOfEach_of_nodup hattributes.nodup, inside hchildren,
      ih hts]
  | other ts ih => rw [Plain] at hplain; exact hplain.elim

/-- Nodes of a plain forest make up this forest. -/
theorem holds_of_hasNodes {ts : List Tree} (hplain : Plain ts) {n : NodeId}
    (h : d.HasNodes n (nodesOf p n ts)) : d.Holds (roots n ts) ts := by
  induction ts using forest_induction generalizing n p with
  | nil => exact .nil
  | text s ts ih =>
    rw [Plain] at hplain
    rw [nodesOf] at h
    obtain ⟨hnode, hafter⟩ := h.of_cons
    exact .text (by rw [data_eq, hnode]; rfl) (by rw [children_eq, hnode]; rfl)
      (ih hplain.2 hafter)
  | element name attributes children ts inside ih =>
    rw [Plain] at hplain
    obtain ⟨⟨-, -, hchildren⟩, hts⟩ := hplain
    rw [nodesOf] at h
    obtain ⟨hnode, hrest⟩ := h.of_cons
    obtain ⟨hinside, hafter⟩ := hrest.of_append
    have hbelow : d.children n = roots (n + 1) children := by rw [children_eq, hnode]; rfl
    rw [length_nodesOf, Nat.add_assoc, Nat.add_comm 1] at hafter
    refine .element (by rw [data_eq, hnode]; rfl) ?_ (ih hts hafter)
    rw [hbelow]
    exact inside hchildren hinside
  | other ts ih => rw [Plain] at hplain; exact hplain.elim

/-- Every plain forest is shown by a document: the one to which it has been copied. -/
theorem shows_graft {ts : List Tree} (hplain : Plain ts) :
    (empty.graft (below root ts)).Shows ts := by
  have hroot : root < empty.size := by decide
  have hgraft := graft_below_append hroot ts []
  rw [List.append_nil, graft, kept_of_plain hplain] at hgraft
  rw [hgraft]
  refine ⟨data_withForest empty root ts hroot, ?_⟩
  rw [children_withForest empty root ts hroot]
  exact holds_of_hasNodes hplain (hasNodes_withForest empty root ts)

/-! ## Writing and reading -/

/-- Markup that is written for a document and read again gives a document with the same forest, but
that adjacent texts are joined and empty ones left out. No element comes, goes or moves, whatever is
in the texts and in the values of attributes. So the markup and the text are the same, and for every
element there is one that corresponds to it, in the same order, and every query finds elements that
correspond. -/
theorem markup_reads_back {d : Document} {ts : List Tree} (hlinked : d.Linked) (hplain : Plain ts)
    (h : d.Shows ts) :
    (parse (d.markup root)).Shows (joinTexts ts) ∧ skeleton (joinTexts ts) = skeleton ts ∧
      (parse (d.markup root)).markup root = d.markup root ∧
      (parse (d.markup root)).textContent root = d.textContent root ∧
      ∃ f : NodeId → NodeId, (parse (d.markup root)).elements = d.elements.map f ∧
        (∀ i ∈ d.elements, (parse (d.markup root)).data (f i) = d.data i) ∧
        ∀ selector, (parse (d.markup root)).queryAll selector =
          (d.queryAll selector).map f := by
  have hlinked' : (parse (d.markup root)).Linked :=
    (edits_parse True (d.markup root)).linked linked_empty
  have hmarkup := markup_of_shows hlinked h hplain
  -- What is read is copied into an empty document.
  have hparse : parse (d.markup root) = empty.graft (below root (joinTexts ts)) := by
    rw [hmarkup, parse, appendMarkup, appendForest, parse_writeForest hplain]
  have hread : (parse (d.markup root)).Shows (joinTexts ts) := by
    rw [hparse]
    exact shows_graft (plain_joinTexts hplain)
  refine ⟨hread, skeleton_joinTexts ts, ?markup, ?text, ?elements⟩
  case markup =>
    rw [markup_of_shows hlinked' hread (plain_joinTexts hplain), writeForest_joinTexts, hmarkup]
  case text =>
    rw [textContent_of_shows hlinked' hread, textOf_joinTexts, textContent_of_shows hlinked h]
  case elements =>
    exact exists_correspondence hlinked h hlinked' hread (elementsOf_joinTexts ts)

/-- Texts and a value that look like tags and references. -/
def crowdedForest : List Tree :=
  [ .text "a <b> &amp; ", .text "", .text "c",
    .element "div" [("title", "\"</div>&quot;\u00a0")] [.text "</div>", .element "span" [] []] ]

theorem crowded_markup_reads_back :
    let d := empty.graft (below root crowdedForest)
    d.Linked ∧ Plain crowdedForest ∧ d.Shows crowdedForest ∧
      (parse (d.markup root)).Shows
        [ .text "a <b> &amp; c",
          .element "div" [("title", "\"</div>&quot;\u00a0")]
            [.text "</div>", .element "span" [] []] ] ∧
      (parse (d.markup root)).markup root = d.markup root := by
  have hplain : Plain crowdedForest := by
    have hattributes : PlainAttributes [("title", "\"</div>&quot;\u00a0")] :=
      ⟨by decide, by decide, by decide⟩
    have hnone : PlainAttributes [] := ⟨List.nodup_nil, by simp, by simp⟩
    simp only [crowdedForest, Plain, hattributes, hnone]
    decide
  have hlinked : (empty.graft (below root crowdedForest)).Linked :=
    (edits_graft True linked_empty (by decide)).linked linked_empty
  have hshows := shows_graft hplain
  obtain ⟨hread, -, hmarkup, -⟩ := markup_reads_back hlinked hplain hshows
  refine ⟨hlinked, hplain, hshows, ?_, hmarkup⟩
  simpa [crowdedForest, joinTexts, putText] using hread

end Document

end LiveText
