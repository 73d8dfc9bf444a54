import Mathlib
import LiveText.Path
import LiveText.Proofs.Text.Blank

/-!
# Paths and their texts

The text of a path is read as the same path exactly when all its keys are plain: not empty, without
a point, and without blanks around them. A path that has been read from a text has no other keys, so
that reading a text and writing the path down brings every text into a form that stays.

## Main definitions

- `Path.IsPlainKey`: a key that stays itself between points.

## Main statements

- `parse_text_of_plain`: the text of a path of plain keys is read as this path.
- `isPlainKey_of_mem_parse`: what is read are plain keys.
- `plain_paths_are_read_back`: which paths are read back, and that these are the ones that are read.
-/

namespace LiveText.Path

variable {p : Path}

/-- A key that stays itself when it is written between points and read again. -/
structure IsPlainKey (key : String) : Prop where
  ne_empty : key ≠ ""
  no_point : '.' ∉ key.toList
  no_blank_before : ∀ c ∈ key.toList.head?, Text.isBlank c = false
  no_blank_after : ∀ c ∈ key.toList.getLast?, Text.isBlank c = false

theorem IsPlainKey.trim {key : String} (h : IsPlainKey key) : Text.trim key.toList = key.toList :=
  Text.IsTrimmed.trim ⟨h.no_blank_before, h.no_blank_after⟩

theorem IsPlainKey.isEmpty {key : String} (h : IsPlainKey key) : key.toList.isEmpty = false := by
  rw [List.isEmpty_eq_false_iff, Ne, String.toList_eq_nil_iff]
  exact h.ne_empty

/-! ## Writing and reading -/

theorem toList_text (p : Path) :
    p.text.toList = ['.'].intercalate (p.segments.map String.toList) :=
  String.toList_intercalate

/-- The text of a path whose keys hold no point comes apart at its points into the keys. -/
theorem splitOn_text (hne : p.segments ≠ []) (h : ∀ key ∈ p.segments, '.' ∉ key.toList) :
    p.text.toList.splitOn '.' = p.segments.map String.toList := by
  rw [toList_text]
  refine List.splitOn_intercalate '.' ?_ (by simpa using hne)
  intro cs hcs
  obtain ⟨key, hkey, rfl⟩ := List.mem_map.mp hcs
  exact h key hkey

/-- No plain key is lost when the text of a path is read as a path again. -/
theorem parse_text_of_plain (h : ∀ key ∈ p.segments, IsPlainKey key) : Path.parse p.text = p := by
  by_cases hne : p.segments = []
  · -- The empty text gives one piece, of which nothing is left.
    obtain rfl : p = root := congrArg Path.mk hne
    decide
  have htrim : (p.segments.map String.toList).map Text.trim = p.segments.map String.toList := by
    simp only [List.map_map, List.map_inj_left, Function.comp_apply]
    exact fun key hkey => (h key hkey).trim
  have hkeep : (p.segments.map String.toList).filter (fun cs => !cs.isEmpty) =
      p.segments.map String.toList := by
    refine List.filter_eq_self.mpr fun cs hcs => ?_
    obtain ⟨key, hkey, rfl⟩ := List.mem_map.mp hcs
    simp [(h key hkey).isEmpty]
  rw [parse, splitOn_text hne fun key hkey => (h key hkey).no_point, htrim, hkeep, List.map_map]
  simp [Function.comp_def]

/-- A text comes apart into pieces that do not hold what it is taken apart at. -/
theorem not_mem_of_mem_splitOn {α : Type} [BEq α] [LawfulBEq α] {separator : α}
    {cs piece : List α} (h : piece ∈ cs.splitOn separator) : separator ∉ piece := by
  -- On the text; a further character is a separator or goes to the first piece.
  induction cs generalizing piece with
  | nil => simp_all [List.splitOn_nil]
  | cons c cs ih =>
    obtain ⟨first, pieces, hsplit⟩ :=
      List.exists_cons_of_ne_nil (List.splitOn_ne_nil separator cs)
    rw [List.splitOn_cons_eq_if_modifyHead] at h
    split at h
    · rcases List.mem_cons.mp h with rfl | h
      · exact List.not_mem_nil
      · exact ih h
    · next hc =>
      rw [hsplit] at ih h
      rcases List.mem_cons.mp h with rfl | h
      · have hne : separator ≠ c := fun heq => hc (beq_iff_eq.mpr heq.symm)
        simp [hne, ih (List.mem_cons_self ..)]
      · exact ih (List.mem_cons_of_mem _ h)

/-- What is read from a text are plain keys. -/
theorem isPlainKey_of_mem_parse {dotted key : String} (h : key ∈ (parse dotted).segments) :
    IsPlainKey key := by
  obtain ⟨cs, hcs, rfl⟩ := List.mem_map.mp h
  obtain ⟨hcs, hne⟩ := List.mem_filter.mp hcs
  obtain ⟨piece, hpiece, rfl⟩ := List.mem_map.mp hcs
  have htrimmed := Text.isTrimmed_trim piece
  refine ⟨?_, ?_, ?_, ?_⟩
  · rintro hempty
    rw [String.ofList_eq_empty_iff] at hempty
    simp [hempty] at hne
  · rw [String.toList_ofList]
    exact fun hmem => not_mem_of_mem_splitOn hpiece (Text.mem_of_mem_trim hmem)
  · rw [String.toList_ofList]
    exact htrimmed.start
  · rw [String.toList_ofList]
    exact htrimmed.stop

/-! ## Reading back -/

/-- A path is read back from its text exactly when its keys are plain. All keys that are read from
a text are plain, so that a second reading changes nothing, and the paths that can be read are those
that are read back. -/
theorem plain_paths_are_read_back :
    (∀ p : Path, parse p.text = p ↔ ∀ key ∈ p.segments, IsPlainKey key) ∧
    (∀ dotted : String, ∀ key ∈ (parse dotted).segments, IsPlainKey key) ∧
    (∀ dotted : String, parse (parse dotted).text = parse dotted) ∧
    Set.range parse = {p | parse p.text = p} := by
  have hread : ∀ dotted : String, parse (parse dotted).text = parse dotted := fun dotted =>
    parse_text_of_plain fun key => isPlainKey_of_mem_parse
  refine ⟨fun p => ⟨fun h => ?_, parse_text_of_plain⟩, fun _ _ => isPlainKey_of_mem_parse, hread,
    ?_⟩
  · -- What has been read back has been read.
    rw [← h]
    exact fun key => isPlainKey_of_mem_parse
  · apply Set.eq_of_subset_of_subset
    · rintro p ⟨dotted, rfl⟩
      exact hread dotted
    · intro p h
      exact ⟨p.text, h⟩

/-- Blanks around keys and pieces without anything else are lost at the first reading and not
missed at the second. Next to a plain key, one that is empty, holds a point or ends in a blank is
not read back. -/
theorem path_read_twice :
    let path := parse " a .\u2003.. b\u00a0c\u3000."
    path = ⟨["a", "b\u00a0c"]⟩ ∧ parse path.text = path ∧
      ∀ key ∈ ["", "a.b", "a\u2003"], parse (Path.mk [key, "d"]).text ≠ ⟨[key, "d"]⟩ := by
  intro path
  obtain ⟨hiff, -, hagain, -⟩ := plain_paths_are_read_back
  refine ⟨by decide +kernel, hagain _, fun key hkey h => ?_⟩
  have hplain : IsPlainKey key := (hiff _).mp h key (List.mem_cons_self ..)
  simp only [List.mem_cons, List.not_mem_nil, or_false] at hkey
  rcases hkey with rfl | rfl | rfl
  · exact hplain.ne_empty rfl
  · exact hplain.no_point (by decide)
  · exact absurd (hplain.no_blank_after '\u2003' (by decide)) (by decide)

end LiveText.Path
