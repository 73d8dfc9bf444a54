import Mathlib
import LiveText.Text.Blank

/-!
# Trimming

What is left of a text between the blanks around it. Trimming takes characters away at the two ends
and nowhere else, and it ends where there is no blank at either end.

## Main definitions

- `Text.IsTrimmed`: a text without a blank at its start or at its end.

## Main statements

- `takeWhile_append_of_head`: where a stretch of characters of one kind ends.
- `Text.isTrimmed_trim`, `Text.IsTrimmed.trim`: the trimmed texts are those that trimming leaves.
-/

namespace LiveText

/-- A stretch of characters of one kind is all that is taken, if the next one is of another. -/
theorem takeWhile_append_of_head {f : Char → Bool} {cs ds : List Char}
    (hcs : ∀ c ∈ cs, f c = true) (hds : ∀ d ∈ ds.head?, f d = false) :
    (cs ++ ds).takeWhile f = cs ∧ (cs ++ ds).dropWhile f = ds := by
  rw [List.takeWhile_append_of_pos hcs, List.dropWhile_append_of_pos hcs]
  cases ds with
  | nil => exact ⟨List.append_nil cs, rfl⟩
  | cons d ds =>
    have hd : ¬ f d = true := by simp [hds d rfl]
    rw [List.takeWhile_cons_of_neg hd, List.dropWhile_cons_of_neg hd]
    exact ⟨List.append_nil cs, rfl⟩

namespace Text

/-- There is no blank at the start and none at the end. -/
structure IsTrimmed (cs : List Char) : Prop where
  start : ∀ c ∈ cs.head?, isBlank c = false
  stop : ∀ c ∈ cs.getLast?, isBlank c = false

theorem IsTrimmed.of_not_isBlank {cs : List Char} (h : ∀ c ∈ cs, isBlank c = false) :
    IsTrimmed cs where
  start c hc := h c (List.mem_of_mem_head? hc)
  stop c hc := h c (List.mem_of_mem_getLast? hc)

theorem trimEnd_eq_rdropWhile (cs : List Char) : trimEnd cs = cs.rdropWhile isBlank := rfl

theorem trimEnd_prefix_self (cs : List Char) : trimEnd cs <+: cs :=
  trimEnd_eq_rdropWhile cs ▸ List.rdropWhile_prefix isBlank cs

theorem mem_of_mem_trim {c : Char} {cs : List Char} (h : c ∈ trim cs) : c ∈ cs := by
  have hstart : c ∈ trimStart cs := (trimEnd_prefix_self _).subset h
  exact (List.dropWhile_suffix isBlank).subset hstart

/-- A text that has lost its blanks in front begins with another character. -/
theorem isBlank_of_mem_head?_trimStart (cs : List Char) {c : Char}
    (h : c ∈ (trimStart cs).head?) : isBlank c = false := by
  have hnot := List.head?_dropWhile_not isBlank cs
  simp only [trimStart] at h
  simpa [Option.mem_def.mp h] using hnot

/-- Nothing is left to be trimmed. -/
theorem isTrimmed_trim (cs : List Char) : IsTrimmed (trim cs) where
  start c hc := by
    -- What trimming at the end leaves begins as before.
    obtain ⟨rest, hrest⟩ := trimEnd_prefix_self (trimStart cs)
    apply isBlank_of_mem_head?_trimStart cs
    rw [← hrest]
    exact List.mem_head?_append_of_mem_head? hc
  stop c hc := by
    obtain ⟨hne, rfl⟩ := List.mem_getLast?_eq_getLast hc
    have hlast := List.rdropWhile_last_not isBlank (trimStart cs) hne
    exact Bool.eq_false_iff.mpr hlast

/-- A trimmed text stays as it is. -/
theorem IsTrimmed.trim {cs : List Char} (h : IsTrimmed cs) : Text.trim cs = cs := by
  have hstart : trimStart cs = cs := by
    cases cs with
    | nil => rfl
    | cons c cs => exact List.dropWhile_cons_of_neg (by simp [h.start c rfl])
  rw [Text.trim, hstart, trimEnd_eq_rdropWhile, List.rdropWhile_eq_self_iff]
  intro hne
  simp [h.stop _ (List.getLast?_eq_getLast_of_ne_nil hne)]

end Text

end LiveText
