import Mathlib
import LiveText.Path

/-!
# The tree order of paths

A path leads to another if that one continues it. This is the reflexive version of `isBelow`, read
from above, and the prefixes of a path are the paths that lead to it.

## Main definitions

- `Path.LeadsTo`.

## Main statements

- `isBelow_iff`, `mem_prefixes`: the two orders and the list agree.
- `parent?_eq_some_iff`, `isBelow_child_iff`: paths directly below another one.
-/

namespace LiveText.Path

/-- The second path is the first one, or lies below it. -/
def LeadsTo (a p : Path) : Prop :=
  a.segments <+: p.segments

instance (a p : Path) : Decidable (a.LeadsTo p) :=
  inferInstanceAs (Decidable (a.segments <+: p.segments))

theorem ext_segments {p q : Path} (h : p.segments = q.segments) : p = q := by
  cases p
  cases q
  exact congrArg Path.mk h

theorem segments_injective {p q : Path} : p.segments = q.segments ↔ p = q :=
  ⟨ext_segments, fun h => h ▸ rfl⟩

@[simp] theorem segments_root : root.segments = [] := rfl

@[simp] theorem segments_child (p : Path) (key : String) :
    (p.child key).segments = p.segments ++ [key] := rfl

@[simp] theorem length_child (p : Path) (key : String) : (p.child key).length = p.length + 1 := by
  simp [length]

theorem length_pos {p : Path} (h : p ≠ root) : 0 < p.length :=
  List.length_pos_iff.mpr fun hnil => h (ext_segments hnil)

theorem isRoot_iff {p : Path} : p.isRoot = true ↔ p = root := by
  rw [isRoot, List.isEmpty_iff, ← segments_injective, segments_root]

theorem child_ne_root (p : Path) (key : String) : p.child key ≠ root := by
  rw [ne_eq, ← segments_injective]
  simp

/-! ## Leading to -/

theorem LeadsTo.refl (p : Path) : p.LeadsTo p :=
  List.prefix_rfl

theorem LeadsTo.trans {a b c : Path} (hab : a.LeadsTo b) (hbc : b.LeadsTo c) : a.LeadsTo c :=
  List.IsPrefix.trans hab hbc

theorem leadsTo_child (p : Path) (key : String) : p.LeadsTo (p.child key) :=
  List.prefix_append ..

theorem LeadsTo.eq_of_root {a : Path} (h : a.LeadsTo root) : a = root :=
  ext_segments (List.prefix_nil.mp h)

/-- Strictly below means led to by another path. -/
theorem isBelow_iff {p a : Path} : p.isBelow a = true ↔ a.LeadsTo p ∧ p ≠ a := by
  rw [isBelow, Bool.and_eq_true, decide_eq_true_eq, List.isPrefixOf_iff_prefix]
  constructor
  · rintro ⟨hlen, hpre⟩
    refine ⟨hpre, fun heq => ?_⟩
    rw [heq] at hlen
    exact absurd hlen (Nat.lt_irrefl _)
  · rintro ⟨hpre, hne⟩
    refine ⟨Nat.lt_of_le_of_ne hpre.length_le fun hlen => hne ?_, hpre⟩
    exact ext_segments (hpre.eq_of_length hlen).symm

theorem isBelow_of_segments {p a : Path} {key : String} {keys : List String}
    (h : p.segments = a.segments ++ key :: keys) : p.isBelow a = true := by
  rw [isBelow_iff]
  refine ⟨⟨key :: keys, h.symm⟩, fun heq => ?_⟩
  rw [heq] at h
  simpa using congrArg List.length h

/-! ## Directly below -/

theorem parent?_child (p : Path) (key : String) : (p.child key).parent? = some p := by
  rw [parent?, segments_child, List.dropLast_concat]
  simp

theorem parent?_eq_some_iff {q r : Path} : r.parent? = some q ↔ ∃ key, r = q.child key := by
  constructor
  · intro h
    rw [parent?] at h
    split at h
    · cases h
    · next hne =>
      have hsegments : r.segments ≠ [] := by simpa using hne
      obtain rfl := Option.some.inj h
      refine ⟨r.segments.getLast hsegments, ext_segments ?_⟩
      rw [segments_child, List.dropLast_append_getLast]
  · rintro ⟨key, rfl⟩
    exact parent?_child q key

/-- What is directly below a path lies below the same paths and below this one. -/
theorem isBelow_child_iff {p q : Path} {key : String} :
    (q.child key).isBelow p = true ↔ p.LeadsTo q := by
  rw [isBelow_iff]
  constructor
  · rintro ⟨hlead, hne⟩
    rcases List.prefix_concat_iff.mp hlead with heq | hlead
    · exact absurd (ext_segments heq).symm hne
    · exact hlead
  · intro hlead
    refine ⟨hlead.trans (leadsTo_child q key), fun heq => ?_⟩
    have hlength := hlead.length_le
    rw [← heq, segments_child, List.length_append, List.length_singleton] at hlength
    exact Nat.not_succ_le_self _ hlength

/-- What is below a path and leads to another one has that below the path too. -/
theorem isBelow_of_leadsTo {p q r : Path} (h : q.isBelow p = true) (hlead : q.LeadsTo r) :
    r.isBelow p = true := by
  obtain ⟨hlead', hne⟩ := isBelow_iff.mp h
  refine isBelow_iff.mpr ⟨hlead'.trans hlead, ?_⟩
  rintro rfl
  exact hne (ext_segments (hlead.eq_of_length (Nat.le_antisymm hlead.length_le hlead'.length_le)))

/-- No two paths are below each other. -/
theorem isBelow_asymm {p q : Path} (h : q.isBelow p = true) : p.isBelow q = false := by
  rw [Bool.eq_false_iff]
  intro h'
  exact (isBelow_iff.mp (isBelow_of_leadsTo h (isBelow_iff.mp h').1)).2 rfl

/-- Two keys that lead from a path to the same one are the same. -/
theorem key_eq_of_leadsTo {p q : Path} {key key' : String} (h : (p.child key).LeadsTo q)
    (h' : (p.child key').LeadsTo q) : key = key' := by
  have htake := List.prefix_iff_eq_take.mp h
  have htake' := List.prefix_iff_eq_take.mp h'
  have hsegments : (p.child key).segments = (p.child key').segments := by
    rw [htake, htake']
    simp
  simpa using hsegments

/-! ## Prefixes -/

/-- The paths on the way from a path of keys down along further ones. -/
def prefixesFrom (base : List String) : List String → List Path
  | [] => []
  | key :: keys => ⟨base ++ [key]⟩ :: prefixesFrom (base ++ [key]) keys

theorem prefixesFrom_eq_map_range (base keys : List String) :
    prefixesFrom base keys =
      (List.range keys.length).map fun n => ⟨base ++ keys.take (n + 1)⟩ := by
  induction keys generalizing base with
  | nil => rfl
  | cons key keys ih =>
    rw [prefixesFrom, ih, List.length_cons, List.range_succ_eq_map, List.map_cons, List.map_map]
    simp [Function.comp_def]

theorem prefixes_eq (p : Path) : p.prefixes = prefixesFrom [] p.segments := by
  rw [prefixesFrom_eq_map_range]
  rfl

theorem leadsTo_of_mem_prefixesFrom {base keys : List String} {q : Path}
    (h : q ∈ prefixesFrom base keys) : LeadsTo ⟨base⟩ q ∧ q ≠ ⟨base⟩ := by
  rw [prefixesFrom_eq_map_range, List.mem_map] at h
  obtain ⟨n, hn, rfl⟩ := h
  refine ⟨List.prefix_append .., fun heq => ?_⟩
  have hlen := congrArg (fun q : Path => q.segments.length) heq
  rw [List.mem_range] at hn
  simp only [List.length_append, List.length_take] at hlen
  omega

/-- Each prefix leads to the later ones. -/
theorem prefixesFrom_pairwise (base keys : List String) :
    (prefixesFrom base keys).Pairwise fun a b => a.LeadsTo b ∧ b ≠ a := by
  induction keys generalizing base with
  | nil => exact .nil
  | cons key keys ih => exact .cons (fun _ => leadsTo_of_mem_prefixesFrom) (ih _)

theorem prefixes_pairwise (p : Path) : p.prefixes.Pairwise fun a b => a.LeadsTo b ∧ b ≠ a :=
  prefixes_eq p ▸ prefixesFrom_pairwise [] p.segments

theorem nodup_prefixes (p : Path) : p.prefixes.Nodup :=
  p.prefixes_pairwise.imp fun h => h.2.symm

/-- The prefixes of a path are the paths that lead to it, without the root. -/
theorem mem_prefixes {q p : Path} : q ∈ p.prefixes ↔ q ≠ root ∧ q.LeadsTo p := by
  rw [prefixes, List.mem_map]
  constructor
  · rintro ⟨n, hn, rfl⟩
    rw [List.mem_range] at hn
    refine ⟨fun hroot => ?_, List.take_prefix ..⟩
    have hlen := congrArg (fun q : Path => q.segments.length) hroot
    simp at hlen
    rw [hlen] at hn
    simp at hn
  · rintro ⟨hne, hpre⟩
    -- A path of n keys is the prefix at place n - 1.
    have hpos : 0 < q.segments.length := length_pos hne
    refine ⟨q.segments.length - 1, ?_, ?_⟩
    · have hle := hpre.length_le
      rw [List.mem_range]
      omega
    · apply ext_segments
      dsimp only
      rw [Nat.sub_add_cancel hpos]
      exact (List.prefix_iff_eq_take.mp hpre).symm

/-- Where a property implies those above it, the prefixes that come before the first one missing
are those that are there. -/
theorem mem_takeWhile_prefixes {there : Path → Bool}
    (hclosed : ∀ a b, a ≠ root → a.LeadsTo b → there b = true → there a = true) (q p : Path) :
    q ∈ p.prefixes.takeWhile there ↔ q ∈ p.prefixes ∧ there q = true := by
  have hroot : ∀ a ∈ p.prefixes, a ≠ root := fun a ha => (mem_prefixes.mp ha).1
  -- On the prefixes, of which each leads to those that come after it.
  have hchain := p.prefixes_pairwise
  generalize p.prefixes = ps at hroot hchain ⊢
  induction ps with
  | nil => simp
  | cons a rest ih =>
    rw [List.pairwise_cons] at hchain
    by_cases ha : there a = true
    · have hrest := ih (fun b hb => hroot b (List.mem_cons_of_mem _ hb)) hchain.2
      simp only [List.takeWhile_cons_of_pos ha, List.mem_cons, hrest]
      constructor
      · rintro (rfl | ⟨hq, hthere⟩)
        · exact ⟨.inl rfl, ha⟩
        · exact ⟨.inr hq, hthere⟩
      · rintro ⟨rfl | hq, hthere⟩
        · exact .inl rfl
        · exact .inr ⟨hq, hthere⟩
    -- Were a later prefix there, the first one would be there too.
    · rw [List.takeWhile_cons_of_neg ha]
      refine ⟨fun hq => absurd hq (List.not_mem_nil), ?_⟩
      rintro ⟨hq, hthere⟩
      refine absurd ?_ ha
      rcases List.mem_cons.mp hq with rfl | hq
      · exact hthere
      · exact hclosed a q (hroot a (List.mem_cons_self ..)) (hchain.1 q hq).1 hthere

end LiveText.Path
