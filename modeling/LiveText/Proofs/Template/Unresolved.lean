import Mathlib
import LiveText.Proofs.Template.Plain

/-!
# Placeholders that lead nowhere

A template that cannot be rendered fails with the first of its placeholders, in textual order, whose
way is interrupted, and with the first key on that way that is missing. The outcome depends on no
more of a tree than what kinds of things stand on the ways.

## Main definitions

- `Template.unresolved?`: the first placeholder that leads nowhere.

## Main statements

- `Value.absent?_eq_some_iff`: which key is the first missing one.
- `shown_of_unresolved?`, `exists_shown_of_unresolved?_eq_none`: why a template fails, and when it
  does not.
- `shown_eq_of_contents`: two trees for which a template comes to the same.
-/

namespace LiveText

/-! ## The first missing key -/

/-- The first missing key of a way: the part before it leads somewhere, but not on to the key. -/
theorem Value.absent?_eq_some_iff {v : Value} {keys : List String} {key : String} :
    v.absent? keys = some key ↔ ∃ before behind, keys = before ++ key :: behind ∧
      (v.walk? before).isSome = true ∧ v.walk? (before ++ [key]) = none := by
  -- On the way: the first key is missing, or the search goes on below it.
  induction keys generalizing v with
  | nil => simp [absent?]
  | cons k ks ih =>
    rw [absent?]
    cases hget : v.get? k with
    | none =>
      constructor
      · intro h
        obtain rfl := Option.some.inj h
        exact ⟨[], ks, rfl, rfl, by rw [List.nil_append, walk?_cons, hget, Option.bind_none]⟩
      · rintro ⟨before, behind, hkeys, hbefore, -⟩
        cases before with
        | nil => exact congrArg some (List.cons.inj hkeys).1
        | cons b bs =>
          obtain ⟨rfl, -⟩ := List.cons.inj hkeys
          rw [walk?_cons, hget, Option.bind_none] at hbefore
          cases hbefore
    | some x =>
      refine ih.trans ⟨?_, ?_⟩
      · rintro ⟨before, behind, rfl, hbefore, hkey⟩
        refine ⟨k :: before, behind, rfl, ?_, ?_⟩
        · rwa [walk?_cons, hget, Option.bind_some]
        · rwa [List.cons_append, walk?_cons, hget, Option.bind_some]
      · rintro ⟨before, behind, hkeys, hbefore, hkey⟩
        cases before with
        | nil =>
          obtain ⟨rfl, -⟩ := List.cons.inj hkeys
          rw [List.nil_append, walk?_cons, hget, Option.bind_some, walk?_nil] at hkey
          cases hkey
        | cons b bs =>
          obtain ⟨rfl, hks⟩ := List.cons.inj hkeys
          rw [walk?_cons, hget, Option.bind_some] at hbefore
          rw [List.cons_append, walk?_cons, hget, Option.bind_some] at hkey
          exact ⟨bs, behind, hks, hbefore, hkey⟩

/-- Where ways come equally far, the same key is the first missing one. -/
theorem Value.absent?_congr {v v' : Value} {keys : List String}
    (h : ∀ r, r <+: keys → (v'.walk? r).isSome = (v.walk? r).isSome) :
    v'.absent? keys = v.absent? keys := by
  have hnone : ∀ r, r <+: keys → (v'.walk? r = none ↔ v.walk? r = none) := by
    intro r hr
    rw [← Option.isSome_eq_false_iff.trans Option.isNone_iff_eq_none, h r hr,
      Option.isSome_eq_false_iff, Option.isNone_iff_eq_none]
  refine Option.ext fun key => ?_
  rw [absent?_eq_some_iff, absent?_eq_some_iff]
  refine exists_congr fun before => exists_congr fun behind => and_congr_right fun hkeys => ?_
  subst hkeys
  have hkey : before ++ [key] <+: before ++ key :: behind := by
    rw [List.prefix_append_right_inj]
    exact ⟨behind, rfl⟩
  rw [h before (List.prefix_append ..), hnone _ hkey]

/-! ## Why a template fails -/

namespace Template

variable {t : Template} {tree tree' : Value} {path : Path}

/-- The first placeholder of the template, in textual order, that leads nowhere. -/
def unresolved? (t : Template) (tree : Value) : Option Path :=
  t.paths.find? fun p => (tree.walk? p.segments).isNone

theorem filterMap_path?_placeholder (p : Path) (rest : List Segment) :
    (Segment.placeholder p :: rest).filterMap Segment.path? = p :: rest.filterMap Segment.path? :=
  rfl

theorem shownAll_of_find? {segments : List Segment}
    (h : (segments.filterMap Segment.path?).find? (fun p => (tree.walk? p.segments).isNone) =
      some path) :
    shownAll tree segments = (State.plainRead tree path).map Value.text := by
  have hpath := List.find?_some h
  rw [Option.isNone_iff_eq_none] at hpath
  -- On the segments: whatever stands in front of the placeholder comes out.
  induction segments with
  | nil => cases h
  | cons segment rest ih =>
    rw [shownAll]
    cases segment with
    | literal text =>
      rw [ih h, Segment.shown, State.plainRead, hpath]
      rfl
    | placeholder q =>
      rw [filterMap_path?_placeholder, List.find?_cons] at h
      cases hq : tree.walk? q.segments with
      | none =>
        rw [hq] at h
        obtain rfl : q = path := Option.some.inj h
        rw [Segment.shown, State.plainRead, hq]
        rfl
      | some v =>
        rw [hq] at h
        rw [ih h, Segment.shown, State.plainRead, State.plainRead, hq, hpath]
        rfl

/-- A template fails because of its first placeholder that leads nowhere. -/
theorem shown_of_unresolved? (h : t.unresolved? tree = some path) :
    ∃ key, tree.absent? path.segments = some key ∧
      t.shown tree = .error (.missingDataPath path key) := by
  have hpath := List.find?_some h
  rw [Option.isNone_iff_eq_none] at hpath
  cases hkey : tree.absent? path.segments with
  | none =>
    rw [Value.absent?_eq_none_iff, hpath] at hkey
    cases hkey
  | some key =>
    refine ⟨key, rfl, ?_⟩
    rw [shown, shownAll_of_find? h, State.plainRead, hpath, hkey]
    rfl

/-- A template comes out if all of its placeholders lead somewhere. -/
theorem exists_shown_of_unresolved?_eq_none (h : t.unresolved? tree = none) :
    ∃ text, t.shown tree = .ok text := by
  have hall : ∀ p ∈ t.segments.filterMap Segment.path?, (tree.walk? p.segments).isSome = true := by
    intro p hp
    have hsome := List.find?_eq_none.mp h p hp
    rwa [Bool.not_eq_true, Option.isNone_eq_false_iff] at hsome
  rw [shown]
  generalize t.segments = segments at hall ⊢
  induction segments with
  | nil => exact ⟨"", rfl⟩
  | cons segment rest ih =>
    cases segment with
    | literal text =>
      obtain ⟨texts, hrest⟩ := ih hall
      exact ⟨text ++ texts, by rw [shownAll, hrest]; rfl⟩
    | placeholder p =>
      rw [filterMap_path?_placeholder] at hall
      obtain ⟨texts, hrest⟩ := ih fun q hq => hall q (List.mem_cons_of_mem _ hq)
      obtain ⟨v, hv⟩ := Option.isSome_iff_exists.mp (hall p (List.mem_cons_self ..))
      refine ⟨v.text ++ texts, ?_⟩
      rw [shownAll, Segment.shown, State.plainRead, hv, hrest]
      rfl

/-! ## Trees that make no difference -/

/-- What a template comes to depends on the contents that are found on its ways, and on nothing
below their ends. -/
theorem shown_eq_of_contents (h : ∀ p ∈ t.paths, ∀ r, r <+: p.segments →
      (tree'.walk? r).map SlotContent.ofValue = (tree.walk? r).map SlotContent.ofValue) :
    t.shown tree' = t.shown tree := by
  have hread : ∀ p ∈ t.paths, (State.plainRead tree' p).map Value.text =
      (State.plainRead tree p).map Value.text := by
    intro p hp
    have hsome : ∀ r, r <+: p.segments → (tree'.walk? r).isSome = (tree.walk? r).isSome := by
      intro r hr
      have hcontent := congrArg Option.isSome (h p hp r hr)
      rwa [Option.isSome_map, Option.isSome_map] at hcontent
    have hend := h p hp p.segments (List.prefix_refl _)
    rw [State.plainRead, State.plainRead, Value.absent?_congr hsome]
    cases hv : tree.walk? p.segments with
    | none =>
      rw [hv, Option.map_none, Option.map_eq_none_iff] at hend
      rw [hend]
    | some v =>
      rw [hv, Option.map_some, Option.map_eq_some_iff] at hend
      obtain ⟨v', hv', hsame⟩ := hend
      rw [hv']
      exact congrArg Except.ok (Value.text_eq_of_content hsame)
  rw [paths] at hread
  rw [shown, shown]
  -- On the segments, each of which comes to the same.
  generalize t.segments = segments at hread ⊢
  induction segments with
  | nil => rfl
  | cons segment rest ih =>
    rw [shownAll, shownAll]
    cases segment with
    | literal text => rw [ih hread, Segment.shown, Segment.shown]
    | placeholder p =>
      rw [filterMap_path?_placeholder] at hread
      rw [ih fun q hq => hread q (List.mem_cons_of_mem _ hq), Segment.shown, Segment.shown,
        hread p (List.mem_cons_self ..)]

/-- A subtree that no way leads to or through makes no difference. -/
theorem shown_replaceAt {p : Path} (v : Value) (h : ∀ q ∈ t.paths, ¬ p.LeadsTo q) :
    t.shown (Value.replaceAt v p.segments tree) = t.shown tree := by
  apply shown_eq_of_contents
  intro q hq r hr
  apply Value.content_walk?_replaceAt
  exact fun hp => h q hq (hp.trans hr)

end Template

end LiveText
