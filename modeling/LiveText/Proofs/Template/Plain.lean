import Mathlib
import LiveText.Proofs.State.Readers
import LiveText.Template.Basic

/-!
# Templates rendered from a tree

What a template shows for one nested value: literals as they are, and for each placeholder the text
of the value reached by walking down key by key. Rendering from a state on behalf of whoever is
collecting comes to this, and registers the reader with everything on the ways of the template,
also behind a placeholder that cannot be read.

## Main definitions

- `Template.shown`: what a template shows for a tree, or why it cannot.

## Main statements

- `Represents.renderWith_fst`, `Represents.readBy_renderWith`: rendering from a state.
- `Template.shown_congr`: what is shown depends only on what is at the ends of the ways.
-/

namespace LiveText

/-! ## From a text -/

/-- A template keeps the text that it has been made of. -/
theorem Template.source_of_parse {text : String} {t : Template}
    (h : Template.parse text = some t) : t.source = text := by
  simp only [parse] at h
  split at h
  · exact (congrArg source (Option.some.inj h)).symm
  · cases h

theorem Template.ne_empty_of_parse {text : String} {t : Template}
    (h : Template.parse text = some t) : text ≠ "" := by
  rintro rfl
  have hnone : Template.parse "" = none := by decide +kernel
  cases hnone.symm.trans h

/-! ## From a tree -/

/-- What a piece of a template shows for a tree. -/
def Segment.shown (tree : Value) : Segment → Except Fault String
  | .literal text => .ok text
  | .placeholder path => (State.plainRead tree path).map Value.text

/-- What pieces of a template show for a tree one after the other; the first fault counts. -/
def shownAll (tree : Value) : List Segment → Except Fault String
  | [] => .ok ""
  | segment :: rest => do
    let text ← segment.shown tree
    let texts ← shownAll tree rest
    pure (text ++ texts)

/-- What a template shows for a tree. -/
def Template.shown (t : Template) (tree : Value) : Except Fault String :=
  shownAll tree t.segments

/-- The text of a value shows no more of an object than that it is one. -/
theorem Value.text_eq_of_content {v v' : Value}
    (h : SlotContent.ofValue v = SlotContent.ofValue v') : v.text = v'.text := by
  cases v with
  | object entries =>
    cases v' with
    | object entries' => rfl
    | _ => cases h
  | _ =>
    cases v' with
    | object entries' => cases h
    | _ => exact congrArg text (SlotContent.leaf.inj h)

theorem Segment.shown_congr {tree tree' : Value} {segment : Segment} {text : String}
    (hsame : ∀ p, segment.path? = some p →
      (tree'.walk? p.segments).map SlotContent.ofValue =
        (tree.walk? p.segments).map SlotContent.ofValue)
    (h : segment.shown tree = .ok text) : segment.shown tree' = .ok text := by
  cases segment with
  | literal _ => exact h
  | placeholder p =>
    have hcontent := hsame p rfl
    rw [shown, State.plainRead] at h ⊢
    cases hv : tree.walk? p.segments with
    | none => simp [hv, Except.map] at h
    | some v =>
      rw [hv, Option.map_some, Option.map_eq_some_iff] at hcontent
      obtain ⟨v', hv', hvv⟩ := hcontent
      rw [hv] at h
      rw [hv']
      simpa [Except.map, Value.text_eq_of_content hvv] using h

/-- What is shown depends only on what is found at the ends of the ways of the template. -/
theorem Template.shown_congr {tree tree' : Value} {t : Template} {text : String}
    (hsame : ∀ p ∈ t.paths, (tree'.walk? p.segments).map SlotContent.ofValue =
      (tree.walk? p.segments).map SlotContent.ofValue)
    (h : t.shown tree = .ok text) : t.shown tree' = .ok text := by
  rw [shown] at h ⊢
  rw [paths] at hsame
  -- On the segments; both the first one and the rest have come out.
  generalize t.segments = segments at h hsame ⊢
  induction segments generalizing text with
  | nil => exact h
  | cons segment rest ih =>
    rw [shownAll] at h ⊢
    cases hfirst : segment.shown tree with
    | error fault => simp [hfirst, bind, Except.bind] at h
    | ok first =>
      cases hrest : shownAll tree rest with
      | error fault => simp [hfirst, hrest, bind, Except.bind] at h
      | ok texts =>
        have hfirst' : segment.shown tree' = .ok first := by
          refine Segment.shown_congr (fun p hp => hsame p ?_) hfirst
          exact List.mem_filterMap.mpr ⟨segment, List.mem_cons_self .., hp⟩
        have hrest' : shownAll tree' rest = .ok texts := by
          refine ih hrest fun p hp => hsame p ?_
          obtain ⟨s, hs, hsp⟩ := List.mem_filterMap.mp hp
          exact List.mem_filterMap.mpr ⟨s, List.mem_cons_of_mem _ hs, hsp⟩
        rw [hfirst, hrest] at h
        rw [hfirst', hrest']
        exact h

/-- What is shown has been found: the ways of the template all lead somewhere. -/
theorem Template.walk?_isSome_of_shown {tree : Value} {t : Template} {text : String}
    (h : t.shown tree = .ok text) {p : Path} (hp : p ∈ t.paths) :
    (tree.walk? p.segments).isSome = true := by
  rw [shown] at h
  rw [paths] at hp
  -- On the segments: the path belongs to the first one or to the rest.
  generalize t.segments = segments at h hp
  induction segments generalizing text with
  | nil => cases hp
  | cons segment rest ih =>
    rw [shownAll] at h
    cases hfirst : segment.shown tree with
    | error fault => simp [hfirst, bind, Except.bind] at h
    | ok first =>
      cases hrest : shownAll tree rest with
      | error fault => simp [hfirst, hrest, bind, Except.bind] at h
      | ok texts =>
        obtain ⟨s, hs, hsp⟩ := List.mem_filterMap.mp hp
        rcases List.mem_cons.mp hs with rfl | hs
        · cases s with
          | literal text => cases hsp
          | placeholder q =>
            cases hsp
            rw [Segment.shown, State.plainRead] at hfirst
            cases hv : tree.walk? p.segments with
            | none => simp [hv, Except.map] at hfirst
            | some v => rfl
        · exact ih hrest (List.mem_filterMap.mpr ⟨s, hs, hsp⟩)

/-! ## From a state -/

namespace State

variable {st : State} {tree : Value}

/-- Whether or not a placeholder can be read, the rest is read after it. -/
theorem snd_renderSegments_placeholder (live : Liveness) (active : Option SubscriberId) (p : Path)
    (rest : List Segment) (st : State) :
    (Template.renderSegments (State.readTracked live active) (.placeholder p :: rest) st).2 =
      (Template.renderSegments (State.readTracked live active) rest
        (State.readTracked live active p st).2).2 := by
  rw [Template.renderSegments]
  dsimp only
  split <;> rfl

theorem data_renderSegments (live : Liveness) (active : Option SubscriberId)
    (segments : List Segment) (st : State) :
    (Template.renderSegments (State.readTracked live active) segments st).2.data = st.data := by
  induction segments generalizing st with
  | nil => rfl
  | cons segment rest ih =>
    cases segment with
    | literal text => exact ih st
    | placeholder p =>
      rw [snd_renderSegments_placeholder]
      exact (ih _).trans (data_readTracked live active p st)

/-- Rendering reads, and keeps the data. -/
theorem data_renderWith (live : Liveness) (active : Option SubscriberId) (t : Template)
    (st : State) : (t.renderWith (State.readTracked live active) st).2.data = st.data :=
  data_renderSegments live active t.segments st

theorem Represents.renderSegments_fst (h : st.Represents tree) (live : Liveness)
    (active : Option SubscriberId) (segments : List Segment) :
    (Template.renderSegments (State.readTracked live active) segments st).1 =
      shownAll tree segments := by
  induction segments generalizing st with
  | nil => rfl
  | cons segment rest ih =>
    rw [shownAll]
    cases segment with
    | literal text =>
      rw [Template.renderSegments]
      dsimp only
      rw [ih h, Segment.shown]
      cases shownAll tree rest <;> rfl
    | placeholder p =>
      -- The state after the read stands for the same tree, so that the rest goes on as planned.
      have hread := h.readTracked_fst live active p
      have hrest := ih (h.readTracked live active p)
      rw [Template.renderSegments, Segment.shown]
      dsimp only
      rw [hrest, hread]
      cases plainRead tree p with
      | error fault => rfl
      | ok v => cases shownAll tree rest <;> rfl

theorem Represents.readBy_renderSegments (h : st.Represents tree) (live : Liveness)
    (active : Option SubscriberId) (segments : List Segment) :
    ReadBy live active (segments.filterMap Segment.path?) st
      (Template.renderSegments (State.readTracked live active) segments st).2 := by
  induction segments generalizing st with
  | nil => exact .nil st
  | cons segment rest ih =>
    cases segment with
    | literal text =>
      rw [Template.renderSegments, List.filterMap_cons_none rfl]
      exact ih h
    | placeholder p =>
      have hfirst := h.readBy_readTracked live active p
      have hrest := ih (h.readTracked live active p)
      have hpaths : (Segment.placeholder p :: rest).filterMap Segment.path? =
          p :: rest.filterMap Segment.path? := rfl
      rw [snd_renderSegments_placeholder, hpaths]
      exact hfirst.append hrest

/-- A template rendered from a state shows what it shows for the tree. -/
theorem Represents.renderWith_fst (h : st.Represents tree) (live : Liveness)
    (active : Option SubscriberId) (t : Template) :
    (t.renderWith (State.readTracked live active) st).1 = t.shown tree :=
  h.renderSegments_fst live active t.segments

/-- Rendering reads the paths of all placeholders, whatever comes of it. -/
theorem Represents.readBy_renderWith (h : st.Represents tree) (live : Liveness)
    (active : Option SubscriberId) (t : Template) :
    ReadBy live active t.paths st (t.renderWith (State.readTracked live active) st).2 :=
  h.readBy_renderSegments live active t.segments

end State

end LiveText
