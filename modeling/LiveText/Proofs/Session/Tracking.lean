import Mathlib
import LiveText.Proofs.Session.Parts
import LiveText.Proofs.State.History
import LiveText.Proofs.Template.Unresolved
import LiveText.Session.Editing
import LiveText.Session.Rendering

/-!
# Tracked reads

A read on behalf of whoever is collecting answers what a plain read of the whole data would. What it
leaves behind are registrations and nothing else: whoever is collecting comes last among the
subscribers of each property that is there and on the way, unless he is among them already. For a
template the ways of all placeholders count, also of those behind the one that it fails with.

## Main definitions

- `Value.FirstAbsent`, `Value.FirstUnresolved`: why a read fails.
- `State.newReaders`: whom reading adds to the subscribers of a property.
- `Session.ReadsFor`: what reading does to a session, and what it leaves alone.

## Main statements

- `readsFor_setState`: a session whose state has been read.
- `tracked_reads_are_plain`: templates and paths read from a state with any history.
-/

namespace LiveText

/-! ## Why a read fails -/

/-- The first key that is absent on the way of a path: the way leads to the place of the key, and
the key is not there. -/
def Value.FirstAbsent (tree : Value) (p : Path) (key : String) : Prop :=
  ∃ before behind, p.segments = before ++ key :: behind ∧
    (tree.walk? before).isSome = true ∧ tree.walk? (before ++ [key]) = none

/-- The first of some paths that leads nowhere. -/
def Value.FirstUnresolved (tree : Value) (ps : List Path) (p : Path) : Prop :=
  tree.walk? p.segments = none ∧
    ∃ front back, ps = front ++ p :: back ∧ ∀ q ∈ front, (tree.walk? q.segments).isSome = true

theorem Template.unresolved?_eq_some_iff {t : Template} {tree : Value} {p : Path} :
    t.unresolved? tree = some p ↔ tree.FirstUnresolved t.paths p := by
  rw [unresolved?, List.find?_eq_some_iff_append]
  simp only [Option.isNone_iff_eq_none, Option.not_isNone, Value.FirstUnresolved]

theorem Template.unresolved?_eq_none_iff {t : Template} {tree : Value} :
    t.unresolved? tree = none ↔ ∀ p ∈ t.paths, (tree.walk? p.segments).isSome = true := by
  rw [unresolved?, List.find?_eq_none]
  simp only [Bool.not_eq_true, Option.isNone_eq_false_iff]

/-- A template comes to its text, or to the fault of its first placeholder that leads nowhere. -/
theorem Template.shown_cases (t : Template) (tree : Value) :
    ((∀ p ∈ t.paths, (tree.walk? p.segments).isSome = true) → ∃ text, t.shown tree = .ok text) ∧
    ∀ p, tree.FirstUnresolved t.paths p →
      ∃ key, tree.FirstAbsent p key ∧ t.shown tree = .error (.missingDataPath p key) := by
  refine ⟨fun h => ?_, fun p h => ?_⟩
  · exact exists_shown_of_unresolved?_eq_none (unresolved?_eq_none_iff.mpr h)
  · obtain ⟨key, hkey, hshown⟩ := shown_of_unresolved? (unresolved?_eq_some_iff.mpr h)
    exact ⟨key, Value.absent?_eq_some_iff.mp hkey, hshown⟩

namespace State

variable {live : Liveness} {active : Option SubscriberId} {ps : List Path} {st st' : State}

/-- A path comes to its value, or to the fault of its first absent key. -/
theorem plainRead_cases (tree : Value) (p : Path) :
    (∀ v, plainRead tree p = .ok v ↔ tree.walk? p.segments = some v) ∧
    (tree.walk? p.segments = none →
      ∃ key, tree.FirstAbsent p key ∧ plainRead tree p = .error (.missingDataPath p key)) := by
  rw [plainRead]
  cases hv : tree.walk? p.segments with
  | some x => simp
  | none =>
    cases hkey : tree.absent? p.segments with
    | none =>
      rw [Value.absent?_eq_none_iff, hv] at hkey
      cases hkey
    | some key =>
      refine ⟨fun v => by simp, fun _ => ⟨key, Value.absent?_eq_some_iff.mp hkey, rfl⟩⟩

/-! ## Reading for nobody -/

theorem trackAt_none (live : Liveness) (st : State) (p : Path) : st.trackAt live none p = st := by
  have hsame : (fun s : Slot => if s.path = p then
      { s with publisher := s.publisher.track live none } else s) = id := by
    funext s
    exact ite_self s
  rw [trackAt, modifySlot, hsame, List.map_id]

theorem snd_trackAlong_none (live : Liveness) (ps : List Path) (st : State) :
    (trackAlong live none ps st).2 = st := by
  induction ps generalizing st with
  | nil => rfl
  | cons p rest ih =>
    rw [trackAlong]
    split
    · exact (ih _).trans (trackAt_none live st p)
    · rfl

/-- Nothing changes when a path is read while nobody is collecting. -/
theorem snd_readTracked_none (live : Liveness) (p : Path) (st : State) :
    (readTracked live none p st).2 = st := by
  rw [snd_readTracked, snd_trackAlong_none]

theorem snd_renderSegments_none (live : Liveness) (segments : List Segment) (st : State) :
    (Template.renderSegments (readTracked live none) segments st).2 = st := by
  induction segments with
  | nil => rfl
  | cons segment rest ih =>
    cases segment with
    | literal text => exact ih
    | placeholder p => rw [snd_renderSegments_placeholder, snd_readTracked_none, ih]

/-! ## Whom reading adds -/

/-- Whom reading paths adds to the subscribers of a property: whoever is collecting, if he lives,
the property is there and on the way of a path, and he is not among them. -/
def newReaders (live : Liveness) (active : Option SubscriberId) (ps : List Path) (st : State)
    (p : Path) : List SubscriberId :=
  active.toList.filter fun s =>
    live s = true ∧ st.contains p = true ∧ (∃ q ∈ ps, p.LeadsTo q) ∧ s ∉ st.readers live p

theorem newReaders_of_not_contains {p : Path} (h : st.contains p = false) :
    st.newReaders live active ps p = [] := by
  simp [newReaders, h]

theorem ReadBy.readers_eq_append (h : ReadBy live active ps st st') (p : Path) :
    st'.readers live p = st.readers live p ++ st.newReaders live active ps p := by
  rw [h.readers fun _ _ _ hx => hx, newReaders]
  cases active with
  | none => simp [joinedBy]
  | some s =>
    -- The newcomer is the one who is collecting, if all of the conditions hold.
    by_cases hway : (∃ q ∈ ps, p.LeadsTo q) ∧ st.contains p = true
    · by_cases hlive : live s = true
      · by_cases hmem : s ∈ st.readers live p
        · simp [joinedBy, hway, hlive, hmem, arrive_of_mem hmem]
        · simp [joinedBy, hway.1, hway.2, hlive, hmem, arrive_of_not_mem hmem]
      · simp [joinedBy, hlive]
    · rw [if_neg hway]
      have hnot : ¬ (live s = true ∧ st.contains p = true ∧ (∃ q ∈ ps, p.LeadsTo q) ∧
          s ∉ st.readers live p) := fun hs => hway ⟨hs.2.2.1, hs.2.1⟩
      simp [hnot]

end State

namespace Session

variable {w : Session} {i : StateId} {active : Option SubscriberId} {ps : List Path}

/-! ## What reading does to a session -/

/-- What reading paths from a state does to a session. -/
structure ReadsFor (active : Option SubscriberId) (i : StateId) (ps : List Path)
    (w w' : Session) : Prop where
  /-- Nothing changes but the state. -/
  elsewhere : w' = w.setState i (w'.state i)
  /-- It has its keys, its slots in their order, and what is in them. -/
  data : (w'.state i).data = (w.state i).data
  /-- Whoever is collecting comes last among the subscribers of what is on the ways. -/
  readers : ∀ p, (w'.state i).readers w.isLive p =
    (w.state i).readers w.isLive p ++ (w.state i).newReaders w.isLive active ps p
  /-- Nothing changes at all while nobody is collecting. -/
  idle : active = none → w' = w

theorem setState_state (w : Session) (i : StateId) : w.setState i (w.state i) = w := by
  have hstates : w.states.setIfInBounds i (w.state i) = w.states := by
    apply Array.ext_getElem?
    intro j
    rw [Array.getElem?_setIfInBounds, state]
    by_cases hij : i = j
    · subst hij
      by_cases hi : i < w.states.size
      · simp [hi]
      · simp [hi]
    · rw [if_neg hij]
  rw [setState, hstates]

theorem setState_of_size_le {st : State} (hi : w.states.size ≤ i) : w.setState i st = w := by
  rw [setState, Array.setIfInBounds_eq_of_size_le hi]

/-- A session whose state has been read. -/
theorem readsFor_setState {st : State} (h : State.ReadBy w.isLive active ps (w.state i) st)
    (hidle : active = none → st = w.state i) : ReadsFor active i ps w (w.setState i st) := by
  have hnone : active = none → w.setState i st = w := fun hactive => by
    rw [hidle hactive, setState_state]
  rcases Nat.lt_or_ge i w.states.size with hi | hi
  · have hst : (w.setState i st).state i = st := state_setState_of_lt st hi
    refine ⟨?_, ?_, fun p => ?_, hnone⟩
    · rw [hst]
    · rw [hst, h.data]
    · rw [hst, h.readers_eq_append]
  · -- There is no such state, hence no property that anybody could be registered with.
    rw [setState_of_size_le hi]
    refine ⟨(setState_state w i).symm, rfl, fun p => ?_, fun _ => rfl⟩
    have hnot : (w.state i).contains p = false := by
      rw [state_of_size_le hi]
      rfl
    rw [State.newReaders_of_not_contains hnot, List.append_nil]

/-- Tracked reads are plain reads that register. Whatever has happened to a state, a template that
is rendered from it for a collector comes to what it shows for the whole data if all of its
placeholders lead somewhere, and otherwise to the fault of the first one that does not. A path that
is read comes to the value that a plain read has, or to the fault of its first absent key. In any
case whoever is collecting is registered with the properties on the ways, and all else stays. -/
theorem tracked_reads_are_plain {data : Value} {history : List State.Event}
    (hdata : data.WellFormed) (hh : ∀ e ∈ history, e.WellFormed)
    (hstate : w.state i = (State.after data history).state) (c : CollectorId) :
    let active := (w.collector c).active
    let tree := (w.state i).snapshot
    (∀ t : Template,
      ((∀ p ∈ t.paths, (tree.walk? p.segments).isSome = true) →
        ∃ text, t.shown tree = .ok text ∧ (w.renderTemplate t i active).1 = .ok text) ∧
      (∀ p, tree.FirstUnresolved t.paths p → ∃ key, tree.FirstAbsent p key ∧
        (w.renderTemplate t i active).1 = .error (.missingDataPath p key)) ∧
      ReadsFor active i t.paths w (w.renderTemplate t i active).2) ∧
    ∀ p : Path,
      (∀ v, (w.readTracked i p c).1 = .value v ↔ (w.state i).valueAt? p = some v) ∧
      ((w.state i).valueAt? p = none → ∃ key, tree.FirstAbsent p key ∧
        (w.readTracked i p c).1 = .fault (.missingDataPath p key)) ∧
      ReadsFor active i [p] w (w.readTracked i p c).2 := by
  intro active tree
  have hrep : (w.state i).Represents tree := by
    have hafter := State.represents_after hdata hh
    rw [← hstate] at hafter
    have hsnapshot := hafter.snapshot_eq
    rwa [← hsnapshot] at hafter
  refine ⟨fun t => ?_, fun p => ?_⟩
  · have hrendered : (w.renderTemplate t i active).1 = t.shown tree :=
      hrep.renderWith_fst w.isLive active t
    have hidle : active = none →
        (t.renderWith (State.readTracked w.isLive active) (w.state i)).2 = w.state i := by
      intro hactive
      rw [hactive]
      exact State.snd_renderSegments_none w.isLive t.segments (w.state i)
    obtain ⟨hall, hfirst⟩ := t.shown_cases tree
    rw [hrendered]
    refine ⟨fun h => ?_, hfirst, ?_⟩
    · obtain ⟨text, htext⟩ := hall h
      exact ⟨text, htext, htext⟩
    · exact readsFor_setState (hrep.readBy_renderWith w.isLive active t) hidle
  · have hanswer : (w.readTracked i p c).1 = .ofExcept .value (State.plainRead tree p) :=
      congrArg (Answer.ofExcept .value) (hrep.readTracked_fst w.isLive active p)
    have hidle : active = none →
        (State.readTracked w.isLive active p (w.state i)).2 = w.state i := by
      intro hactive
      rw [hactive, State.snd_readTracked_none]
    obtain ⟨hvalue, hfault⟩ := State.plainRead_cases tree p
    rw [hanswer, hrep.valueAt?_eq]
    refine ⟨fun v => ?_, fun hnone => ?_, ?_⟩
    · rw [← hvalue]
      cases State.plainRead tree p with
      | ok x => simp [Answer.ofExcept]
      | error fault => simp [Answer.ofExcept]
    · obtain ⟨key, hkey, hread⟩ := hfault hnone
      exact ⟨key, hkey, by rw [hread]; rfl⟩
    · exact readsFor_setState (hrep.readBy_readTracked w.isLive active p) hidle

/-- A rendering that fails registers its reader with what is behind the placeholder that is the
reason. -/
theorem registered_behind_a_fault :
    let w : Session :=
      { subscribers := #[⟨none, .program [] 0 0⟩]
        collectors := #[⟨some 0⟩]
        states := #[State.observe (.object [("a", .object [("b", .null)]), ("e", .bool true)])]
        names := { subscribers := [("reader", 0)] } }
    let t : Template :=
      ⟨"\x7b\x7ba.b\x7d\x7d \x7b\x7ba.c.d\x7d\x7d \x7b\x7be\x7d\x7d",
        [.placeholder ⟨["a", "b"]⟩, .literal " ", .placeholder ⟨["a", "c", "d"]⟩, .literal " ",
          .placeholder ⟨["e"]⟩]⟩
    let result := w.renderTemplate t 0 (some 0)
    result.1 = .error (.missingDataPath ⟨["a", "c", "d"]⟩ "c") ∧
      (result.2.state 0).data = (w.state 0).data ∧
      (result.2.state 0).readers w.isLive ⟨["a", "b"]⟩ = [0] ∧
      (result.2.state 0).readers w.isLive ⟨["e"]⟩ = [0] := by
  intro w t result
  have hdata : (Value.object [("a", .object [("b", .null)]), ("e", .bool true)]).WellFormed := by
    refine .object _ (by decide) ?_
    intro e he
    simp only [List.mem_cons, List.not_mem_nil, or_false] at he
    rcases he with rfl | rfl
    · exact .object _ (List.nodup_singleton _) (by simpa using .null)
    · exact .bool true
  have hnothing : ∀ e ∈ ([] : List State.Event), e.WellFormed := by simp
  obtain ⟨-, hfirst, hreads⟩ :=
    (tracked_reads_are_plain (w := w) (i := 0) hdata hnothing rfl 0).1 t
  have hreason : ((w.state 0).snapshot).FirstUnresolved t.paths ⟨["a", "c", "d"]⟩ :=
    Template.unresolved?_eq_some_iff.mp (by decide +kernel)
  obtain ⟨key, hkey, hfault⟩ := hfirst _ hreason
  have hc : (w.state 0).snapshot.absent? ["a", "c", "d"] = some "c" := by decide +kernel
  obtain rfl : "c" = key :=
    Option.some.inj (hc.symm.trans (Value.absent?_eq_some_iff.mpr hkey))
  exact ⟨hfault, hreads.data, (hreads.readers _).trans (by decide +kernel),
    (hreads.readers _).trans (by decide +kernel)⟩

end Session

end LiveText
