import Mathlib
import LiveText.Proofs.Template.Plain

/-!
# Histories of a state

A state is made from data and then read, rendered from and written to, while subscribers cease to
live. After each event it stands for the tree that the successful writes have made of the data. Who
is registered with a property is told by the history alone: whoever has read it, or something below
it, since it was last missing.

## Main definitions

- `Event`, `Moment`, `after`: a history and the state that it leaves.
- `treeAfter`: the tree that the successful writes of a history make.
- `LastingRead`: a read of a property that has been there ever since.

## Main statements

- `represents_after`: the state stands for the tree.
- `readers_after`: the registered subscribers are those with a lasting read, in the order of their
  first ones.
-/

namespace LiveText.State

/-- What can happen to a state. -/
inductive Event where
  /-- A path is read on behalf of whoever is collecting. -/
  | read (reader : Option SubscriberId) (path : Path)
  /-- A template is rendered on behalf of whoever is collecting. -/
  | render (reader : Option SubscriberId) (template : Template)
  /-- A value is written to a path. -/
  | write (path : Path) (value : Value)
  /-- A subscriber ceases to live. -/
  | death (subscriber : SubscriberId)

/-- A state at a moment, with the subscribers that are gone. -/
structure Moment where
  state : State
  dead : List SubscriberId := []

namespace Moment

/-- Who lives. -/
def live (m : Moment) : Liveness :=
  fun s => !m.dead.contains s

/-- The moment after an event. A path that names no property is not written to. -/
def next (m : Moment) : Event → Moment
  | .read reader path => { m with state := (State.readTracked m.live reader path m.state).2 }
  | .render reader t =>
    { m with state := (t.renderWith (State.readTracked m.live reader) m.state).2 }
  | .write path value =>
    match m.state.assign? m.live path value with
    | some (_, st) => { m with state := st }
    | none => m
  | .death s => { m with dead := s :: m.dead }

end Moment

/-- The moment after a history that begins with the state of some data. -/
def after (data : Value) (history : List Event) : Moment :=
  history.foldl Moment.next ⟨observe data, []⟩

theorem after_concat (data : Value) (history : List Event) (e : Event) :
    after data (history ++ [e]) = (after data history).next e := by
  rw [after, List.foldl_append]
  rfl

/-! ## The tree -/

/-- Whether a path names a property of a tree; the tree as a whole is none. -/
def HasProperty (tree : Value) (p : Path) : Prop :=
  p ≠ Path.root ∧ (tree.walk? p.segments).isSome = true

instance (tree : Value) (p : Path) : Decidable (HasProperty tree p) :=
  inferInstanceAs (Decidable (_ ∧ _))

theorem Represents.contains_iff_hasProperty {st : State} {tree : Value} (h : st.Represents tree)
    (p : Path) : st.contains p = true ↔ HasProperty tree p :=
  h.contains_iff p

/-- The tree after an event: a write to a property replaces the subtree there, all else leaves the
tree as it is. -/
def Event.onTree (tree : Value) : Event → Value
  | .write p v => if HasProperty tree p then Value.replaceAt v p.segments tree else tree
  | _ => tree

/-- The tree after a history that begins with some data. -/
def treeAfter (data : Value) (history : List Event) : Value :=
  history.foldl Event.onTree (treeOf data)

theorem treeAfter_concat (data : Value) (history : List Event) (e : Event) :
    treeAfter data (history ++ [e]) = e.onTree (treeAfter data history) := by
  rw [treeAfter, List.foldl_append]
  rfl

/-- No written value holds a key twice. -/
def Event.WellFormed : Event → Prop
  | .write _ v => v.WellFormed
  | _ => True

variable {data : Value} {history : List Event}

/-- What a write comes to, in a state that stands for a tree. -/
theorem Moment.next_write {m : Moment} {tree : Value} (h : m.state.Represents tree) (p : Path)
    (v : Value) :
    m.next (.write p v) =
      if HasProperty tree p then { m with state := m.state.afterWrite m.live p v } else m := by
  have hcontains := h.contains_iff_hasProperty p
  rw [Moment.next]
  split
  · next st heq =>
    cases hp : m.state.contains p with
    | false => simp [(assign?_eq_none_iff m.live p v).mpr hp] at heq
    | true =>
      rw [assign?_of_contains m.live v hp, Option.some.injEq, Prod.mk.injEq] at heq
      rw [if_pos (hcontains.mp hp), ← heq.2]
  · next heq =>
    rw [assign?_eq_none_iff] at heq
    rw [if_neg fun hp => Bool.false_ne_true (heq ▸ hcontains.mpr hp)]

/-- One event keeps state and tree together. -/
theorem represents_next {m : Moment} {tree : Value} (h : m.state.Represents tree) {e : Event}
    (he : e.WellFormed) : (m.next e).state.Represents (e.onTree tree) := by
  cases e with
  | read reader p => exact h.readTracked m.live reader p
  | render reader t => exact (h.readBy_renderWith m.live reader t).represents h
  | write p v =>
    rw [m.next_write h, Event.onTree]
    split
    · next hp => exact h.afterWrite m.live he ((h.contains_iff_hasProperty p).mpr hp)
    · exact h
  | death s => exact h

/-- After a history the state stands for the tree that its successful writes have made. -/
theorem represents_after (hdata : data.WellFormed) (hh : ∀ e ∈ history, e.WellFormed) :
    (after data history).state.Represents (treeAfter data history) := by
  -- On the history from its end: the last event is one step from the moment before.
  induction history using List.reverseRecOn with
  | nil => exact represents_observe hdata
  | append_singleton history e ih =>
    rw [after_concat, treeAfter_concat]
    refine represents_next (ih fun x hx => hh x ?_) (hh e ?_)
    · exact List.mem_append_left _ hx
    · exact List.mem_append_right _ (List.mem_singleton_self e)

theorem orderly_next {m : Moment} {tree : Value} (h : m.state.Represents tree)
    (ho : m.state.Orderly) (e : Event) : (m.next e).state.Orderly := by
  cases e with
  | read reader p => exact (h.readBy_readTracked m.live reader p).orderly ho
  | render reader t => exact (h.readBy_renderWith m.live reader t).orderly ho
  | write p v =>
    rw [m.next_write h]
    split
    · exact orderly_afterWrite ho m.live p v
    · exact ho
  | death s => exact ho

theorem orderly_after (hdata : data.WellFormed) (hh : ∀ e ∈ history, e.WellFormed) :
    (after data history).state.Orderly := by
  induction history using List.reverseRecOn with
  | nil => exact orderly_observe data
  | append_singleton history e ih =>
    have hbefore : ∀ x ∈ history, x.WellFormed := fun x hx => hh x (List.mem_append_left _ hx)
    rw [after_concat]
    exact orderly_next (represents_after hdata hbefore) (ih hbefore) e

/-- Whoever lives after an event lived before it. -/
theorem Moment.live_of_next {m : Moment} {e : Event} {s : SubscriberId}
    (h : (m.next e).live s = true) : m.live s = true := by
  cases e with
  | death t =>
    rw [live, Bool.not_eq_true'] at h ⊢
    rw [next] at h
    simp only [List.contains_cons, Bool.or_eq_false_iff] at h
    exact h.2
  | write p v =>
    rw [next] at h
    split at h <;> exact h
  | _ => exact h

/-! ## Lasting reads -/

/-- Whoever is collecting when paths are read. -/
def Event.reader : Event → Option SubscriberId
  | .read reader _ | .render reader _ => reader
  | _ => none

/-- The paths that are read. -/
def Event.paths : Event → List Path
  | .read _ path => [path]
  | .render _ t => t.paths
  | _ => []

/-- The event reads a property, or something below it. -/
def Event.Passes (p : Path) (e : Event) : Prop :=
  ∃ path ∈ e.paths, p.LeadsTo path

instance (p : Path) (e : Event) : Decidable (e.Passes p) :=
  inferInstanceAs (Decidable (∃ path ∈ e.paths, p.LeadsTo path))

/-- The event reads a property, or something below it, on behalf of a subscriber. -/
def Event.Reads (s : SubscriberId) (p : Path) (e : Event) : Prop :=
  e.reader = some s ∧ e.Passes p

/-- The event at a place of a history reads a property, or something below it, on behalf of a
subscriber; the property was there then, and after every event since. -/
structure LastingRead (data : Value) (history : List Event) (s : SubscriberId) (p : Path)
    (i : Nat) : Prop where
  reads : ∃ e, history[i]? = some e ∧ e.Reads s p
  lasts : ∀ j, i ≤ j → j ≤ history.length → HasProperty (treeAfter data (history.take j)) p

theorem LastingRead.lt_length {s : SubscriberId} {p : Path} {i : Nat}
    (h : LastingRead data history s p i) : i < history.length := by
  obtain ⟨e, he, -⟩ := h.reads
  exact (List.getElem?_eq_some_iff.mp he).1

/-- The property of a lasting read is there at the end. -/
theorem LastingRead.hasProperty {s : SubscriberId} {p : Path} {i : Nat}
    (h : LastingRead data history s p i) : HasProperty (treeAfter data history) p := by
  have hend := h.lasts history.length h.lt_length.le le_rfl
  rwa [List.take_length] at hend

/-- A read lasts through one more event if the property is still there; and that event may be a
lasting read itself. -/
theorem lastingRead_concat {e : Event} {s : SubscriberId} {p : Path} {i : Nat} :
    LastingRead data (history ++ [e]) s p i ↔
      HasProperty (e.onTree (treeAfter data history)) p ∧
        (LastingRead data history s p i ∨
          i = history.length ∧ e.Reads s p ∧ HasProperty (treeAfter data history) p) := by
  have hearlier : ∀ j, j ≤ history.length → (history ++ [e]).take j = history.take j :=
    fun j hj => List.take_append_of_le_length hj
  -- The read is the last event itself or one of those before.
  constructor
  · intro h
    have hend := h.hasProperty
    rw [treeAfter_concat] at hend
    refine ⟨hend, ?_⟩
    obtain ⟨x, hx, hreads⟩ := h.reads
    have hlt := h.lt_length
    rw [List.length_append, List.length_singleton] at hlt
    rcases Nat.lt_succ_iff_lt_or_eq.mp hlt with hi | hi
    · rw [List.getElem?_append_left hi] at hx
      refine .inl ⟨⟨x, hx, hreads⟩, fun j hij hj => ?_⟩
      have hthere := h.lasts j hij (by rw [List.length_append]; omega)
      rwa [hearlier j hj] at hthere
    · rw [hi, List.getElem?_concat_length, Option.some.injEq] at hx
      have hthere := h.lasts history.length hi.le (by rw [List.length_append]; omega)
      rw [hearlier _ le_rfl, List.take_length] at hthere
      exact .inr ⟨hi, hx ▸ hreads, hthere⟩
  · rintro ⟨hend, h⟩
    -- The last moment is the one after `e`; the others are moments of the shorter history.
    have hlast : ∀ j, history.length < j → j ≤ (history ++ [e]).length →
        HasProperty (treeAfter data ((history ++ [e]).take j)) p := by
      intro j hj hle
      rw [List.length_append, List.length_singleton] at hle
      rw [List.take_of_length_le (by rw [List.length_append, List.length_singleton]; omega)]
      rwa [treeAfter_concat]
    rcases h with h | ⟨rfl, hreads, hthere⟩
    · refine ⟨?_, fun j hij hj => ?_⟩
      · obtain ⟨x, hx, hreads⟩ := h.reads
        exact ⟨x, by rw [List.getElem?_append_left h.lt_length, hx], hreads⟩
      · by_cases hle : j ≤ history.length
        · rw [hearlier j hle]
          exact h.lasts j hij hle
        · exact hlast j (by omega) hj
    · refine ⟨⟨e, List.getElem?_concat_length, hreads⟩, fun j hij hj => ?_⟩
      by_cases hle : j ≤ history.length
      · rw [hearlier j hle, Nat.le_antisymm hle hij, List.take_length]
        exact hthere
      · exact hlast j (by omega) hj

/-! ## Readers -/

/-- The readers of a property after one event: those before, if it is still there, and whoever has
read it meanwhile. -/
theorem readers_next {m : Moment} {tree : Value} (h : m.state.Represents tree)
    (ho : m.state.Orderly) {F : Liveness} (hF : ∀ s, F s = true → m.live s = true) {e : Event}
    (he : e.WellFormed) (p : Path) :
    (m.next e).state.readers F p =
      if HasProperty (e.onTree tree) p then
        if e.Passes p ∧ HasProperty tree p then joinedBy F e.reader (m.state.readers F p)
        else m.state.readers F p
      else [] := by
  have hwithin : m.state.Within F m.live := fun _ x _ hx => hF x hx
  have hiff := h.contains_iff_hasProperty p
  -- A property that is missing has no readers.
  have hnone : ¬ HasProperty tree p → m.state.readers F p = [] := by
    rw [← hiff, Bool.not_eq_true]
    exact readers_of_not_contains F
  -- Reads and renderings are alike: both read paths and leave the tree alone.
  have hread : ∀ st', ReadBy m.live e.reader e.paths m.state st' → e.onTree tree = tree →
      st'.readers F p = if HasProperty (e.onTree tree) p then
        if e.Passes p ∧ HasProperty tree p then joinedBy F e.reader (m.state.readers F p)
        else m.state.readers F p
      else [] := by
    intro st' hby htree
    rw [hby.readers hwithin, htree]
    by_cases hthere : HasProperty tree p
    · simp only [hiff, hthere, and_true, if_true]
      rfl
    · simp only [hiff, hthere, and_false, if_false]
      exact hnone hthere
  cases e with
  | read reader path => exact hread _ (h.readBy_readTracked m.live reader path) rfl
  | render reader t => exact hread _ (h.readBy_renderWith m.live reader t) rfl
  | write q v =>
    -- A write reads nothing; its readers are those that are carried over by path.
    have hnext := (represents_next h he).contains_iff_hasProperty p
    have hpasses : ¬ (Event.write q v).Passes p := by
      simp [Event.Passes, Event.paths]
    simp only [hpasses, false_and, if_false, ← hnext]
    rw [m.next_write h]
    split
    · exact readers_afterWrite ho hwithin q v p
    · by_cases hthere : HasProperty tree p
      · rw [if_pos (hiff.mpr hthere)]
      · rw [if_neg fun hp => hthere (hiff.mp hp)]
        exact hnone hthere
  | death s =>
    -- A death reads nothing and changes nothing in the state.
    have hpasses : ¬ (Event.death s).Passes p := by
      simp [Event.Passes, Event.paths]
    simp only [hpasses, false_and, if_false]
    by_cases hthere : HasProperty tree p
    · exact (if_pos hthere).symm
    · exact (hnone hthere).trans (if_neg hthere).symm

/-- A list of subscribers that is told by a history: those with a lasting read of a property are on
it, once each, in the order of their first lasting reads. -/
structure ListsReaders (data : Value) (history : List Event) (F : Liveness) (p : Path)
    (ids : List SubscriberId) : Prop where
  mem_iff : ∀ s, F s = true → (s ∈ ids ↔ ∃ i, LastingRead data history s p i)
  nodup : ids.Nodup
  ordered : ids.Pairwise fun a b =>
    ∃ i, LastingRead data history a p i ∧ ∀ j, LastingRead data history b p j → i < j

namespace ListsReaders

variable {F : Liveness} {p : Path} {ids : List SubscriberId} {e : Event}

/-- The order stays when a history goes on, since new reads come last. -/
theorem ordered_concat (h : ListsReaders data history F p ids)
    (hthere : HasProperty (e.onTree (treeAfter data history)) p) :
    ids.Pairwise fun a b => ∃ i, LastingRead data (history ++ [e]) a p i ∧
      ∀ j, LastingRead data (history ++ [e]) b p j → i < j := by
  apply h.ordered.imp
  rintro a b ⟨i, hi, hfirst⟩
  refine ⟨i, lastingRead_concat.mpr ⟨hthere, .inl hi⟩, fun j hj => ?_⟩
  rcases (lastingRead_concat.mp hj).2 with hj | ⟨rfl, -, -⟩
  · exact hfirst j hj
  · exact hi.lt_length

/-- Nobody is on the list of a property that is not there. -/
theorem concat_of_not_hasProperty
    (hgone : ¬ HasProperty (e.onTree (treeAfter data history)) p) :
    ListsReaders data (history ++ [e]) F p [] where
  mem_iff s _ := by
    refine ⟨fun hs => absurd hs List.not_mem_nil, ?_⟩
    rintro ⟨i, hi⟩
    exact absurd (lastingRead_concat.mp hi).1 hgone
  nodup := List.nodup_nil
  ordered := .nil

/-- An event that does not read the property for a living subscriber leaves the list. -/
theorem concat_of_not_reads (h : ListsReaders data history F p ids)
    (hthere : HasProperty (e.onTree (treeAfter data history)) p)
    (hreads : ∀ s, F s = true → HasProperty (treeAfter data history) p → ¬ e.Reads s p) :
    ListsReaders data (history ++ [e]) F p ids where
  mem_iff s hs := by
    rw [h.mem_iff s hs]
    apply exists_congr
    intro i
    rw [lastingRead_concat]
    refine ⟨fun hi => ⟨hthere, .inl hi⟩, ?_⟩
    rintro ⟨-, hi | ⟨-, he, hbefore⟩⟩
    · exact hi
    · exact absurd he (hreads s hs hbefore)
  nodup := h.nodup
  ordered := h.ordered_concat hthere

/-- A reader arrives at the end of the list, unless it is there. -/
theorem concat_of_reads (h : ListsReaders data history F p ids) (hids : ∀ s ∈ ids, F s = true)
    (hthere : HasProperty (e.onTree (treeAfter data history)) p)
    (hbefore : HasProperty (treeAfter data history) p) {s : SubscriberId} (hs : F s = true)
    (hreads : e.Reads s p) : ListsReaders data (history ++ [e]) F p (arrive ids s) where
  mem_iff x hx := by
    -- One event reads for one subscriber only.
    have hsame : e.Reads x p ↔ x = s := by
      constructor
      · exact fun hx => Option.some.inj (hx.1.symm.trans hreads.1)
      · rintro rfl
        exact hreads
    rw [mem_arrive, h.mem_iff x hx]
    simp only [lastingRead_concat, hthere, hbefore, hsame, true_and, and_true, exists_or,
      exists_eq_left]
  nodup := nodup_arrive h.nodup s
  ordered := by
    by_cases hmem : s ∈ ids
    · rw [arrive_of_mem hmem]
      exact h.ordered_concat hthere
    · rw [arrive_of_not_mem hmem, List.pairwise_append]
      refine ⟨h.ordered_concat hthere, List.pairwise_singleton .., ?_⟩
      intro a ha b hb
      rw [List.mem_singleton] at hb
      subst hb
      -- Whoever is on the list has read before; the newcomer reads now for the first time.
      obtain ⟨i, hi⟩ := (h.mem_iff a (hids a ha)).mp ha
      refine ⟨i, lastingRead_concat.mpr ⟨hthere, .inl hi⟩, fun j hj => ?_⟩
      rcases (lastingRead_concat.mp hj).2 with hj | ⟨rfl, -, -⟩
      · exact absurd ((h.mem_iff b hs).mpr ⟨j, hj⟩) hmem
      · exact hi.lt_length

end ListsReaders

/-- The same for every set of subscribers that live at the end. -/
theorem listsReaders_after (hdata : data.WellFormed) (hh : ∀ e ∈ history, e.WellFormed)
    {F : Liveness} (hF : ∀ s, F s = true → (after data history).live s = true) (p : Path) :
    ListsReaders data history F p ((after data history).state.readers F p) := by
  -- On the history from its end. Those who live in the end have lived at every moment before.
  induction history using List.reverseRecOn with
  | nil =>
    have hnobody : (after data []).state.readers F p = [] := by
      rw [readers]
      exact congrArg (·.subscribers F) (publisherAt_observe data p)
    rw [hnobody]
    refine ⟨fun s _ => ⟨fun hs => absurd hs List.not_mem_nil, ?_⟩, List.nodup_nil, .nil⟩
    rintro ⟨i, hi⟩
    exact absurd hi.lt_length (Nat.not_lt_zero i)
  | append_singleton history e ih =>
    have hbefore : ∀ x ∈ history, x.WellFormed := fun x hx => hh x (List.mem_append_left _ hx)
    have he : e.WellFormed := hh e (List.mem_append_right _ (List.mem_singleton_self e))
    rw [after_concat] at hF ⊢
    have hlive : ∀ s, F s = true → (after data history).live s = true :=
      fun s hs => Moment.live_of_next (hF s hs)
    have hlist := ih hbefore hlive
    have hids : ∀ s ∈ (after data history).state.readers F p, F s = true :=
      fun s hs => (Publisher.mem_subscribers.mp hs).2
    rw [readers_next (represents_after hdata hbefore) (orderly_after hdata hbefore) hlive he]
    -- The property is gone, or has been read by a living subscriber, or else the list stays.
    by_cases hthere : HasProperty (e.onTree (treeAfter data history)) p
    · rw [if_pos hthere]
      split
      · next hpass =>
        cases hreader : e.reader with
        | none =>
          apply hlist.concat_of_not_reads hthere
          intro s _ _ hreads
          rw [hreads.1] at hreader
          cases hreader
        | some s =>
          rw [joinedBy]
          cases hs : F s with
          | true => exact hlist.concat_of_reads hids hthere hpass.2 hs ⟨hreader, hpass.1⟩
          | false =>
            apply hlist.concat_of_not_reads hthere
            intro x hx _ hreads
            rw [Option.some.inj (hreads.1.symm.trans hreader), hs] at hx
            cases hx
      · next hpass =>
        exact hlist.concat_of_not_reads hthere fun s _ hbefore hreads =>
          hpass ⟨hreads.2, hbefore⟩
    · rw [if_neg hthere]
      exact ListsReaders.concat_of_not_hasProperty hthere

/-- Rebinding by path, over whole histories: a living subscriber is registered with a property
exactly if it has a lasting read of it, and the subscribers of a property are listed once each in
the order of their first lasting reads. -/
theorem readers_after (hdata : data.WellFormed) (hh : ∀ e ∈ history, e.WellFormed) (p : Path) :
    let m := after data history
    (∀ s, m.live s = true →
      (s ∈ m.state.readers m.live p ↔ ∃ i, LastingRead data history s p i)) ∧
    (m.state.readers m.live p).Nodup ∧
    (m.state.readers m.live p).Pairwise fun a b =>
      ∃ i, LastingRead data history a p i ∧ ∀ j, LastingRead data history b p j → i < j := by
  have h := listsReaders_after hdata hh (fun _ hs => hs) p
  exact ⟨h.mem_iff, h.nodup, h.ordered⟩

/-- A reader of a property below an object stays registered when the object is replaced. -/
theorem mem_readers_after_replacement :
    let m := after (.object [("a", .object [("b", .null)])])
      [.read (some 7) ⟨["a", "b"]⟩, .write ⟨["a"]⟩ (.object [("b", .bool true)]), .death 3]
    7 ∈ m.state.readers m.live ⟨["a", "b"]⟩ := by
  have hinner : ∀ key v, v.WellFormed → (Value.object [(key, v)]).WellFormed :=
    fun key v hv => .object _ (List.nodup_singleton key) (by simpa using hv)
  have hdata : (Value.object [("a", .object [("b", .null)])]).WellFormed :=
    hinner _ _ (hinner _ _ .null)
  refine ((readers_after hdata ?_ ⟨["a", "b"]⟩).1 7 (by decide)).mpr ⟨0, ?_, ?_⟩
  · intro e he
    simp only [List.mem_cons, List.not_mem_nil, or_false] at he
    rcases he with rfl | rfl | rfl
    · trivial
    · exact hinner _ _ (.bool true)
    · trivial
  · exact ⟨_, rfl, rfl, ⟨["a", "b"]⟩, List.mem_singleton_self _, .refl _⟩
  · intro j _ hj
    have hlasts : ∀ j < 4, HasProperty (treeAfter (.object [("a", .object [("b", .null)])])
        (([.read (some 7) ⟨["a", "b"]⟩, .write ⟨["a"]⟩ (.object [("b", .bool true)]),
          .death 3] : List Event).take j)) ⟨["a", "b"]⟩ := by decide
    exact hlasts j (Nat.lt_succ_of_le hj)

end LiveText.State
