import Mathlib
import LiveText.Proofs.Session.Rendering
import LiveText.Proofs.Session.Writing

/-!
# Dependents

A set of bindings on one state, where nobody else is registered. The subscribers of a property are
then those of the bindings whose templates have a path at the property or below it. When such
bindings are told of a change, each of them tries once to render and so registers anew with
everything on its ways that is there; this makes good for what a write has taken away.

## Main definitions

- `Binding.DependsOn`, `dependents`.
- `Session.Wired`: a set of bindings that has a state and a collector to itself.
- `Session.Exact`: the subscribers of each property are its dependents.
- `Session.Told`: what telling bindings does, all at once.

## Main statements

- `told_renderBinding`, `told_tellEach`: one rendering, and one after the other.
- `told_write`: a write and the renderings that follow it keep `Exact`.
-/

namespace LiveText

/-! ## Dependence on properties -/

/-- The template of the binding has a path that is the one of the property or lies below it. -/
def Binding.DependsOn (p : Path) (b : Binding) : Prop :=
  ∃ path ∈ b.template.paths, p.LeadsTo path

instance (p : Path) (b : Binding) : Decidable (b.DependsOn p) :=
  inferInstanceAs (Decidable (∃ path ∈ b.template.paths, p.LeadsTo path))

theorem Binding.dependsOn_of_wiring {b b' : Binding} (h : b'.wiring = b.wiring) (p : Path) :
    b'.DependsOn p ↔ b.DependsOn p := by
  rw [DependsOn, DependsOn, (Binding.wiring_eq_iff.mp h).2.2.1]

/-- The bindings that depend on a property, in their order. -/
def dependents (bs : List Binding) (p : Path) : List Binding :=
  bs.filter fun b => b.DependsOn p

theorem mem_dependents {bs : List Binding} {p : Path} {b : Binding} :
    b ∈ dependents bs p ↔ b ∈ bs ∧ b.DependsOn p := by
  rw [dependents, List.mem_filter, decide_eq_true_eq]

theorem dependents_append (bs bs' : List Binding) (p : Path) :
    dependents (bs ++ bs') p = dependents bs p ++ dependents bs' p :=
  List.filter_append ..

/-- What depends on a property below another one depends on that one. -/
theorem dependents_dependents {p q : Path} (h : p.LeadsTo q) (bs : List Binding) :
    dependents (dependents bs p) q = dependents bs q := by
  rw [dependents, dependents, List.filter_filter]
  apply List.filter_congr
  intro b _
  by_cases hq : b.DependsOn q
  · have hp : b.DependsOn p := by
      obtain ⟨path, hpath, hlead⟩ := hq
      exact ⟨path, hpath, h.trans hlead⟩
    simp [hq, hp]
  · simp [hq]

/-- Renderings do not change who depends on a property. -/
theorem map_dependents_of_wiring {α : Type} (f : Binding → α) (hf : ∀ b, f b.wiring = f b)
    {bs bs' : List Binding} (h : bs'.map Binding.wiring = bs.map Binding.wiring) (p : Path) :
    (dependents bs' p).map f = (dependents bs p).map f := by
  have hwiring : ∀ bs : List Binding,
      (dependents bs p).map f = (dependents (bs.map Binding.wiring) p).map f := by
    intro bs
    rw [dependents, dependents, List.filter_map, List.map_map]
    exact List.map_congr_left fun b _ => (hf b).symm
  rw [hwiring bs', hwiring bs, h]

/-- Everybody, dead or alive. -/
abbrev everyone : Liveness := fun _ => true

/-- The node of a rendering that has been tried. -/
def TraceEvent.triedNode? : TraceEvent → Option NodeId
  | .rendered node | .renderFailed node _ _ => some node
  | _ => none

namespace Session

/-! ## Sets of bindings with a state of their own -/

/-- The set of bindings lives, its bindings render from the state for their own subscribers, the
collector is not busy, and nobody else is registered with the state. -/
structure Wired (w : Session) (set : BindingSetId) (state : StateId) (collector : CollectorId) :
    Prop where
  listed : set < w.bindingSets.size
  made : state < w.states.size
  alive : w.isAlive set = true
  idle : (w.collector collector).active = none
  own : ∀ i b, w.binding? set i = some b → b.state = state ∧ b.collector = collector ∧
    w.subscribers[b.subscriber]?.map Subscriber.callback = some (.binding set i)
  represents : ∃ tree, (w.state state).Represents tree
  orderly : (w.state state).Orderly
  readers_own : ∀ q, ∀ s ∈ (w.state state).readers everyone q,
    ∃ b ∈ w.bindings set, b.subscriber = s

/-- The subscribers of each property are its dependents. -/
def Exact (w : Session) (set : BindingSetId) (state : StateId) : Prop :=
  ∀ q, (w.state state).contains q = true →
    (w.state state).readers everyone q = (dependents (w.bindings set) q).map Binding.subscriber

variable {w w' w'' : Session} {set : BindingSetId} {state : StateId} {collector : CollectorId}

theorem mem_bindings_iff {b : Binding} : b ∈ w.bindings set ↔ ∃ i, w.binding? set i = some b :=
  List.mem_iff_getElem?

namespace Wired

/-- The subscribers of living bindings live. -/
theorem isLive (h : Wired w set state collector) {b : Binding} (hb : b ∈ w.bindings set) :
    w.isLive b.subscriber = true := by
  obtain ⟨i, hi⟩ := mem_bindings_iff.mp hb
  exact isLive_of_binding (h.own i b hi).2.2 h.alive

theorem within (h : Wired w set state collector) : (w.state state).Within everyone w.isLive := by
  intro q s hs _
  obtain ⟨b, hb, rfl⟩ := h.readers_own q s (List.mem_filter.mpr ⟨hs, rfl⟩)
  exact h.isLive hb

theorem readers_isLive (h : Wired w set state collector) (q : Path) :
    (w.state state).readers w.isLive q = (w.state state).readers everyone q := by
  apply List.filter_congr
  intro s hs
  exact h.within q s hs rfl

/-- The place of a binding is told by its subscriber. -/
theorem place_unique (h : Wired w set state collector) {i j : Nat} {b b' : Binding}
    (hb : w.binding? set i = some b) (hb' : w.binding? set j = some b')
    (hsame : b.subscriber = b'.subscriber) : i = j := by
  have hcallback := (h.own i b hb).2.2
  rw [hsame, (h.own j b' hb').2.2] at hcallback
  cases hcallback
  rfl

/-- Each binding has a subscriber of its own. -/
theorem nodup_subscribers (h : Wired w set state collector) :
    ((w.bindings set).map Binding.subscriber).Nodup := by
  rw [List.nodup_iff_getElem?_ne_getElem?]
  intro i j hij hj heq
  rw [List.length_map] at hj
  have hget := List.getElem?_eq_getElem hj
  rw [List.getElem?_map, List.getElem?_map, hget] at heq
  have hi : i < (w.bindings set).length := hij.trans hj
  rw [List.getElem?_eq_getElem hi, Option.map_some, Option.map_some, Option.some.injEq] at heq
  exact hij.ne (h.place_unique (List.getElem?_eq_getElem hi) hget heq)

/-- Bindings of the set are told from each other by their subscribers. -/
theorem mem_map_subscriber (h : Wired w set state collector) {bs : List Binding}
    (hbs : ∀ b ∈ bs, b ∈ w.bindings set) {b : Binding} (hb : b ∈ w.bindings set) :
    b.subscriber ∈ bs.map Binding.subscriber ↔ b ∈ bs := by
  refine ⟨fun hmem => ?_, List.mem_map_of_mem⟩
  obtain ⟨b', hb', hsame⟩ := List.mem_map.mp hmem
  exact List.inj_on_of_nodup_map h.nodup_subscribers (hbs b' hb') hb hsame ▸ hb'

end Wired

/-! ## Telling bindings -/

/-- What there is after bindings of a set have been told, each once: each has tried to render, in
the order in which they were told, and has registered with what it depends on. Nothing else has
changed. -/
structure Told (w w' : Session) (set : BindingSetId) (state : StateId) (collector : CollectorId)
    (bs : List Binding) : Prop where
  names : w'.names = w.names
  held : w'.held = w.held
  wired : Wired w' set state collector
  data : (w'.state state).data = (w.state state).data
  readers : ∀ q, (w.state state).contains q = true →
    (w'.state state).readers everyone q =
      ((dependents bs q).map Binding.subscriber).foldl arrive ((w.state state).readers everyone q)
  others : ∀ set', set' ≠ set → w'.bindings set' = w.bindings set'
  tried : (w'.bindings set).map (fun b => (b.wiring, b.attempts)) =
    (w.bindings set).map fun b =>
      (b.wiring, b.attempts + (bs.map Binding.subscriber).count b.subscriber)
  inOrder : w'.trace.filterMap TraceEvent.triedNode? =
    w.trace.filterMap TraceEvent.triedNode? ++ bs.map Binding.node

namespace Told

variable {bs bs' : List Binding}

theorem nil (h : Wired w set state collector) : Told w w set state collector [] where
  names := rfl
  held := rfl
  wired := h
  data := rfl
  readers _ _ := rfl
  others _ _ := rfl
  tried := by simp
  inOrder := by simp

theorem contains_eq (h : Told w w' set state collector bs) (q : Path) :
    (w'.state state).contains q = (w.state state).contains q := by
  rw [State.contains_eq_isSome_contentAt, State.contentAt_eq_of_data_eq h.data]
  rw [← State.contains_eq_isSome_contentAt]

theorem wiring_eq (h : Told w w' set state collector bs) :
    (w'.bindings set).map Binding.wiring = (w.bindings set).map Binding.wiring := by
  have hfst := congrArg (List.map Prod.fst) h.tried
  simpa [List.map_map, Function.comp_def] using hfst

theorem append (h : Told w w' set state collector bs)
    (h' : Told w' w'' set state collector bs') :
    Told w w'' set state collector (bs ++ bs') where
  names := h'.names.trans h.names
  held := h'.held.trans h.held
  wired := h'.wired
  data := h'.data.trans h.data
  readers q hq := by
    rw [h'.readers q (by rwa [h.contains_eq]), h.readers q hq, dependents_append, List.map_append,
      List.foldl_append]
  others set' hset := (h'.others set' hset).trans (h.others set' hset)
  tried := by
    -- The second count is added to the pairs that the first one leaves.
    let addSecond : Binding × Nat → Binding × Nat := fun e =>
      (e.1, e.2 + (bs'.map Binding.subscriber).count e.1.subscriber)
    have hsecond := congrArg (List.map addSecond) h.tried
    rw [List.map_map, List.map_map] at hsecond
    refine h'.tried.trans (hsecond.trans (List.map_congr_left fun b _ => ?_))
    simp only [addSecond, Function.comp_apply, List.map_append, List.count_append, Nat.add_assoc]
    rfl
  inOrder := by
    rw [h'.inOrder, h.inOrder, List.map_append, List.append_assoc]

end Told

/-- Where wirings agree, each binding has its counterpart. -/
theorem exists_binding?_of_wiring
    (h : (w'.bindings set).map Binding.wiring = (w.bindings set).map Binding.wiring) {i : Nat}
    {b' : Binding} (hb : w'.binding? set i = some b') :
    ∃ b, w.binding? set i = some b ∧ b'.wiring = b.wiring := by
  have hget := congrArg (fun bs : List Binding => bs[i]?) h
  simp only [List.getElem?_map] at hget
  rw [show (w'.bindings set)[i]? = some b' from hb, Option.map_some] at hget
  obtain ⟨b, hi, hwiring⟩ := Option.map_eq_some_iff.mp hget.symm
  exact ⟨b, hi, hwiring.symm⟩

/-- The only binding with its place rendered once more. -/
theorem map_modify_of_own (h : Wired w set state collector) {i : Nat} {b : Binding}
    (hb : w.binding? set i = some b) (result : Except Fault String) :
    ((w.bindings set).modify i (·.conclude result)).map (fun b => (b.wiring, b.attempts)) =
      (w.bindings set).map fun b' =>
        (b'.wiring, b'.attempts + [b.subscriber].count b'.subscriber) := by
  -- Place by place: the subscriber tells the binding apart from all others of the set.
  apply List.ext_getElem?
  intro j
  rw [List.getElem?_map, List.getElem?_map, List.getElem?_modify]
  cases hj : (w.bindings set)[j]? with
  | none => rfl
  | some b' =>
    by_cases hij : i = j
    · subst hij
      have heq : b' = b := Option.some.inj (hj.symm.trans hb)
      simp [heq]
    · have hne : b.subscriber ≠ b'.subscriber := by
        intro hsame
        have hfirst := (h.own i b hb).2.2
        have hsecond := (h.own j b' hj).2.2
        rw [hsame, hsecond] at hfirst
        simp only [Option.some.injEq, Callback.binding.injEq, true_and] at hfirst
        exact hij hfirst.symm
      simp [hij, List.count_singleton, hne]

/-- One rendering tells one binding. -/
theorem told_renderBinding (h : Wired w set state collector) {i : Nat} {b : Binding}
    (hb : w.binding? set i = some b) :
    Told w (w.renderBinding set i).2 set state collector [b] := by
  obtain ⟨hstate, hcollector, hcallback⟩ := h.own i b hb
  obtain ⟨tree, hrep⟩ := h.represents
  subst hstate
  obtain ⟨st, hby, hrender⟩ := renderBinding_of_idle hb (hcollector ▸ h.idle) hrep
  rw [hrender]
  have hmem : b ∈ w.bindings set := mem_bindings_iff.mpr ⟨i, hb⟩
  have hst : (w.afterReading set i b st (b.template.shown tree)).state b.state = st := by
    rw [state_afterReading, state_setState_of_lt st h.made]
  have hbindings := bindings_afterReading w set i b st (b.template.shown tree)
  -- Whom the rendering registers, and with what; all else follows from it.
  have hreaders : ∀ q, st.readers everyone q =
      if b.DependsOn q ∧ (w.state b.state).contains q = true then
        arrive ((w.state b.state).readers everyone q) b.subscriber
      else (w.state b.state).readers everyone q := hby.readers h.within
  have htried := map_modify_of_own h hb (b.template.shown tree)
  have hwiring : ((w.bindings set).modify i (·.conclude (b.template.shown tree))).map
      Binding.wiring = (w.bindings set).map Binding.wiring := by
    have hfst := congrArg (List.map Prod.fst) htried
    simpa [List.map_map, Function.comp_def] using hfst
  refine ⟨names_afterReading .., held_afterReading .., ?wired, ?data, ?readers, ?others, ?tried,
    ?inOrder⟩
  case wired =>
    have hwiring' : ((w.afterReading set i b st (b.template.shown tree)).bindings set).map
        Binding.wiring = (w.bindings set).map Binding.wiring := by
      rw [hbindings, if_pos rfl, hwiring]
    have hcollectors := collectors_afterReading w set i b st (b.template.shown tree)
    refine ⟨?listed, ?made, ?alive, ?idle, ?own, ?represents, ?orderly, ?readers_own⟩
    case listed => rw [size_bindingSets_afterReading]; exact h.listed
    case made => rw [size_states_afterReading]; exact h.made
    case alive =>
      rw [isAlive_congr (names_afterReading ..) (held_afterReading ..)]
      exact h.alive
    case idle =>
      rw [Session.collector, hcollectors]
      exact h.idle
    case own =>
      intro j b' hb'
      obtain ⟨b₀, hb₀, hsame⟩ := exists_binding?_of_wiring hwiring' hb'
      obtain ⟨-, -, -, hst', hcol', hsub'⟩ := Binding.wiring_eq_iff.mp hsame
      rw [subscribers_afterReading, hst', hcol', hsub']
      exact h.own j b₀ hb₀
    case represents => exact ⟨tree, hst.symm ▸ hby.represents hrep⟩
    case orderly => exact hst.symm ▸ hby.orderly h.orderly
    case readers_own =>
      intro q s hs
      have hsubscribers := congrArg (List.map Binding.subscriber) hwiring'
      rw [List.map_map, List.map_map] at hsubscribers
      have hold : ∀ b₁ ∈ w.bindings set, b₁.subscriber = s →
          ∃ b' ∈ (w.afterReading set i b st (b.template.shown tree)).bindings set,
            b'.subscriber = s := by
        intro b₁ hb₁ hs₁
        have hmem₁ : s ∈ (w.bindings set).map Binding.subscriber :=
          List.mem_map.mpr ⟨b₁, hb₁, hs₁⟩
        exact List.mem_map.mp (hsubscribers.symm ▸ hmem₁)
      rw [hst, hreaders q] at hs
      split at hs
      · rcases mem_arrive.mp hs with hs | rfl
        · obtain ⟨b₁, hb₁, hs₁⟩ := h.readers_own q s hs
          exact hold b₁ hb₁ hs₁
        · exact hold b hmem rfl
      · obtain ⟨b₁, hb₁, hs₁⟩ := h.readers_own q s hs
        exact hold b₁ hb₁ hs₁
  case data => rw [hst, hby.data]
  case readers =>
    intro q hq
    rw [hst, hreaders q]
    by_cases hdep : b.DependsOn q
    · rw [if_pos ⟨hdep, hq⟩, dependents, List.filter_cons_of_pos (by simpa using hdep)]
      rfl
    · rw [if_neg fun hd => hdep hd.1, dependents, List.filter_cons_of_neg (by simpa using hdep)]
      rfl
  case others =>
    intro set' hset
    rw [bindings_afterReading, if_neg (Ne.symm hset)]
  case tried => rw [hbindings, if_pos rfl, htried, List.map_singleton]
  case inOrder =>
    cases b.template.shown tree with
    | ok text => exact List.filterMap_append ..
    | error fault => exact List.filterMap_append ..

/-- What telling does while more is kept alive, it does also without. -/
theorem Told.holding {bs : List Binding} {holdings : List Holding}
    (h : Wired w set state collector)
    (hbs : Told (w.hold holdings) w' set state collector bs) :
    Told w (w'.holdAs w) set state collector bs where
  names := hbs.names
  held := rfl
  wired := { hbs.wired with
    alive := by
      have hnames : (w'.holdAs w).names = w.names := hbs.names
      have hheld : (w'.holdAs w).held = w.held := rfl
      rw [isAlive_congr hnames hheld]
      exact h.alive }
  data := hbs.data
  readers := hbs.readers
  others := hbs.others
  tried := hbs.tried
  inOrder := hbs.inOrder

theorem Wired.hold (h : Wired w set state collector) (holdings : List Holding) :
    Wired (w.hold holdings) set state collector :=
  { h with alive := isAlive_hold.mpr (.inl h.alive) }

/-- A binding like one of the set is as good as that one. -/
theorem Told.of_wiring {b b₀ : Binding} (hsame : b₀.wiring = b.wiring)
    (h : Told w w' set state collector [b₀]) : Told w w' set state collector [b] := by
  have hwiring : [b₀].map Binding.wiring = [b].map Binding.wiring :=
    congrArg (fun b : Binding => [b]) hsame
  obtain ⟨-, hnode, -, -, -, hsubscriber⟩ := Binding.wiring_eq_iff.mp hsame
  have hsubscribers : [b₀].map Binding.subscriber = [b].map Binding.subscriber := by
    rw [List.map_singleton, List.map_singleton, hsubscriber]
  have hnodes : [b₀].map Binding.node = [b].map Binding.node := by
    rw [List.map_singleton, List.map_singleton, hnode]
  refine { h with readers := fun q hq => ?_, tried := ?_, inOrder := ?_ }
  · rw [← map_dependents_of_wiring Binding.subscriber (fun _ => rfl) hwiring]
    exact h.readers q hq
  · exact hsubscribers ▸ h.tried
  · exact hnodes ▸ h.inOrder

/-- Telling bindings one after the other. -/
theorem told_tellEach (depth : Nat) {bs : List Binding} (h : Wired w set state collector)
    (hbs : ∀ b ∈ bs, ∃ i b₀, w.binding? set i = some b₀ ∧ b₀.wiring = b.wiring) :
    ∃ w', tellEach (telling depth) (bs.map Binding.subscriber) w = (.returned (), w') ∧
      Told w w' set state collector bs := by
  -- On those that are told; the first one is rendered while the others are kept alive.
  induction bs generalizing w with
  | nil => exact ⟨w, rfl, .nil h⟩
  | cons b rest ih =>
    obtain ⟨i, b₀, hb₀, hsame⟩ := hbs b (List.mem_cons_self ..)
    let holdings := (b.subscriber :: rest.map Binding.subscriber).map Holding.subscriber
    have hhold := h.hold holdings
    have hsub : b₀.subscriber = b.subscriber := (Binding.wiring_eq_iff.mp hsame).2.2.2.2.2
    have hcallback := (hhold.own i b₀ hb₀).2.2
    rw [hsub] at hcallback
    have htell := telling_of_binding depth hcallback
    rw [if_pos hhold.alive] at htell
    have hfirst : Told w (((w.hold holdings).renderBinding set i).2.holdAs w) set state collector
        [b] := ((told_renderBinding hhold hb₀).holding h).of_wiring hsame
    -- Bindings keep their places when others are rendered.
    have hrest : ∀ b ∈ rest, ∃ j b₁,
        (((w.hold holdings).renderBinding set i).2.holdAs w).binding? set j = some b₁ ∧
          b₁.wiring = b.wiring := by
      intro b' hb'
      obtain ⟨j, b₁, hb₁, hsame₁⟩ := hbs b' (List.mem_cons_of_mem _ hb')
      obtain ⟨b₂, hb₂, hsame₂⟩ := exists_binding?_of_wiring hfirst.wiring_eq.symm hb₁
      exact ⟨j, b₂, hb₂, hsame₂.symm.trans hsame₁⟩
    obtain ⟨w', htells, htold⟩ := ih hfirst.wired hrest
    refine ⟨w', ?_, hfirst.append htold⟩
    rw [List.map_cons, tellEach]
    refine (Run.bind_returned (a := ()) ?_).trans htells
    exact congrArg (fun r : Outcome Unit × Session => (r.1, r.2.holdAs w)) htell

/-! ## Exactness -/

/-- Rendering bindings of an exact set leaves it exact. -/
theorem Told.exact {bs : List Binding} (h : Told w w' set state collector bs)
    (hexact : Exact w set state)
    (hbs : ∀ b ∈ bs, ∃ b₀ ∈ w.bindings set, b₀.wiring = b.wiring) : Exact w' set state := by
  intro q hq
  rw [h.contains_eq] at hq
  rw [h.readers q hq, map_dependents_of_wiring Binding.subscriber (fun _ => rfl) h.wiring_eq]
  rw [hexact q hq]
  -- Whoever is told has been there before.
  apply foldl_arrive_of_subset
  intro s hs
  obtain ⟨b, hb, rfl⟩ := List.mem_map.mp hs
  obtain ⟨hmem, path, hpath, hlead⟩ := mem_dependents.mp hb
  obtain ⟨b₀, hb₀, hsame⟩ := hbs b hmem
  obtain ⟨-, -, htemplate, -, -, hsubscriber⟩ := Binding.wiring_eq_iff.mp hsame
  refine List.mem_map.mpr ⟨b₀, mem_dependents.mpr ⟨hb₀, path, ?_, hlead⟩, hsubscriber⟩
  rw [htemplate]
  exact hpath

theorem readers_written (h : Wired w set state collector) {p : Path} {v : Value}
    (hp : (w.state state).contains p = true) (q : Path) :
    ((w.written ⟨state, p⟩ v).state state).readers everyone q =
      if ((w.written ⟨state, p⟩ v).state state).contains q then
        (w.state state).readers everyone q
      else [] := by
  rw [state_written (h := ⟨state, p⟩) v hp]
  exact State.readers_afterWrite h.orderly h.within p v q

theorem wired_written (h : Wired w set state collector) {p : Path} {v : Value}
    (hv : v.WellFormed) (hp : (w.state state).contains p = true) :
    Wired (w.written ⟨state, p⟩ v) set state collector where
  listed := h.listed
  made := by
    rw [written, emit, setState, Array.size_setIfInBounds]
    exact h.made
  alive := h.alive
  idle := h.idle
  own := h.own
  represents := by
    obtain ⟨tree, hrep⟩ := h.represents
    rw [state_written (h := ⟨state, p⟩) v hp]
    exact ⟨_, hrep.afterWrite w.isLive hv hp⟩
  orderly := by
    rw [state_written (h := ⟨state, p⟩) v hp]
    exact State.orderly_afterWrite h.orderly w.isLive p v
  readers_own q s hs := by
    rw [readers_written h hp] at hs
    split at hs
    · exact h.readers_own q s hs
    · cases hs

/-- The readers of what has been there before a write are exact still; those of what is new have
yet to arrive, and they are among the readers of the written property. -/
theorem Told.exact_of_written {p : Path} {v : Value} (h : Wired w set state collector)
    (hexact : Exact w set state) (hp : (w.state state).contains p = true)
    (htold : Told (w.written ⟨state, p⟩ v) w' set state collector
      (dependents (w.bindings set) p)) : Exact w' set state := by
  intro q hq
  rw [htold.contains_eq] at hq
  rw [htold.readers q hq, map_dependents_of_wiring Binding.subscriber (fun _ => rfl)
    htold.wiring_eq, readers_written h hp, if_pos hq]
  rw [show (w.written ⟨state, p⟩ v).bindings set = w.bindings set from rfl]
  -- A property that was there has its readers still; a new one gets them all anew.
  by_cases hbefore : (w.state state).contains q = true
  · rw [hexact q hbefore]
    apply foldl_arrive_of_subset
    intro s hs
    obtain ⟨b, hb, rfl⟩ := List.mem_map.mp hs
    obtain ⟨hmem, hdep⟩ := mem_dependents.mp hb
    exact List.mem_map_of_mem (mem_dependents.mpr ⟨(mem_dependents.mp hmem).1, hdep⟩)
  · -- What is new lies below the written property, whose dependents are those that are told.
    have hbelow : q.isBelow p = true := by
      by_contra hnot
      rw [Bool.not_eq_true] at hnot
      rw [state_written (h := ⟨state, p⟩) v hp,
        State.contains_afterWrite_of_not_isBelow w.isLive _ p v hnot] at hq
      exact hbefore hq
    have hnobody : (w.state state).readers everyone q = [] :=
      State.readers_of_not_contains everyone (by simpa using hbefore)
    rw [dependents_dependents (Path.isBelow_iff.mp hbelow).1, hnobody]
    apply foldl_arrive_of_nodup
    rw [List.nil_append]
    refine h.nodup_subscribers.sublist (List.Sublist.map _ List.filter_sublist)

/-- A write to a property of an exact set: its dependents are told, and the set is exact again. -/
theorem told_write (depth : Nat) {p : Path} {v : Value} (h : Wired w set state collector)
    (hexact : Exact w set state) (hv : v.WellFormed)
    (hp : (w.state state).contains p = true) :
    ∃ w', write (telling depth) ⟨state, p⟩ v w = (.returned .done, w') ∧
      Told (w.written ⟨state, p⟩ v) w' set state collector (dependents (w.bindings set) p) ∧
      Exact w' set state := by
  have hmem : ∀ b ∈ dependents (w.bindings set) p, ∃ i b₀,
      (w.written ⟨state, p⟩ v).binding? set i = some b₀ ∧ b₀.wiring = b.wiring := by
    intro b hb
    obtain ⟨i, hi⟩ := mem_bindings_iff.mp (mem_dependents.mp hb).1
    exact ⟨i, b, hi, rfl⟩
  obtain ⟨w', htells, htold⟩ := told_tellEach depth (wired_written h hv hp) hmem
  refine ⟨w', ?_, htold, htold.exact_of_written h hexact hp⟩
  rw [write_of_contains (telling depth) (h := ⟨state, p⟩) v hp, h.readers_isLive, hexact p hp]
  exact Run.bind_returned htells

end Session

end LiveText
