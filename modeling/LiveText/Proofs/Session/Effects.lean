import Mathlib
import LiveText.Proofs.Component.Data
import LiveText.Proofs.Document.Texts
import LiveText.Proofs.Session.Frames
import LiveText.Proofs.Session.Writing

/-!
# What edits do

An edit that is not refused gives and takes names, makes something that gets a name, reads a state,
renders a binding, makes or compiles a component, or changes a document. Names are not given at
will: they go to what has one already or has just been made.

Here each edit is taken apart once. What follows from a change of a session then follows from it for
every edit that makes the change.

## Main definitions

- `Renames`: a change of names as edits make it.
- `Named`: what becomes of a component or a compiled set when it has been made.
- `DocumentEffect`, `Effect`: what an edit does to a session.

## Main statements

- `effect_of_editDocument`, `effect_of_perform`: edits that are not refused.
-/

namespace LiveText.Session

variable {w w' : Session}

/-! ## Names -/

/-- A state is there, or has a name as if it were. -/
def Reaches (w : Session) (i : StateId) : Prop :=
  (∃ e ∈ w.names.states, e.2 = i) ∨ i < w.states.size

/-- A proxy offers the keys that its state has now. -/
structure Mirrors (w : Session) (p : Proxy) : Prop where
  state : w.Reaches p.state
  keys : p.keys = (w.state p.state).roots

/-- A property handle leads to a property that a proxy offers, or to what is below it. -/
structure TakenFrom (p : Proxy) (h : PropertyHandle) : Prop where
  state : h.state = p.state
  path : ∃ key ∈ p.keys, ∃ fields, h.path.segments = key :: fields

theorem takenFrom_of_property {p : Proxy} {key : String} {h : PropertyHandle}
    (hproperty : p.property key = .ok h) : TakenFrom p h := by
  rw [Proxy.property] at hproperty
  split at hproperty
  · next hhas =>
    cases hproperty
    exact ⟨rfl, key, by simpa [Proxy.has] using hhas, [], rfl⟩
  · cases hproperty

theorem TakenFrom.fields {p : Proxy} {h : PropertyHandle} (htaken : TakenFrom p h)
    (fields : List String) : TakenFrom p (fields.foldl PropertyHandle.field h) := by
  induction fields generalizing h with
  | nil => exact htaken
  | cons field rest ih =>
    obtain ⟨hstate, key, hkey, fields', hpath⟩ := htaken
    refine ih ⟨hstate, key, hkey, fields' ++ [field], ?_⟩
    rw [PropertyHandle.field, Path.segments_child, hpath, List.cons_append]

theorem exists_of_requireSource {source : PropertySource} {p : Proxy}
    (h : w.requireSource source = .ok p) :
    (∃ e ∈ w.names.proxies, e.2 = p) ∨ ∃ e ∈ w.names.components, e.2.proxy = p := by
  cases source with
  | proxy name => exact .inl ⟨_, Entries.mem_of_lookup (lookup_of_require h), rfl⟩
  | component name =>
    rw [requireSource] at h
    cases hc : require .app w.names.components name with
    | error refusal => simp [hc, Except.map] at h
    | ok c =>
      rw [hc] at h
      cases h
      exact .inr ⟨_, Entries.mem_of_lookup (lookup_of_require hc), rfl⟩

/-- What a change of names does. Those of subscribers belong to what has had a name before, and
those of sets of bindings may also belong to sets that have been made since an earlier session.
States that get a name are there. Proxies that get a name, also as part of a component, mirror their
states, and a property handle that gets one has been taken from a proxy that is known. -/
structure Renames (w w' : Session) (f : Names → Names) : Prop where
  subscribers : ∀ e ∈ (f w'.names).subscribers, ∃ e' ∈ w'.names.subscribers, e'.2 = e.2
  sets : ∀ set, (f w'.names).Keep set →
    w'.names.Keep set ∨ w.bindingSets.size ≤ set ∧ set < w'.bindingSets.size
  states : ∀ e ∈ (f w'.names).states, w'.Reaches e.2
  proxies : ∀ e ∈ (f w'.names).proxies, (∃ e' ∈ w'.names.proxies, e'.2 = e.2) ∨ w'.Mirrors e.2
  components : ∀ e ∈ (f w'.names).components, (∃ e' ∈ w'.names.components, e'.2 = e.2) ∨
    w'.Mirrors e.2.proxy ∧ e.2.proxy.state = e.2.state
  properties : ∀ e ∈ (f w'.names).properties, (∃ e' ∈ w'.names.properties, e'.2 = e.2) ∨
    ∃ p, ((∃ e' ∈ w'.names.proxies, e'.2 = p) ∨ ∃ e' ∈ w'.names.components, e'.2.proxy = p) ∧
      TakenFrom p e.2

theorem Renames.refl (w w' : Session) : Renames w w' id where
  subscribers e he := ⟨e, he, rfl⟩
  sets _ hset := .inl hset
  states e he := .inl ⟨e, he, rfl⟩
  proxies e he := .inl ⟨e, he, rfl⟩
  components e he := .inl ⟨e, he, rfl⟩
  properties e he := .inl ⟨e, he, rfl⟩

/-- A change of other names. -/
theorem Renames.of_eq {f : Names → Names}
    (hsubscribers : (f w'.names).subscribers = w'.names.subscribers)
    (hcomponents : (f w'.names).components = w'.names.components)
    (hcompiled : (f w'.names).compiled = w'.names.compiled)
    (hstates : (f w'.names).states = w'.names.states)
    (hproxies : (f w'.names).proxies = w'.names.proxies)
    (hproperties : (f w'.names).properties = w'.names.properties) : Renames w w' f where
  subscribers e he := ⟨e, hsubscribers ▸ he, rfl⟩
  sets set hset := .inl (by rwa [Names.Keep, hcomponents, hcompiled] at hset)
  states e he := .inl ⟨e, hstates ▸ he, rfl⟩
  proxies e he := .inl ⟨e, hproxies ▸ he, rfl⟩
  components e he := .inl ⟨e, hcomponents ▸ he, rfl⟩
  properties e he := .inl ⟨e, hproperties ▸ he, rfl⟩

/-- A name for a state that is there. -/
theorem Renames.state {i : StateId} (hi : w'.Reaches i) (name : String) :
    Renames w w' fun names => { names with states := names.states.insert name i } where
  __ := Renames.refl w w'
  states e he := by
    rcases Entries.mem_of_mem_insert he with rfl | he
    · exact hi
    · exact .inl ⟨e, he, rfl⟩

/-- A name for a handle that has been taken from a proxy that is known. -/
theorem Renames.property {p : Proxy} {h : PropertyHandle}
    (hp : (∃ e ∈ w'.names.proxies, e.2 = p) ∨ ∃ e ∈ w'.names.components, e.2.proxy = p)
    (htaken : TakenFrom p h) (name : String) :
    Renames w w' fun names => { names with properties := names.properties.insert name h } where
  __ := Renames.refl w w'
  properties e he := by
    rcases Entries.mem_of_mem_insert he with rfl | he
    · exact .inr ⟨p, hp, htaken⟩
    · exact .inl ⟨e, he, rfl⟩

/-- A name for a component whose set of bindings is new. -/
theorem Renames.component {c : Component} (hnew : w.bindingSets.size ≤ c.bindings)
    (hset : c.bindings < w'.bindingSets.size) (hmirrors : w'.Mirrors c.proxy)
    (hstate : c.proxy.state = c.state) (name : String) :
    Renames w w' fun names => { names with
      components := names.components.insert name c
      states := names.states.insert name c.state
      proxies := names.proxies.insert name c.proxy } where
  __ := Renames.refl w w'
  sets := by
    rintro set (⟨e, he, rfl⟩ | hset')
    · rcases Entries.mem_of_mem_insert he with rfl | he
      · exact .inr ⟨hnew, hset⟩
      · exact .inl (.inl ⟨e, he, rfl⟩)
    · exact .inl (.inr hset')
  states e he := by
    rcases Entries.mem_of_mem_insert he with rfl | he
    · exact hstate ▸ hmirrors.state
    · exact .inl ⟨e, he, rfl⟩
  proxies e he := by
    rcases Entries.mem_of_mem_insert he with rfl | he
    · exact .inr hmirrors
    · exact .inl ⟨e, he, rfl⟩
  components e he := by
    rcases Entries.mem_of_mem_insert he with rfl | he
    · exact .inr ⟨hmirrors, hstate⟩
    · exact .inl ⟨e, he, rfl⟩

/-- A name for a set of bindings that is new. -/
theorem Renames.compiled {set : BindingSetId} (hnew : w.bindingSets.size ≤ set)
    (hset : set < w'.bindingSets.size) (name : String) :
    Renames w w' fun names => { names with compiled := names.compiled.insert name set } where
  __ := Renames.refl w w'
  sets := by
    rintro set' (hset' | ⟨e, he, rfl⟩)
    · exact .inl (.inl hset')
    · rcases Entries.mem_of_mem_insert he with rfl | he
      · exact .inr ⟨hnew, hset⟩
      · exact .inl (.inr ⟨e, he, rfl⟩)

/-- A change of names keeps what lived before alive, and the next set as if this were held still. -/
theorem Renames.isAlive {f : Names → Names} (hnames : Renames w w' f)
    (hsize : w'.bindingSets.size ≤ w.bindingSets.size + 1) {set : BindingSetId}
    (halive : (w'.rename f).isAlive set = true) :
    (w'.hold [.bindings w.bindingSets.size]).isAlive set = true := by
  refine isAlive_hold.mpr ?_
  rcases isAlive_iff_keep.mp halive with hkeep | hheld
  · rcases hnames.sets set hkeep with hkeep | ⟨hnew, hthere⟩
    · exact .inl (isAlive_iff_keep.mpr (.inl hkeep))
    · have heq : set = w.bindingSets.size :=
        Nat.le_antisymm (Nat.le_of_lt_succ (hthere.trans_le hsize)) hnew
      exact .inr (heq ▸ List.mem_cons_self)
  · exact .inl (isAlive_iff_keep.mpr (.inr hheld))

/-! ## Making components -/

/-- Options that are read from a text have no key twice. -/
theorem wellFormed_read {source : OptionsSource} {options : Options}
    (hgiven : ∀ el data, source = .given el data → data.WellFormed)
    (h : source.read = .ok options) : options.data.WellFormed := by
  cases source with
  | given el data =>
    cases h
    exact hgiven el data rfl
  | json text => exact Options.wellFormed_ofJson h
  | toml text => exact Options.wellFormed_ofToml h

/-- What becomes of what a compilation has left: it has failed and nothing gets a name, or the set
that it has made gets labels and a name. -/
inductive Named (w w₁ : Session) (name : String) : Session → Prop
  | failed : Named w w₁ name w₁
  | named {set : BindingSetId} {f : Names → Names}
      (hnames : Renames w (w₁.labelBindings name set) f)
      (hsize : (w₁.labelBindings name set).bindingSets.size = w.bindingSets.size + 1) :
      Named w w₁ name ((w₁.labelBindings name set).rename f)

theorem named_mountAs (w : Session) (name : String) (i : DocumentId) (options : Options) :
    Named w (w.mount i options).2 name (w.mountAs name i options).2 := by
  rw [mountAs]
  split
  · next fault w₁ hmount =>
    rw [hmount]
    exact .failed
  · next c w₁ hmount =>
    obtain ⟨hset, hsize⟩ := bindings_of_mount hmount
    obtain ⟨hproxy, hstate⟩ := proxy_of_mount hmount
    obtain ⟨labelled, hlabel, -⟩ := labelBindings_eq w₁ name c.bindings
    have hlabelled : (w₁.labelBindings name c.bindings).bindingSets.size =
        w.bindingSets.size + 1 := by rw [hlabel, hsize]
    have hmirrors : (w₁.labelBindings name c.bindings).Mirrors c.proxy := by
      rw [hlabel, hproxy]
      exact ⟨.inr hstate, rfl⟩
    have hthere : c.bindings < (w₁.labelBindings name c.bindings).bindingSets.size := by
      rw [hlabelled, hset]
      exact Nat.lt_succ_self _
    -- The name is that of the set and of the state that have just been made.
    rw [hmount]
    exact .named (.component hset.ge hthere hmirrors (congrArg Proxy.state hproxy) name) hlabelled

theorem named_compileAs (w : Session) (name : String) (i : DocumentId) (k : NodeId)
    (state : StateId) (collector : CollectorId) :
    Named w (w.compile i k state collector).2 name (w.compileAs name i k state collector).2 := by
  have hsize := (compiles_compile w i k state collector).sets
  rw [compileAs]
  split
  · next fault w₁ hcompile =>
    rw [hcompile]
    exact .failed
  · next set w₁ hcompile =>
    have hset : set = w.bindingSets.size := eq_of_compile hcompile
    rw [hcompile] at hsize
    obtain ⟨labelled, hlabel, -⟩ := labelBindings_eq w₁ name set
    have hlabelled : (w₁.labelBindings name set).bindingSets.size = w.bindingSets.size + 1 := by
      rw [hlabel, hsize]
    have hthere : set < (w₁.labelBindings name set).bindingSets.size := by
      rw [hlabelled, hset]
      exact Nat.lt_succ_self _
    rw [hcompile]
    exact .named (.compiled hset.ge hthere name) hlabelled

/-! ## Edits of documents -/

/-- What an edit of a document that is not refused does to a session. -/
inductive DocumentEffect (w : Session) (i : DocumentId) : DocumentEdit → Session → Prop
  | same {edit : DocumentEdit} : DocumentEffect w i edit w
  /-- A selector that cannot be read is told of. -/
  | told {edit : DocumentEdit} (event : TraceEvent) : DocumentEffect w i edit (w.emit event)
  /-- Nodes are made and moved without a change to texts. -/
  | moved {edit : DocumentEdit} {f : Document → Document}
      (hkeeps : (w.document i).KeepsTexts (f (w.document i))) :
      DocumentEffect w i edit (w.modifyDocument i f)
  | setText {number : Int} {text : String} {k : NodeId} (hk : w.requireNode i number = .ok k) :
      DocumentEffect w i (.setText number text) (w.modifyDocument i (·.setText k text))

theorem effect_of_editDocument {i : DocumentId} {edit : DocumentEdit} {answer : Answer}
    (hedit : w.editDocument i edit = .ok (answer, w')) : DocumentEffect w i edit w' := by
  cases edit with
  | createElement tag =>
    cases hedit
    exact .moved (Document.keepsTexts_create _ _)
  | createText text =>
    cases hedit
    exact .moved (Document.keepsTexts_create _ _)
  | createFragment =>
    cases hedit
    exact .moved (Document.keepsTexts_create _ _)
  | setAttribute number name value =>
    obtain ⟨k, -, hedit⟩ := bind_eq_ok hedit
    cases hedit
    exact .moved (Document.keepsTexts_setAttribute _ _ _ _)
  | setText number text =>
    obtain ⟨k, hk, hedit⟩ := bind_eq_ok hedit
    cases hedit
    exact .setText hk
  | detach number =>
    obtain ⟨k, -, hedit⟩ := bind_eq_ok hedit
    cases hedit
    exact .moved (Document.keepsTexts_detach _ _)
  | append number childNumber =>
    obtain ⟨k, -, hedit⟩ := bind_eq_ok hedit
    obtain ⟨child, -, hedit⟩ := bind_eq_ok hedit
    split at hedit
    · cases hedit
    · cases hedit
      exact .moved (Document.keepsTexts_append _ _ _)
  | moveFirstChild number =>
    obtain ⟨k, -, hedit⟩ := bind_eq_ok hedit
    split at hedit
    · next child d hmove =>
      cases hedit
      exact .moved (Document.keepsTexts_moveFirstChild hmove)
    · cases hedit
      exact .same
  | appendMarkup number markup =>
    obtain ⟨k, -, hedit⟩ := bind_eq_ok hedit
    cases hedit
    exact .moved (Document.keepsTexts_appendMarkup _ _ _)
  | findFirst selector =>
    rw [editDocument] at hedit
    split at hedit
    · cases hedit
      exact .same
    · cases hedit
      exact .told _

/-! ## All edits -/

/-- What an edit that is not refused does to a session. -/
inductive Effect (w : Session) : Edit → Session → Prop
  | same {edit : Edit} : Effect w edit w
  | renamed {edit : Edit} {f : Names → Names} (hnames : Renames w w f) : Effect w edit (w.rename f)
  | collector {edit : Edit} {f : Names → Names} (hnames : Renames w w.newCollector.2 f) :
      Effect w edit (w.newCollector.2.rename f)
  | observed {name : String} {data : Value} {f : Names → Names}
      (hnames : Renames w (w.observe data).2 f) :
      Effect w (.observe name data) ((w.observe data).2.rename f)
  | read {edit : Edit} (i : StateId) (p : Path) (collector : CollectorId) :
      Effect w edit (w.readTracked i p collector).2
  | rendered {edit : Edit} (t : Template) (i : StateId) (c : CollectorId) :
      Effect w edit (w.renderTemplate t i (w.collector c).active).2
  /-- Data that is given comes into the session as it is. -/
  | mounted {name document : String} {source : OptionsSource} {options : Options}
      (hread : source.read = .ok options) (i : DocumentId) :
      Effect w (.mount name document source) (w.mountAs name i options).2
  | compiled {edit : Edit} {state : StateId} (hstate : ∃ e ∈ w.names.states, e.2 = state)
      (name : String) (i : DocumentId) (k : NodeId) (collector : CollectorId) :
      Effect w edit (w.compileAs name i k state collector).2
  | refreshed {edit : Edit} {set : BindingSetId} {index : Nat} {b : Binding}
      (halive : w.isAlive set = true) (hb : w.binding? set index = some b) :
      Effect w edit (w.renderBinding set index).2
  | document {name : String} {edit : DocumentEdit} {i : DocumentId} {w' : Session}
      (hi : w.names.documents.lookup name = some i) (hedit : DocumentEffect w i edit w') :
      Effect w (.document name edit) w'
  | opened {edit : Edit} {f : Names → Names} (d : Document)
      (hnames : Renames w (w.newDocument d).2 f) : Effect w edit ((w.newDocument d).2.rename f)

theorem effect_of_drop {edit : Edit} {what name : String} {answer : Answer}
    (hdrop : w.drop what name = .ok (answer, w')) : Effect w edit w' := by
  unfold drop at hdrop
  split at hdrop
  · cases hdrop
    exact .renamed { Renames.refl w w with
      subscribers := fun e he => ⟨e, (List.mem_filter.mp he).1, rfl⟩ }
  · cases hdrop
    exact .renamed (.of_eq rfl rfl rfl rfl rfl rfl)
  · cases hdrop
    exact .renamed { Renames.refl w w with
      states := fun e he => .inl ⟨e, (List.mem_filter.mp he).1, rfl⟩ }
  · cases hdrop
    refine .renamed { Renames.refl w w with
      sets := ?_
      components := fun e he => .inl ⟨e, (List.mem_filter.mp he).1, rfl⟩ }
    rintro set (⟨e, he, rfl⟩ | ⟨e, he, rfl⟩)
    · exact .inl (.inl ⟨e, (List.mem_filter.mp he).1, rfl⟩)
    · exact .inl (.inr ⟨e, (List.mem_filter.mp he).1, rfl⟩)
  · cases hdrop

theorem effect_of_refresh {edit : Edit} {set : BindingSetId} (halive : w.isAlive set = true)
    {index : Nat} {answer : Answer} (hrefresh : w.refresh set index = .ok (answer, w')) :
    Effect w edit w' := by
  rw [refresh] at hrefresh
  split at hrefresh
  · cases hrefresh
  · next b hb =>
    cases hrefresh
    exact .refreshed halive hb

theorem effect_of_takeProperty {edit : Edit} {source : PropertySource} {p : Proxy}
    (hsource : w.requireSource source = .ok p) (name key : String) (fields : List String) :
    Effect w edit (w.takeProperty name p key fields).2 := by
  rw [takeProperty]
  split
  · exact .same
  · next taken htaken =>
    exact .renamed (.property (exists_of_requireSource hsource)
      ((takenFrom_of_property htaken).fields fields) name)

/-- Edits that are not refused, one by one. -/
theorem effect_of_perform {edit : Edit} {answer : Answer}
    (hedit : w.perform edit = .ok (answer, w')) : Effect w edit w' := by
  cases edit with
  | copySubscriber source target =>
    obtain ⟨s, hs, hedit⟩ := bind_eq_ok hedit
    cases hedit
    refine .renamed { Renames.refl w w with subscribers := fun e he => ?_ }
    rcases Entries.mem_of_mem_insert he with rfl | he
    · exact ⟨_, Entries.mem_of_lookup (lookup_of_require hs), rfl⟩
    · exact ⟨e, he, rfl⟩
  | newPublisher name =>
    cases hedit
    exact .renamed (.of_eq rfl rfl rfl rfl rfl rfl)
  | copyPublisher source target =>
    obtain ⟨p, -, hedit⟩ := bind_eq_ok hedit
    cases hedit
    exact .renamed (.of_eq rfl rfl rfl rfl rfl rfl)
  | register publisher subscriber =>
    obtain ⟨s, -, hedit⟩ := bind_eq_ok hedit
    obtain ⟨p, -, hedit⟩ := bind_eq_ok hedit
    cases hedit
    exact .renamed (.of_eq rfl rfl rfl rfl rfl rfl)
  | inherit publisher source =>
    obtain ⟨other, -, hedit⟩ := bind_eq_ok hedit
    obtain ⟨p, -, hedit⟩ := bind_eq_ok hedit
    cases hedit
    exact .renamed (.of_eq rfl rfl rfl rfl rfl rfl)
  | newCollector name =>
    cases hedit
    exact .collector (.of_eq rfl rfl rfl rfl rfl rfl)
  | track collector publisher =>
    obtain ⟨c, -, hedit⟩ := bind_eq_ok hedit
    obtain ⟨p, -, hedit⟩ := bind_eq_ok hedit
    cases hedit
    exact .renamed (.of_eq rfl rfl rfl rfl rfl rfl)
  | observe name data =>
    cases hedit
    -- The name is that of the state that has just been made.
    have hlt : (w.observe data).1 < (w.observe data).2.states.size := by
      rw [fst_observe, states_observe, Array.size_push]
      exact Nat.lt_succ_self _
    exact .observed (.state (.inr hlt) name)
  | copyState source target =>
    obtain ⟨i, hi, hedit⟩ := bind_eq_ok hedit
    cases hedit
    exact .renamed (.state (.inl ⟨_, Entries.mem_of_lookup (lookup_of_require hi), rfl⟩) target)
  | readTracked state path collector =>
    obtain ⟨i, -, hedit⟩ := bind_eq_ok hedit
    obtain ⟨c, -, hedit⟩ := bind_eq_ok hedit
    cases hedit
    exact .read i path c
  | newProxy name state =>
    obtain ⟨i, hi, hedit⟩ := bind_eq_ok hedit
    cases hedit
    refine .renamed { Renames.refl w w with proxies := fun e he => ?_ }
    rcases Entries.mem_of_mem_insert he with rfl | he
    · exact .inr ⟨.inl ⟨_, Entries.mem_of_lookup (lookup_of_require hi), rfl⟩, rfl⟩
    · exact .inl ⟨e, he, rfl⟩
  | newProperty name source key fields =>
    obtain ⟨p, hp, hedit⟩ := bind_eq_ok hedit
    have htaken : w.takeProperty name p key fields = (answer, w') := Except.ok.inj hedit
    have hafter : (w.takeProperty name p key fields).2 = w' := congrArg Prod.snd htaken
    exact hafter ▸ effect_of_takeProperty hp name key fields
  | readProperty property collector =>
    obtain ⟨p, -, hedit⟩ := bind_eq_ok hedit
    obtain ⟨c, -, hedit⟩ := bind_eq_ok hedit
    cases hedit
    exact .read p.state p.path c
  | newTemplate name text =>
    rw [perform] at hedit
    split at hedit
    · cases hedit
      exact .same
    · cases hedit
      exact .renamed (.of_eq rfl rfl rfl rfl rfl rfl)
  | render template state collector =>
    obtain ⟨t, -, hedit⟩ := bind_eq_ok hedit
    obtain ⟨i, -, hedit⟩ := bind_eq_ok hedit
    obtain ⟨c, -, hedit⟩ := bind_eq_ok hedit
    cases hedit
    exact .rendered t i c
  | mount name document source =>
    obtain ⟨i, -, hedit⟩ := bind_eq_ok hedit
    split at hedit
    · cases hedit
      exact .same
    · next options hread =>
      have hmounted : w.mountAs name i options = (answer, w') := Except.ok.inj hedit
      have hafter : (w.mountAs name i options).2 = w' := congrArg Prod.snd hmounted
      exact hafter ▸ .mounted hread i
  | compile name document number state collector =>
    obtain ⟨i, -, hedit⟩ := bind_eq_ok hedit
    obtain ⟨k, -, hedit⟩ := bind_eq_ok hedit
    obtain ⟨st, hst, hedit⟩ := bind_eq_ok hedit
    obtain ⟨c, -, hedit⟩ := bind_eq_ok hedit
    have hmem := Entries.mem_of_lookup (lookup_of_require hst)
    have hcompiled : w.compileAs name i k st c = (answer, w') := Except.ok.inj hedit
    have hafter : (w.compileAs name i k st c).2 = w' := congrArg Prod.snd hcompiled
    exact hafter ▸ .compiled ⟨_, hmem, rfl⟩ name i k c
  | refresh app document index =>
    obtain ⟨⟨set, i⟩, hset, hedit⟩ := bind_eq_ok hedit
    exact effect_of_refresh (isAlive_of_requireBindings hset) hedit
  | newDocument name markup =>
    cases hedit
    exact .opened _ (.of_eq rfl rfl rfl rfl rfl rfl)
  | document name edit =>
    obtain ⟨i, hi, hedit⟩ := bind_eq_ok hedit
    exact .document (lookup_of_require hi) (effect_of_editDocument hedit)
  | drop what name => exact effect_of_drop hedit

end LiveText.Session
