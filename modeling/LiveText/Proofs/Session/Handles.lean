import Mathlib
import LiveText.Proofs.Session.Preservation
import LiveText.Proofs.State.Roots

/-!
# Handles on states

A proxy keeps the keys that its state had when the proxy was made. Since no write adds, removes or
moves a key of the data, these are its keys for ever, and whoever reads or writes through a proxy, a
component or a property handle does what a direct access to the state would do.

## Main definitions

- `Anchored`: what holds of all handles that are known.
- `Transparent`: what a proxy gives at some moment.
- `HandlesTransparent`: access through the handles of a session is direct access.

## Main statements

- `anchored_duringScript`: the handles of a session at every moment of a script.
- `handles_are_transparent`: the same of all access through them.
-/

namespace LiveText.Session

variable {w w' : Session}

/-! ## Handles that are known -/

/-- The states that have a name are there, and the properties of one key of any state are those of
its keys. Proxies, those of components among them, offer the keys of their states, and each property
handle begins with a key of its state. -/
structure Anchored (w : Session) : Prop where
  rooted : ∀ i, (w.state i).Rooted
  states : ∀ e ∈ w.names.states, e.2 < w.states.size
  proxies : ∀ e ∈ w.names.proxies, w.Mirrors e.2
  components : ∀ e ∈ w.names.components, w.Mirrors e.2.proxy ∧ e.2.proxy.state = e.2.state
  properties : ∀ e ∈ w.names.properties,
    ∃ p, w.Mirrors p ∧ TakenFrom p e.2

theorem Anchored.lt_size (h : Anchored w) {i : StateId} (hi : w.Reaches i) :
    i < w.states.size := by
  rcases hi with ⟨e, he, rfl⟩ | hi
  · exact h.states e he
  · exact hi

theorem anchored_empty : Anchored {} where
  rooted _ := State.rooted_observe .null
  states _ he := (nomatch he)
  proxies _ he := (nomatch he)
  components _ he := (nomatch he)
  properties _ he := (nomatch he)

/-- A proxy goes on to offer the keys of its state, as long as the states that there are keep
theirs. -/
theorem Anchored.mirrors (h : Anchored w) {p : Proxy} (hp : w.Mirrors p)
    (hsize : w.states.size ≤ w'.states.size)
    (hroots : ∀ i < w.states.size, (w'.state i).roots = (w.state i).roots) : w'.Mirrors p :=
  have hlt := h.lt_size hp.state
  ⟨.inr (hlt.trans_le hsize), hp.keys.trans (hroots _ hlt).symm⟩

/-- The names stay, and the states that there are keep their keys. -/
theorem Anchored.keep (h : Anchored w) (hstates : w'.names.states = w.names.states)
    (hproxies : w'.names.proxies = w.names.proxies)
    (hcomponents : w'.names.components = w.names.components)
    (hproperties : w'.names.properties = w.names.properties)
    (hsize : w.states.size ≤ w'.states.size) (hrooted : ∀ i, (w'.state i).Rooted)
    (hroots : ∀ i < w.states.size, (w'.state i).roots = (w.state i).roots) : Anchored w' where
  rooted := hrooted
  states e he := (h.states e (hstates ▸ he)).trans_le hsize
  proxies e he := h.mirrors (h.proxies e (hproxies ▸ he)) hsize hroots
  components e he :=
    have hc := h.components e (hcomponents ▸ he)
    ⟨h.mirrors hc.1 hsize hroots, hc.2⟩
  properties e he :=
    have ⟨p, hp, htaken⟩ := h.properties e (hproperties ▸ he)
    ⟨p, h.mirrors hp hsize hroots, htaken⟩

/-- Neither the states nor the names have changed. -/
theorem Anchored.of_eq (h : Anchored w) (hnames : w'.names = w.names)
    (hstates : w'.states = w.states) : Anchored w' := by
  have hstate : ∀ i, w'.state i = w.state i := fun i => by rw [state, hstates, state]
  apply h.keep
  all_goals first | rw [hnames] | skip
  · rw [hstates]
  · exact fun i => hstate i ▸ h.rooted i
  · exact fun i _ => congrArg State.roots (hstate i)

/-- Reading registers whoever reads, and nothing more. -/
theorem Anchored.of_data (h : Anchored w) (hnames : w'.names = w.names)
    (hsize : w'.states.size = w.states.size)
    (hdata : ∀ i, (w'.state i).data = (w.state i).data) : Anchored w' := by
  apply h.keep
  all_goals first | rw [hnames] | skip
  · exact hsize.ge
  · exact fun i => (h.rooted i).of_data_eq (hdata i)
  · exact fun i _ => congrArg Prod.fst (hdata i)

theorem anchored_rename {f : Names → Names} (h : Anchored w') (hrenames : Renames w w' f) :
    Anchored (w'.rename f) where
  rooted := h.rooted
  states e he := h.lt_size (hrenames.states e he)
  proxies e he := by
    rcases hrenames.proxies e he with ⟨e', he', heq⟩ | hnew
    · exact heq ▸ h.mirrors (h.proxies e' he') le_rfl fun _ _ => rfl
    · exact h.mirrors hnew le_rfl fun _ _ => rfl
  components e he := by
    rcases hrenames.components e he with ⟨e', he', heq⟩ | hnew
    · have hc := h.components e' he'
      rw [heq] at hc
      exact ⟨h.mirrors hc.1 le_rfl fun _ _ => rfl, hc.2⟩
    · exact ⟨h.mirrors hnew.1 le_rfl fun _ _ => rfl, hnew.2⟩
  properties e he := by
    rcases hrenames.properties e he with ⟨e', he', heq⟩ | ⟨p, hp, htaken⟩
    · obtain ⟨p, hp, htaken⟩ := h.properties e' he'
      exact ⟨p, h.mirrors hp le_rfl fun _ _ => rfl, heq ▸ htaken⟩
    · have hmirrors : w'.Mirrors p := by
        rcases hp with ⟨e', he', rfl⟩ | ⟨e', he', rfl⟩
        · exact h.proxies e' he'
        · exact (h.components e' he').1
      exact ⟨p, h.mirrors hmirrors le_rfl fun _ _ => rfl, htaken⟩

/-- A new state comes behind those that there are. -/
theorem anchored_observe (h : Anchored w) (data : Value) : Anchored (w.observe data).2 := by
  have hsize : w.states.size ≤ (w.observe data).2.states.size := by
    rw [states_observe, Array.size_push]
    exact Nat.le_succ _
  have hstate := state_observe_eq w data
  obtain ⟨trace, hobserve⟩ := observe_eq w data
  rw [hobserve] at hsize hstate ⊢
  refine h.keep rfl rfl rfl rfl hsize (fun i => ?_) fun i hi => ?_
  · rw [hstate]
    split
    · exact State.rooted_observe data
    · exact h.rooted i
  · rw [hstate, if_neg hi.ne]

/-- A write changes the content of one state, whose keys stay. -/
theorem anchored_written (h : Anchored w) {p : PropertyHandle} (v : Value)
    (hthere : (w.state p.state).contains p.path = true) : Anchored (w.written p v) := by
  apply h.keep
  all_goals try rfl
  · exact (Array.size_setIfInBounds ..).ge
  · intro i
    rw [state_written_eq w v hthere]
    split
    · next hi => exact (h.rooted i).afterWrite w.isLive v (hi ▸ hthere)
    · exact h.rooted i
  · intro i _
    rw [state_written_eq w v hthere]
    split <;> rfl

/-! ## Every moment -/

theorem editsRespect_anchored : EditsRespect fun w w' => Anchored w → Anchored w' where
  refl _ h := h
  trans h h' hw := h' (h hw)
  rename _ h hrenames hw := anchored_rename (h hw) hrenames
  emit _ _ h := h.of_eq rfl rfl
  setState hdata h := h.of_data rfl Array.size_setIfInBounds (data_setState hdata)
  modifyDocument _ _ _ h := h.of_eq rfl rfl
  setLabel _ _ _ h := h.of_eq rfl rfl
  observe _ data h := anchored_observe h data
  newCollector _ h := h.of_eq rfl rfl
  newDocument _ _ h := h.of_eq rfl rfl
  renderBinding index _ h :=
    have hframed := framed_renderBinding _ _ index
    h.of_data hframed.names hframed.states hframed.data
  compile w i k state collector h :=
    have hcompiles := compiles_compile w i k state collector
    h.of_data hcompiles.names hcompiles.states hcompiles.data

theorem runsRespect_anchored : RunsRespect fun w w' => Anchored w → Anchored w' :=
  editsRespect_anchored.runsRespect (fun _ _ _ _ h => h.keep rfl rfl rfl rfl le_rfl h.rooted
      fun _ _ => rfl)
    (fun _ _ h => h.of_eq rfl rfl) (fun _ _ h => h.of_eq rfl rfl)
    (fun _ _ hafter h => (hafter (h.of_eq rfl rfl)).of_eq rfl rfl)
    (fun _ hafter h => (hafter (h.of_eq rfl rfl)).of_eq rfl rfl)
    (fun v hthere h => anchored_written h v hthere)

theorem anchored_duringScript {ss : List Step} {m : Moment} (hm : DuringScript ss w m)
    (h : Anchored w) : Anchored m.session := by
  induction hm with
  | here => exact h
  | head hm =>
    exact runsRespect_anchored.during (fun hkept hu => hkept hu) (fun _ _ _ hu => hu.of_eq rfl rfl)
      (fun _ hu => hu.of_eq rfl rfl) hm h
  | @tail s rest w m _ ih =>
    apply ih
    have hstep := runsRespect_anchored.take (w.promised + s.promised) s w h
    rw [step]
    split
    · next htake => rwa [htake] at hstep
    · next htake => rwa [htake] at hstep

/-! ## Access through handles -/

/-- A write to a property that is there is accepted: what it answers is no fault. -/
theorem fst_write_ne_fault (tell : Telling) {h : PropertyHandle} (v : Value)
    (hthere : (w.state h.state).contains h.path = true) (fault : Fault) :
    (write tell h v w).1 ≠ .returned (.fault fault) := by
  rw [write_of_contains tell v hthere]
  intro hfault
  obtain ⟨_, -, hdone⟩ := Run.returned_of_bind_pure (Prod.ext hfault rfl)
  cases hdone

/-- What a proxy gives of its state: the top-level keys as they are now, in their order, each of
which names a property that can be read and written to, and no other key. -/
structure Transparent (w : Session) (p : Proxy) : Prop where
  keys : p.keys = (w.state p.state).roots
  snapshot : ∃ entries, (w.state p.state).snapshot = .object entries ∧ Entries.keys entries = p.keys
  there : ∀ key ∈ p.keys, (w.state p.state).contains ⟨[key]⟩ = true
  read : ∀ key ∈ p.keys,
    ∃ v, (w.state p.state).valueAt? ⟨[key]⟩ = some v ∧ w.readThrough p key = .ok v
  accepted : ∀ key ∈ p.keys, ∀ (tell : Telling) v holdings fault,
    ((write tell ⟨p.state, ⟨[key]⟩⟩ v).holding holdings w).1 ≠ .returned (.fault fault)
  refused : ∀ key, key ∉ p.keys → w.readThrough p key = .error (.unknownProperty ⟨[key]⟩)

/-- Writes to a target are writes to a state at a path, during which things are kept alive. -/
def WritesTo (w : Session) (target : WriteTarget) (i : StateId) (path : Path)
    (holdings : List Holding) : Prop :=
  ∀ (tell : Telling) v,
    take tell (.write target v) w = (write tell ⟨i, path⟩ v).holding holdings w

/-- Writes to a target are faults and change nothing. -/
def Refuses (w : Session) (target : WriteTarget) (fault : Fault) : Prop :=
  ∀ (tell : Telling) v, take tell (.write target v) w = (.returned (.fault fault), w)

theorem writesTo_of_requireTarget {target : WriteTarget} {h : PropertyHandle}
    {holdings : List Holding} (hfound : w.requireTarget target = .ok (.ok h, holdings)) :
    w.WritesTo target h.state h.path holdings := by
  intro tell v
  simp only [take, hfound]

theorem refuses_of_requireTarget {target : WriteTarget} {fault : Fault} {holdings : List Holding}
    (hfound : w.requireTarget target = .ok (.error fault, holdings)) : w.Refuses target fault := by
  intro tell v
  simp only [take, hfound]

theorem property_of_mem {p : Proxy} {key : String} (hkey : key ∈ p.keys) :
    p.property key = .ok ⟨p.state, ⟨[key]⟩⟩ := by
  have hhas : p.has key = true := List.contains_iff_mem.mpr hkey
  rw [Proxy.property, if_pos hhas]

theorem property_of_not_mem {p : Proxy} {key : String} (hkey : key ∉ p.keys) :
    p.property key = .error (.unknownProperty ⟨[key]⟩) := by
  have hhas : ¬ p.has key = true := fun hhas => hkey (List.contains_iff_mem.mp hhas)
  rw [Proxy.property, if_neg hhas]

theorem Anchored.transparent (h : Anchored w) {p : Proxy} (hp : w.Mirrors p) :
    w.Transparent p := by
  have hrooted := h.rooted p.state
  have hthere : ∀ key ∈ p.keys, (w.state p.state).contains ⟨[key]⟩ = true := fun key hkey =>
    (hrooted.contains_iff key).mpr (hp.keys ▸ hkey)
  refine ⟨hp.keys, hp.keys ▸ hrooted.keys_snapshot, hthere, ?read, ?accepted, ?refused⟩
  case read =>
    intro key hkey
    obtain ⟨v, hv⟩ := Option.isSome_iff_exists.mp
      (State.isSome_valueAt? (by simp [Path.root]) (hthere key hkey))
    refine ⟨v, hv, ?_⟩
    simp only [readThrough, property_of_mem hkey, hv]
  case accepted =>
    intro key hkey tell v holdings fault
    have hheld : ((w.hold holdings).state p.state).contains ⟨[key]⟩ = true := hthere key hkey
    exact fst_write_ne_fault (h := ⟨p.state, ⟨[key]⟩⟩) tell v hheld fault
  case refused =>
    intro key hkey
    simp only [readThrough, property_of_not_mem hkey]

theorem requireSource_mirrors (h : Anchored w) {source : PropertySource} {p : Proxy}
    (hp : w.requireSource source = .ok p) : w.Mirrors p := by
  rcases exists_of_requireSource hp with ⟨e, he, rfl⟩ | ⟨e, he, rfl⟩
  · exact h.proxies e he
  · exact (h.components e he).1

theorem foldl_field (i : StateId) (keys fields : List String) :
    fields.foldl PropertyHandle.field ⟨i, ⟨keys⟩⟩ = ⟨i, ⟨keys ++ fields⟩⟩ := by
  induction fields generalizing keys with
  | nil => rw [List.append_nil, List.foldl_nil]
  | cons field rest ih =>
    rw [List.foldl_cons, PropertyHandle.field, Path.child, ih, List.append_assoc]
    rfl

/-- A question and a target for each key give access to a proxy's state: with the keys of the proxy
they read and write at the path of the one key, points included, while things are kept alive. Any
other key is refused with this path and changes nothing. -/
structure GivesAccess (w : Session) (p : Proxy) (i : StateId) (question : String → Question)
    (target : String → WriteTarget) (holdings : List Holding) : Prop where
  transparent : w.Transparent p
  state : p.state = i
  reads : ∀ key, w.inquire (question key) = .ok (.ofExcept .value (w.readThrough p key))
  writes : ∀ key, key ∈ p.keys → w.WritesTo (target key) i ⟨[key]⟩ holdings
  refuses : ∀ key, key ∉ p.keys → w.Refuses (target key) (.unknownProperty ⟨[key]⟩)

/-- Property handles are taken from a proxy with its keys, and fields of the property follow as they
are. With any other key none is taken and nothing changes. -/
structure GivesProperties (w : Session) (source : PropertySource) (p : Proxy) : Prop where
  transparent : w.Transparent p
  takes : ∀ name key fields, key ∈ p.keys →
    w.perform (.newProperty name source key fields) =
      .ok (.path ⟨key :: fields⟩, w.rename fun names => { names with
        properties := names.properties.insert name ⟨p.state, ⟨key :: fields⟩⟩ })
  refuses : ∀ name key fields, key ∉ p.keys →
    w.perform (.newProperty name source key fields) = .ok (.fault (.unknownProperty ⟨[key]⟩), w)

/-- A property handle, however old, reads and writes its state at its path, whether or not there has
always been a property. The path begins with a key that the state has. -/
structure IsAt (w : Session) (name : String) (h : PropertyHandle) : Prop where
  root : ∃ key fields, h.path = ⟨key :: fields⟩ ∧ (w.state h.state).contains ⟨[key]⟩ = true
  reads : w.inquire (.property name) = .ok (.optionalValue ((w.state h.state).valueAt? h.path))
  writes : w.WritesTo (.property name) h.state h.path []

/-- All that is done through the handles of a session is direct access. -/
structure HandlesTransparent (w : Session) : Prop where
  states : ∀ name i, w.names.states.lookup name = some i → ∀ path,
    w.inquire (.state name (.value path)) = .ok (.optionalValue ((w.state i).valueAt? path)) ∧
    w.WritesTo (.state name path) i path []
  proxies : ∀ name p, w.names.proxies.lookup name = some p →
    w.GivesAccess p p.state (fun key => .proxy name (.value key)) (.proxy name) []
  components : ∀ name c, w.names.components.lookup name = some c →
    w.GivesAccess c.proxy c.state (fun key => .component name (.value key)) (.component name)
      [.bindings c.bindings]
  sources : ∀ source p, w.requireSource source = .ok p → w.GivesProperties source p
  properties : ∀ name h, w.names.properties.lookup name = some h → w.IsAt name h

theorem Anchored.givesAccess (h : Anchored w) {p : Proxy} {i : StateId} (hp : w.Mirrors p)
    (hstate : p.state = i) {question : String → Question} {target : String → WriteTarget}
    {holdings : List Holding}
    (hreads : ∀ key, w.inquire (question key) = .ok (.ofExcept .value (w.readThrough p key)))
    (htarget : ∀ key, w.requireTarget (target key) = .ok (p.property key, holdings)) :
    w.GivesAccess p i question target holdings where
  transparent := h.transparent hp
  state := hstate
  reads := hreads
  writes key hkey := hstate ▸ writesTo_of_requireTarget (property_of_mem hkey ▸ htarget key)
  refuses key hkey := refuses_of_requireTarget (property_of_not_mem hkey ▸ htarget key)

theorem Anchored.givesProperties (h : Anchored w) {source : PropertySource} {p : Proxy}
    (hp : w.requireSource source = .ok p) : w.GivesProperties source p := by
  have htakes : ∀ name key fields, w.perform (.newProperty name source key fields) =
      .ok (w.takeProperty name p key fields) := by
    intro name key fields
    rw [perform, hp]
    rfl
  refine ⟨h.transparent (requireSource_mirrors h hp), fun name key fields hkey => ?_,
    fun name key fields hkey => ?_⟩
  · rw [htakes]
    simp only [takeProperty, property_of_mem hkey, foldl_field, List.singleton_append]
  · rw [htakes]
    simp only [takeProperty, property_of_not_mem hkey]

theorem Anchored.isAt (h : Anchored w) {name : String} {handle : PropertyHandle}
    (hhandle : w.names.properties.lookup name = some handle) : w.IsAt name handle := by
  have hname := require_of_lookup .property hhandle
  obtain ⟨p, hp, hstate, key, hkey, fields, hpath⟩ :=
    h.properties _ (Entries.mem_of_lookup hhandle)
  refine ⟨⟨key, fields, Path.ext_segments hpath, ?_⟩, ?_, writesTo_of_requireTarget ?_⟩
  · rw [show handle.state = p.state from hstate]
    exact (h.transparent hp).there key hkey
  · rw [inquire, hname]
    rfl
  · rw [requireTarget, hname]
    rfl

/-- Access through handles is direct access, at every moment of a script: a proxy has the top-level
keys of its state as they are then, in their order, and each of them names a property. -/
theorem handles_are_transparent {script : List Step} {m : Moment}
    (hm : DuringScript script {} m) : m.session.HandlesTransparent := by
  have h : Anchored m.session := anchored_duringScript hm anchored_empty
  refine ⟨?states, ?proxies, ?components, fun _ _ hp => h.givesProperties hp,
    fun _ _ hhandle => h.isAt hhandle⟩
  case states =>
    intro name i hi path
    have hname := require_of_lookup .state hi
    refine ⟨?_, writesTo_of_requireTarget (h := ⟨i, path⟩) ?_⟩
    · rw [inquire, hname]
      rfl
    · rw [requireTarget, hname]
      rfl
  case proxies =>
    intro name p hp
    have hname := require_of_lookup .proxy hp
    apply h.givesAccess (h.proxies _ (Entries.mem_of_lookup hp)) rfl
    · intro key
      rw [inquire, hname]
      rfl
    · intro key
      rw [requireTarget, hname]
      rfl
  case components =>
    intro name c hc
    have hname := require_of_lookup .app hc
    obtain ⟨hmirrors, hstate⟩ := h.components _ (Entries.mem_of_lookup hc)
    apply h.givesAccess hmirrors hstate
    · intro key
      rw [inquire, hname]
      rfl
    · intro key
      rw [requireTarget, hname]
      rfl

/-- A property handle is taken below a key with a point, and then its property is written away. -/
def removal : List Step :=
  [.edit (.observe "s" (.object [("a.b", .object [("c", .null)])])),
    .edit (.newProxy "p" "s"),
    .edit (.newProperty "h" (.proxy "p") "a.b" ["c"]),
    .write (.proxy "p" "a.b") (.str "gone")]

/-- The handle goes on to be a handle on the path that it was taken for, though nothing is there. -/
theorem handle_after_removal :
    let w : Session := removal.foldl (fun w s => (w.step s).2) {}
    (w.state 0).contains ⟨["a.b", "c"]⟩ = false ∧
      w.WritesTo (.property "h") 0 ⟨["a.b", "c"]⟩ [] := by
  intro w
  have hm : DuringScript removal {} (.ahead [] w []) := .tail (.tail (.tail (.tail .here)))
  have hhandle : w.names.properties.lookup "h" = some ⟨0, ⟨["a.b", "c"]⟩⟩ := by decide +kernel
  exact ⟨by decide +kernel, ((handles_are_transparent hm).properties "h" _ hhandle).writes⟩

end LiveText.Session
