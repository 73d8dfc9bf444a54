import Mathlib
import LiveText.Component.Options
import LiveText.Proofs.Value.Tree

/-!
# Data of options

The data that a component starts with is well-formed wherever its options come from: neither
reader makes an object with a key twice.

## Main definitions

- `Toml.Node.WellFormed`, `Toml.WellFormedTable`: the same for TOML under construction.

## Main statements

- `Options.wellFormed_ofJson`, `Options.wellFormed_ofToml`.
-/

namespace LiveText

/-- Insertions one after the other make a well-formed object of well-formed contents. -/
theorem Value.wellFormed_ofPairs {pairs : List (String × Value)}
    (h : ∀ e ∈ pairs, e.2.WellFormed) : (Value.ofPairs pairs).WellFormed := by
  -- On the pairs, for any entries that have been inserted before them.
  have hfold : ∀ entries : Entries Value, (Entries.keys entries).Nodup →
      (∀ e ∈ entries, e.2.WellFormed) →
      (Value.object (pairs.foldl (fun es p => Entries.insert p.1 p.2 es) entries)).WellFormed := by
    induction pairs with
    | nil => exact fun entries hk hx => .object entries hk hx
    | cons p rest ih =>
      intro entries hk hx
      refine ih (fun e he => h e (List.mem_cons_of_mem _ he)) _ (Entries.nodup_keys_insert hk) ?_
      intro e he
      rcases Entries.mem_of_mem_insert he with rfl | he
      · exact h p (List.mem_cons_self ..)
      · exact hx e he
  exact hfold [] List.nodup_nil (by simp)

/-! ## JSON -/

namespace Json

theorem wellFormed_number {n : NumberText} {v : Value} (h : n.value? = some v) : v.WellFormed := by
  rw [NumberText.value?] at h
  split at h
  · split at h
    · split at h
      · exact Option.some.inj h ▸ .int _
      · exact Option.some.inj h ▸ .float _
    · split at h
      · exact Option.some.inj h ▸ .int _
      · exact Option.some.inj h ▸ .float _
  · obtain ⟨x, -, rfl⟩ := Option.map_eq_some_iff.mp h
    exact .float x

mutual
/-- The value of a tree is well-formed. -/
theorem wellFormed_tree : ∀ (t : Tree) {levels : Nat} {v : Value}, t.value? levels = some v →
    v.WellFormed
  | .null, _, _, h => Option.some.inj h ▸ .null
  | .bool b, _, _, h => Option.some.inj h ▸ .bool b
  | .number _, _, _, h => wellFormed_number h
  | .text pieces, _, _, h => by
    have hmap : (decodeText pieces).map Value.str = some _ := h
    obtain ⟨s, -, rfl⟩ := Option.map_eq_some_iff.mp hmap
    exact .str s
  | .list items, 0, _, h => by cases h
  | .list items, l + 1, _, h => by
    have hmap : (itemValues? l items).map Value.list = some _ := h
    obtain ⟨vs, hvs, rfl⟩ := Option.map_eq_some_iff.mp hmap
    exact .list vs (wellFormed_items items hvs)
  | .object entries, 0, _, h => by cases h
  | .object entries, l + 1, _, h => by
    have hmap : (entryValues? l entries).map Value.ofPairs = some _ := h
    obtain ⟨es, hes, rfl⟩ := Option.map_eq_some_iff.mp hmap
    exact Value.wellFormed_ofPairs (wellFormed_entries entries hes)

theorem wellFormed_items : ∀ (ts : List Tree) {levels : Nat} {vs : List Value},
    itemValues? levels ts = some vs → ∀ v ∈ vs, v.WellFormed
  | [], _, _, h => by
    cases h
    simp
  | t :: ts, levels, vs, h => by
    obtain ⟨v, hv, h⟩ := Option.bind_eq_some_iff.mp h
    obtain ⟨others, hothers, h⟩ := Option.bind_eq_some_iff.mp h
    cases h
    intro x hx
    rcases List.mem_cons.mp hx with rfl | hx
    · exact wellFormed_tree t hv
    · exact wellFormed_items ts hothers x hx

theorem wellFormed_entries : ∀ (es : List (List TextPiece × Tree)) {levels : Nat}
    {pairs : List (String × Value)}, entryValues? levels es = some pairs →
    ∀ e ∈ pairs, e.2.WellFormed
  | [], _, _, h => by
    cases h
    simp
  | (key, t) :: rest, levels, pairs, h => by
    obtain ⟨k, -, h⟩ := Option.bind_eq_some_iff.mp h
    obtain ⟨v, hv, h⟩ := Option.bind_eq_some_iff.mp h
    obtain ⟨others, hothers, h⟩ := Option.bind_eq_some_iff.mp h
    cases h
    intro x hx
    rcases List.mem_cons.mp hx with rfl | hx
    · exact wellFormed_tree t hv
    · exact wellFormed_entries rest hothers x hx
end

end Json

/-! ## TOML -/

namespace Toml

/-- No table inside the part holds a key twice, and no finished value does. -/
inductive Node.WellFormed : Node → Prop where
  | leaf (v : Value) : v.WellFormed → Node.WellFormed (.leaf v)
  | table (implied dotted : Bool) (entries : Table) : (Entries.keys entries).Nodup →
      (∀ e ∈ entries, Node.WellFormed e.2) → Node.WellFormed (.table implied dotted entries)
  | tables (rows : List Table) : (∀ row ∈ rows, (Entries.keys row).Nodup) →
      (∀ row ∈ rows, ∀ e ∈ row, Node.WellFormed e.2) → Node.WellFormed (.tables rows)

/-- The table holds no key twice, and no part of it does. -/
structure WellFormedTable (table : Table) : Prop where
  nodup : (Entries.keys table).Nodup
  parts : ∀ e ∈ table, e.2.WellFormed

theorem wellFormed_nil : WellFormedTable [] :=
  ⟨List.nodup_nil, by simp⟩

namespace WellFormedTable

variable {table : Table} {key : String} {n : Node}

theorem of_lookup (h : WellFormedTable table) (hn : table.lookup key = some n) : n.WellFormed :=
  h.parts _ (Entries.mem_of_lookup hn)

theorem insert (h : WellFormedTable table) (hn : n.WellFormed) :
    WellFormedTable (Entries.insert key n table) where
  nodup := Entries.nodup_keys_insert h.nodup
  parts e he := by
    rcases Entries.mem_of_mem_insert he with rfl | he
    · exact hn
    · exact h.parts e he

theorem append (h : WellFormedTable table) (hn : n.WellFormed)
    (hnew : table.lookup key = none) : WellFormedTable (table ++ [(key, n)]) where
  nodup := Entries.nodup_keys_append n h.nodup hnew
  parts e he := by
    rcases List.mem_append.mp he with he | he
    · exact h.parts e he
    · exact List.mem_singleton.mp he ▸ hn

theorem erase (h : WellFormedTable table) : WellFormedTable (Entries.erase key table) where
  nodup := Entries.nodup_keys_erase h.nodup
  parts e he := h.parts e (List.mem_filter.mp he).1

/-- The last of some tables, or an empty one. -/
theorem getLastD {rows : List Table} (h : (Node.tables rows).WellFormed) :
    WellFormedTable (rows.getLastD []) := by
  cases h with
  | tables _ hnodup hparts =>
    -- Without rows there is a new table to be entered.
    cases hlast : rows.getLast? with
    | none =>
      rw [List.getLastD_eq_getLast?, hlast]
      exact wellFormed_nil
    | some row =>
      have hmem := List.mem_of_getLast? hlast
      rw [List.getLastD_eq_getLast?, hlast]
      exact ⟨hnodup row hmem, hparts row hmem⟩

/-- Tables with one more, or with another in place of one. -/
theorem tables {rows rows' : List Table} (h : (Node.tables rows).WellFormed)
    (hn : WellFormedTable table) (hrows : ∀ row ∈ rows', row ∈ rows ∨ row = table) :
    (Node.tables rows').WellFormed := by
  cases h with
  | tables _ hnodup hparts =>
    refine .tables rows' (fun row hrow => ?_) (fun row hrow => ?_)
    · rcases hrows row hrow with hrow | rfl
      · exact hnodup row hrow
      · exact hn.nodup
    · rcases hrows row hrow with hrow | rfl
      · exact hparts row hrow
      · exact hn.parts

end WellFormedTable

/-- The value of a part keeps the keys of the part. -/
theorem keys_entryValues (entries : Table) :
    Entries.keys (entryValues entries) = Entries.keys entries := by
  induction entries with
  | nil => rfl
  | cons e rest ih =>
    rw [entryValues, Entries.keys_cons, ih]
    rfl

theorem mem_entryValues {entries : Table} {x : String × Value} (h : x ∈ entryValues entries) :
    ∃ e ∈ entries, x.2 = e.2.value := by
  induction entries with
  | nil => cases h
  | cons e rest ih =>
    rw [entryValues] at h
    rcases List.mem_cons.mp h with rfl | h
    · exact ⟨e, List.mem_cons_self .., rfl⟩
    · obtain ⟨e', he', hx⟩ := ih h
      exact ⟨e', List.mem_cons_of_mem _ he', hx⟩

theorem mem_rowValues {rows : List Table} {v : Value} (h : v ∈ rowValues rows) :
    ∃ row ∈ rows, v = .object (entryValues row) := by
  induction rows with
  | nil => cases h
  | cons row rest ih =>
    rw [rowValues] at h
    rcases List.mem_cons.mp h with rfl | h
    · exact ⟨row, List.mem_cons_self .., rfl⟩
    · obtain ⟨row', hrow', hv⟩ := ih h
      exact ⟨row', List.mem_cons_of_mem _ hrow', hv⟩

theorem wellFormed_value {n : Node} (h : n.WellFormed) : n.value.WellFormed := by
  induction h with
  | leaf v hv => exact hv
  | table implied dotted entries hk _ ih =>
    refine .object _ (by rwa [keys_entryValues]) fun x hx => ?_
    obtain ⟨e, he, heq⟩ := mem_entryValues hx
    exact heq ▸ ih e he
  | tables rows hk _ ih =>
    apply Value.WellFormed.list
    intro v hv
    obtain ⟨row, hrow, rfl⟩ := mem_rowValues hv
    refine .object _ (by rw [keys_entryValues]; exact hk row hrow) fun x hx => ?_
    obtain ⟨e, he, heq⟩ := mem_entryValues hx
    exact heq ▸ ih row hrow e he

theorem wellFormed_tableValue {table : Table} (h : WellFormedTable table) :
    (tableValue table).WellFormed :=
  wellFormed_value (.table false false table h.nodup h.parts)

/-- A change of the table at the end of a way keeps what the change keeps. -/
theorem wellFormed_modifyAt? {dotted : Bool} {change : Bool → Table → Option Table}
    (hchange : ∀ isDotted table table', WellFormedTable table →
      change isDotted table = some table' → WellFormedTable table')
    {keys : List String} {isDotted : Bool} {table table' : Table} (h : WellFormedTable table)
    (hmodify : modifyAt? dotted change keys isDotted table = some table') :
    WellFormedTable table' := by
  -- On the way. The next key is missing, a leaf, a table, or a list of tables of which the last one
  -- is entered.
  induction keys generalizing isDotted table table' with
  | nil => exact hchange isDotted table table' h hmodify
  | cons key keys ih =>
    rw [modifyAt?] at hmodify
    split at hmodify
    · obtain ⟨inner, hinner, rfl⟩ := Option.map_eq_some_iff.mp hmodify
      have hwf := ih wellFormed_nil hinner
      exact h.insert (.table true dotted inner hwf.nodup hwf.parts)
    · cases hmodify
    · next implied isDotted' entries hlookup =>
      split at hmodify
      · cases hmodify
      · obtain ⟨inner, hinner, rfl⟩ := Option.map_eq_some_iff.mp hmodify
        cases h.of_lookup hlookup with
        | table _ _ _ hk hparts =>
          have hwf := ih ⟨hk, hparts⟩ hinner
          exact h.insert (.table implied isDotted' inner hwf.nodup hwf.parts)
    · next rows hlookup =>
      obtain ⟨inner, hinner, rfl⟩ := Option.map_eq_some_iff.mp hmodify
      have hrows := h.of_lookup hlookup
      have hwf := ih (.getLastD hrows) hinner
      refine h.insert (WellFormedTable.tables hrows hwf fun row hrow => ?_)
      rcases List.mem_append.mp hrow with hrow | hrow
      · exact .inl (List.mem_of_mem_dropLast hrow)
      · exact .inr (List.mem_singleton.mp hrow)

theorem wellFormed_addPair? {path : List String} {key : String} {v : Value} {table table' : Table}
    (hv : v.WellFormed) (h : WellFormedTable table)
    (hadd : addPair? path key v table = some table') : WellFormedTable table' := by
  refine wellFormed_modifyAt? (fun isDotted inner inner' hinner hchange => ?_) h hadd
  split at hchange
  · cases hchange
  · rw [addFresh?] at hchange
    split at hchange
    · next hnew =>
      cases hchange
      exact hinner.append (.leaf v hv) hnew
    · cases hchange

/-! ### Values -/

theorem wellFormed_ofFloat (x : Float) : (ofFloat x).WellFormed := by
  rw [ofFloat]
  split
  · exact .null
  · exact .float x

theorem wellFormed_ofMoment (m : Moment) : (ofMoment m).WellFormed :=
  .object _ (List.nodup_singleton momentKey) fun _ he => List.mem_singleton.mp he ▸ .str m.text

theorem wellFormed_readNumeric? {cs rest : List Char} {v : Value}
    (h : readNumeric? cs = some (v, rest)) : v.WellFormed := by
  -- A moment, a float or an integer; the first that can be read is taken.
  rw [readNumeric?, Option.or_eq_some_iff, Option.or_eq_some_iff] at h
  rcases h with h | ⟨-, h | ⟨-, h⟩⟩
  · obtain ⟨m, -, heq⟩ := Option.map_eq_some_iff.mp h
    cases heq
    exact wellFormed_ofMoment m.1
  · obtain ⟨x, -, heq⟩ := Option.map_eq_some_iff.mp h
    cases heq
    exact wellFormed_ofFloat x.1
  · obtain ⟨n, -, heq⟩ := Option.map_eq_some_iff.mp h
    cases heq
    exact .int n.1

theorem wellFormed_readScalar? {cs rest : List Char} {v : Value}
    (h : readScalar? cs = some (v, rest)) : v.WellFormed := by
  unfold readScalar? at h
  split at h
  · cases h
    exact .bool true
  · cases h
    exact .bool false
  · obtain ⟨text, -, heq⟩ := Option.map_eq_some_iff.mp h
    cases heq
    exact .str _
  · obtain ⟨text, -, heq⟩ := Option.map_eq_some_iff.mp h
    cases heq
    exact .str _
  · exact wellFormed_readNumeric? h

/-- What the three readers read with so much fuel is well-formed. -/
structure ReadsWellFormed (fuel : Nat) : Prop where
  value : ∀ levels cs v rest, readValueWithin fuel levels cs = some (v, rest) → v.WellFormed
  items : ∀ levels cs vs rest, readItems fuel levels cs = some (vs, rest) →
    ∀ v ∈ vs, v.WellFormed
  inline : ∀ levels table cs table' rest, WellFormedTable table →
    readInline fuel levels table cs = some (table', rest) → WellFormedTable table'

theorem readsWellFormed (fuel : Nat) : ReadsWellFormed fuel := by
  -- On the fuel, for the three readers at once, since each of them calls the others.
  induction fuel with
  | zero =>
    refine ⟨?_, ?_, ?_⟩
    · intro levels cs v rest h
      cases h
    · intro levels cs vs rest h
      cases h
    · intro levels table cs table' rest _ h
      cases h
  | succ fuel ih =>
    refine ⟨?value, ?items, ?inline⟩
    case value =>
      intro levels cs v rest h
      unfold readValueWithin at h
      split at h
      · cases h
      · cases h
      · obtain ⟨found, hfound, heq⟩ := Option.map_eq_some_iff.mp h
        cases heq
        exact .list _ (ih.items _ _ _ _ hfound)
      · split at h
        · cases h
          exact .object [] List.nodup_nil (by simp)
        · obtain ⟨found, hfound, heq⟩ := Option.map_eq_some_iff.mp h
          cases heq
          exact wellFormed_tableValue (ih.inline _ _ _ _ _ wellFormed_nil hfound)
      · exact wellFormed_readScalar? h
    case items =>
      intro levels cs vs rest h
      unfold readItems at h
      split at h
      · cases h
        simp
      · obtain ⟨⟨item, after⟩, hitem, h⟩ := Option.bind_eq_some_iff.mp h
        have hfirst := ih.value _ _ _ _ hitem
        dsimp only at h
        split at h
        · obtain ⟨⟨others, end'⟩, hothers, h⟩ := Option.bind_eq_some_iff.mp h
          cases h
          intro v hv
          rcases List.mem_cons.mp hv with rfl | hv
          · exact hfirst
          · exact ih.items _ _ _ _ hothers v hv
        · cases h
          intro v hv
          exact List.mem_singleton.mp hv ▸ hfirst
        · cases h
    case inline =>
      intro levels table cs table' rest htable h
      unfold readInline at h
      obtain ⟨found, -, h⟩ := Option.bind_eq_some_iff.mp h
      obtain ⟨after, -, h⟩ := Option.bind_eq_some_iff.mp h
      obtain ⟨value, hvalue, h⟩ := Option.bind_eq_some_iff.mp h
      obtain ⟨added, hadded, h⟩ := Option.bind_eq_some_iff.mp h
      have hwf := wellFormed_addPair? (ih.value _ _ _ _ hvalue) htable hadded
      split at h
      · exact ih.inline _ _ _ _ _ hwf h
      · cases h
        exact hwf
      · cases h

/-! ### Lines -/

/-- The value of an entry is well-formed. -/
def Line.WellFormed : Line → Prop
  | .entry _ _ v => v.WellFormed
  | _ => True

theorem wellFormed_readLine? {cs rest : List Char} {line : Line}
    (h : readLine? cs = some (some line, rest)) : line.WellFormed := by
  -- Only an entry carries a value, and that is the last kind of line.
  unfold readLine? at h
  split at h
  · obtain ⟨key, -, h⟩ := Option.bind_eq_some_iff.mp h
    obtain ⟨first, -, h⟩ := Option.bind_eq_some_iff.mp h
    obtain ⟨second, -, h⟩ := Option.bind_eq_some_iff.mp h
    obtain ⟨after, -, h⟩ := Option.bind_eq_some_iff.mp h
    cases h
    trivial
  · obtain ⟨key, -, h⟩ := Option.bind_eq_some_iff.mp h
    obtain ⟨first, -, h⟩ := Option.bind_eq_some_iff.mp h
    obtain ⟨after, -, h⟩ := Option.bind_eq_some_iff.mp h
    cases h
    trivial
  · obtain ⟨after, -, h⟩ := Option.bind_eq_some_iff.mp h
    cases h
  · obtain ⟨after, -, h⟩ := Option.bind_eq_some_iff.mp h
    cases h
  · obtain ⟨after, -, h⟩ := Option.bind_eq_some_iff.mp h
    cases h
  · obtain ⟨key, -, h⟩ := Option.bind_eq_some_iff.mp h
    obtain ⟨equals, -, h⟩ := Option.bind_eq_some_iff.mp h
    obtain ⟨value, hvalue, h⟩ := Option.bind_eq_some_iff.mp h
    obtain ⟨after, -, h⟩ := Option.bind_eq_some_iff.mp h
    cases h
    exact (readsWellFormed _).value _ _ _ _ hvalue

theorem wellFormed_readLines? {fuel : Nat} {cs : List Char} {lines : List Line}
    (h : readLines? fuel cs = some lines) : ∀ line ∈ lines, line.WellFormed := by
  induction fuel generalizing cs lines with
  | zero => cases h
  | succ fuel ih =>
    rw [readLines?] at h
    split at h
    · cases h
      simp
    · obtain ⟨⟨found, after⟩, hfound, h⟩ := Option.bind_eq_some_iff.mp h
      obtain ⟨others, hothers, h⟩ := Option.bind_eq_some_iff.mp h
      cases h
      intro line hline
      rcases List.mem_append.mp hline with hline | hline
      · rw [Option.mem_toList] at hline
        cases hline
        exact wellFormed_readLine? hfound
      · exact ih hothers line hline

/-! ### Documents -/

/-- The finished tables and the open one are well-formed. -/
structure WellFormedDraft (d : Draft) : Prop where
  root : WellFormedTable d.root
  entries : WellFormedTable d.entries

theorem wellFormed_close? {d : Draft} (h : WellFormedDraft d) {table : Table}
    (hclose : d.close? = some table) : WellFormedTable table := by
  rw [Draft.close?] at hclose
  split at hclose
  · cases hclose
    exact h.entries
  · next path key isRow _ =>
    -- The open table goes to its parent: as a new entry, or as the last row of what is there.
    refine wellFormed_modifyAt? (fun _ parent parent' hparent hput => ?_) h.root hclose
    split at hput
    · next hnew =>
      split at hput
      · cases hput
      · cases hput
        exact hparent.append (.table false false d.entries h.entries.nodup h.entries.parts) hnew
    · next rows hlookup =>
      split at hput
      · cases hput
        refine hparent.insert (WellFormedTable.tables (hparent.of_lookup hlookup) h.entries
          fun row hrow => ?_)
        rcases List.mem_append.mp hrow with hrow | hrow
        · exact .inl hrow
        · exact .inr (List.mem_singleton.mp hrow)
      · cases hput
    · cases hput

theorem wellFormed_lookupAt? {path : List String} {table : Table} {key : String} {n : Node}
    (h : WellFormedTable table) (hfound : openTable?.lookupAt? path table key = some (some n)) :
    n.WellFormed := by
  induction path generalizing table with
  | nil => exact h.of_lookup (Option.some.inj hfound)
  | cons k ks ih =>
    rw [openTable?.lookupAt?] at hfound
    split at hfound
    · cases hfound
    · cases hfound
    · next implied dotted inner hlookup =>
      cases h.of_lookup hlookup with
      | table _ _ _ hk hparts => exact ih ⟨hk, hparts⟩ hfound
    · next rows hlookup => exact ih (.getLastD (h.of_lookup hlookup)) hfound

theorem wellFormed_openTable? {path : List String} {key : String} {root : Table} {d : Draft}
    (h : WellFormedTable root) (hopen : openTable? path key root = some d) :
    WellFormedDraft d := by
  -- The parent loses the table, whatever the open one begins with.
  have hopened : ∀ entries : Table, WellFormedTable entries →
      ((modifyAt? false (fun _ parent => some (Entries.erase key parent)) path false root).bind
        fun root => some { root, place := some (path, key, false), entries }) = some d →
      WellFormedDraft d := by
    intro entries hentries hput
    obtain ⟨root', hroot, hput⟩ := Option.bind_eq_some_iff.mp hput
    cases hput
    refine ⟨wellFormed_modifyAt? (fun _ parent parent' hparent hchange => ?_) h hroot, hentries⟩
    cases hchange
    exact hparent.erase
  unfold openTable? at hopen
  obtain ⟨there, hthere, hopen⟩ := Option.bind_eq_some_iff.mp hopen
  dsimp only at hopen
  split at hopen
  · exact hopened [] wellFormed_nil hopen
  · next entries =>
    cases wellFormed_lookupAt? h hthere with
    | table _ _ _ hk hparts => exact hopened entries ⟨hk, hparts⟩ hopen
  · cases hopen

theorem wellFormed_openRow? {path : List String} {key : String} {root : Table} {d : Draft}
    (h : WellFormedTable root) (hopen : openRow? path key root = some d) :
    WellFormedDraft d := by
  unfold openRow? at hopen
  obtain ⟨root', hroot, hopen⟩ := Option.bind_eq_some_iff.mp hopen
  cases hopen
  refine ⟨?_, wellFormed_nil⟩
  -- The parent has no such entry, or has rows under it already.
  refine wellFormed_modifyAt? (fun _ parent parent' hparent hmake => ?_) h hroot
  split at hmake
  · next hnew =>
    cases hmake
    exact hparent.append (.tables [] (by simp) (by simp)) hnew
  · cases hmake
    exact hparent
  · cases hmake

theorem wellFormed_step? {d d' : Draft} {line : Line} (h : WellFormedDraft d)
    (hline : line.WellFormed) (hstep : d.step? line = some d') : WellFormedDraft d' := by
  cases line with
  | entry path key v =>
    obtain ⟨entries, hadd, rfl⟩ := Option.map_eq_some_iff.mp hstep
    exact ⟨h.root, wellFormed_addPair? hline h.entries hadd⟩
  | table path key =>
    obtain ⟨table, hclose, hopen⟩ := Option.bind_eq_some_iff.mp hstep
    exact wellFormed_openTable? (wellFormed_close? h hclose) hopen
  | row path key =>
    obtain ⟨table, hclose, hopen⟩ := Option.bind_eq_some_iff.mp hstep
    exact wellFormed_openRow? (wellFormed_close? h hclose) hopen

theorem wellFormed_foldlM {lines : List Line} {d d' : Draft} (h : WellFormedDraft d)
    (hlines : ∀ line ∈ lines, line.WellFormed) (hfold : lines.foldlM Draft.step? d = some d') :
    WellFormedDraft d' := by
  induction lines generalizing d with
  | nil =>
    cases hfold
    exact h
  | cons line rest ih =>
    rw [List.foldlM_cons] at hfold
    obtain ⟨d₁, hstep, hrest⟩ := Option.bind_eq_some_iff.mp hfold
    have hfirst := wellFormed_step? h (hlines line (List.mem_cons_self ..)) hstep
    exact ih hfirst (fun l hl => hlines l (List.mem_cons_of_mem _ hl)) hrest

theorem wellFormed_build? {lines : List Line} {table : Table}
    (hlines : ∀ line ∈ lines, line.WellFormed) (hbuild : build? lines = some table) :
    WellFormedTable table := by
  obtain ⟨d, hfold, hclose⟩ := Option.bind_eq_some_iff.mp hbuild
  exact wellFormed_close? (wellFormed_foldlM ⟨wellFormed_nil, wellFormed_nil⟩ hlines hfold) hclose

end Toml

namespace Options

theorem data_validated {o o' : Options} (h : o.validated = .ok o') : o' = o := by
  rw [validated] at h
  split at h
  · cases h
  · exact (Except.ok.inj h).symm

theorem wellFormed_ofTree? {t : Json.Tree} {o : Options} (h : ofTree? t = some o) :
    o.data.WellFormed := by
  unfold ofTree? at h
  split at h
  · obtain ⟨entries, -, h⟩ := Option.bind_eq_some_iff.mp h
    obtain ⟨found, -, h⟩ := Option.bind_eq_some_iff.mp h
    obtain ⟨el, -, h⟩ := Option.bind_eq_some_iff.mp h
    obtain ⟨content, -, h⟩ := Option.bind_eq_some_iff.mp h
    obtain ⟨data, hdata, h⟩ := Option.bind_eq_some_iff.mp h
    cases h
    exact Json.wellFormed_tree content hdata
  · obtain ⟨el, -, h⟩ := Option.bind_eq_some_iff.mp h
    cases h
    exact .null
  · next el data =>
    obtain ⟨el, -, h⟩ := Option.bind_eq_some_iff.mp h
    obtain ⟨v, hv, h⟩ := Option.bind_eq_some_iff.mp h
    cases h
    exact Json.wellFormed_tree data hv
  · cases h

theorem wellFormed_ofJson {text : String} {o : Options} (h : ofJson text = .ok o) :
    o.data.WellFormed := by
  rw [ofJson] at h
  split at h
  · next read hread =>
    obtain ⟨tree, -, htree⟩ := Option.bind_eq_some_iff.mp hread
    rw [data_validated h]
    exact wellFormed_ofTree? htree
  · cases h

theorem wellFormed_ofToml {text : String} {o : Options} (h : ofToml text = .ok o) :
    o.data.WellFormed := by
  rw [ofToml] at h
  split at h
  · next read hread =>
    obtain ⟨table, htable, hoptions⟩ := Option.bind_eq_some_iff.mp hread
    obtain ⟨lines, hlines, hvalue⟩ := Option.bind_eq_some_iff.mp htable
    obtain ⟨built, hbuilt, rfl⟩ := Option.map_eq_some_iff.mp hvalue
    have hwf := Toml.wellFormed_tableValue
      (Toml.wellFormed_build? (Toml.wellFormed_readLines? hlines) hbuilt)
    obtain ⟨selector, -, hoptions⟩ := Option.bind_eq_some_iff.mp hoptions
    obtain ⟨el, -, hoptions⟩ := Option.bind_eq_some_iff.mp hoptions
    cases hoptions
    rw [data_validated h]
    dsimp only
    cases hdata : (Toml.tableValue built).get? "data" with
    | none => exact .null
    | some v => exact hwf.get? hdata
  · cases h

end Options

end LiveText
