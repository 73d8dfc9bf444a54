import Mathlib
import LiveText.Value.Basic

/-!
# Entries

What a look-up in a list of entries finds, and what inserting, erasing and mapping do to the keys.

## Main definitions

- `lastOfEach`: each key where it first comes, with its last content.

## Main statements

- `lookup_isSome_iff_mem_keys`, `lookup_of_mem`: what is found.
- `mem_of_mem_insert`, `keys_insert`, `lookup_insert`: what an insertion leaves.
- `nodup_keys_insert`, `nodup_keys_erase`, `nodup_keys_append`: no key twice.
- `ofList_eq_lastOfEach`: what insertions one after the other leave.
-/

namespace LiveText.Entries

variable {α : Type}

/-! ## Looking up -/

@[simp] theorem keys_nil : keys ([] : Entries α) = [] := rfl

@[simp] theorem keys_cons (key : String) (a : α) (rest : Entries α) :
    keys ((key, a) :: rest) = key :: keys rest := rfl

theorem lookup_isSome_iff_mem_keys {entries : Entries α} {key : String} :
    (entries.lookup key).isSome ↔ key ∈ keys entries := by
  induction entries with
  | nil => simp
  | cons e rest ih =>
    obtain ⟨k, a⟩ := e
    rw [List.lookup_cons, keys_cons, List.mem_cons]
    by_cases h : key = k
    · simp [h]
    · have hne : (key == k) = false := beq_eq_false_iff_ne.mpr h
      simp [hne, h, ih]

theorem mem_of_lookup {entries : Entries α} {key : String} {a : α}
    (h : entries.lookup key = some a) : (key, a) ∈ entries := by
  obtain ⟨l₁, l₂, rfl, -⟩ := List.lookup_eq_some_iff.mp h
  simp

/-- Where no key occurs twice, every entry is the one that a look-up finds. -/
theorem lookup_of_mem {entries : Entries α} (hk : (keys entries).Nodup) {key : String} {a : α}
    (h : (key, a) ∈ entries) : entries.lookup key = some a := by
  induction entries with
  | nil => simp at h
  | cons e rest ih =>
    obtain ⟨k, b⟩ := e
    rw [keys_cons, List.nodup_cons] at hk
    rw [List.lookup_cons]
    rcases List.mem_cons.mp h with heq | hmem
    · simp only [Prod.mk.injEq] at heq
      simp [heq]
    · have hne : (key == k) = false := by
        refine beq_eq_false_iff_ne.mpr fun heq => hk.1 ?_
        exact List.mem_map.mpr ⟨(key, a), hmem, heq⟩
      rw [hne]
      exact ih hk.2 hmem

/-- Changing contents by a function that knows the key. -/
theorem lookup_map (f : String → α → α) (entries : Entries α) (key : String) :
    (entries.map fun (k, a) => (k, f k a)).lookup key = (entries.lookup key).map (f key) := by
  induction entries with
  | nil => rfl
  | cons e rest ih =>
    obtain ⟨k, a⟩ := e
    simp only [List.map_cons, List.lookup_cons]
    by_cases h : key = k
    · simp [h]
    · have hne : (key == k) = false := beq_eq_false_iff_ne.mpr h
      simp [hne, ih]

theorem keys_map (f : String → α → α) (entries : Entries α) :
    keys (entries.map fun (k, a) => (k, f k a)) = keys entries := by
  simp [keys, Function.comp_def]

/-- Where no key occurs twice, what is made of the entries with one key is made of what is found
under it. -/
theorem flatMap_of_key {β : Type} {entries : Entries α} (hk : (keys entries).Nodup) (key : String)
    (f : α → List β) :
    entries.flatMap (fun e => if e.1 = key then f e.2 else []) =
      ((entries.lookup key).map f).getD [] := by
  induction entries with
  | nil => rfl
  | cons e rest ih =>
    obtain ⟨k, a⟩ := e
    rw [keys_cons, List.nodup_cons] at hk
    rw [List.flatMap_cons, ih hk.2, List.lookup_cons]
    by_cases h : k = key
    · subst h
      have hnone : rest.lookup k = none := by
        rw [← Option.not_isSome_iff_eq_none, lookup_isSome_iff_mem_keys]
        exact hk.1
      simp [hnone]
    · have hne : (key == k) = false := beq_eq_false_iff_ne.mpr (Ne.symm h)
      simp [h, hne]

/-- Entries are put together again from their keys and what is found under these. -/
theorem filterMap_keys {entries : Entries α} {f : String → Option α}
    (h : ∀ e ∈ entries, f e.1 = some e.2) :
    (keys entries).filterMap (fun key => (f key).map (key, ·)) = entries := by
  induction entries with
  | nil => rfl
  | cons e rest ih =>
    obtain ⟨k, a⟩ := e
    have hk : f k = some a := h (k, a) (List.mem_cons_self ..)
    rw [keys_cons, List.filterMap_cons_some (by rw [hk]; rfl)]
    rw [ih fun e he => h e (List.mem_cons_of_mem _ he)]

/-! ## Inserting and erasing -/

theorem mem_of_mem_insert {key : String} {a : α} {entries : Entries α} {e : String × α}
    (h : e ∈ entries.insert key a) : e = (key, a) ∨ e ∈ entries := by
  induction entries with
  | nil => exact .inl (List.mem_singleton.mp h)
  | cons first rest ih =>
    rw [insert] at h
    split at h
    · rcases List.mem_cons.mp h with h | h
      · exact .inl h
      · exact .inr (List.mem_cons_of_mem _ h)
    · rcases List.mem_cons.mp h with h | h
      · exact .inr (h ▸ List.mem_cons_self ..)
      · exact (ih h).imp_right (List.mem_cons_of_mem _)

theorem mem_insert (key : String) (a : α) (entries : Entries α) :
    (key, a) ∈ entries.insert key a := by
  induction entries with
  | nil => exact List.mem_singleton_self _
  | cons first rest ih =>
    rw [insert]
    split
    · exact List.mem_cons_self ..
    · exact List.mem_cons_of_mem _ ih

theorem nodup_keys_insert {key : String} {a : α} {entries : Entries α}
    (h : (keys entries).Nodup) : (keys (entries.insert key a)).Nodup := by
  induction entries with
  | nil => exact List.nodup_singleton key
  | cons first rest ih =>
    obtain ⟨k, c⟩ := first
    rw [keys_cons, List.nodup_cons] at h
    rw [insert]
    split
    · next heq =>
      subst heq
      exact List.nodup_cons.mpr h
    · next hne =>
      rw [keys_cons, List.nodup_cons]
      refine ⟨fun hk => ?_, ih h.2⟩
      obtain ⟨e, he, hek⟩ := List.mem_map.mp hk
      rcases mem_of_mem_insert he with rfl | he
      · exact hne hek.symm
      · exact h.1 (List.mem_map.mpr ⟨e, he, hek⟩)

theorem nodup_keys_erase {key : String} {entries : Entries α} (h : (keys entries).Nodup) :
    (keys (entries.erase key)).Nodup :=
  h.sublist (List.Sublist.map _ List.filter_sublist)

theorem nodup_keys_append {key : String} (a : α) {entries : Entries α} (h : (keys entries).Nodup)
    (hnew : entries.lookup key = none) : (keys (entries ++ [(key, a)])).Nodup := by
  rw [keys, List.map_append, List.nodup_append]
  refine ⟨h, List.nodup_singleton key, ?_⟩
  intro k hk k' hk' heq
  rw [List.map_singleton, List.mem_singleton] at hk'
  have hsome : (entries.lookup key).isSome := by
    have hkey : k = key := heq.trans hk'
    rw [lookup_isSome_iff_mem_keys]
    exact hkey ▸ hk
  rw [hnew] at hsome
  cases hsome

/-! ## Insertions one after the other -/

theorem keys_insert (key : String) (a : α) (entries : Entries α) :
    keys (entries.insert key a) =
      if key ∈ keys entries then keys entries else keys entries ++ [key] := by
  induction entries with
  | nil => rfl
  | cons e rest ih =>
    obtain ⟨k, c⟩ := e
    rw [insert]
    by_cases h : k = key
    · simp [h]
    · rw [if_neg h, keys_cons, keys_cons, ih]
      by_cases hrest : key ∈ keys rest
      · simp [hrest]
      · simp [hrest, Ne.symm h]

theorem lookup_insert (key : String) (a : α) (entries : Entries α) (k : String) :
    (entries.insert key a).lookup k = if k = key then some a else entries.lookup k := by
  induction entries with
  | nil =>
    rw [insert, List.lookup_cons]
    by_cases hk : k = key
    · simp [hk]
    · simp [hk, beq_eq_false_iff_ne.mpr hk]
  | cons e rest ih =>
    obtain ⟨k', c⟩ := e
    rw [insert]
    by_cases h : k' = key
    · subst h
      by_cases hk : k = k'
      · simp [hk]
      · simp [hk, List.lookup_cons, beq_eq_false_iff_ne.mpr hk]
    · rw [if_neg h, List.lookup_cons, List.lookup_cons, ih]
      by_cases hk : k = k'
      · subst hk
        simp [h]
      · simp [beq_eq_false_iff_ne.mpr hk]

/-- Each key once, in the order in which the keys first come, with the content that it has last. -/
def lastOfEach (pairs : List (String × α)) : Entries α :=
  (keys pairs).eraseDups.filterMap fun key => (pairs.reverse.lookup key).map (key, ·)

theorem ofList_concat (pairs : List (String × α)) (e : String × α) :
    ofList (pairs ++ [e]) = (ofList pairs).insert e.1 e.2 := by
  rw [ofList, List.foldl_append]
  rfl

theorem nodup_keys_ofList (pairs : List (String × α)) : (keys (ofList pairs)).Nodup := by
  induction pairs using List.reverseRecOn with
  | nil => exact List.nodup_nil
  | append_singleton pairs e ih =>
    rw [ofList_concat]
    exact nodup_keys_insert ih

theorem keys_ofList (pairs : List (String × α)) :
    keys (ofList pairs) = (keys pairs).eraseDups := by
  induction pairs using List.reverseRecOn with
  | nil => rfl
  | append_singleton pairs e ih =>
    have hkeys : keys (pairs ++ [e]) = keys pairs ++ [e.1] := List.map_append
    rw [ofList_concat, keys_insert, ih, hkeys, List.eraseDups_append]
    by_cases h : e.1 ∈ keys pairs
    · simp [h, List.removeAll]
    · simp [h, List.removeAll, List.eraseDups_cons]

theorem lookup_ofList (pairs : List (String × α)) (key : String) :
    (ofList pairs).lookup key = pairs.reverse.lookup key := by
  induction pairs using List.reverseRecOn with
  | nil => rfl
  | append_singleton pairs e ih =>
    rw [ofList_concat, lookup_insert, ih, List.reverse_concat, List.lookup_cons]
    by_cases h : key = e.1
    · simp [h]
    · simp [h, beq_eq_false_iff_ne.mpr h]

/-- Insertions one after the other leave each key in its first place with its last content. -/
theorem ofList_eq_lastOfEach (pairs : List (String × α)) : ofList pairs = lastOfEach pairs := by
  rw [lastOfEach, ← keys_ofList]
  refine (filterMap_keys fun e he => ?_).symm
  rw [← lookup_ofList]
  exact lookup_of_mem (nodup_keys_ofList pairs) he

/-- An entry with a new key goes to the end. -/
theorem insert_of_notMem {key : String} {entries : Entries α}
    (h : key ∉ keys entries) (a : α) : entries.insert key a = entries ++ [(key, a)] := by
  induction entries with
  | nil => rfl
  | cons e rest ih =>
    obtain ⟨k, c⟩ := e
    rw [keys_cons, List.mem_cons, not_or] at h
    rw [insert, if_neg (Ne.symm h.1), ih h.2, List.cons_append]

/-- Where no key comes twice nothing is lost. -/
theorem lastOfEach_of_nodup {entries : Entries α} (h : (keys entries).Nodup) :
    lastOfEach entries = entries := by
  rw [← ofList_eq_lastOfEach]
  induction entries using List.reverseRecOn with
  | nil => rfl
  | append_singleton entries e ih =>
    rw [keys, List.map_append, List.nodup_append] at h
    have hnew : e.1 ∉ keys entries := fun hmem =>
      h.2.2 e.1 hmem e.1 (List.mem_singleton_self e.1) rfl
    rw [ofList_concat, ih h.1, insert_of_notMem hnew]

end LiveText.Entries
