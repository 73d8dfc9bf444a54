import Mathlib
import LiveText.Json.Reader
import LiveText.Proofs.Json.Reading
import LiveText.Proofs.Value.Entries

/-!
# Values come back from JSON

A value without finite floating-point numbers, written as JSON and read again, comes back as it was,
with `null` where a number had been that JSON cannot write. An integer is one again on the whole
range of 64 bits, a text comes back character by character however it was escaped, and the entries
of an object are inserted in the order in which they stand.

## Main definitions

- `Value.nulled`: what becomes of the numbers that JSON cannot write.

## Main statements

- `Json.decodeText_piecesOf`, `Json.value?_numberOf`: the leaves stand for what has been written.
- `Value.value?_tree`: the tree of a value stands for that value.
- `Value.json_reads_back`: values come back from their text.
-/

namespace LiveText

namespace Json

open Decimal

/-! ## Leaves -/

theorem decodePieces_unit {n : Nat} (hn : n < 0x20) (pieces : List TextPiece) :
    decodePieces (.unit n :: pieces) = (decodePieces pieces).map (Char.ofNat n :: ·) := by
  have hhigh : isHighSurrogate n = false := by
    simp only [isHighSurrogate, Bool.and_eq_false_iff, decide_eq_false_iff_not]
    omega
  have hlow : isLowSurrogate n = false := by
    simp only [isLowSurrogate, Bool.and_eq_false_iff, decide_eq_false_iff_not]
    omega
  -- A unit is looked at together with one behind it.
  rcases pieces with _ | ⟨c | m, pieces⟩ <;> simp [decodePieces, hhigh, hlow]

/-- A piece stands for the character that it was written for. -/
theorem decodePieces_pieceOf (c : Char) (pieces : List TextPiece) :
    decodePieces (pieceOf c :: pieces) = (decodePieces pieces).map (c :: ·) := by
  unfold pieceOf
  split
  · next hcode =>
    rw [decodePieces_unit hcode.1, Char.ofNat_toNat]
  · simp [decodePieces]

/-- The pieces of a text stand for it. -/
theorem decodeText_piecesOf (s : String) : decodeText (piecesOf s) = some s := by
  have hpieces : ∀ cs : List Char, decodePieces (cs.map pieceOf) = some cs := by
    intro cs
    induction cs with
    | nil => rfl
    | cons c cs ih => simp [decodePieces_pieceOf, ih]
  simp [decodeText, piecesOf, hpieces]

/-- An integer of 64 bits stays one. -/
theorem value?_numberOf (n : Int64) : (numberOf n.toInt).value? = some (.int n) := by
  have hdigits : natOfDigits (Nat.toDigits 10 n.toInt.natAbs) = n.toInt.natAbs :=
    Nat.ofDigitChars_ten_toDigits
  have hmin : Int64.minValue.toInt ≤ n.toInt := n.minValue_le_toInt
  have hmax : n.toInt ≤ Int64.maxValue.toInt := n.toInt_le
  have hfits : n.toInt.natAbs ≤ maxSignificand := by
    change -(2 ^ 63) ≤ n.toInt at hmin
    change n.toInt ≤ 2 ^ 63 - 1 at hmax
    change n.toInt.natAbs ≤ 2 ^ 64 - 1
    omega
  simp only [NumberText.value?, numberOf, hdigits, hfits, List.isEmpty_nil, Option.isNone_none,
    Bool.true_and, decide_true, if_true]
  by_cases hneg : n.toInt < 0
  · -- The magnitude of a negative integer is not zero, and the integer is not below the least one.
    have hback : -(n.toInt.natAbs : Int) = n.toInt := by omega
    have hne : n.toInt.natAbs ≠ 0 := by omega
    rw [if_pos (decide_eq_true hneg), hback, if_pos ⟨hne, hmin⟩, Int64.ofInt_toInt]
  · have hback : (n.toInt.natAbs : Int) = n.toInt := by omega
    rw [if_neg (by simpa using hneg), hback, if_pos hmax, Int64.ofInt_toInt]

end Json

namespace Value

open Json

mutual
/-- The value with `null` in place of the numbers that JSON cannot write. -/
def nulled : Value → Value
  | .float x => if x.isFinite then .float x else .null
  | .list items => .list (nulledItems items)
  | .object entries => .object (nulledEntries entries)
  | v => v
termination_by structural v => v

/-- The same for each of some values. -/
def nulledItems : List Value → List Value
  | [] => []
  | x :: xs => x.nulled :: nulledItems xs
termination_by structural xs => xs

/-- The same for the contents of entries. -/
def nulledEntries : List (String × Value) → List (String × Value)
  | [] => []
  | (key, x) :: es => (key, x.nulled) :: nulledEntries es
termination_by structural es => es
end

theorem keys_nulledEntries (entries : List (String × Value)) :
    Entries.keys (nulledEntries entries) = Entries.keys entries := by
  induction entries with
  | nil => rfl
  | cons e es ih =>
    obtain ⟨key, x⟩ := e
    simp [nulledEntries, ih]

/-- Entries without a key that comes twice, inserted one after the other, are the same entries. -/
theorem ofPairs_of_nodup {entries : List (String × Value)} (h : (Entries.keys entries).Nodup) :
    ofPairs entries = .object entries := by
  rw [ofPairs, Entries.ofList_eq_lastOfEach, Entries.lastOfEach_of_nodup h]

mutual
/-- The tree of a value stands for the value. -/
theorem value?_tree : ∀ (v : Value) (levels : Nat), v.WellFormed → v.depth ≤ levels →
    v.holdsFinite = false → v.tree.value? levels = some v.nulled
  | .null, _, _, _, _ => rfl
  | .bool _, _, _, _, _ => rfl
  | .int n, _, _, _, _ => value?_numberOf n
  | .float x, _, _, _, h => by
    have hx : x.isFinite = false := h
    simp [tree, Json.Tree.value?, nulled, hx]
  | .str s, _, _, _, _ => by
    simp [tree, Json.Tree.value?, decodeText_piecesOf, nulled]
  | .list items, levels + 1, .list _ hwf, hdepth, h => by
    have hitems := itemValues?_treeItems items levels hwf (Nat.le_of_succ_le_succ hdepth) h
    simp [tree, Json.Tree.value?, hitems, nulled]
  | .object entries, levels + 1, .object _ hnodup hwf, hdepth, h => by
    have hentries := entryValues?_treeEntries entries levels hwf (Nat.le_of_succ_le_succ hdepth) h
    have hkeys := ofPairs_of_nodup (keys_nulledEntries entries ▸ hnodup)
    simp [tree, Json.Tree.value?, hentries, hkeys, nulled]

theorem itemValues?_treeItems : ∀ (items : List Value) (levels : Nat),
    (∀ v ∈ items, v.WellFormed) → depthItems items ≤ levels → holdsFiniteItems items = false →
    itemValues? levels (treeItems items) = some (nulledItems items)
  | [], _, _, _, _ => rfl
  | x :: xs, levels, hwf, hdepth, h => by
    obtain ⟨hx, hxs⟩ := Bool.or_eq_false_iff.mp h
    obtain ⟨hdepthx, hdepthxs⟩ := Nat.max_le.mp hdepth
    have hvalue := value?_tree x levels (hwf x (List.mem_cons_self ..)) hdepthx hx
    have hvalues := itemValues?_treeItems xs levels (fun v hv => hwf v (List.mem_cons_of_mem _ hv))
      hdepthxs hxs
    simp [treeItems, itemValues?, hvalue, hvalues, nulledItems]

theorem entryValues?_treeEntries : ∀ (entries : List (String × Value)) (levels : Nat),
    (∀ e ∈ entries, e.2.WellFormed) → depthEntries entries ≤ levels →
    holdsFiniteEntries entries = false →
    entryValues? levels (treeEntries entries) = some (nulledEntries entries)
  | [], _, _, _, _ => rfl
  | (key, x) :: es, levels, hwf, hdepth, h => by
    obtain ⟨hx, hes⟩ := Bool.or_eq_false_iff.mp h
    obtain ⟨hdepthx, hdepthes⟩ := Nat.max_le.mp hdepth
    have hvalue := value?_tree x levels (hwf (key, x) (List.mem_cons_self ..)) hdepthx hx
    have hvalues := entryValues?_treeEntries es levels
      (fun e he => hwf e (List.mem_cons_of_mem _ he)) hdepthes hes
    simp [treeEntries, entryValues?, decodeText_piecesOf, hvalue, hvalues, nulledEntries]
end

/-- A value without finite floating-point numbers in which no object holds a key twice and at most
127 lists and objects are nested comes back from its JSON text, with `null` where a number had been
that is not finite. -/
theorem json_reads_back {v : Value} (hwf : v.WellFormed) (hdepth : v.depth ≤ 127)
    (hfinite : v.holdsFinite = false) : Value.ofJson? v.json = some v.nulled := by
  have htree : Json.Tree.ofChars? v.jsonChars = some v.tree := by
    have hread := readTree_jsonChars v (2 * v.jsonChars.length + 2) [] hfinite (by omega)
      (by simp [Closes])
    rw [List.append_nil] at hread
    simp [Json.Tree.ofChars?, hread, skipBlanks]
  have hvalue := value?_tree v maxLevels hwf hdepth hfinite
  simp [ofJson?, json, htree, hvalue]

/-- The two ends of the integers, numbers that are none, keys and texts full of characters that are
escaped in one way or another, empty parts, and keys that are not in the order of letters. -/
theorem crowded_value_reads_back :
    let value (number : Value) := Value.object
      [("b\"\\\x01", .list [.int Int64.minValue, .int Int64.maxValue, number, .object []]),
        ("a😀", .str "\n\x1f/😀\x7f"), ("", .list [.list [], number, .bool true])]
    Value.ofJson? (value (.float (0 / 0))).json = some (value .null) ∧
      Value.ofJson? (value (.float (-1 / 0))).json = some (value .null) := by
  intro value
  have hwf : ∀ x, (value (.float x)).WellFormed := by
    intro x
    have hlist : (Value.list []).WellFormed := .list [] (by simp)
    have hobject : (Value.object []).WellFormed := .object [] List.nodup_nil (by simp)
    refine .object _ (by simp) ?_
    simp only [List.forall_mem_cons]
    refine ⟨.list _ ?_, .str _, .list _ ?_, by simp⟩
    · simp [WellFormed.int, WellFormed.float, hobject]
    · simp [WellFormed.bool, WellFormed.float, hlist]
  constructor
  · exact json_reads_back (hwf (0 / 0)) (by decide) (by decide)
  · exact json_reads_back (hwf (-1 / 0)) (by decide) (by decide)

end Value

end LiveText
