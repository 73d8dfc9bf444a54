import Mathlib
import LiveText.Json.Syntax
import LiveText.Json.Writer
import LiveText.Proofs.Text.Blank

/-!
# Reading the JSON text of a value

The compact text of a value is read as one tree, whatever follows it that can follow a value. Only
the texts of finite floating-point numbers are left out here. The reader never looks further than
the character behind a value, and what it needs of its fuel is bounded by the length of the text.

## Main definitions

- `pieceOf`: what a character between quotes is read as.
- `Closes`: what may stand behind a value.
- `Value.holdsFinite`: whether there is a finite floating-point number in a value.
- `Value.tree`: the tree that the text of a value is read as.

## Main statements

- `readQuoted_quoted`, `readNumber_ofInt`: the leaves are read as they have been written.
- `readTree_jsonChars`: the text of a value is read as its tree.
-/

namespace LiveText

namespace Json

open Decimal

/-! ## Texts -/

/-- The characters that are escaped by a letter or by themselves. -/
def lettered : List Char :=
  ['"', '\\', '\x08', '\x0c', '\n', '\r', '\t']

/-- What a character is read as. The other control characters are written by their code. -/
def pieceOf (c : Char) : TextPiece :=
  if c.toNat < 0x20 ∧ c ∉ lettered then .unit c.toNat else .char c

/-- The pieces of a text. -/
def piecesOf (s : String) : List TextPiece :=
  s.toList.map pieceOf

theorem natOfHex?_code : ∀ n < 0x20,
    natOfHex? ['0', '0', hexDigit (n / 16), hexDigit (n % 16)] = some n := by
  decide

theorem escape_of_mem : ∀ c ∈ lettered, ∃ letter,
    escape c = ['\\', letter] ∧ letter ≠ 'u' ∧ unescape? letter = some c := by
  simp [lettered, escape, unescape?]

theorem escape_of_notMem {c : Char} (h : c ∉ lettered) :
    escape c =
      if c.toNat < 0x20 then
        ['\\', 'u', '0', '0', hexDigit (c.toNat / 16), hexDigit (c.toNat % 16)]
      else [c] := by
  simp only [lettered, List.mem_cons, List.not_mem_nil, or_false, not_or] at h
  simp [escape, h]

theorem readQuoted_letter {letter c : Char} (hu : letter ≠ 'u') (h : unescape? letter = some c)
    (cs : List Char) :
    readQuoted ('\\' :: letter :: cs) =
      (readQuoted cs).map fun (pieces, rest) => (.char c :: pieces, rest) := by
  rw [readQuoted.eq_def]
  simp [hu, h]

theorem readQuoted_code {n : Nat} (hn : n < 0x20) (cs : List Char) :
    readQuoted ('\\' :: 'u' :: '0' :: '0' :: hexDigit (n / 16) :: hexDigit (n % 16) :: cs) =
      (readQuoted cs).map fun (pieces, rest) => (.unit n :: pieces, rest) := by
  rw [readQuoted, natOfHex?_code n hn]

theorem readQuoted_plain {c : Char} (hquote : c ≠ '"') (hback : c ≠ '\\')
    (hcode : ¬ c.toNat < 0x20) (cs : List Char) :
    readQuoted (c :: cs) =
      (readQuoted cs).map fun (pieces, rest) => (.char c :: pieces, rest) := by
  rw [readQuoted.eq_def]
  simp [hback, hcode]

/-- A character in its escaped form is read as one piece. -/
theorem readQuoted_escape (c : Char) (cs : List Char) :
    readQuoted (escape c ++ cs) =
      (readQuoted cs).map fun (pieces, rest) => (pieceOf c :: pieces, rest) := by
  unfold pieceOf
  by_cases hc : c ∈ lettered
  · obtain ⟨letter, heq, hu, hletter⟩ := escape_of_mem c hc
    rw [heq, if_neg fun h => h.2 hc]
    exact readQuoted_letter hu hletter cs
  · rw [escape_of_notMem hc]
    by_cases hcode : c.toNat < 0x20
    · rw [if_pos hcode, if_pos ⟨hcode, hc⟩]
      exact readQuoted_code hcode cs
    · -- Neither the closing quote nor the start of an escape, which both can be escaped.
      have hquote : c ≠ '"' := fun heq => hc (heq ▸ by decide)
      have hback : c ≠ '\\' := fun heq => hc (heq ▸ by decide)
      rw [if_neg hcode, if_neg fun h => hcode h.1]
      exact readQuoted_plain hquote hback hcode cs

/-- What has been put between quotes is read up to the closing quote. -/
theorem readQuoted_quoted (s : String) (rest : List Char) :
    readQuoted (s.toList.flatMap escape ++ '"' :: rest) = some (piecesOf s, rest) := by
  unfold piecesOf
  induction s.toList with
  | nil => simp [readQuoted]
  | cons c cs ih => simp [List.flatMap_cons, List.append_assoc, readQuoted_escape, ih]

/-! ## Numbers -/

/-- An integer as it is written. -/
def numberOf (n : Int) : NumberText where
  negative := decide (n < 0)
  whole := Nat.toDigits 10 n.natAbs
  fraction := []
  exponent := none

/-- What may stand behind a value: nothing, a comma, or a closing bracket. -/
def Closes (cs : List Char) : Prop :=
  ∀ c ∈ cs.head?, c = ',' ∨ c = ']' ∨ c = '\x7d'

/-- What a number begins with. -/
def StartsNumber (c : Char) : Prop :=
  isDigit c = true ∨ c = '-'

theorem StartsNumber.ne {c d : Char} (h : StartsNumber c) (hdigit : isDigit d = false)
    (hminus : d ≠ '-') : c ≠ d := by
  rintro rfl
  simp [StartsNumber, hdigit, hminus] at h

theorem StartsNumber.isBlank {c : Char} (h : StartsNumber c) : Json.isBlank c = false := by
  have hne : ∀ d, isDigit d = false → d ≠ '-' → c ≠ d := fun _ => h.ne
  simp [Json.isBlank, hne ' ', hne '\n', hne '\t', hne '\r', isDigit]

theorem isDigit_of_mem_toDigits (n : Nat) : ∀ c ∈ Nat.toDigits 10 n, isDigit c = true :=
  fun _ hc => Nat.isDigit_of_mem_toDigits (by decide) (by decide) hc

theorem exists_toDigits_eq_cons (n : Nat) :
    ∃ d ds, Nat.toDigits 10 n = d :: ds ∧ isDigit d = true := by
  obtain ⟨d, ds, hds⟩ := List.exists_cons_of_ne_nil (Nat.toDigits_ne_nil (n := n) (b := 10))
  exact ⟨d, ds, hds, isDigit_of_mem_toDigits n d (by simp [hds])⟩

/-- Only the number zero is written with a zero in front. -/
theorem eq_zero_of_head?_toDigits {n : Nat} (h : (Nat.toDigits 10 n).head? = some '0') : n = 0 := by
  -- On the number; the first digit is that of a tenth of it, unless there is only one.
  induction n using Nat.strong_induction_on with
  | _ n ih =>
    rw [Nat.toDigits_eq_if (by decide)] at h
    split at h
    · next hlt =>
      have hfirst : ∀ d < 10, [Nat.digitChar d].head? = some '0' → d = 0 := by decide
      exact hfirst n hlt h
    · next hge =>
      rw [List.head?_append_of_ne_nil _ Nat.toDigits_ne_nil] at h
      have htenth : n / 10 = 0 := ih (n / 10) (by omega) h
      omega

/-- The digits of a number have no zero in front of others. -/
theorem no_leading_zero (n : Nat) :
    ((Nat.toDigits 10 n).head? == some '0' && (Nat.toDigits 10 n).length != 1) = false := by
  by_cases h : (Nat.toDigits 10 n).head? = some '0'
  · rw [eq_zero_of_head?_toDigits h]
    decide
  · simp [h]

theorem Closes.isDigit {rest : List Char} (h : Closes rest) :
    ∀ c ∈ rest.head?, Decimal.isDigit c = false := by
  intro c hc
  rcases h c hc with rfl | rfl | rfl <;> decide

/-- Neither a fraction nor an exponent begins behind a value. -/
theorem Closes.no_more_digits {rest : List Char} (h : Closes rest) :
    readFraction rest = some ([], rest) ∧ readExponent rest = some (none, rest) := by
  cases rest with
  | nil => exact ⟨rfl, rfl⟩
  | cons c rest => rcases h c rfl with rfl | rfl | rfl <;> exact ⟨rfl, rfl⟩

theorem readUnsigned_toDigits (negative : Bool) (n : Nat) {rest : List Char} (h : Closes rest) :
    readUnsigned negative (Nat.toDigits 10 n ++ rest) =
      some (⟨negative, Nat.toDigits 10 n, [], none⟩, rest) := by
  obtain ⟨htake, hdrop⟩ := takeWhile_append_of_head (isDigit_of_mem_toDigits n) h.isDigit
  obtain ⟨hfraction, hexponent⟩ := h.no_more_digits
  have hne : (Nat.toDigits 10 n).isEmpty = false :=
    List.isEmpty_eq_false_iff.mpr Nat.toDigits_ne_nil
  unfold readUnsigned
  simp [htake, hdrop, hne, no_leading_zero, hfraction, hexponent]

/-- An integer begins with a digit or a minus sign. -/
theorem exists_ofInt_eq_cons (n : Int) :
    ∃ c cs, ofInt n = c :: cs ∧ StartsNumber c := by
  unfold ofInt
  split
  · exact ⟨'-', _, rfl, .inr rfl⟩
  · obtain ⟨d, ds, hds, hd⟩ := exists_toDigits_eq_cons n.natAbs
    exact ⟨d, ds, hds, .inl hd⟩

/-- An integer is read as it has been written. -/
theorem readNumber_ofInt (n : Int) {rest : List Char} (h : Closes rest) :
    readNumber (ofInt n ++ rest) = some (numberOf n, rest) := by
  unfold ofInt numberOf
  split
  · next hn =>
    simp only [List.cons_append, readNumber, hn, decide_true]
    exact readUnsigned_toDigits true n.natAbs h
  · next hn =>
    -- The first character is a digit and no minus sign.
    have hplain : readNumber (Nat.toDigits 10 n.natAbs ++ rest) =
        readUnsigned false (Nat.toDigits 10 n.natAbs ++ rest) := by
      obtain ⟨d, ds, hds, hd⟩ := exists_toDigits_eq_cons n.natAbs
      have hminus : d ≠ '-' := by
        rintro rfl
        exact absurd hd (by decide)
      simp [hds, readNumber, hminus]
    rw [hplain, readUnsigned_toDigits false n.natAbs h]
    simp [hn]

/-! ## Trees -/

/-- What the text of a value begins with is neither a blank nor a closing bracket. -/
def Opens (cs : List Char) : Prop :=
  ∃ c rest, cs = c :: rest ∧ isBlank c = false ∧ c ≠ ']' ∧ c ≠ '\x7d'

theorem skipBlanks_cons {c : Char} (h : isBlank c = false) (cs : List Char) :
    skipBlanks (c :: cs) = c :: cs :=
  List.dropWhile_cons_of_neg (by simp [h])

theorem Opens.append {cs : List Char} (h : Opens cs) (rest : List Char) : Opens (cs ++ rest) := by
  obtain ⟨c, ds, rfl, hc⟩ := h
  exact ⟨c, ds ++ rest, rfl, hc⟩

variable {fuel : Nat} {cs rest : List Char}

theorem readTree_text (s : String) :
    readTree (fuel + 1) (quote s ++ rest) = some (.text (piecesOf s), rest) := by
  have hquoted := readQuoted_quoted s rest
  simp [quote, readTree, skipBlanks_cons, isBlank, hquoted]

/-- What begins like a number is read as one. -/
theorem readTree_number {c : Char} (h : StartsNumber c) (cs : List Char) :
    readTree (fuel + 1) (c :: cs) =
      (readNumber (c :: cs)).map fun (n, rest) => (.number n, rest) := by
  rw [readTree, skipBlanks_cons h.isBlank]
  -- The six other kinds of trees begin with a letter, a quotation mark or a bracket.
  split
  case h_7 => rfl
  all_goals
    next heq =>
    obtain ⟨rfl, -⟩ := List.cons.inj heq
    exact absurd rfl (h.ne (by decide) (by decide))

theorem readTree_ofInt (n : Int) (h : Closes rest) :
    readTree (fuel + 1) (ofInt n ++ rest) = some (.number (numberOf n), rest) := by
  have hnumber := readNumber_ofInt n h
  obtain ⟨c, cs, heq, hc⟩ := exists_ofInt_eq_cons n
  rw [heq, List.cons_append] at hnumber ⊢
  rw [readTree_number hc, hnumber]
  rfl

theorem readTree_list {items : List Tree} (hopens : Opens cs)
    (h : readItems fuel cs = some (items, rest)) :
    readTree (fuel + 1) ('[' :: cs) = some (.list items, rest) := by
  obtain ⟨c, ds, rfl, hblank, hclose, -⟩ := hopens
  have hbracket : skipBlanks ('[' :: c :: ds) = '[' :: c :: ds := skipBlanks_cons (by decide) _
  simp [readTree, hbracket, skipBlanks_cons hblank, hclose, h]

theorem readTree_object {entries : List (List TextPiece × Tree)} (hopens : Opens cs)
    (h : readEntries fuel cs = some (entries, rest)) :
    readTree (fuel + 1) ('\x7b' :: cs) = some (.object entries, rest) := by
  obtain ⟨c, ds, rfl, hblank, -, hclose⟩ := hopens
  have hbrace : skipBlanks ('\x7b' :: c :: ds) = '\x7b' :: c :: ds :=
    skipBlanks_cons (by decide) _
  simp [readTree, hbrace, skipBlanks_cons hblank, hclose, h]

theorem readSeparator_comma (close : Char) (rest : List Char) :
    readSeparator close (',' :: rest) = some (true, rest) := rfl

theorem readSeparator_close (rest : List Char) :
    readSeparator ']' (']' :: rest) = some (false, rest) ∧
      readSeparator '\x7d' ('\x7d' :: rest) = some (false, rest) :=
  ⟨rfl, rfl⟩

theorem readKey_quote (key : String) (rest : List Char) :
    readKey (quote key ++ ':' :: rest) = some (piecesOf key, rest) := by
  have hquoted := readQuoted_quoted key (':' :: rest)
  simp [quote, readKey, skipBlanks_cons, isBlank, hquoted]

end Json

/-! ## Values -/

namespace Value

open Json

mutual
/-- Whether there is a finite floating-point number in the value. -/
def holdsFinite : Value → Bool
  | .float x => x.isFinite
  | .list items => holdsFiniteItems items
  | .object entries => holdsFiniteEntries entries
  | _ => false
termination_by structural v => v

/-- Whether there is one in some of the values. -/
def holdsFiniteItems : List Value → Bool
  | [] => false
  | x :: xs => x.holdsFinite || holdsFiniteItems xs
termination_by structural xs => xs

/-- Whether there is one in some of the contents. -/
def holdsFiniteEntries : List (String × Value) → Bool
  | [] => false
  | (_, x) :: es => x.holdsFinite || holdsFiniteEntries es
termination_by structural es => es
end

mutual
/-- The tree that the text of a value is read as, if there is no finite floating-point number in
it. -/
def tree : Value → Json.Tree
  | .null => .null
  | .bool b => .bool b
  | .int n => .number (numberOf n.toInt)
  | .float _ => .null
  | .str s => .text (piecesOf s)
  | .list items => .list (treeItems items)
  | .object entries => .object (treeEntries entries)
termination_by structural v => v

/-- The trees of values. -/
def treeItems : List Value → List Json.Tree
  | [] => []
  | x :: xs => x.tree :: treeItems xs
termination_by structural xs => xs

/-- The trees of contents, with their keys. -/
def treeEntries : List (String × Value) → List (List TextPiece × Json.Tree)
  | [] => []
  | (key, x) :: es => (piecesOf key, x.tree) :: treeEntries es
termination_by structural es => es
end

/-- A floating-point number that is not finite is infinite, or no number at all. -/
theorem isNaN_or_isInf (x : Float) : (x.isNaN || x.isInf) = !x.isFinite := by
  change (x.toModel.unpack.isNaN || x.toModel.unpack.isInf) = !x.toModel.unpack.isFinite
  cases x.toModel.unpack <;> rfl

theorem jsonChars_float {x : Float} (h : x.isFinite = false) :
    (Value.float x).jsonChars = "null".toList := by
  have hx : (x.isNaN || x.isInf) = true := by simp only [isNaN_or_isInf, h, Bool.not_false]
  show writeFloat x = _
  rw [writeFloat, if_pos hx]

/-- What the text of a value begins with is neither a blank nor the end of a list or an object. -/
theorem opens_jsonChars {v : Value} (h : v.holdsFinite = false) : Opens v.jsonChars := by
  cases v with
  | null => exact ⟨'n', _, rfl, by decide⟩
  | bool b => cases b <;> exact ⟨_, _, rfl, by decide⟩
  | int n =>
    obtain ⟨c, cs, heq, hc⟩ := exists_ofInt_eq_cons n.toInt
    exact ⟨c, cs, heq, hc.isBlank, hc.ne (by decide) (by decide), hc.ne (by decide) (by decide)⟩
  | float x =>
    rw [jsonChars_float h]
    exact ⟨'n', _, rfl, by decide⟩
  | str s => exact ⟨'"', _, rfl, by decide⟩
  | list items => exact ⟨'[', _, rfl, by decide⟩
  | object entries => exact ⟨'\x7b', _, rfl, by decide⟩

theorem opens_jsonItems {x : Value} {xs : List Value}
    (h : holdsFiniteItems (x :: xs) = false) : Opens (jsonItems (x :: xs)) := by
  have hx : x.holdsFinite = false := (Bool.or_eq_false_iff.mp h).1
  cases xs with
  | nil => exact opens_jsonChars hx
  | cons y ys => exact (opens_jsonChars hx).append _

theorem opens_jsonEntries (e : String × Value) (es : List (String × Value)) :
    Opens (jsonEntries (e :: es)) := by
  cases es <;> exact ⟨'"', _, rfl, by decide⟩

-- On the value. What stands behind it is a variable of the induction, since behind an item there
-- are all the others, and so is the fuel: a part that is entered takes one of it, and at least one
-- character of the text goes with it.
mutual
/-- The text of a value is read as its tree. -/
theorem readTree_jsonChars : ∀ (v : Value) (fuel : Nat) (rest : List Char),
    v.holdsFinite = false → v.jsonChars.length < fuel → Closes rest →
    readTree fuel (v.jsonChars ++ rest) = some (v.tree, rest)
  | .null, fuel + 1, rest, _, _, _ => rfl
  | .bool true, fuel + 1, rest, _, _, _ => rfl
  | .bool false, fuel + 1, rest, _, _, _ => rfl
  | .int n, fuel + 1, rest, _, _, hrest => readTree_ofInt n.toInt hrest
  | .float x, fuel + 1, rest, h, _, _ => by
    rw [jsonChars_float h]
    rfl
  | .str s, fuel + 1, rest, _, _, _ => readTree_text s
  | .list [], fuel + 1, rest, _, _, _ => rfl
  | .list (x :: xs), fuel + 1, rest, h, hfuel, _ => by
    -- The brackets are not part of the items.
    have hlength : (jsonItems (x :: xs)).length + 1 < fuel := by
      simp only [jsonChars, List.length_cons, List.length_append] at hfuel
      omega
    have hitems := readItems_jsonItems x xs fuel rest h hlength
    simpa [jsonChars, tree] using readTree_list ((opens_jsonItems h).append _) hitems
  | .object [], fuel + 1, rest, _, _, _ => rfl
  | .object ((key, x) :: es), fuel + 1, rest, h, hfuel, _ => by
    have hlength : (jsonEntries ((key, x) :: es)).length + 1 < fuel := by
      simp only [jsonChars, List.length_cons, List.length_append] at hfuel
      omega
    have hentries := readEntries_jsonEntries key x es fuel rest h hlength
    simpa [jsonChars, tree] using readTree_object ((opens_jsonEntries _ es).append _) hentries

/-- The texts of values with commas between them are read up to the bracket behind them. -/
theorem readItems_jsonItems : ∀ (x : Value) (xs : List Value) (fuel : Nat) (rest : List Char),
    holdsFiniteItems (x :: xs) = false → (jsonItems (x :: xs)).length + 1 < fuel →
    readItems fuel (jsonItems (x :: xs) ++ ']' :: rest) = some (treeItems (x :: xs), rest)
  | x, [], fuel + 1, rest, h, hfuel => by
    obtain ⟨hx, -⟩ := Bool.or_eq_false_iff.mp h
    simp only [jsonItems] at hfuel
    have hread := readTree_jsonChars x fuel (']' :: rest) hx (by omega) (by simp [Closes])
    simp [jsonItems, readItems, hread, readSeparator_close, treeItems]
  | x, y :: ys, fuel + 1, rest, h, hfuel => by
    obtain ⟨hx, hys⟩ := Bool.or_eq_false_iff.mp h
    simp only [jsonItems, List.length_append, List.length_cons] at hfuel
    have hread := readTree_jsonChars x fuel (',' :: (jsonItems (y :: ys) ++ ']' :: rest)) hx
      (by omega) (by simp [Closes])
    have hmore := readItems_jsonItems y ys fuel rest hys (by omega)
    simp [jsonItems, readItems, hread, readSeparator_comma, hmore, treeItems]

/-- The same for entries. -/
theorem readEntries_jsonEntries : ∀ (key : String) (x : Value) (es : List (String × Value))
    (fuel : Nat) (rest : List Char), holdsFiniteEntries ((key, x) :: es) = false →
    (jsonEntries ((key, x) :: es)).length + 1 < fuel →
    readEntries fuel (jsonEntries ((key, x) :: es) ++ '\x7d' :: rest) =
      some (treeEntries ((key, x) :: es), rest)
  | key, x, [], fuel + 1, rest, h, hfuel => by
    obtain ⟨hx, -⟩ := Bool.or_eq_false_iff.mp h
    simp only [jsonEntries, List.length_append, List.length_cons] at hfuel
    have hread := readTree_jsonChars x fuel ('\x7d' :: rest) hx (by omega) (by simp [Closes])
    simp [jsonEntries, readEntries, readKey_quote, hread, readSeparator_close, treeEntries]
  | key, x, (k, y) :: es, fuel + 1, rest, h, hfuel => by
    obtain ⟨hx, hes⟩ := Bool.or_eq_false_iff.mp h
    simp only [jsonEntries, List.length_append, List.length_cons] at hfuel
    have hread := readTree_jsonChars x fuel
      (',' :: (jsonEntries ((k, y) :: es) ++ '\x7d' :: rest)) hx (by omega) (by simp [Closes])
    have hmore := readEntries_jsonEntries k y es fuel rest hes (by omega)
    simp [jsonEntries, readEntries, readKey_quote, hread, readSeparator_comma, hmore, treeEntries]
end

end Value

end LiveText
