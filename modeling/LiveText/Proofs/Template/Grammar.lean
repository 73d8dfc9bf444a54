import Mathlib
import LiveText.Proofs.Path.Text
import LiveText.Template.Basic

/-!
# The grammar of templates

A placeholder is described on its own, without a scanner: two opening braces, blanks, identifiers
with points between them, blanks, two closing braces. Placeholders in a text never overlap, so that
the leftmost scan misses none of them: the segments of a text are what is left when it is cut at
every placeholder that it holds.

## Main definitions

- `IsIdentifier`, `IsPlaceholder`: the grammar.
- `Occurrence`: where a placeholder stands in a text.
- `cutAt`: a text cut at some of its stretches.

## Main statements

- `placeholder?_eq_some_iff`: the scanner finds the placeholder at the front of a text.
- `Occurrence.In.apart`: two placeholders in one text are the same or apart.
- `parse_cuts_at_the_placeholders`: a template is its text cut at all placeholders.
-/

namespace LiveText

/-! ## Identifiers -/

/-- A character that an identifier starts with. -/
def StartsIdentifier (c : Char) : Prop :=
  ('A' ≤ c ∧ c ≤ 'Z') ∨ ('a' ≤ c ∧ c ≤ 'z') ∨ c = '_' ∨ c = '$'

/-- A character that an identifier goes on with. -/
def ContinuesIdentifier (c : Char) : Prop :=
  StartsIdentifier c ∨ ('0' ≤ c ∧ c ≤ '9')

/-- The grammar of identifiers. -/
inductive IsIdentifier : List Char → Prop
  | mk {c : Char} {cs : List Char} :
      StartsIdentifier c → (∀ d ∈ cs, ContinuesIdentifier d) → IsIdentifier (c :: cs)

theorem isIdentifierStart_iff (c : Char) : isIdentifierStart c = true ↔ StartsIdentifier c := by
  simp only [isIdentifierStart, Char.isAlpha, Char.isUpper, Char.isLower, StartsIdentifier,
    Bool.or_eq_true, decide_eq_true_eq, beq_iff_eq, Bool.and_eq_true, Char.le_def, or_assoc]

theorem isIdentifierPart_iff (c : Char) : isIdentifierPart c = true ↔ ContinuesIdentifier c := by
  simp only [isIdentifierPart, Bool.or_eq_true, isIdentifierStart_iff, ContinuesIdentifier,
    Char.isDigit, Bool.and_eq_true, decide_eq_true_eq, Char.le_def]

theorem isIdentifier_iff (cs : List Char) : isIdentifier cs = true ↔ IsIdentifier cs := by
  cases cs with
  | nil =>
    constructor
    · exact fun h => (Bool.false_ne_true h).elim
    · rintro ⟨⟩
  | cons c cs =>
    rw [isIdentifier, Bool.and_eq_true, isIdentifierStart_iff, List.all_eq_true]
    simp only [isIdentifierPart_iff]
    constructor
    · exact fun h => ⟨h.1, h.2⟩
    · rintro ⟨hc, hcs⟩
      exact ⟨hc, hcs⟩

/-- Where the characters of identifiers and points are among all characters. -/
theorem code_of_isDottedPart {c : Char} (h : isDottedPart c = true) :
    36 ≤ c.toNat ∧ c.toNat ≤ 122 := by
  simp only [isDottedPart, isIdentifierPart, isIdentifierStart, Char.isAlpha, Char.isUpper,
    Char.isLower, Char.isDigit, Bool.or_eq_true, Bool.and_eq_true, decide_eq_true_eq, beq_iff_eq,
    ge_iff_le, UInt32.le_iff_toNat_le] at h
  change (((((65 ≤ c.toNat ∧ c.toNat ≤ 90) ∨ (97 ≤ c.toNat ∧ c.toNat ≤ 122)) ∨ c = '_') ∨
    c = '$') ∨ (48 ≤ c.toNat ∧ c.toNat ≤ 57)) ∨ c = '.' at h
  -- Letters and digits are stretches of characters, the other three stand alone.
  rcases h with ((((h | h) | rfl) | rfl) | h) | rfl
  case inr | inl.inl.inl.inr | inl.inl.inr => decide
  all_goals omega

theorem isBlank_of_isDottedPart {c : Char} (h : isDottedPart c = true) :
    Text.isBlank c = false := by
  have hcode := code_of_isDottedPart h
  simp only [Text.isBlank, Text.blankRanges, List.any_cons, List.any_nil, Bool.or_eq_false_iff,
    Bool.and_eq_false_iff, decide_eq_false_iff_not, and_true]
  omega

theorem isDottedPart_of_mem_identifier {cs : List Char} (h : IsIdentifier cs) {c : Char}
    (hc : c ∈ cs) : isDottedPart c = true := by
  have hpart : isIdentifierPart c = true := by
    obtain ⟨hstart, hrest⟩ := h
    rcases List.mem_cons.mp hc with rfl | hc
    · exact (isIdentifierPart_iff c).mpr (.inl hstart)
    · exact (isIdentifierPart_iff c).mpr (hrest c hc)
  rw [isDottedPart, hpart, Bool.true_or]

theorem point_not_mem_identifier {cs : List Char} (h : IsIdentifier cs) : '.' ∉ cs := by
  obtain ⟨hstart, hrest⟩ := h
  intro hc
  have hpart : isIdentifierPart '.' = true := by
    rcases List.mem_cons.mp hc with rfl | hc
    · exact (isIdentifierPart_iff _).mpr (.inl hstart)
    · exact (isIdentifierPart_iff _).mpr (hrest _ hc)
  exact absurd hpart (by decide)

/-! ## Paths of identifiers -/

theorem mem_of_mem_intercalate {α : Type} {separator c : α} {ls : List (List α)}
    (h : c ∈ [separator].intercalate ls) : c = separator ∨ ∃ l ∈ ls, c ∈ l := by
  induction ls with
  | nil => cases h
  | cons l ls ih =>
    cases ls with
    | nil => exact .inr ⟨l, List.mem_singleton_self l, by simpa using h⟩
    | cons l' ls =>
      rw [List.intercalate_cons_cons, List.append_assoc, List.mem_append, List.mem_append,
        List.mem_singleton] at h
      rcases h with h | h | h
      · exact .inr ⟨l, List.mem_cons_self, h⟩
      · exact .inl h
      · exact (ih h).imp_right fun ⟨l'', hl, hc⟩ => ⟨l'', List.mem_cons_of_mem _ hl, hc⟩

/-- A path that can stand in a placeholder: at least one key, and every key an identifier. -/
structure Path.OfIdentifiers (p : Path) : Prop where
  ne_nil : p.segments ≠ []
  identifiers : ∀ name ∈ p.segments, IsIdentifier name.toList

namespace Path

variable {p : Path}

/-- Identifiers are plain keys. -/
theorem OfIdentifiers.isPlainKey (h : p.OfIdentifiers) {name : String} (hname : name ∈ p.segments) :
    IsPlainKey name := by
  have hidentifier := h.identifiers name hname
  have htrimmed : Text.IsTrimmed name.toList := .of_not_isBlank fun c hc =>
    isBlank_of_isDottedPart (isDottedPart_of_mem_identifier hidentifier hc)
  refine ⟨?_, point_not_mem_identifier hidentifier, htrimmed.start, htrimmed.stop⟩
  rintro rfl
  exact nomatch hidentifier

/-- The text of a path of identifiers comes apart at its points into the identifiers. -/
theorem OfIdentifiers.splitOn_text (h : p.OfIdentifiers) :
    p.text.toList.splitOn '.' = p.segments.map String.toList :=
  Path.splitOn_text h.ne_nil fun _ hname => (h.isPlainKey hname).no_point

theorem OfIdentifiers.isDottedPart (h : p.OfIdentifiers) {c : Char} (hc : c ∈ p.text.toList) :
    isDottedPart c = true := by
  rw [toList_text] at hc
  rcases mem_of_mem_intercalate hc with rfl | ⟨cs, hcs, hc⟩
  · decide
  · obtain ⟨name, hname, rfl⟩ := List.mem_map.mp hcs
    exact isDottedPart_of_mem_identifier (h.identifiers name hname) hc

theorem OfIdentifiers.text_ne_nil (h : p.OfIdentifiers) : p.text.toList ≠ [] := by
  intro hnil
  have hsplit := h.splitOn_text
  rw [hnil, List.splitOn_nil] at hsplit
  have hmem : [] ∈ p.segments.map String.toList := hsplit ▸ List.mem_singleton.mpr rfl
  obtain ⟨name, hname, heq⟩ := List.mem_map.mp hmem
  exact nomatch heq ▸ h.identifiers name hname

/-- No identifier is lost when the text of a path of identifiers is read as a path again. -/
theorem OfIdentifiers.parse_text (h : p.OfIdentifiers) : Path.parse p.text = p :=
  parse_text_of_plain fun _ => h.isPlainKey

/-- The pieces between the points of a text, if they are identifiers, are a path with this text. -/
theorem ofIdentifiers_of_splitOn {cs : List Char}
    (h : ∀ name ∈ cs.splitOn '.', isIdentifier name = true) :
    (Path.mk ((cs.splitOn '.').map String.ofList)).OfIdentifiers ∧
      (Path.mk ((cs.splitOn '.').map String.ofList)).text.toList = cs := by
  have hback : ((cs.splitOn '.').map String.ofList).map String.toList = cs.splitOn '.' := by
    rw [List.map_map]
    exact (List.map_congr_left fun name _ => String.toList_ofList).trans (List.map_id _)
  refine ⟨⟨?_, ?_⟩, ?_⟩
  · -- A text that comes apart gives one piece at least.
    simp [List.splitOn_ne_nil]
  · intro name hname
    obtain ⟨piece, hpiece, rfl⟩ := List.mem_map.mp hname
    rw [String.toList_ofList]
    exact (isIdentifier_iff piece).mp (h piece hpiece)
  · rw [toList_text, hback, List.intercalate_splitOn]

end Path

/-! ## Placeholders -/

/-- The grammar of placeholders, with the path that a placeholder names. -/
inductive IsPlaceholder : List Char → Path → Prop
  | mk {before after : List Char} {p : Path} :
      (∀ c ∈ before, Text.isBlank c = true) → p.OfIdentifiers →
      (∀ c ∈ after, Text.isBlank c = true) →
      IsPlaceholder
        ('\x7b' :: '\x7b' :: (before ++ (p.text.toList ++ (after ++ ['\x7d', '\x7d'])))) p

theorem IsPlaceholder.ofIdentifiers {cs : List Char} {p : Path} (h : IsPlaceholder cs p) :
    p.OfIdentifiers := by
  cases h with
  | mk _ hp _ => exact hp

/-- Behind its opening braces a placeholder goes on, and holds no opening brace any more. -/
theorem IsPlaceholder.exists_inside {cs : List Char} {p : Path} (h : IsPlaceholder cs p) :
    ∃ inside, cs = '\x7b' :: '\x7b' :: inside ∧ inside ≠ [] ∧ '\x7b' ∉ inside := by
  cases h with
  | @mk before after _ hbefore hp hafter =>
    have hblank : ∀ ds : List Char, (∀ c ∈ ds, Text.isBlank c = true) → '\x7b' ∉ ds := by
      intro ds hds hmem
      exact absurd (hds _ hmem) (by decide)
    have htext : '\x7b' ∉ p.text.toList := by
      intro hmem
      exact absurd (hp.isDottedPart hmem) (by decide)
    refine ⟨_, rfl, by simp, ?_⟩
    simp only [List.mem_append, not_or]
    exact ⟨hblank _ hbefore, htext, hblank _ hafter, by decide⟩

theorem afterClosing?_append {blanks : List Char} (h : ∀ c ∈ blanks, Text.isBlank c = true)
    (rest : List Char) : afterClosing? (blanks ++ '\x7d' :: '\x7d' :: rest) = some rest := by
  have htrim : Text.trimStart (blanks ++ '\x7d' :: '\x7d' :: rest) = '\x7d' :: '\x7d' :: rest :=
    (takeWhile_append_of_head h fun d hd => by cases hd; decide).2
  simp only [afterClosing?, htrim]

theorem exists_of_afterClosing? {cs rest : List Char} (h : afterClosing? cs = some rest) :
    ∃ blanks, (∀ c ∈ blanks, Text.isBlank c = true) ∧ cs = blanks ++ '\x7d' :: '\x7d' :: rest := by
  rw [afterClosing?] at h
  split at h
  case h_1 rest' heq =>
    cases h
    refine ⟨cs.takeWhile Text.isBlank, fun c hc => List.mem_takeWhile_imp hc, ?_⟩
    rw [← heq, Text.trimStart, List.takeWhile_append_dropWhile]
  case h_2 => cases h

/-- A placeholder at the front of a text is found, whatever follows it. -/
theorem IsPlaceholder.placeholder? {cs : List Char} {p : Path} (h : IsPlaceholder cs p)
    (rest : List Char) : placeholder? (cs ++ rest) = some (p, rest) := by
  cases h with
  | @mk before after _ hbefore hp hafter =>
    obtain ⟨c, cs, hcs⟩ := List.exists_cons_of_ne_nil hp.text_ne_nil
    have htrim : Text.trimStart (before ++ (p.text.toList ++ (after ++ '\x7d' :: '\x7d' :: rest))) =
        p.text.toList ++ (after ++ '\x7d' :: '\x7d' :: rest) := by
      refine (takeWhile_append_of_head hbefore fun d hd => ?_).2
      rw [hcs] at hd
      cases hd
      exact isBlank_of_isDottedPart (hp.isDottedPart (hcs ▸ List.mem_cons_self))
    -- Behind the names there is a blank or a closing brace, which cannot go on with them.
    have hend : ∀ d ∈ (after ++ '\x7d' :: '\x7d' :: rest).head?, isDottedPart d = false := by
      intro d hd
      cases after with
      | nil => cases hd; decide
      | cons b after =>
        cases hd
        by_contra hdotted
        have hblank := hafter d List.mem_cons_self
        rw [isBlank_of_isDottedPart (by simpa using hdotted)] at hblank
        cases hblank
    have hnames := takeWhile_append_of_head (fun c hc => hp.isDottedPart hc) hend
    have hall : (p.segments.map String.toList).all isIdentifier = true := by
      rw [List.all_eq_true]
      intro cs hcs
      obtain ⟨name, hname, rfl⟩ := List.mem_map.mp hcs
      exact (isIdentifier_iff _).mpr (hp.identifiers name hname)
    have hback : (p.segments.map String.toList).map String.ofList = p.segments := by
      rw [List.map_map]
      exact (List.map_congr_left fun name _ => String.ofList_toList).trans (List.map_id _)
    simp only [List.cons_append, List.append_assoc, List.nil_append, LiveText.placeholder?,
      placeholderBody?, htrim, hnames, hp.splitOn_text, hall, if_true, hback,
      afterClosing?_append hafter, Option.map_some]

theorem exists_of_placeholder? {cs rest : List Char} {p : Path}
    (h : placeholder? cs = some (p, rest)) :
    ∃ inner, cs = inner ++ rest ∧ IsPlaceholder inner p := by
  unfold placeholder? at h
  split at h
  case h_2 => cases h
  case h_1 inside =>
    rw [placeholderBody?] at h
    split at h
    case isFalse => cases h
    case isTrue hnames =>
      obtain ⟨rest', hclosing, heq⟩ := Option.map_eq_some_iff.mp h
      obtain ⟨rfl, rfl⟩ := Prod.mk.injEq .. ▸ heq
      obtain ⟨after, hafter, hbehind⟩ := exists_of_afterClosing? hclosing
      obtain ⟨hp, htext⟩ := Path.ofIdentifiers_of_splitOn (List.all_eq_true.mp hnames)
      refine ⟨_, ?_, .mk (fun c hc => List.mem_takeWhile_imp (l := inside) hc) hp hafter⟩
      -- The text is the blanks before the names, the names, and what stands behind them.
      have hnamed := List.takeWhile_append_dropWhile (p := isDottedPart)
        (l := Text.trimStart inside)
      have hinside := List.takeWhile_append_dropWhile (p := Text.isBlank) (l := inside)
      rw [hbehind] at hnamed
      rw [← Text.trimStart, ← hnamed] at hinside
      rw [htext]
      simpa using hinside.symm

/-- The scanner finds the placeholder at the front of a text, and nothing else. -/
theorem placeholder?_eq_some_iff {cs rest : List Char} {p : Path} :
    placeholder? cs = some (p, rest) ↔ ∃ inner, cs = inner ++ rest ∧ IsPlaceholder inner p :=
  ⟨exists_of_placeholder?, fun ⟨_, hcs, hinner⟩ => hcs ▸ hinner.placeholder? rest⟩

/-! ## Where placeholders stand -/

/-- A stretch of a text that names a path. -/
@[ext] structure Occurrence where
  start : Nat
  stop : Nat
  path : Path

/-- The stretch is a placeholder of the text. -/
def Occurrence.In (o : Occurrence) (cs : List Char) : Prop :=
  ∃ before inner after, cs = before ++ (inner ++ after) ∧ before.length = o.start ∧
    before.length + inner.length = o.stop ∧ IsPlaceholder inner o.path

/-- No placeholder begins inside another one. -/
theorem IsPlaceholder.length_le {cs cs' skipped after after' : List Char} {p p' : Path}
    (h : IsPlaceholder cs p) (h' : IsPlaceholder cs' p')
    (heq : cs ++ after = skipped ++ (cs' ++ after')) (hskipped : skipped ≠ []) :
    cs.length ≤ skipped.length := by
  obtain ⟨inside, rfl, hne, hbrace⟩ := h.exists_inside
  obtain ⟨inside', rfl, -, -⟩ := h'.exists_inside
  obtain ⟨d, inside, rfl⟩ := List.exists_cons_of_ne_nil hne
  match skipped, hskipped with
  | [_], _ =>
    -- The second opening brace of the one inside would stand where the outer one has gone on.
    simp only [List.cons_append, List.nil_append, List.cons.injEq] at heq
    exact absurd (heq.2.2.1 ▸ List.mem_cons_self) hbrace
  | _ :: _ :: skipped, _ =>
    simp only [List.cons_append, List.cons.injEq, List.length_cons, Nat.add_le_add_iff_right]
      at heq ⊢
    by_contra hlt
    rw [not_le] at hlt
    -- Else the opening brace of the second one is a character inside the first one.
    have hfound : (d :: (inside ++ after))[skipped.length]? = some '\x7b' := by
      rw [heq.2.2, List.getElem?_append_right le_rfl, Nat.sub_self]
      rfl
    rw [← List.cons_append, List.getElem?_append_left (by simpa using hlt)] at hfound
    exact hbrace (List.mem_of_getElem? hfound)

theorem Occurrence.In.start_lt_stop {o : Occurrence} {cs : List Char} (h : o.In cs) :
    o.start < o.stop := by
  obtain ⟨before, inner, after, -, hstart, hstop, hinner⟩ := h
  obtain ⟨inside, rfl, -, -⟩ := hinner.exists_inside
  rw [List.length_cons] at hstop
  omega

theorem Occurrence.In.stop_le_length {o : Occurrence} {cs : List Char} (h : o.In cs) :
    o.stop ≤ cs.length := by
  obtain ⟨before, inner, after, rfl, -, hstop, -⟩ := h
  simp only [List.length_append]
  omega

/-- A placeholder that starts at or behind the start of another one is this one or stands
behind it. -/
theorem Occurrence.In.eq_or_stop_le {o o' : Occurrence} {cs : List Char} (h : o.In cs)
    (h' : o'.In cs) (hle : o.start ≤ o'.start) : o = o' ∨ o.stop ≤ o'.start := by
  obtain ⟨before, inner, after, rfl, hstart, hstop, hinner⟩ := h
  obtain ⟨before', inner', after', heq, hstart', hstop', hinner'⟩ := h'
  obtain ⟨skipped, rfl⟩ : before <+: before' :=
    List.prefix_of_prefix_length_le ⟨_, rfl⟩ ⟨_, heq.symm⟩ (by omega)
  rw [List.append_assoc, List.append_cancel_left_eq] at heq
  rw [List.length_append] at hstart'
  cases skipped with
  | nil =>
    -- Both stand at the front of the same text, where the scanner finds only one.
    have hfound := hinner.placeholder? after
    rw [heq, List.nil_append, hinner'.placeholder? after', Option.some.injEq,
      Prod.mk.injEq] at hfound
    obtain ⟨hpath, rfl⟩ := hfound
    rw [List.nil_append, List.append_cancel_right_eq] at heq
    rw [List.length_append, List.length_nil, ← heq] at hstop'
    rw [List.length_nil] at hstart'
    exact .inl (Occurrence.ext (by omega) (by omega) hpath.symm)
  | cons d skipped =>
    right
    -- The second one begins behind the first character of the first one, and so behind all of it.
    have hlen := hinner.length_le hinner' heq (List.cons_ne_nil d skipped)
    omega

/-- Two placeholders in one text are the same or apart. -/
theorem Occurrence.In.apart {o o' : Occurrence} {cs : List Char} (h : o.In cs) (h' : o'.In cs) :
    o = o' ∨ o.stop ≤ o'.start ∨ o'.stop ≤ o.start := by
  rcases le_total o.start o'.start with hle | hle
  · exact (h.eq_or_stop_le h' hle).imp_right .inl
  · exact (h'.eq_or_stop_le h hle).imp Eq.symm .inr

/-! ## Cutting a text -/

/-- What stands between two places of a text, as a literal unless it is empty. -/
def literalBetween (cs : List Char) (start stop : Nat) : List Segment :=
  let stretch := (cs.take stop).drop start
  if stretch = [] then [] else [.literal (String.ofList stretch)]

/-- A text from a place on, cut at stretches. -/
def cutAt (cs : List Char) : Nat → List Occurrence → List Segment
  | start, [] => literalBetween cs start cs.length
  | start, o :: os => literalBetween cs start o.start ++ .placeholder o.path :: cutAt cs o.stop os

theorem prependLiteral_eq (done backwards rest : List Char) (segments : List Segment) :
    prependLiteral backwards segments =
      literalBetween (done ++ (backwards.reverse ++ rest)) done.length
        (done.length + backwards.length) ++ segments := by
  have hstretch : ((done ++ (backwards.reverse ++ rest)).take
      (done.length + backwards.length)).drop done.length = backwards.reverse := by
    rw [← List.append_assoc, List.take_left' (by simp), List.drop_left]
  rw [prependLiteral, literalBetween, hstretch]
  cases backwards with
  | nil => rfl
  | cons c backwards => simp

/-- The scan from a place on cuts the text at all placeholders that start there or behind. -/
theorem segmentsFrom_eq_cutAt (backwards cs done : List Char) :
    ∃ os : List Occurrence, os.Pairwise (fun o o' => o.stop ≤ o'.start) ∧
      (∀ o, o ∈ os ↔ o.In (done ++ (backwards.reverse ++ cs)) ∧
        done.length + backwards.length ≤ o.start) ∧
      segmentsFrom backwards cs = cutAt (done ++ (backwards.reverse ++ cs)) done.length os := by
  fun_induction segmentsFrom backwards cs generalizing done with
  | case1 backwards cs p rest hfound ih =>
    obtain ⟨inner, rfl, hinner⟩ := placeholder?_eq_some_iff.mp hfound
    obtain ⟨os, hpairwise, hmem, hcut⟩ := ih (done ++ (backwards.reverse ++ inner))
    have hwhole : done ++ (backwards.reverse ++ inner) ++ ([].reverse ++ rest) =
        done ++ (backwards.reverse ++ (inner ++ rest)) := by simp
    rw [hwhole] at hmem hcut
    -- What is found stands first, and what the rest of the scan finds stands behind it.
    let found : Occurrence := ⟨done.length + backwards.length,
      (done ++ (backwards.reverse ++ inner)).length, p⟩
    have hstop : found.stop = done.length + backwards.length + inner.length := by
      simp [found, Nat.add_assoc]
    have hin : found.In (done ++ (backwards.reverse ++ (inner ++ rest))) :=
      ⟨done ++ backwards.reverse, inner, rest, by simp, by simp [found],
        by simp [hstop], hinner⟩
    refine ⟨found :: os, List.pairwise_cons.mpr ⟨fun o ho => ((hmem o).mp ho).2, hpairwise⟩,
      fun o => ⟨fun ho => ?kept, fun ⟨ho, hle⟩ => ?all⟩, ?cut⟩
    case kept =>
      rcases List.mem_cons.mp ho with rfl | ho
      · exact ⟨hin, le_rfl⟩
      · obtain ⟨ho, hle⟩ := (hmem o).mp ho
        simp only [List.length_append, List.length_reverse, List.length_nil] at hle
        exact ⟨ho, by omega⟩
    case all =>
      -- None is missed by going on behind the one that has been found.
      rcases hin.eq_or_stop_le ho hle with rfl | hle
      · exact List.mem_cons_self
      · exact List.mem_cons_of_mem _ ((hmem o).mpr ⟨ho, hle⟩)
    case cut =>
      rw [cutAt, prependLiteral_eq done backwards (inner ++ rest), hcut]
  | case2 backwards hnone =>
    refine ⟨[], List.Pairwise.nil, fun o => ⟨fun ho => (nomatch ho), fun ⟨ho, hle⟩ => ?_⟩, ?_⟩
    · -- At the end of the text no placeholder starts.
      have h1 := ho.start_lt_stop
      have h2 := ho.stop_le_length
      simp only [List.append_nil, List.length_append, List.length_reverse] at h2
      omega
    · rw [cutAt, prependLiteral_eq done backwards []]
      simp
  | case3 backwards c rest hnone ih =>
    obtain ⟨os, hpairwise, hmem, hcut⟩ := ih done
    have hwhole : done ++ ((c :: backwards).reverse ++ rest) =
        done ++ (backwards.reverse ++ c :: rest) := by simp
    rw [hwhole] at hmem hcut
    refine ⟨os, hpairwise, fun o => (hmem o).trans (and_congr_right fun ho => ?_), hcut⟩
    rw [List.length_cons]
    refine ⟨fun hle => by omega, fun hle => ?_⟩
    -- No placeholder starts right here.
    have hne : o.start ≠ done.length + backwards.length := by
      intro hstart
      obtain ⟨before, inner, after, heq, hbefore, -, hinner⟩ := ho
      rw [← List.append_assoc] at heq
      have hhere := List.append_inj_right heq (by simp; omega)
      have hfound := hinner.placeholder? after
      rw [← hhere, hnone] at hfound
      cases hfound
    omega

/-- Between two stretches there is at most one literal. -/
theorem isChain_cutAt (cs : List Char) (start : Nat) (os : List Occurrence) :
    (cutAt cs start os).IsChain fun a b => a.path?.isSome = true ∨ b.path?.isSome = true := by
  induction os generalizing start with
  | nil =>
    rw [cutAt, literalBetween]
    split
    · exact .nil
    · exact .singleton _
  | cons o os ih =>
    have hrest : (Segment.placeholder o.path :: cutAt cs o.stop os).IsChain
        fun a b => a.path?.isSome = true ∨ b.path?.isSome = true :=
      (ih o.stop).cons fun _ _ => .inl rfl
    rw [cutAt, literalBetween]
    split
    · exact hrest
    · exact hrest.cons_cons (.inr rfl)

theorem filterMap_path?_cutAt (cs : List Char) (start : Nat) (os : List Occurrence) :
    (cutAt cs start os).filterMap Segment.path? = os.map Occurrence.path := by
  have hliteral : ∀ start stop, (literalBetween cs start stop).filterMap Segment.path? = [] := by
    intro start stop
    rw [literalBetween]
    split <;> rfl
  induction os generalizing start with
  | nil => exact hliteral start cs.length
  | cons o os ih =>
    rw [cutAt, List.filterMap_append, hliteral, List.nil_append,
      List.filterMap_cons_some (f := Segment.path?) rfl, ih, List.map_cons]

/-! ## Templates -/

/-- The placeholders of a text are apart. A text without one is no template; any other one becomes
a template that is the text cut at all its placeholders, in their order: the paths are theirs, the
literals are the non-empty stretches that they leave, and the text of each path reads as that
path. -/
theorem parse_cuts_at_the_placeholders (text : String) :
    (∀ o o' : Occurrence, o.In text.toList → o'.In text.toList →
      o = o' ∨ o.stop ≤ o'.start ∨ o'.stop ≤ o.start) ∧
    (Template.parse text = none ↔ ∀ o : Occurrence, ¬ o.In text.toList) ∧
    ∀ t, Template.parse text = some t →
      t.source = text ∧
      (∃ os : List Occurrence, os.Pairwise (fun o o' => o.stop ≤ o'.start) ∧
        (∀ o, o ∈ os ↔ o.In text.toList) ∧
        t.segments = cutAt text.toList 0 os ∧ t.paths = os.map Occurrence.path) ∧
      t.segments.IsChain (fun a b => a.path?.isSome = true ∨ b.path?.isSome = true) ∧
      ∀ p ∈ t.paths, Path.parse p.text = p := by
  obtain ⟨os, hpairwise, hmem, hcut⟩ := segmentsFrom_eq_cutAt [] text.toList []
  simp only [List.reverse_nil, List.nil_append, List.length_nil, Nat.add_zero, Nat.zero_le,
    and_true] at hmem hcut
  have hpaths : (segmentsFrom [] text.toList).filterMap Segment.path? = os.map Occurrence.path :=
    hcut ▸ filterMap_path?_cutAt text.toList 0 os
  -- Literals alone make no template.
  have hnone : ((segmentsFrom [] text.toList).any fun s => s.path?.isSome) = false ↔ os = [] := by
    rw [List.any_eq_false, ← List.map_eq_nil_iff (f := Occurrence.path), ← hpaths,
      List.filterMap_eq_nil_iff]
    simp
  refine ⟨fun o o' h h' => Occurrence.In.apart h h', ?none, fun t ht => ?some⟩
  case none =>
    have hparse : Template.parse text = none ↔ os = [] := by
      rw [← hnone, Template.parse]
      simp
    simp only [hparse, List.eq_nil_iff_forall_not_mem, hmem]
  case some =>
    rw [Template.parse] at ht
    split at ht
    case isFalse => cases ht
    case isTrue =>
      cases ht
      refine ⟨rfl, ⟨os, hpairwise, hmem, hcut, hpaths⟩, hcut ▸ isChain_cutAt text.toList 0 os, ?_⟩
      intro p hp
      rw [Template.paths, hpaths] at hp
      obtain ⟨o, ho, rfl⟩ := List.mem_map.mp hp
      obtain ⟨_, _, _, -, -, -, hinner⟩ := (hmem o).mp ho
      exact hinner.ofIdentifiers.parse_text

/-- Of a run of braces the inner ones make the placeholder, and there is no second one. -/
theorem placeholders_of_crowded_braces :
    ∃ os : List Occurrence, (∀ o, o ∈ os ↔ o.In "\x7b\x7b\x7ba.b\x7d\x7d\x7d".toList) ∧
      os.map Occurrence.path = [⟨["a", "b"]⟩] := by
  have hparse : Template.parse "\x7b\x7b\x7ba.b\x7d\x7d\x7d" =
      some ⟨"\x7b\x7b\x7ba.b\x7d\x7d\x7d",
        [.literal "\x7b", .placeholder ⟨["a", "b"]⟩, .literal "\x7d"]⟩ := by
    decide +kernel
  obtain ⟨-, ⟨os, -, hmem, -, hpaths⟩, -⟩ := (parse_cuts_at_the_placeholders _).2.2 _ hparse
  exact ⟨os, hmem, hpaths.symm⟩

end LiveText
