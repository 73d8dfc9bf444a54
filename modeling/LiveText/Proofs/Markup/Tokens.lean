import Mathlib
import LiveText.Markup.Token
import LiveText.Proofs.Markup.Forest
import LiveText.Proofs.Text.Blank

/-!
# Tokens of plain markup

How the markup that is written for plain elements and texts is taken apart again. A character with
a meaning of its own is written as a reference, and the references that are written end in a
semicolon, so that no letter after them can make them part of a longer name.

## Main definitions

- `IsReferenceTo`: a reference by a name that stands for a character.
- `OpensTag`: what may follow a text.

## Main statements

- `decodeValue_escapeValue`: the value of an attribute is read as it was.
- `nextTokens?_writeStart`, `nextTokens?_writeEnd`: a tag is read as one token.
- `nextTokens?_escapeText`: what is read of a text: a reference, or all up to the next one.
- `textTokens_eq`: the tokens of a stretch of text make up the stretch.
-/

namespace LiveText.Markup

/-! ## References -/

/-- An ampersand, a name that stands for a character, and a semicolon. -/
def IsReferenceTo (c : Char) (cs : List Char) : Prop :=
  ∃ name : String, cs = '&' :: (name.toList ++ [';']) ∧ name.toList.all Char.isAlphanum ∧
    named? name = some [c]

/-- A name with a semicolon is a reference whatever follows. -/
theorem reference?_of_named {name : String} {chars : List Char}
    (hname : name.toList.all Char.isAlphanum) (h : named? name = some chars) (inValue : Bool)
    (rest : List Char) :
    reference? inValue (name.toList ++ ';' :: rest) = some (⟨chars, true⟩, rest) := by
  have hrun := List.all_eq_true.mp hname
  have hstop : ∀ c ∈ (';' :: rest).head?, c.isAlphanum = false := by
    simp
  obtain ⟨htake, hdrop⟩ := takeWhile_append_of_head hrun hstop
  unfold reference?
  split
  · next digits heq =>
    -- A number sign is neither a letter nor a semicolon.
    cases hcs : name.toList with
    | nil => simp [hcs] at heq
    | cons c cs =>
      rw [hcs, List.cons_append, List.cons.injEq] at heq
      have hc := hrun c (by rw [hcs]; exact List.mem_cons_self)
      rw [heq.1] at hc
      exact absurd hc (by decide)
  · simp only [htake, hdrop, String.ofList_toList, h]
    rfl

theorem IsReferenceTo.reference? {c : Char} {cs : List Char} (h : IsReferenceTo c cs)
    (inValue : Bool) (rest : List Char) :
    ∃ body, cs ++ rest = '&' :: body ∧ body.length = cs.length + rest.length - 1 ∧
      Markup.reference? inValue body = some (⟨[c], true⟩, rest) := by
  obtain ⟨name, rfl, hname, hnamed⟩ := h
  refine ⟨name.toList ++ ';' :: rest, by simp, by simp; omega, ?_⟩
  exact reference?_of_named hname hnamed inValue rest

theorem escapeText_cases (c : Char) :
    (escapeText c = [c] ∧ c ≠ '&' ∧ c ≠ '<') ∨ IsReferenceTo c (escapeText c) := by
  unfold escapeText
  split_ifs with hamp hnbsp hlt hgt
  · exact .inr ⟨"amp", by decide, by decide, by rw [hamp]; decide +kernel⟩
  · exact .inr ⟨"nbsp", by decide, by decide, by rw [hnbsp]; decide +kernel⟩
  · exact .inr ⟨"lt", by decide, by decide, by rw [hlt]; decide +kernel⟩
  · exact .inr ⟨"gt", by decide, by decide, by rw [hgt]; decide +kernel⟩
  · exact .inl ⟨rfl, hamp, hlt⟩

theorem escapeValue_cases (c : Char) :
    (escapeValue c = [c] ∧ c ≠ '&' ∧ c ≠ '"') ∨ IsReferenceTo c (escapeValue c) := by
  unfold escapeValue
  split_ifs with hamp hnbsp hquot
  · exact .inr ⟨"amp", by decide, by decide, by rw [hamp]; decide +kernel⟩
  · exact .inr ⟨"nbsp", by decide, by decide, by rw [hnbsp]; decide +kernel⟩
  · exact .inr ⟨"quot", by decide, by decide, by rw [hquot]; decide +kernel⟩
  · exact .inl ⟨rfl, hamp, hquot⟩

/-! ## Values of attributes -/

theorem decodeValueWithin_cons_of_ne {c : Char} (h : c ≠ '&') (fuel : Nat) (rest : List Char) :
    decodeValueWithin (fuel + 1) (c :: rest) = c :: decodeValueWithin fuel rest := by
  rw [decodeValueWithin]
  exact fun heq => h heq

theorem decodeValueWithin_escapeValue {fuel : Nat} {cs : List Char}
    (hfuel : (cs.flatMap escapeValue).length ≤ fuel) :
    decodeValueWithin fuel (cs.flatMap escapeValue) = cs := by
  induction cs generalizing fuel with
  | nil => cases fuel <;> rfl
  | cons c cs ih =>
    rw [List.flatMap_cons, List.length_append] at hfuel
    rw [List.flatMap_cons]
    obtain ⟨heq, hne, -⟩ | href := escapeValue_cases c
    · rw [heq] at hfuel ⊢
      rw [List.length_singleton] at hfuel
      obtain ⟨fuel, rfl⟩ : ∃ n, fuel = n + 1 := ⟨fuel - 1, by omega⟩
      rw [List.singleton_append, decodeValueWithin_cons_of_ne hne, ih (by omega)]
    · obtain ⟨body, hbody, hlength, hread⟩ := href.reference? true (cs.flatMap escapeValue)
      have hpos : 0 < (escapeValue c).length := by
        obtain ⟨name, heq, -⟩ := href
        simp [heq]
      obtain ⟨fuel, rfl⟩ : ∃ n, fuel = n + 1 := ⟨fuel - 1, by omega⟩
      rw [hbody, decodeValueWithin, hread]
      simp only [List.singleton_append, List.cons.injEq, true_and]
      exact ih (by omega)

/-- The value of an attribute is read as it was. -/
theorem decodeValue_escapeValue (cs : List Char) : decodeValue (cs.flatMap escapeValue) = cs :=
  decodeValueWithin_escapeValue (Nat.le_refl _)

/-- No quotation mark is left that could end a value. -/
theorem ne_quote_of_mem_escapeValue {c x : Char} (h : x ∈ escapeValue c) : x ≠ '"' := by
  obtain ⟨heq, -, hne⟩ | ⟨name, heq, hname, -⟩ := escapeValue_cases c
  · rw [heq, List.mem_singleton] at h
    rwa [h]
  · rw [heq] at h
    simp only [List.mem_cons, List.mem_append, List.not_mem_nil, or_false] at h
    rintro rfl
    obtain h | h | h := h
    · exact absurd h (by decide)
    · exact absurd (List.all_eq_true.mp hname _ h) (by decide)
    · exact absurd h (by decide)

theorem replaceNul_of_isPlainChar {c : Char} (h : isPlainChar c) : replaceNul c = c := by
  exact if_neg (ne_of_test h rfl)

theorem readValue?_escapeValue {value : String} (h : isPlainText value) (rest : List Char) :
    readValue? ('"' :: (value.toList.flatMap escapeValue ++ '"' :: rest)) = some (value, rest) := by
  have hinside : ∀ x ∈ value.toList.flatMap escapeValue, decide (x ≠ '"') = true := by
    intro x hx
    obtain ⟨c, -, hx⟩ := List.mem_flatMap.mp hx
    exact decide_eq_true (ne_quote_of_mem_escapeValue hx)
  have hplain : (value.toList.flatMap escapeValue).map replaceNul =
      value.toList.flatMap escapeValue := by
    conv_rhs => rw [← List.map_id (value.toList.flatMap escapeValue)]
    refine List.map_congr_left fun x hx => ?_
    obtain ⟨c, hc, hx⟩ := List.mem_flatMap.mp hx
    exact replaceNul_of_isPlainChar (isPlainChar_of_mem_escapeValue (isPlainChar_of_mem h hc) hx)
  have hstop : ∀ x ∈ ('"' :: rest).head?, decide (x ≠ '"') = false := by
    simp
  obtain ⟨htake, hdrop⟩ := takeWhile_append_of_head hinside hstop
  rw [readValue?, List.dropWhile_cons_of_neg (by decide)]
  simp only [htake, hdrop, hplain, decodeValue_escapeValue, String.ofList_toList]

/-! ## Attributes -/

/-- The characters of a name have no meaning inside a tag, and no capital letters are among them. -/
theorem isNamePart_of_mem {c : Char} (h : c.isLower ∨ c.isDigit ∨ c = '-') :
    isAttributeNamePart c = true ∧ replaceNul c.toLower = c := by
  have hupper : ¬ c.isUpper := by
    simp only [Char.isUpper, Char.isLower, Char.isDigit, Bool.and_eq_true, decide_eq_true_eq,
      UInt32.le_iff_toNat_le, ge_iff_le, not_and] at h ⊢
    rintro hlow hhigh
    obtain h | h | rfl := h
    · exact absurd (h.1.trans hhigh) (by decide)
    · exact absurd (hlow.trans h.2) (by decide)
    · exact absurd hlow (by decide)
  have hne (other : Char) (hlower : other.isLower = false) (hdigit : other.isDigit = false)
      (hhyphen : other ≠ '-') : c ≠ other := by
    rintro rfl
    simp [hlower, hdigit, hhyphen] at h
  rw [Char.toLower_eq_of_not_isUpper hupper]
  constructor
  · simp [isAttributeNamePart, isTagNamePart, isSpace, hne ' ', hne '\n', hne '\t', hne '\x0c',
      hne '/', hne '>', hne '=']
  · exact if_neg (hne '\x00' rfl rfl (by decide))

/-- A name is read as it was. -/
theorem nameOf_eq {name : String} (h : isAttributeName name) : nameOf name.toList = name := by
  obtain ⟨first, rest, heq, hfirst, hrest⟩ := isAttributeName_iff.mp h
  rw [nameOf, heq, List.map_cons, (isNamePart_of_mem (.inl hfirst)).2,
    List.map_congr_left fun c hc => (isNamePart_of_mem (hrest c hc)).2, List.map_id', ← heq,
    String.ofList_toList]

theorem PlainAttributes.tail {a : String × String} {rest : Entries String}
    (h : PlainAttributes (a :: rest)) : PlainAttributes rest :=
  ⟨(List.nodup_cons.mp h.nodup).2, fun a ha => h.names a (List.mem_cons_of_mem _ ha),
    fun a ha => h.values a (List.mem_cons_of_mem _ ha)⟩

/-- No later attribute has the name of the first. -/
theorem PlainAttributes.ne_of_mem {a : String × String} {rest : Entries String}
    (h : PlainAttributes (a :: rest)) : ∀ other ∈ rest, other.1 ≠ a.1 := by
  rintro other hother heq
  exact (List.nodup_cons.mp h.nodup).1 (heq ▸ List.mem_map_of_mem hother)

/-- The attributes of a tag are read as they were, in their order. -/
theorem readAttributes?_writeAttribute {attributes : Entries String}
    (h : PlainAttributes attributes) {fuel : Nat} (hfuel : attributes.length < fuel)
    (rest : List Char) :
    readAttributes? fuel
        (attributes.flatMap (fun (name, value) => writeAttribute name value) ++ '>' :: rest) =
      some (attributes, false, rest) := by
  induction attributes generalizing fuel with
  | nil =>
    obtain ⟨fuel, rfl⟩ := Nat.exists_eq_add_one_of_ne_zero (Nat.ne_of_gt hfuel)
    rw [List.flatMap_nil, List.nil_append, readAttributes?,
      List.dropWhile_cons_of_neg (by decide)]
    rfl
  | cons a attributes ih =>
    obtain ⟨name, value⟩ := a
    obtain ⟨fuel, rfl⟩ := Nat.exists_eq_add_one_of_ne_zero (Nat.ne_zero_of_lt hfuel)
    have hothers := ih h.tail (Nat.lt_of_succ_lt_succ hfuel)
    have hname := h.names _ List.mem_cons_self
    obtain ⟨first, more, heq, hfirst, hmore⟩ := isAttributeName_iff.mp hname
    have hmore : ∀ c ∈ more, isAttributeNamePart c = true :=
      fun c hc => (isNamePart_of_mem (hmore c hc)).1
    -- What stands after the blank: the name, an equals sign and the value, then the others.
    generalize htail : (attributes.flatMap fun (name, value) => writeAttribute name value) ++
      '>' :: rest = tail at hothers
    have hwritten : ((name, value) :: attributes).flatMap
        (fun (name, value) => writeAttribute name value) ++ '>' :: rest =
        ' ' :: first :: (more ++
          '=' :: '"' :: (value.toList.flatMap escapeValue ++ '"' :: tail)) := by
      simp [writeAttribute, heq, ← htail]
    have hfirst := (isNamePart_of_mem (.inl hfirst)).1
    simp only [isAttributeNamePart, isTagNamePart, Bool.and_eq_true, Bool.not_eq_true',
      decide_eq_true_eq] at hfirst
    obtain ⟨⟨⟨hspace, hslash⟩, hend⟩, -⟩ := hfirst
    rw [hwritten, readAttributes?, List.dropWhile_cons_of_pos (by decide),
      List.dropWhile_cons_of_neg (by simp [hspace])]
    split
    -- The tag neither ends here nor is it marked as one that closes itself.
    · next hcs => cases hcs
    · next hcs => exact absurd (List.cons.inj hcs).1 hend
    · next hcs => exact absurd (List.cons.inj hcs).1 hslash
    · next hcs => exact absurd (List.cons.inj hcs).1 hslash
    · next c cs _ _ _ hcs =>
      -- No later attribute is dropped, since none has the same name.
      obtain ⟨rfl, rfl⟩ := List.cons.inj hcs
      have hfilter : attributes.filter (·.1 ≠ name) = attributes :=
        List.filter_eq_self.mpr fun a ha => decide_eq_true (h.ne_of_mem a ha)
      simp only [List.takeWhile_append_of_pos hmore, List.dropWhile_append_of_pos hmore,
        List.takeWhile_cons_of_neg (show ¬ isAttributeNamePart '=' = true by decide),
        List.dropWhile_cons_of_neg (show ¬ isAttributeNamePart '=' = true by decide),
        List.dropWhile_cons_of_neg (show ¬ isSpace '=' = true by decide), List.append_nil,
        readValue?_escapeValue (h.values _ List.mem_cons_self), hothers, Option.map_some,
        ← heq, nameOf_eq hname, hfilter]

/-! ## Tags -/

/-- The tags of plain elements are read as they are, and begin with a letter. -/
theorem tag_facts : ∀ tag ∈ plainTags, tag.toList.all isTagNamePart ∧ nameOf tag.toList = tag ∧
    ∃ c cs, tag.toList = c :: cs ∧ c.isAlpha := by
  intro tag htag
  simp only [plainTags, List.mem_cons, List.not_mem_nil, or_false] at htag
  obtain rfl | rfl | rfl | rfl := htag
  · exact ⟨by decide, by decide, 'd', _, rfl, by decide⟩
  · exact ⟨by decide, by decide, 's', _, rfl, by decide⟩
  · exact ⟨by decide, by decide, 's', _, rfl, by decide⟩
  · exact ⟨by decide, by decide, 'a', _, rfl, by decide⟩

/-- Attributes are no shorter than their number. -/
theorem length_le_length_writeAttribute (attributes : Entries String) :
    attributes.length ≤
      (attributes.flatMap fun (name, value) => writeAttribute name value).length := by
  induction attributes with
  | nil => exact Nat.zero_le _
  | cons a rest ih =>
    have hpos : 0 < (writeAttribute a.1 a.2).length := Nat.succ_pos _
    rw [List.flatMap_cons, List.length_append, List.length_cons]
    exact (Nat.add_le_add ih hpos).trans_eq (Nat.add_comm _ _)

theorem readTag?_written {tag : String} (htag : tag ∈ plainTags) {attributes : Entries String}
    (h : PlainAttributes attributes) (rest : List Char) :
    readTag? (tag.toList ++
        (attributes.flatMap (fun (name, value) => writeAttribute name value) ++ '>' :: rest)) =
      some (⟨tag, attributes, false⟩, rest) := by
  obtain ⟨hparts, hname, -⟩ := tag_facts tag htag
  have hparts := List.all_eq_true.mp hparts
  have hlength := length_le_length_writeAttribute attributes
  generalize hwritten : attributes.flatMap (fun (name, value) => writeAttribute name value) =
    written at hlength
  -- A blank or the end of the tag comes after the name.
  have hstop : ∀ c ∈ (written ++ '>' :: rest).head?, isTagNamePart c = false := by
    cases attributes with
    | nil => simp [← hwritten, isTagNamePart]
    | cons a more => simp [← hwritten, writeAttribute, isTagNamePart, isSpace]
  obtain ⟨htake, hdrop⟩ := takeWhile_append_of_head hparts hstop
  have hfuel : attributes.length < (written ++ '>' :: rest).length + 1 := by
    rw [List.length_append]
    omega
  rw [readTag?, htake, hdrop, ← hwritten, hname, readAttributes?_writeAttribute h, Option.map_some]
  rwa [hwritten]

/-- A start tag is read as one token. -/
theorem nextTokens?_writeStart {tag : String} (htag : tag ∈ plainTags)
    {attributes : Entries String} (h : PlainAttributes attributes) (inForeign : Bool)
    (rest : List Char) :
    nextTokens? .data inForeign (writeStart tag attributes ++ rest) =
      some ([.start ⟨tag, attributes, false⟩], rest) := by
  obtain ⟨-, -, c, cs, heq, hc⟩ := tag_facts tag htag
  have hread := readTag?_written htag h rest
  rw [heq, List.cons_append] at hread
  simp only [writeStart, heq, List.cons_append, List.append_assoc, List.nil_append, nextTokens?,
    if_true]
  -- A letter follows, and so this is neither an end tag nor a comment.
  rw [afterLessThan, if_pos hc, tagToken, hread]
  · exact ne_of_test hc rfl
  · exact ne_of_test hc rfl
  · exact fun heq => absurd heq (ne_of_test hc rfl)
  · exact fun _ heq => absurd heq (ne_of_test hc rfl)
  · exact fun _ _ heq => absurd heq (ne_of_test hc rfl)

/-- An end tag is read as one token. -/
theorem nextTokens?_writeEnd {tag : String} (htag : tag ∈ plainTags) (inForeign : Bool)
    (rest : List Char) :
    nextTokens? .data inForeign (writeEnd tag ++ rest) = some ([.close tag], rest) := by
  obtain ⟨-, -, c, cs, heq, hc⟩ := tag_facts tag htag
  have hnone : PlainAttributes [] := ⟨List.nodup_nil, by simp, by simp⟩
  have hread := readTag?_written htag hnone rest
  rw [List.flatMap_nil, List.nil_append, heq, List.cons_append] at hread
  simp only [writeEnd, heq, List.cons_append, List.append_assoc, List.nil_append, nextTokens?,
    if_true]
  rw [afterLessThan, if_pos hc, tagToken, hread]
  · rfl
  · exact ne_of_test hc rfl

/-! ## Texts -/

/-- What may follow a text: a tag, or nothing. -/
def OpensTag (cs : List Char) : Prop :=
  cs = [] ∨ ∃ rest, cs = '<' :: rest

/-- The tokens of a stretch of text are texts that make up the stretch. -/
theorem textTokens_eq {cs : List Char} (h : '\x00' ∉ cs) :
    ∃ runs : List (Bool × List Char),
      textTokens cs = runs.map (fun (blank, run) => .text blank run) ∧
        (runs.map Prod.snd).flatten = cs := by
  rw [textTokens]
  generalize hruns : cs.splitBy (fun a b => a ≠ '\x00' && b ≠ '\x00' &&
    isBlankInText a == isBlankInText b) = runs
  refine ⟨runs.map fun run => ((run.head?.map isBlankInText).getD false, run), ?_, ?_⟩
  · rw [List.map_map]
    refine List.map_congr_left fun run hrun => ?_
    have hnil : run ≠ [] := by
      rintro rfl
      exact List.nil_notMem_splitBy _ _ (hruns ▸ hrun)
    -- A null character would be a token of its own.
    have hnul : run ≠ ['\x00'] := by
      rintro rfl
      refine h ?_
      rw [← List.flatten_splitBy (fun a b => a ≠ '\x00' && b ≠ '\x00' &&
        isBlankInText a == isBlankInText b) cs, hruns]
      exact List.mem_flatten.mpr ⟨_, hrun, List.mem_singleton_self _⟩
    cases run with
    | nil => exact absurd rfl hnil
    | cons c rest =>
      split
      · next heq => exact absurd heq hnul
      · next heq => rw [← (List.cons.inj heq).1]; rfl
      · next heq => cases heq
  · rw [List.map_map, show (Prod.snd ∘ fun run : List Char =>
      ((run.head?.map isBlankInText).getD false, run)) = id from rfl, List.map_id, ← hruns,
      List.flatten_splitBy]

/-- Whether a character is written as it is. -/
def isLiteral (c : Char) : Bool :=
  escapeText c = [c]

theorem flatMap_escapeText_of_isLiteral {cs : List Char} (h : ∀ c ∈ cs, isLiteral c = true) :
    cs.flatMap escapeText = cs := by
  rw [List.flatMap_congr fun c hc => of_decide_eq_true (h c hc), List.flatMap_singleton']

/-- A character is written as it is exactly if it does not begin a tag or a reference. -/
theorem isLiteral_cases (c : Char) :
    (isLiteral c = true ∧ c ≠ '&' ∧ c ≠ '<') ∨
      (isLiteral c = false ∧ IsReferenceTo c (escapeText c)) := by
  obtain ⟨heq, hne⟩ | href := escapeText_cases c
  · exact .inl ⟨decide_eq_true heq, hne⟩
  · refine .inr ⟨decide_eq_false fun heq => ?_, href⟩
    obtain ⟨name, hname, -⟩ := href
    simp [heq] at hname

/-- What stops a stretch of text: nothing more, a tag or a reference. -/
theorem stops_dropWhile_isLiteral (cs : List Char) {rest : List Char} (hrest : OpensTag rest) :
    (cs.dropWhile isLiteral).flatMap escapeText ++ rest = [] ∨ ∃ c more,
      (cs.dropWhile isLiteral).flatMap escapeText ++ rest = c :: more ∧ (c = '<' ∨ c = '&') := by
  cases hleft : cs.dropWhile isLiteral with
  | nil =>
    obtain rfl | ⟨more, rfl⟩ := hrest
    · exact .inl rfl
    · exact .inr ⟨'<', more, rfl, .inl rfl⟩
  | cons c left =>
    have hc : ¬ isLiteral c = true := by
      have hhead := List.head_dropWhile_not isLiteral (l := cs) (by simp [hleft])
      simpa [hleft] using hhead
    obtain ⟨hliteral, -⟩ | ⟨-, name, heq, -⟩ := isLiteral_cases c
    · exact absurd hliteral hc
    · exact .inr ⟨'&', _, by rw [List.flatMap_cons, heq]; rfl, .inr rfl⟩

/-- A stretch of text goes as far as neither a tag nor a reference begins. -/
theorem span_text {done rest : List Char} (hdone : ∀ c ∈ done, c ≠ '&' ∧ c ≠ '<')
    (hrest : rest = [] ∨ ∃ c more, rest = c :: more ∧ (c = '<' ∨ c = '&')) :
    (done ++ rest).takeWhile (fun c => c ≠ '<' && c ≠ '&') = done ∧
      (done ++ rest).dropWhile (fun c => c ≠ '<' && c ≠ '&') = rest := by
  refine takeWhile_append_of_head (fun c hc => by simp [hdone c hc]) fun c hc => ?_
  obtain rfl | ⟨d, more, rfl, hd⟩ := hrest
  · cases hc
  · cases hc
    obtain rfl | rfl := hd <;> decide

/-- What is read first of a text that is not empty: tokens that make up a start of it. Then the rest
of it is read. -/
theorem nextTokens?_escapeText {cs : List Char} (hne : cs ≠ []) (hplain : cs.all isPlainChar)
    (inForeign : Bool) {rest : List Char} (hrest : OpensTag rest) :
    ∃ (runs : List (Bool × List Char)) (done left : List Char),
      cs = done ++ left ∧ done ≠ [] ∧ (runs.map Prod.snd).flatten = done ∧
      nextTokens? .data inForeign (cs.flatMap escapeText ++ rest) =
        some (runs.map (fun (blank, run) => .text blank run),
          left.flatMap escapeText ++ rest) := by
  obtain ⟨c, tail, rfl⟩ := List.exists_cons_of_ne_nil hne
  obtain ⟨hc, hamp, hlt⟩ | ⟨-, href⟩ := isLiteral_cases c
  case inr =>
    -- A character that is written as a reference makes a token on its own.
    obtain ⟨body, hbody, -, hread⟩ := href.reference? false (tail.flatMap escapeText ++ rest)
    refine ⟨[(isBlankInText c, [c])], [c], tail, rfl, by simp, rfl, ?_⟩
    rw [List.flatMap_cons, List.append_assoc, hbody]
    simp [nextTokens?, afterAmpersand, hread]
  case inl =>
    -- All up to the next character that is written as a reference.
    generalize hdone : (c :: tail).takeWhile isLiteral = done
    generalize hleft : (c :: tail).dropWhile isLiteral = left
    have hcs : c :: tail = done ++ left := by
      rw [← hdone, ← hleft, List.takeWhile_append_dropWhile]
    have hliteral : ∀ x ∈ done, isLiteral x = true := by
      intro x hx
      exact List.mem_takeWhile_imp (hdone ▸ hx)
    have hnul : '\x00' ∉ done := by
      intro hmem
      have hx := List.all_eq_true.mp hplain _ (hcs ▸ List.mem_append_left left hmem)
      exact absurd hx (by decide)
    obtain ⟨more, rfl⟩ : ∃ more, done = c :: more := by
      rw [List.takeWhile_cons_of_pos hc] at hdone
      exact ⟨_, hdone.symm⟩
    have hstops := stops_dropWhile_isLiteral (c :: tail) hrest
    rw [hleft] at hstops
    have hparts : ∀ x ∈ c :: more, x ≠ '&' ∧ x ≠ '<' := by
      intro x hx
      obtain ⟨-, hx⟩ | ⟨hfalse, -⟩ := isLiteral_cases x
      · exact hx
      · exact absurd (hliteral x hx) (by simp [hfalse])
    obtain ⟨htake, hdrop⟩ := span_text hparts hstops
    obtain ⟨runs, hruns, hflatten⟩ := textTokens_eq hnul
    refine ⟨runs, c :: more, left, hcs, by simp, hflatten, ?_⟩
    rw [hcs, List.flatMap_append, flatMap_escapeText_of_isLiteral hliteral, List.append_assoc,
      ← hruns]
    rw [List.cons_append] at htake hdrop ⊢
    simp only [nextTokens?, hlt, hamp, if_false, htake, hdrop]

end LiveText.Markup
