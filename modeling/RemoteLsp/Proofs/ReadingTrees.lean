import RemoteLsp.Proofs.TextTrees

/-!
# The reader takes the text of a valid tree

The grammar `TextTree.valid` is the one the reader follows: the text of a valid tree is read
as one value, and a whole message made of it and blanks is valid JSON (`isValidText_text`).

A number or a word is valid when the reader takes it alone with nothing left; what has to be
shown is that the reader takes it the same with text after it, as long as that text cannot go
on it. For a number that is one lemma per stage of the reader (`readNumber_append` and the
lemmas before it); each stage looks only at the first character of what is left.
Containers are read member by member and item by item (`readValue_text`), given as much fuel
as the text is long.
-/

namespace RemoteLsp.Json

/-! ## Numbers and words -/

/-- A text that no part of a number goes on into: empty, or opening with a character other
than a digit, a point and an exponent mark. -/
def StopsNumber (rest : List Char) : Prop :=
  ∀ c ∈ rest.head?, c.isDigit = false ∧ c ≠ '.' ∧ c ≠ 'e' ∧ c ≠ 'E'

theorem stopsNumber_of_endsScalar {rest : List Char} (h : ∀ c ∈ rest.head?, endsScalar c = true) :
    StopsNumber rest := by
  intro c hc
  have hend := h c hc
  simp only [endsScalar, isLow, Bool.or_eq_true, decide_eq_true_eq] at hend
  refine ⟨?_, ?_, ?_, ?_⟩
  · rcases hend with ((hl | rfl) | rfl) | rfl
    · -- a blank or a control character lies below the digits
      cases hd : c.isDigit
      · rfl
      · simp only [Char.isDigit, Bool.and_eq_true, decide_eq_true_eq,
          UInt32.le_iff_toNat_le] at hd
        change 48 ≤ c.val.toNat ∧ c.val.toNat ≤ 57 at hd
        change c.val.toNat ≤ 32 at hl
        omega
    all_goals decide
  all_goals
    rintro rfl
    revert hend
    decide

theorem spanDigits_append {rest : List Char} (hs : StopsNumber rest) (cs : List Char) :
    spanDigits (cs ++ rest) = ((spanDigits cs).1, (spanDigits cs).2 ++ rest) := by
  induction cs with
  | nil =>
    cases rest with
    | nil => rfl
    | cons c rest => simp [spanDigits, (hs c rfl).1]
  | cons c cs ih =>
    simp only [spanDigits, Prod.mk.injEq] at ih ⊢
    by_cases hc : c.isDigit = true
    · simp [hc, ih.1, ih.2]
    · simp [hc]

theorem readFraction_append {rest : List Char} (hs : StopsNumber rest) {cs frac r : List Char}
    (h : readFraction cs = .ok (frac, r)) : readFraction (cs ++ rest) = .ok (frac, r ++ rest) := by
  rcases cs with _ | ⟨c, cs⟩
  · rw [readFraction.eq_2 _ (by simp)] at h
    simp only [pure, Except.pure, Except.ok.injEq, Prod.mk.injEq] at h
    obtain ⟨rfl, rfl⟩ := h
    cases rest with
    | nil => rfl
    | cons c rest =>
      rw [List.nil_append, readFraction.eq_2 _ (fun _ h => (hs c rfl).2.1 (List.cons.inj h).1)]
      rfl
  · by_cases hc : c = '.'
    · subst hc
      rcases hsd : spanDigits cs with ⟨ds, r'⟩
      rw [readFraction.eq_1, hsd] at h
      rw [List.cons_append, readFraction.eq_1, spanDigits_append hs, hsd]
      by_cases hds : ds = []
      · simp [hds] at h
      · simp only [List.isEmpty_iff, hds, if_false, pure, Except.pure, Except.ok.injEq,
          Prod.mk.injEq] at h ⊢
        obtain ⟨rfl, rfl⟩ := h
        simp
    · rw [readFraction.eq_2 _ (by simp [hc])] at h
      rw [List.cons_append, readFraction.eq_2 _ (by simp [hc])]
      simp only [pure, Except.pure, Except.ok.injEq, Prod.mk.injEq] at h ⊢
      obtain ⟨rfl, rfl⟩ := h
      simp

theorem readSign_append {cs : List Char} (hcs : cs ≠ []) (rest : List Char) :
    readSign (cs ++ rest) = ((readSign cs).1, (readSign cs).2 ++ rest) := by
  obtain ⟨c, cs, rfl⟩ := List.exists_cons_of_ne_nil hcs
  by_cases hp : c = '+'
  · subst hp; rfl
  · by_cases hm : c = '-'
    · subst hm; rfl
    · rw [List.cons_append, readSign.eq_3 _ (by simp [hp]) (by simp [hm]),
        readSign.eq_3 _ (by simp [hp]) (by simp [hm])]
      simp

theorem readExponent_append {rest : List Char} (hs : StopsNumber rest) {cs ex r : List Char}
    (h : readExponent cs = .ok (ex, r)) : readExponent (cs ++ rest) = .ok (ex, r ++ rest) := by
  rcases cs with _ | ⟨e, cs⟩
  · simp only [readExponent, pure, Except.pure, Except.ok.injEq, Prod.mk.injEq] at h
    obtain ⟨rfl, rfl⟩ := h
    cases rest with
    | nil => rfl
    | cons c rest =>
      obtain ⟨-, -, he, hE⟩ := hs c rfl
      simp [readExponent, he, hE, pure, Except.pure]
  · simp only [readExponent] at h
    simp only [List.cons_append, readExponent]
    split at h
    · -- after the mark, the sign and the digits come from the text itself
      rename_i hmark
      rw [if_pos hmark]
      have hcs : cs ≠ [] := by rintro rfl; simp [readSign, spanDigits] at h
      rcases hsg : readSign cs with ⟨sign, cs'⟩
      rcases hsd : spanDigits cs' with ⟨ds, r'⟩
      rw [hsg] at h
      simp only [hsd] at h
      rw [readSign_append hcs, hsg]
      simp only [spanDigits_append hs, hsd]
      by_cases hds : ds = []
      · simp [hds] at h
      · simp only [List.isEmpty_iff, hds, if_false, pure, Except.pure, Except.ok.injEq,
          Prod.mk.injEq] at h ⊢
        obtain ⟨rfl, rfl⟩ := h
        simp
    · rename_i hmark
      rw [if_neg hmark]
      simp only [pure, Except.pure, Except.ok.injEq, Prod.mk.injEq] at h ⊢
      obtain ⟨rfl, rfl⟩ := h
      simp

theorem readNumberTail_append {rest : List Char} (hs : StopsNumber rest) {cs tail r : List Char}
    (h : readNumberTail cs = .ok (tail, r)) :
    readNumberTail (cs ++ rest) = .ok (tail, r ++ rest) := by
  simp only [readNumberTail, bind, Except.bind] at h ⊢
  rcases hf : readFraction cs with e | ⟨frac, r₁⟩
  · simp [hf] at h
  rcases he : readExponent r₁ with e | ⟨ex, r₂⟩
  · simp [hf, he] at h
  simp only [hf, he, pure, Except.pure, Except.ok.injEq, Prod.mk.injEq] at h
  obtain ⟨rfl, rfl⟩ := h
  simp [readFraction_append hs hf, readExponent_append hs he, pure, Except.pure]

theorem readInteger_append {rest : List Char} (hs : StopsNumber rest) {cs int r : List Char}
    (h : readInteger cs = .ok (int, r)) : readInteger (cs ++ rest) = .ok (int, r ++ rest) := by
  rcases cs with _ | ⟨c, cs⟩
  · simp [readInteger] at h
  · by_cases h0 : c = '0'
    · subst h0
      simp only [readInteger, pure, Except.pure, Except.ok.injEq, Prod.mk.injEq] at h ⊢
      obtain ⟨rfl, rfl⟩ := h
      simp
    · rw [readInteger.eq_2 _ _ h0] at h
      rw [List.cons_append, readInteger.eq_2 _ _ h0]
      split at h
      · rename_i hd
        simp only [hd, if_true, spanDigits_append hs, pure, Except.pure, Except.ok.injEq,
          Prod.mk.injEq] at h ⊢
        obtain ⟨rfl, rfl⟩ := h
        simp
      · simp at h

theorem readMinus_append {cs : List Char} (hcs : cs ≠ []) (rest : List Char) :
    readMinus (cs ++ rest) = ((readMinus cs).1, (readMinus cs).2 ++ rest) := by
  obtain ⟨c, cs, rfl⟩ := List.exists_cons_of_ne_nil hcs
  by_cases hm : c = '-'
  · subst hm; rfl
  · rw [List.cons_append, readMinus.eq_2 _ (by simp [hm]), readMinus.eq_2 _ (by simp [hm])]
    simp

/-- A number is read the same with text after it that cannot go on it. -/
theorem readNumber_append {rest : List Char} (hs : StopsNumber rest) {cs : List Char}
    {s : String} {r : List Char} (h : readNumber cs = .ok (s, r)) :
    readNumber (cs ++ rest) = .ok (s, r ++ rest) := by
  simp only [readNumber, bind, Except.bind] at h ⊢
  have hcs : cs ≠ [] := by rintro rfl; simp [readMinus, readInteger] at h
  rcases hi : readInteger (readMinus cs).2 with e | ⟨int, r₁⟩
  · simp [hi] at h
  rcases ht : readNumberTail r₁ with e | ⟨tail, r₂⟩
  · simp [hi, ht] at h
  simp only [hi, ht, pure, Except.pure, Except.ok.injEq, Prod.mk.injEq] at h
  obtain ⟨rfl, rfl⟩ := h
  simp [readMinus_append hcs, readInteger_append hs hi, readNumberTail_append hs ht, pure,
    Except.pure]

/-- A word read whole is read the same with any text after it. -/
theorem readWord_append {word : List Char} {v j : Json} {cs : List Char}
    (h : readWord word v cs = .ok (j, [])) (rest : List Char) :
    readWord word v (cs ++ rest) = .ok (j, rest) := by
  rw [readWord] at h
  split at h
  · rename_i hp
    simp only [Except.ok.injEq, Prod.mk.injEq] at h
    obtain ⟨rfl, hdrop⟩ := h
    -- the word is a prefix of the text and nothing is left after it, so it is the text
    have hcs : cs = word := by
      have hpre := List.prefix_iff_eq_take.mp (List.isPrefixOf_iff_prefix.mp hp)
      rw [← List.take_append_drop word.length cs, hdrop, List.append_nil, ← hpre]
    subst hcs
    simp [readWord]
  · split at h <;> simp at h

/-- On a character that opens no container, string or word, the reader reads a number, and
its fuel plays no part. -/
theorem readValue_scalar {c : Char} (hws : isWs c = false) (h1 : c ≠ '{') (h2 : c ≠ '[')
    (h3 : c ≠ '"') (h4 : c ≠ 't') (h5 : c ≠ 'f') (h6 : c ≠ 'n') (fuel : Nat) (cs : List Char) :
    readValue (fuel + 1) (c :: cs) = readValue 1 (c :: cs) := by
  simp only [readValue, skipWs_cons hws]

theorem isWs_eq_false {c : Char} (h : isLow c = false) : isWs c = false := by
  cases hw : isWs c
  · rfl
  · simp [isLow_of_isWs hw] at h

/-- A number or a word is read the same with text after it that cannot go on it, with any
fuel. -/
theorem readValue_atom {lit : List Char} (h : isAtom lit = true) {rest : List Char}
    (hr : ∀ c ∈ rest.head?, endsScalar c = true) (fuel : Nat) :
    ∃ j, readValue (fuel + 1) (lit ++ rest) = .ok (j, rest) := by
  simp only [isAtom, Bool.and_eq_true, Bool.not_eq_true', List.isEmpty_eq_false_iff,
    List.all_eq_true] at h
  obtain ⟨⟨hne, hall⟩, hread⟩ := h
  obtain ⟨c, cs, rfl⟩ := List.exists_cons_of_ne_nil hne
  have hc := hall c (by simp)
  simp only [isAtomChar, endsScalar, Bool.not_eq_true', Bool.or_eq_false_iff,
    decide_eq_false_iff_not] at hc
  obtain ⟨⟨⟨⟨⟨⟨⟨hlow, -⟩, -⟩, -⟩, hq⟩, hbr⟩, hsq⟩, -⟩ := hc
  have hws := isWs_eq_false hlow
  have hs := stopsNumber_of_endsScalar hr
  split at hread
  · rename_i j hj
    refine ⟨j, ?_⟩
    rw [List.cons_append]
    -- the first character picks the word, or the number
    by_cases hword : c = 't' ∨ c = 'f' ∨ c = 'n'
    · rcases hword with rfl | rfl | rfl <;>
        (simp only [readValue, skipWs_cons hws] at hj ⊢; exact readWord_append hj rest)
    obtain ⟨ht, hf, hn⟩ : c ≠ 't' ∧ c ≠ 'f' ∧ c ≠ 'n' := by simpa only [not_or] using hword
    rw [readValue_scalar hws hbr hsq hq ht hf hn]
    simp only [readValue, skipWs_cons hws] at hj ⊢
    split at hj
    · rename_i hnum
      rw [if_pos hnum]
      rcases hrn : readNumber (c :: cs) with e | ⟨s, r⟩
      · simp [hrn, Except.map] at hj
      simp only [hrn, Except.map, Except.ok.injEq, Prod.mk.injEq] at hj
      obtain ⟨rfl, rfl⟩ := hj
      rw [← List.cons_append, readNumber_append hs hrn]
      simp [Except.map]
    · simp at hj
  · simp at hread

/-! ## Containers -/

/-- The text of members from the name of the first one on: what the reader of members is
given once the blanks before them are skipped. -/
def membersAfterLead : List (Member TextTree) → List Char
  | [] => []
  | ⟨_, key, colon, v⟩ :: ms => '"' :: key ++ '"' :: colon ++ v.text ++ membersText ms

/-- The text of items from the first one on. -/
def itemsAfterLead : List (Item TextTree) → List Char
  | [] => []
  | ⟨_, v⟩ :: is => v.text ++ itemsText is

theorem skipWs_blank {w : List Char} (h : allBlank w = true) (cs : List Char) :
    skipWs (w ++ cs) = skipWs cs :=
  skipWs_append (by simpa [allBlank] using h) cs

/-- Past a separator, the reader stands after its character. -/
theorem skipWs_parted {sep : Char} (hsep : isWs sep = false) {cs : List Char}
    (h : parted sep cs = true) (rest : List Char) :
    ∃ w, allBlank w = true ∧ skipWs (cs ++ rest) = sep :: (w ++ rest) := by
  obtain ⟨w₁, w₂, rfl, h₁, h₂⟩ := parted_split h
  exact ⟨w₂, h₂, by rw [List.append_assoc, skipWs_blank h₁, List.cons_append, skipWs_cons hsep]⟩

/-- Blanks before a closing bracket are skipped up to it. -/
theorem skipWs_close {close : List Char} (h : allBlank close = true) {c : Char}
    (hc : isWs c = false) (rest : List Char) : skipWs (close ++ c :: rest) = c :: rest := by
  rw [skipWs_blank h, skipWs_cons hc]

theorem length_text_pos {t : TextTree} (h : t.valid = true) : 0 < t.text.length := by
  obtain ⟨c, cs, hc, -⟩ := text_head h
  simp [hc]

mutual

/-- The text of a valid tree is read as one value, with what follows it left over, given as
much fuel as the text is long. -/
theorem readValue_text : ∀ (t : TextTree), t.valid = true → ∀ (fuel : Nat),
    t.text.length ≤ fuel → ∀ (rest : List Char), (∀ c ∈ rest.head?, endsScalar c = true) →
    ∃ j, readValue fuel (t.text ++ rest) = .ok (j, rest)
  | t, h, 0, hf, _, _ => absurd hf (by have := length_text_pos h; omega)
  | .str body, h, _ + 1, _, rest, _ => by
    obtain ⟨s, hs⟩ := readStringAux_stringBody (by simpa [TextTree.valid] using h) rest [] none
    refine ⟨.str s, ?_⟩
    simp [TextTree.text, readValue, skipWs_cons (c := '"') rfl, readString, hs, Except.map]
  | .atom lit, h, fuel + 1, _, rest, hr =>
    readValue_atom (by simpa [TextTree.valid, TextTree.text] using h) hr fuel
  | .obj [] close, h, _ + 1, _, rest, _ => by
    simp only [TextTree.valid, Bool.and_eq_true] at h
    refine ⟨.obj [], ?_⟩
    simp [TextTree.text, membersText, readValue, skipWs_cons (c := '{') rfl,
      skipWs_close h.2 (c := '}') rfl]
  | .obj (m :: ms) close, h, fuel + 1, hf, rest, _ => by
    simp only [TextTree.valid, Bool.and_eq_true] at h
    obtain ⟨lead, key, colon, v⟩ := m
    have hlead : allBlank lead = true := by
      simp only [membersValid, leads, if_true, Bool.and_eq_true] at h
      exact h.1.1.1.1.1
    -- the brace is followed by a member, which the reader of members takes from its name on
    have hmembers : membersText (⟨lead, key, colon, v⟩ :: ms) ++ (close ++ '}' :: rest) =
        lead ++ (membersAfterLead (⟨lead, key, colon, v⟩ :: ms) ++ (close ++ '}' :: rest)) := by
      simp [membersText, membersAfterLead]
    have hname : skipWs (lead ++ (membersAfterLead (⟨lead, key, colon, v⟩ :: ms) ++
        (close ++ '}' :: rest))) = '"' :: (key ++ '"' :: (colon ++ (v.text ++
          (membersText ms ++ (close ++ '}' :: rest))))) := by
      rw [skipWs_blank hlead]
      simp [membersAfterLead, skipWs_cons (c := '"') rfl]
    simp only [TextTree.text, List.cons_append, List.append_assoc, List.nil_append]
    rw [hmembers, readValue_open_obj _ _ (by rw [hname]; simp)]
    exact readMembers_text (⟨lead, key, colon, v⟩ :: ms) (by simp) true h.1 lead close rest fuel
      [] hlead h.2 (by simp only [TextTree.text, List.length_cons, List.length_append] at hf; omega)
  | .arr [] close, h, _ + 1, _, rest, _ => by
    simp only [TextTree.valid, Bool.and_eq_true] at h
    refine ⟨.arr [], ?_⟩
    simp [TextTree.text, itemsText, readValue, skipWs_cons (c := '[') rfl,
      skipWs_close h.2 (c := ']') rfl]
  | .arr (i :: is) close, h, fuel + 1, hf, rest, _ => by
    simp only [TextTree.valid, Bool.and_eq_true] at h
    obtain ⟨lead, v⟩ := i
    have hlead : allBlank lead = true := by
      simp only [itemsValid, leads, if_true, Bool.and_eq_true] at h
      exact h.1.1.1
    have hv : v.valid = true := by
      simp only [itemsValid, Bool.and_eq_true] at h
      exact h.1.1.2
    obtain ⟨c, cs, hvt, hlow, -, -, -, hsq⟩ := text_head hv
    have hitems : itemsText (⟨lead, v⟩ :: is) ++ (close ++ ']' :: rest) =
        lead ++ (itemsAfterLead (⟨lead, v⟩ :: is) ++ (close ++ ']' :: rest)) := by
      simp [itemsText, itemsAfterLead]
    simp only [TextTree.text, List.cons_append, List.append_assoc, List.nil_append]
    rw [hitems, readValue_open_arr]
    · exact readItems_text (⟨lead, v⟩ :: is) (by simp) true h.1 lead close rest fuel [] hlead h.2
        (by simp only [TextTree.text, List.length_cons, List.length_append] at hf; omega)
    · -- the first item opens with a character that is no closing bracket
      intro r hr
      rw [skipWs_blank hlead] at hr
      simp [itemsAfterLead, hvt, skipWs_cons (isWs_eq_false hlow)] at hr
      exact hsq hr.1

theorem readMembers_text : ∀ (ms : List (Member TextTree)), ms ≠ [] → ∀ (first : Bool),
    membersValid first ms = true → ∀ (w close rest : List Char) (fuel : Nat)
    (acc : List (String × Json)), allBlank w = true → allBlank close = true →
    (membersText ms).length < fuel →
    ∃ j, readMembers fuel (w ++ (membersAfterLead ms ++ (close ++ '}' :: rest))) acc = .ok (j, rest)
  | [], h, _, _, _, _, _, _, _, _, _, _ => absurd rfl h
  | _ :: _, _, _, _, _, _, _, 0, _, _, _, hf => absurd hf (by omega)
  | ⟨lead, key, colon, v⟩ :: ms, _, first, h, w, close, rest, fuel + 1, acc, hw, hc, hf => by
    simp only [membersValid, Bool.and_eq_true] at h
    obtain ⟨⟨⟨⟨-, hk⟩, hcol⟩, hv⟩, hms⟩ := h
    have hlen : v.text.length ≤ fuel := by
      obtain ⟨w₁, w₂, rfl, -, -⟩ := parted_split hcol
      simp only [membersText, List.length_append, List.length_cons] at hf
      omega
    -- the name, the colon and the value are read in turn
    obtain ⟨s, hs⟩ := readStringAux_stringBody hk
      (colon ++ (v.text ++ (membersText ms ++ (close ++ '}' :: rest)))) [] none
    obtain ⟨w₂, hw₂, hcolon⟩ := skipWs_parted (by decide) hcol
      (v.text ++ (membersText ms ++ (close ++ '}' :: rest)))
    obtain ⟨jv, hjv⟩ := readValue_text v hv fuel hlen (membersText ms ++ (close ++ '}' :: rest))
      (endsScalar_head_members hms (endsScalar_head_close hc (by decide) rest))
    simp only [membersAfterLead, List.cons_append, List.append_assoc]
    rw [readMembers, skipWs_blank hw, skipWs_cons (c := '"') rfl]
    simp only [readString, hs, bind, Except.bind, hcolon, readValue_blank (by simpa [allBlank] using hw₂), hjv]
    -- after the value, either the closing brace or a comma and the next member
    cases ms with
    | nil =>
      refine ⟨.obj ((s, jv) :: acc).reverse, ?_⟩
      simp [membersText, skipWs_close hc (c := '}') rfl, pure, Except.pure]
    | cons m ms' =>
      obtain ⟨lead', key', colon', v'⟩ := m
      simp only [membersValid, leads, Bool.false_eq_true, if_false, Bool.and_eq_true] at hms
      obtain ⟨w', hw', hcomma⟩ := skipWs_parted (by decide) hms.1.1.1.1
        (membersAfterLead (⟨lead', key', colon', v'⟩ :: ms') ++ (close ++ '}' :: rest))
      have htext : membersText (⟨lead', key', colon', v'⟩ :: ms') ++ (close ++ '}' :: rest) =
          lead' ++ (membersAfterLead (⟨lead', key', colon', v'⟩ :: ms') ++ (close ++ '}' :: rest)) := by
        simp [membersText, membersAfterLead]
      rw [htext, hcomma]
      have hvalid : membersValid false (⟨lead', key', colon', v'⟩ :: ms') = true := by
        simp only [membersValid, leads, Bool.false_eq_true, if_false, Bool.and_eq_true]
        exact hms
      exact readMembers_text (⟨lead', key', colon', v'⟩ :: ms') (by simp) false hvalid w' close rest
        fuel ((s, jv) :: acc) hw' hc (by
          obtain ⟨w₁, w₂, rfl, -, -⟩ := parted_split hcol
          simp only [membersText, List.length_append, List.length_cons] at hf ⊢
          omega)

theorem readItems_text : ∀ (is : List (Item TextTree)), is ≠ [] → ∀ (first : Bool),
    itemsValid first is = true → ∀ (w close rest : List Char) (fuel : Nat)
    (acc : List Json), allBlank w = true → allBlank close = true →
    (itemsText is).length < fuel →
    ∃ j, readItems fuel (w ++ (itemsAfterLead is ++ (close ++ ']' :: rest))) acc = .ok (j, rest)
  | [], h, _, _, _, _, _, _, _, _, _, _ => absurd rfl h
  | _ :: _, _, _, _, _, _, _, 0, _, _, _, hf => absurd hf (by omega)
  | ⟨lead, v⟩ :: is, _, first, h, w, close, rest, fuel + 1, acc, hw, hc, hf => by
    simp only [itemsValid, Bool.and_eq_true] at h
    obtain ⟨⟨-, hv⟩, hs⟩ := h
    obtain ⟨jv, hjv⟩ := readValue_text v hv fuel
      (by simp only [itemsText, List.length_append] at hf; omega)
      (itemsText is ++ (close ++ ']' :: rest))
      (endsScalar_head_items hs (endsScalar_head_close hc (by decide) rest))
    simp only [itemsAfterLead, List.append_assoc]
    rw [readItems, readValue_blank (by simpa [allBlank] using hw)]
    simp only [bind, Except.bind, hjv]
    -- after the item, either the closing bracket or a comma and the next item
    cases is with
    | nil =>
      refine ⟨.arr (jv :: acc).reverse, ?_⟩
      simp [itemsText, skipWs_close hc (c := ']') rfl, pure, Except.pure]
    | cons i is' =>
      obtain ⟨lead', v'⟩ := i
      simp only [itemsValid, leads, Bool.false_eq_true, if_false, Bool.and_eq_true] at hs
      obtain ⟨w', hw', hcomma⟩ := skipWs_parted (by decide) hs.1.1
        (itemsAfterLead (⟨lead', v'⟩ :: is') ++ (close ++ ']' :: rest))
      have htext : itemsText (⟨lead', v'⟩ :: is') ++ (close ++ ']' :: rest) =
          lead' ++ (itemsAfterLead (⟨lead', v'⟩ :: is') ++ (close ++ ']' :: rest)) := by
        simp [itemsText, itemsAfterLead]
      rw [htext, hcomma]
      have hvalid : itemsValid false (⟨lead', v'⟩ :: is') = true := by
        simp only [itemsValid, leads, Bool.false_eq_true, if_false, Bool.and_eq_true]
        exact hs
      exact readItems_text (⟨lead', v'⟩ :: is') (by simp) false hvalid w' close rest
        fuel (jv :: acc) hw' hc (by
          have := length_text_pos hv
          simp only [itemsText, List.length_append] at hf ⊢
          omega)

end

theorem endsScalar_head_blank {trail : List Char} (h : allBlank trail = true) :
    ∀ c ∈ trail.head?, endsScalar c = true := by
  intro c hc
  have hw : isWs c = true := List.all_eq_true.mp h c (List.mem_of_mem_head? hc)
  simp [endsScalar, isLow_of_isWs hw]

/-- A valid tree between blanks is a text of one JSON value. -/
theorem isValidText_text {t : TextTree} (h : t.valid = true) {lead trail : List Char}
    (hl : allBlank lead = true) (ht : allBlank trail = true) :
    isValidText (String.ofList (lead ++ t.text ++ trail)) = true := by
  obtain ⟨j, hj⟩ := readValue_text t h (2 * (lead ++ t.text ++ trail).length + 2)
    (by simp only [List.length_append]; omega) trail (endsScalar_head_blank ht)
  have hrest : skipWs trail = [] := by rw [← List.append_nil trail, skipWs_blank ht]; rfl
  simp only [isValidText, read, String.toList_ofList]
  rw [List.append_assoc, readValue_blank (by simpa [allBlank] using hl), ← List.append_assoc, hj]
  simp [bind, Except.bind, hrest, pure, Except.pure, Except.toBool]

end RemoteLsp.Json
