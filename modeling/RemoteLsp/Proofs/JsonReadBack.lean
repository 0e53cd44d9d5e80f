import RemoteLsp.Json.Write
import Mathlib

/-!
# Reading back written JSON

The reader takes back what the writer wrote: a string written with its escapes is read as the
same string (`readString_escaped`), and a value built of nulls, booleans, strings, arrays and
objects, written indented, is read as that very value (`read_renderIndented`). Numbers are left
out: the writer copies their literal, whatever it is.

The reader's fuel bounds how deep it may go; the length of the written text is enough, since
every nested read starts further into the text.
-/

namespace RemoteLsp.Json

/-! ## Blanks -/

theorem skipWs_cons {c : Char} (h : isWs c = false) (l : List Char) : skipWs (c :: l) = c :: l := by
  simp [skipWs, h]

theorem skipWs_append {w : List Char} (h : ∀ c ∈ w, isWs c = true) (l : List Char) :
    skipWs (w ++ l) = skipWs l := by
  induction w with
  | nil => rfl
  | cons c w ih =>
    have hc : isWs c = true := h c (by simp)
    simp only [skipWs, List.cons_append, List.dropWhile_cons, hc, if_true] at ih ⊢
    exact ih fun c hc => h c (by simp [hc])

theorem newline_blank (depth : Nat) : ∀ c ∈ newline depth, isWs c = true := by
  intro c hc
  simp only [newline, List.mem_cons, List.mem_replicate] at hc
  rcases hc with rfl | ⟨-, rfl⟩ <;> rfl

@[simp] theorem skipWs_skipWs (cs : List Char) : skipWs (skipWs cs) = skipWs cs :=
  List.dropWhile_idempotent isWs cs

theorem readValue_blank {w : List Char} (hw : ∀ c ∈ w, isWs c = true) (fuel : Nat)
    (cs : List Char) : readValue fuel (w ++ cs) = readValue fuel cs := by
  cases fuel with
  | zero => rfl
  | succ fuel => simp only [readValue, skipWs_append hw]

theorem readValue_skipWs (fuel : Nat) (cs : List Char) :
    readValue fuel (skipWs cs) = readValue fuel cs := by
  cases fuel with
  | zero => rfl
  | succ fuel => simp only [readValue, skipWs_skipWs]

theorem readItems_skipWs (fuel : Nat) (cs : List Char) (acc : List Json) :
    readItems fuel (skipWs cs) acc = readItems fuel cs acc := by
  cases fuel with
  | zero => rfl
  | succ fuel => simp only [readItems, readValue_skipWs]

theorem readMembers_skipWs (fuel : Nat) (cs : List Char) (acc : List (String × Json)) :
    readMembers fuel (skipWs cs) acc = readMembers fuel cs acc := by
  cases fuel with
  | zero => rfl
  | succ fuel => simp only [readMembers, skipWs_skipWs]

/-! ## Strings -/

theorem hexValue?_hexDigit : ∀ k < 16, hexValue? (Text.hexDigit k) = some k := by decide

theorem hexPadded_four (n : Nat) : Text.hexPadded 4 n =
    [Text.hexDigit (n / 4096 % 16), Text.hexDigit (n / 256 % 16), Text.hexDigit (n / 16 % 16),
      Text.hexDigit (n % 16)] := by
  simp [Text.hexPadded, List.range, List.range.loop]

/-- The four digits of a `\u` escape are read as the unit they were written for. -/
theorem hex4?_hexPadded {n : Nat} (hn : n < 65536) :
    hex4? (Text.hexDigit (n / 4096 % 16)) (Text.hexDigit (n / 256 % 16))
      (Text.hexDigit (n / 16 % 16)) (Text.hexDigit (n % 16)) = some n := by
  simp only [hex4?, hexValue?_hexDigit _ (Nat.mod_lt _ (by decide)), Option.bind_eq_bind,
    Option.bind_some]
  congr 1
  omega

/-- A unit written as a `\u` escape that is no surrogate is read as its character. -/
theorem readStringAux_unit (c : Char) (hs : c.toNat < 0xD800) (l acc : List Char) :
    readStringAux ('\\' :: 'u' :: (Text.hexPadded 4 c.toNat ++ l)) acc none =
      readStringAux l (c :: acc) none := by
  have hn : c.toNat < 65536 := by omega
  have hsur : isSurrogate c.toNat = false := by simp [isSurrogate]; omega
  rw [hexPadded_four]
  simp [readStringAux, hex4?_hexPadded hn, hsur, heldUnit, Char.ofNat_toNat]

/-- A character that is written as itself is read as itself. -/
theorem readStringAux_plain {c : Char} (hq : c ≠ '"') (hb : c ≠ '\\') (hc : ¬c.toNat < 0x20)
    (l acc : List Char) : readStringAux (c :: l) acc none = readStringAux l (c :: acc) none := by
  rw [readStringAux.eq_def]
  simp [hb, hc, heldUnit]

/-- Each written character is read back, whatever the escaping. -/
theorem readStringAux_escapeChar (e : Escaping) (c : Char) (l acc : List Char) :
    readStringAux (escapeChar e c ++ l) acc none = readStringAux l (c :: acc) none := by
  have hof : ∀ n, c.toNat = n → Char.ofNat n = c := fun n h => h ▸ Char.ofNat_toNat c
  unfold escapeChar
  -- one case per branch of the writer, each matched by one case of the reader
  split
  · subst_vars; simp [readStringAux, heldUnit]
  split
  · subst_vars; simp [readStringAux, heldUnit]
  split
  · subst_vars; simp [readStringAux, heldUnit]
  split
  · subst_vars; simp [readStringAux, heldUnit]
  split
  · subst_vars; simp [readStringAux, heldUnit]
  split
  · rename_i h8
    simp only [readStringAux, heldUnit, List.cons_append, List.nil_append]
    rw [hof 8 h8]
  split
  · rename_i h12
    simp only [readStringAux, heldUnit, List.cons_append, List.nil_append]
    rw [hof 12 h12]
  split
  · rename_i hlow; exact readStringAux_unit c (by omega) l acc
  split
  · rename_i hsep; exact readStringAux_unit c (by omega) l acc
  split
  · rename_i hhtml
    obtain ⟨-, h | h | h⟩ := hhtml <;> subst h <;> exact readStringAux_unit _ (by decide) l acc
  · rename_i hq hb _ _ _ _ _ hlow _ _
    exact readStringAux_plain hq hb hlow l acc

/-- A string written with its escapes and closed by a quote is read as that string. -/
theorem readStringAux_escaped (e : Escaping) (s : List Char) (rest acc : List Char) :
    readStringAux (s.flatMap (escapeChar e) ++ '"' :: rest) acc none =
      .ok (String.ofList (acc.reverse ++ s), rest) := by
  induction s generalizing acc with
  | nil => simp [readStringAux, heldUnit]
  | cons c s ih =>
    rw [List.flatMap_cons, List.append_assoc, readStringAux_escapeChar, ih]
    simp

theorem readString_escaped (e : Escaping) (s : String) (rest : List Char) :
    readString (s.toList.flatMap (escapeChar e) ++ '"' :: rest) = .ok (s, rest) := by
  simp [readString, readStringAux_escaped]

/-! ## Values -/

mutual

/-- Whether a value holds no number: the writer copies a number's literal, which need not read
back as one. -/
def numberFree : Json → Bool
  | .num _ => false
  | .arr xs => itemsNumberFree xs
  | .obj ms => membersNumberFree ms
  | _ => true

/-- Whether no item holds a number. -/
def itemsNumberFree : List Json → Bool
  | [] => true
  | x :: xs => numberFree x && itemsNumberFree xs

/-- Whether no member's value holds a number. -/
def membersNumberFree : List (String × Json) → Bool
  | [] => true
  | (_, v) :: ms => numberFree v && membersNumberFree ms

end

theorem itemsNumberFree_strs (es : List String) : itemsNumberFree (es.map Json.str) = true := by
  induction es with
  | nil => rfl
  | cons e es ih => simpa [itemsNumberFree, numberFree] using ih

theorem membersNumberFree_map {γ : Type} (f : γ → Json) (hf : ∀ a, numberFree (f a) = true)
    (l : List (String × γ)) : membersNumberFree (l.map fun (k, a) => (k, f a)) = true := by
  induction l with
  | nil => rfl
  | cons p l ih => simp [membersNumberFree, hf, ih]

/-- A number-free value is written from a character that opens a value, never a blank and never
a closing bracket. -/
theorem writeIndented_head (e : Escaping) (depth : Nat) {v : Json} (hv : numberFree v = true) :
    ∃ c t, writeIndented e depth v = c :: t ∧ isWs c = false ∧ c ≠ ']' := by
  cases v with
  | num lit => simp [numberFree] at hv
  | arr xs => cases xs <;> simp [writeIndented, isWs]
  | obj ms => cases ms <;> simp [writeIndented, isWs]
  | bool b => cases b <;> simp [writeIndented, write, isWs]
  | _ => simp [writeIndented, write, writeString, isWs]

/-- An array whose text does not close at once is read item by item; `h` rules out the empty
array and discharges that case of the reader's match. -/
theorem readValue_open_arr (fuel : Nat) (cs : List Char) (h : ∀ r, skipWs cs ≠ ']' :: r) :
    readValue (fuel + 1) ('[' :: cs) = readItems fuel cs [] := by
  rw [← readItems_skipWs]
  simp only [readValue, skipWs_cons (c := '[') rfl]

theorem readValue_open_obj (fuel : Nat) (cs : List Char) (h : ∀ r, skipWs cs ≠ '}' :: r) :
    readValue (fuel + 1) ('{' :: cs) = readMembers fuel cs [] := by
  rw [← readMembers_skipWs]
  simp only [readValue, skipWs_cons (c := '{') rfl]

theorem joinWith_cons {sep a : List Char} {l : List (List Char)} (hl : l ≠ []) :
    joinWith sep (a :: l) = a ++ sep ++ joinWith sep l := by
  cases l with
  | nil => exact absurd rfl hl
  | cons b l => rfl

theorem joinWith_head (sep a : List Char) (l : List (List Char)) :
    ∃ t, joinWith sep (a :: l) = a ++ t := by
  cases l with
  | nil => exact ⟨[], by simp [joinWith]⟩
  | cons b l =>
    exact ⟨sep ++ joinWith sep (b :: l), by rw [joinWith_cons (List.cons_ne_nil b l), List.append_assoc]⟩

@[simp] theorem length_newline (depth : Nat) : (newline depth).length = 2 * depth + 1 := by
  simp [newline]

theorem readValue_space (fuel : Nat) (cs : List Char) : readValue fuel (' ' :: cs) = readValue fuel cs :=
  readValue_blank (w := [' ']) (by simp [isWs]) fuel cs

mutual

/-- A number-free value written at any depth is read back whole, with what follows it left
over, given as much fuel as its text is long. -/
theorem readValue_writeIndented (e : Escaping) : ∀ (v : Json) (fuel depth : Nat)
    (rest : List Char), numberFree v = true → (writeIndented e depth v).length ≤ fuel →
    readValue fuel (writeIndented e depth v ++ rest) = .ok (v, rest)
  | _, 0, depth, _, hv, hl => by
    obtain ⟨c, t, ht, -⟩ := writeIndented_head e depth hv
    simp [ht] at hl
  | .null, _ + 1, _, _, _, _ => by
    simp [writeIndented, write, readValue, skipWs_cons, isWs, readWord]
  | .bool true, _ + 1, _, _, _, _ => by
    simp [writeIndented, write, readValue, skipWs_cons, isWs, readWord]
  | .bool false, _ + 1, _, _, _, _ => by
    simp [writeIndented, write, readValue, skipWs_cons, isWs, readWord]
  | .num _, _ + 1, _, _, hv, _ => by simp [numberFree] at hv
  | .str s, _ + 1, _, rest, _, _ => by
    simp [writeIndented, write, writeString, readValue, skipWs_cons, isWs, readString_escaped,
      Except.map]
  | .arr [], _ + 1, _, _, _, _ => by simp [writeIndented, readValue, skipWs_cons, isWs]
  | .obj [], _ + 1, _, _, _, _ => by simp [writeIndented, readValue, skipWs_cons, isWs]
  | .arr (x :: xs), fuel + 1, depth, rest, hv, hl => by
    have hx : numberFree x = true := by simp_all [numberFree, itemsNumberFree]
    obtain ⟨c, t, hxt, hc, hc'⟩ := writeIndented_head e (depth + 1) hx
    obtain ⟨u, hj⟩ := joinWith_head (',' :: newline (depth + 1)) (writeIndented e (depth + 1) x)
      (indentItems e (depth + 1) xs)
    simp only [writeIndented, List.length_cons, List.length_append, length_newline] at hl
    obtain ⟨f, rfl⟩ : ∃ f, fuel = f + 1 := ⟨fuel - 1, by omega⟩
    simp only [writeIndented, List.cons_append, List.append_assoc]
    rw [readValue_open_arr]
    · simpa using readItems_indentItems e (x :: xs) f depth rest [] (List.cons_ne_nil x xs) hv
        (by omega)
    · intro r hr
      rw [skipWs_append (newline_blank _), indentItems, hj, hxt] at hr
      simp [skipWs_cons hc] at hr
      exact hc' hr.1
  | .obj ((k, v) :: ms), fuel + 1, depth, rest, hv, hl => by
    obtain ⟨u, hj⟩ := joinWith_head (',' :: newline (depth + 1))
      (writeString e k ++ ':' :: ' ' :: writeIndented e (depth + 1) v) (indentMembers e (depth + 1) ms)
    simp only [writeIndented, List.length_cons, List.length_append, length_newline] at hl
    obtain ⟨f, rfl⟩ : ∃ f, fuel = f + 1 := ⟨fuel - 1, by omega⟩
    simp only [writeIndented, List.cons_append, List.append_assoc]
    rw [readValue_open_obj]
    · simpa using readMembers_indentMembers e ((k, v) :: ms) f depth rest []
        (List.cons_ne_nil _ ms) hv (by omega)
    · intro r hr
      rw [skipWs_append (newline_blank _), indentMembers, hj] at hr
      simp only [writeString, List.cons_append, List.append_assoc,
        skipWs_cons (c := '"') rfl] at hr
      simp at hr

/-- The items of a nonempty array, each on its own line, are read up to the closing bracket. -/
theorem readItems_indentItems (e : Escaping) : ∀ (xs : List Json) (fuel depth : Nat)
    (rest : List Char) (acc : List Json), xs ≠ [] → itemsNumberFree xs = true →
    (joinWith (',' :: newline (depth + 1)) (indentItems e (depth + 1) xs)).length ≤ fuel →
    readItems (fuel + 1) (newline (depth + 1) ++
      (joinWith (',' :: newline (depth + 1)) (indentItems e (depth + 1) xs) ++
        (newline depth ++ ']' :: rest))) acc = .ok (.arr (acc.reverse ++ xs), rest)
  | [], _, _, _, _, h, _, _ => absurd rfl h
  | [x], fuel, depth, rest, acc, _, hv, hl => by
    have hx : numberFree x = true := by simpa [itemsNumberFree] using hv
    simp only [indentItems, joinWith] at hl ⊢
    rw [readItems, readValue_blank (newline_blank _),
      readValue_writeIndented e x fuel (depth + 1) _ hx hl]
    simp [bind, Except.bind, pure, Except.pure, skipWs_append (newline_blank _),
      skipWs_cons (c := ']') rfl]
  | x :: y :: ys, fuel, depth, rest, acc, _, hv, hl => by
    rw [itemsNumberFree, Bool.and_eq_true] at hv
    obtain ⟨hx, hys⟩ := hv
    rw [indentItems, joinWith_cons (by simp [indentItems])] at hl ⊢
    simp only [List.length_append, List.length_cons, length_newline] at hl
    obtain ⟨f, rfl⟩ : ∃ f, fuel = f + 1 := ⟨fuel - 1, by omega⟩
    simp only [List.append_assoc, List.cons_append]
    rw [readItems, readValue_blank (newline_blank _),
      readValue_writeIndented e x (f + 1) (depth + 1) _ hx (by omega)]
    simp only [bind, Except.bind, skipWs_cons (c := ',') rfl]
    rw [readItems_indentItems e (y :: ys) f depth rest (x :: acc) (List.cons_ne_nil y ys) hys
      (by omega)]
    simp

/-- The members of a nonempty object, each on its own line, are read up to the closing brace. -/
theorem readMembers_indentMembers (e : Escaping) : ∀ (ms : List (String × Json))
    (fuel depth : Nat) (rest : List Char) (acc : List (String × Json)), ms ≠ [] →
    membersNumberFree ms = true →
    (joinWith (',' :: newline (depth + 1)) (indentMembers e (depth + 1) ms)).length ≤ fuel →
    readMembers (fuel + 1) (newline (depth + 1) ++
      (joinWith (',' :: newline (depth + 1)) (indentMembers e (depth + 1) ms) ++
        (newline depth ++ '}' :: rest))) acc = .ok (.obj (acc.reverse ++ ms), rest)
  | [], _, _, _, _, h, _, _ => absurd rfl h
  | [(k, v)], fuel, depth, rest, acc, _, hv, hl => by
    have hv' : numberFree v = true := by simpa [membersNumberFree] using hv
    simp only [indentMembers, joinWith, List.length_append, List.length_cons] at hl
    have hrv := fun tail => readValue_writeIndented e v fuel (depth + 1) tail hv' (by omega)
    simp only [indentMembers, joinWith]
    rw [readMembers]
    simp [writeString, skipWs_append (newline_blank _), skipWs_cons, isWs, readString_escaped,
      readValue_space, hrv, bind, Except.bind, pure, Except.pure]
  | (k, v) :: m :: ms, fuel, depth, rest, acc, _, hv, hl => by
    rw [membersNumberFree, Bool.and_eq_true] at hv
    obtain ⟨hv', hms⟩ := hv
    rw [indentMembers, joinWith_cons (by simp [indentMembers])] at hl ⊢
    simp only [List.length_append, List.length_cons, length_newline] at hl
    obtain ⟨f, rfl⟩ : ∃ f, fuel = f + 1 := ⟨fuel - 1, by omega⟩
    have hrv := fun tail => readValue_writeIndented e v (f + 1) (depth + 1) tail hv' (by omega)
    have hrest := readMembers_indentMembers e (m :: ms) f depth rest ((k, v) :: acc)
      (List.cons_ne_nil m ms) hms (by omega)
    rw [readMembers]
    simp [writeString, skipWs_append (newline_blank _), skipWs_cons, isWs, readString_escaped,
      readValue_space, hrv, hrest, bind, Except.bind]

end

theorem two_le_length_writeIndented_obj (e : Escaping) (depth : Nat) (ms : List (String × Json)) :
    2 ≤ (writeIndented e depth (.obj ms)).length := by
  cases ms with
  | nil => simp [writeIndented]
  | cons m ms => simp [writeIndented]; omega

/-- The indented text of a number-free value reads back as that value. -/
theorem read_renderIndented (e : Escaping) {v : Json} (hv : numberFree v = true) :
    read (renderIndented e v) = .ok v := by
  have h := readValue_writeIndented e v (2 * (writeIndented e 0 v).length + 2) 0 [] hv (by omega)
  rw [List.append_nil] at h
  simp [read, renderIndented, h, bind, Except.bind, skipWs, pure, Except.pure]

end RemoteLsp.Json
