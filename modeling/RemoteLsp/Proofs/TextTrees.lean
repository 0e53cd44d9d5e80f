import RemoteLsp.Proofs.JsonReadBack
import RemoteLsp.Json.Raw

/-!
# JSON text cut at its values

Rewriting a message in place edits its text and not a decoded value, so what is proved about
it is said of the text as written. A `TextTree` is a JSON text cut at its values with every
character kept: the blanks and the comma before each member or item, the literal of each name,
the colon with its blanks, and the literal of each string, number and word. `TextTree.text`
puts the characters back in order.

`TextTree.valid` is the JSON grammar over such a tree: the four JSON blanks, a comma between
two members or items and nowhere else, string literals with their escapes, and numbers and
words as the reader takes them.

Main statements: the raw scanner cuts the text of a valid tree where the tree cuts it. The
span of a value is its text (`valueSpan_text`), and the entries of an object or an array are
its members or items, each with its decoded name and the offset of its value
(`entries_obj`, `entries_arr`).
-/

namespace RemoteLsp.Json

/-- A member of an object, as text. -/
structure Member (α : Type) where
  /-- Blanks before the name, with the comma that parts it from the member before. -/
  lead : List Char
  /-- The name's literal between its quotes. -/
  key : List Char
  /-- The colon with the blanks around it. -/
  colon : List Char
  value : α

/-- An item of an array, as text. -/
structure Item (α : Type) where
  /-- Blanks before the item, with the comma that parts it from the item before. -/
  lead : List Char
  value : α

/-- A JSON text cut at its values, keeping every character. -/
inductive TextTree where
  /-- A string: the text between its quotes. -/
  | str (body : List Char)
  /-- A number or a word. -/
  | atom (lit : List Char)
  /-- An object: its members and the blanks before its closing brace. -/
  | obj (members : List (Member TextTree)) (close : List Char)
  /-- An array: its items and the blanks before its closing bracket. -/
  | arr (items : List (Item TextTree)) (close : List Char)

mutual

/-- The text of a tree. -/
def TextTree.text : TextTree → List Char
  | .str body => '"' :: body ++ ['"']
  | .atom lit => lit
  | .obj ms close => '{' :: membersText ms ++ close ++ ['}']
  | .arr is close => '[' :: itemsText is ++ close ++ [']']

/-- The text of members, one after the other. -/
def membersText : List (Member TextTree) → List Char
  | [] => []
  | ⟨lead, key, colon, v⟩ :: ms => lead ++ '"' :: key ++ '"' :: colon ++ v.text ++ membersText ms

/-- The text of items, one after the other. -/
def itemsText : List (Item TextTree) → List Char
  | [] => []
  | ⟨lead, v⟩ :: is => lead ++ v.text ++ itemsText is

end

/-- The name of a member, decoded from its literal as the scanner decodes it. -/
def Member.name {α : Type} (m : Member α) : String := decodeLiteral ('"' :: m.key ++ ['"'])

/-! ## The grammar -/

/-- Whether a text is only JSON blanks. -/
def allBlank (cs : List Char) : Bool := cs.all isWs

/-- Whether a text is one separator character with blanks around it. -/
def parted (sep : Char) (cs : List Char) : Bool :=
  match skipWs cs with
  | c :: rest => c = sep && allBlank rest
  | [] => false

/-- What may stand before a member or an item: blanks before the first, a comma with blanks
around it before any other. -/
def leads (first : Bool) (cs : List Char) : Bool := if first then allBlank cs else parted ',' cs

/-- Whether a text may stand between the quotes of a string: characters from U+0020 on other
than quote and backslash, and escapes. -/
def isStringBody : List Char → Bool
  | [] => true
  | '\\' :: 'u' :: a :: b :: c :: d :: rest => (hex4? a b c d).isSome && isStringBody rest
  | '\\' :: c :: rest =>
    (c = '"' || c = '\\' || c = '/' || c = 'b' || c = 'f' || c = 'n' || c = 'r' || c = 't') &&
      isStringBody rest
  | c :: rest => c ≠ '"' && c ≠ '\\' && 0x20 ≤ c.toNat && isStringBody rest

/-- A character that the scanner takes into a number or a word. -/
def isAtomChar (c : Char) : Bool := !(endsScalar c || c = '"' || c = '{' || c = '[' || c = ':')

/-- Whether a text is a number or a word: characters the scanner takes into one value, which
the reader reads as one value with nothing left. -/
def isAtom (lit : List Char) : Bool :=
  !lit.isEmpty && lit.all isAtomChar &&
    match readValue 1 lit with
    | .ok (_, []) => true
    | _ => false

mutual

/-- Whether a tree is JSON text. -/
def TextTree.valid : TextTree → Bool
  | .str body => isStringBody body
  | .atom lit => isAtom lit
  | .obj ms close => membersValid true ms && allBlank close
  | .arr is close => itemsValid true is && allBlank close

/-- Whether members are JSON text, the first of them when `first`. -/
def membersValid (first : Bool) : List (Member TextTree) → Bool
  | [] => true
  | ⟨lead, key, colon, v⟩ :: ms =>
    leads first lead && isStringBody key && parted ':' colon && v.valid && membersValid false ms

/-- Whether items are JSON text, the first of them when `first`. -/
def itemsValid (first : Bool) : List (Item TextTree) → Bool
  | [] => true
  | ⟨lead, v⟩ :: is => leads first lead && v.valid && itemsValid false is

end

/-! ## Strings -/

/-- A hex digit is neither a quote nor a backslash. -/
theorem hex_digit_plain {c : Char} (h : (hexValue? c).isSome = true) : c ≠ '"' ∧ c ≠ '\\' := by
  constructor <;> rintro rfl <;> simp [hexValue?] at h

/-- The four digits of a `\u` escape are hex digits. -/
theorem hex4_digits {a b c d : Char} (h : (hex4? a b c d).isSome = true) :
    (hexValue? a).isSome = true ∧ (hexValue? b).isSome = true ∧ (hexValue? c).isSome = true ∧
      (hexValue? d).isSome = true := by
  simp only [hex4?, Option.bind_eq_bind] at h
  cases ha : hexValue? a <;> cases hb : hexValue? b <;> cases hc : hexValue? c <;>
    cases hd : hexValue? d <;> simp_all

/-- A container scan passes over a string body in string mode and leaves it at the closing
quote. -/
theorem squash_stringBody {body : List Char} (h : isStringBody body = true) (d : Nat)
    (acc rest : List Char) :
    squash d true false acc (body ++ '"' :: rest) =
      squash d false false ('"' :: body.reverse ++ acc) rest := by
  fun_induction isStringBody body generalizing acc with
  | case1 => simp [squash]
  | case2 a b c e body ih =>
    rw [Bool.and_eq_true] at h
    obtain ⟨ha, hb, hc, he⟩ := hex4_digits h.1
    simp [squash, hex_digit_plain ha, hex_digit_plain hb, hex_digit_plain hc,
      hex_digit_plain he, ih h.2]
  | case3 c body _ ih =>
    rw [Bool.and_eq_true] at h
    simp [squash, ih h.2]
  | case4 c body _ _ ih =>
    simp only [Bool.and_eq_true, decide_eq_true_eq] at h
    obtain ⟨⟨⟨hq, hb⟩, -⟩, hbody⟩ := h
    simp [squash, hq, hb, ih hbody]

/-- The string scanner takes a string body up to its closing quote. -/
theorem stringTail_stringBody {body : List Char} (h : isStringBody body = true)
    (acc rest : List Char) :
    stringTail acc (body ++ '"' :: rest) = (acc.reverse ++ body ++ ['"'], rest) := by
  fun_induction isStringBody body generalizing acc with
  | case1 => simp [stringTail]
  | case2 a b c e body ih =>
    rw [Bool.and_eq_true] at h
    obtain ⟨ha, hb, hc, he⟩ := hex4_digits h.1
    simp [stringTail, hex_digit_plain ha, hex_digit_plain hb, hex_digit_plain hc,
      hex_digit_plain he, ih h.2]
  | case3 c body _ ih =>
    rw [Bool.and_eq_true] at h
    simp [stringTail, ih h.2]
  | case4 c body _ _ ih =>
    simp only [Bool.and_eq_true, decide_eq_true_eq] at h
    obtain ⟨⟨⟨hq, hb⟩, -⟩, hbody⟩ := h
    rw [List.cons_append, stringTail.eq_4 _ _ _ hq (fun _ _ h _ => hb h), ih hbody]
    simp

/-- The reader reads a string body up to its closing quote, whatever it read before. -/
theorem readStringAux_stringBody {body : List Char} (h : isStringBody body = true)
    (rest acc : List Char) (p : Option Nat) :
    ∃ s, readStringAux (body ++ '"' :: rest) acc p = .ok (s, rest) := by
  fun_induction isStringBody body generalizing acc p with
  | case1 => simp [readStringAux]
  | case2 a b c e body ih =>
    rw [Bool.and_eq_true] at h
    obtain ⟨n, hn⟩ := Option.isSome_iff_exists.mp h.1
    -- every way of taking the unit goes on reading the body
    simp only [List.cons_append, readStringAux, hn]
    split
    · exact ih h.2 _ _
    · split <;> exact ih h.2 _ _
  | case3 c body _ ih =>
    rw [Bool.and_eq_true] at h
    obtain ⟨hc, hbody⟩ := h
    simp only [Bool.or_eq_true, decide_eq_true_eq] at hc
    rcases hc with ((((((rfl | rfl) | rfl) | rfl) | rfl) | rfl) | rfl) | rfl <;>
      simpa [readStringAux] using ih hbody _ _
  | case4 c body _ _ ih =>
    simp only [Bool.and_eq_true, decide_eq_true_eq] at h
    obtain ⟨⟨⟨hq, hb⟩, hlow⟩, hbody⟩ := h
    have hlow' : ¬c.toNat < 32 := by omega
    rw [List.cons_append, readStringAux.eq_15 _ _ _ _ hq (fun _ _ _ _ _ h _ => hb h)
      (fun _ h _ => hb h) (fun _ _ h _ => hb h) (fun h _ => hb h), if_neg hlow']
    exact ih hbody _ _

/-! ## Blanks and separators -/

theorem isLow_of_isWs {c : Char} (h : isWs c = true) : isLow c = true := by
  simp only [isWs, Bool.or_eq_true, decide_eq_true_eq] at h
  rcases h with ((rfl | rfl) | rfl) | rfl <;> decide

/-- A separator is blanks, the separator character and blanks. -/
theorem parted_split {sep : Char} {cs : List Char} (h : parted sep cs = true) :
    ∃ w₁ w₂, cs = w₁ ++ sep :: w₂ ∧ allBlank w₁ = true ∧ allBlank w₂ = true := by
  unfold parted at h
  split at h
  · rename_i c rest hs
    simp only [Bool.and_eq_true, decide_eq_true_eq] at h
    obtain ⟨rfl, hb⟩ := h
    refine ⟨cs.takeWhile isWs, rest, ?_, ?_, hb⟩
    · rw [← hs, skipWs, List.takeWhile_append_dropWhile]
    · simp only [allBlank, List.all_eq_true]
      exact fun x hx => List.mem_takeWhile_imp hx
  · simp at h

/-- Every character of a separator is a blank or the separator character. -/
theorem parted_chars {sep : Char} {cs : List Char} (h : parted sep cs = true) :
    ∀ c ∈ cs, isWs c = true ∨ c = sep := by
  obtain ⟨w₁, w₂, rfl, h₁, h₂⟩ := parted_split h
  simp only [allBlank, List.all_eq_true] at h₁ h₂
  intro c hc
  simp only [List.mem_append, List.mem_cons] at hc
  rcases hc with hc | rfl | hc
  · exact .inl (h₁ c hc)
  · exact .inr rfl
  · exact .inl (h₂ c hc)

/-- Every character before a member or an item is a blank or a comma. -/
theorem leads_chars {first : Bool} {cs : List Char} (h : leads first cs = true) :
    ∀ c ∈ cs, isWs c = true ∨ c = ',' := by
  unfold leads at h
  split at h
  · simp only [allBlank, List.all_eq_true] at h
    exact fun c hc => .inl (h c hc)
  · exact parted_chars h

/-- What stands before any member or item but the first opens with a blank or a comma. -/
theorem leads_head {cs : List Char} (h : leads false cs = true) :
    ∃ c rest, cs = c :: rest ∧ (isWs c = true ∨ c = ',') := by
  obtain ⟨w₁, w₂, rfl, -, -⟩ := parted_split (by simpa [leads] using h)
  cases w₁ with
  | nil => exact ⟨',', w₂, rfl, .inr rfl⟩
  | cons c w => exact ⟨c, _, rfl, leads_chars h c (by simp)⟩

/-! ## Container scans -/

/-- A character that a container scan outside strings passes over. -/
def isInert (c : Char) : Bool := !(c = '"' || c = '{' || c = '[' || c = '}' || c = ']')

theorem squash_inert {c : Char} (hc : isInert c = true) (d : Nat) (acc rest : List Char) :
    squash d false false acc (c :: rest) = squash d false false (c :: acc) rest := by
  simp only [isInert, Bool.not_eq_true', Bool.or_eq_false_iff, decide_eq_false_iff_not] at hc
  obtain ⟨⟨⟨⟨h1, h2⟩, h3⟩, h4⟩, h5⟩ := hc
  simp [squash, h1, h2, h3, h4, h5]

theorem squash_inerts {cs : List Char} (h : ∀ c ∈ cs, isInert c = true) (d : Nat)
    (acc rest : List Char) :
    squash d false false acc (cs ++ rest) = squash d false false (cs.reverse ++ acc) rest := by
  induction cs generalizing acc with
  | nil => rfl
  | cons c cs ih =>
    rw [List.cons_append, squash_inert (h c (by simp)), ih fun c hc => h c (by simp [hc])]
    simp

theorem isInert_of_blank_or {sep : Char} (hsep : isInert sep = true) {c : Char}
    (h : isWs c = true ∨ c = sep) : isInert c = true := by
  rcases h with h | rfl
  · simp only [isWs, Bool.or_eq_true, decide_eq_true_eq] at h
    rcases h with ((rfl | rfl) | rfl) | rfl <;> decide
  · exact hsep

theorem isInert_of_isAtomChar {c : Char} (h : isAtomChar c = true) : isInert c = true := by
  simp only [isAtomChar, endsScalar, Bool.not_eq_true', Bool.or_eq_false_iff,
    decide_eq_false_iff_not] at h
  simp [isInert, h]

theorem squash_lead {first : Bool} {cs : List Char} (h : leads first cs = true) (d : Nat)
    (acc rest : List Char) :
    squash d false false acc (cs ++ rest) = squash d false false (cs.reverse ++ acc) rest :=
  squash_inerts (fun c hc => isInert_of_blank_or (by decide) (leads_chars h c hc)) d acc rest

theorem squash_colon {cs : List Char} (h : parted ':' cs = true) (d : Nat)
    (acc rest : List Char) :
    squash d false false acc (cs ++ rest) = squash d false false (cs.reverse ++ acc) rest :=
  squash_inerts (fun c hc => isInert_of_blank_or (by decide) (parted_chars h c hc)) d acc rest

theorem squash_blank {cs : List Char} (h : allBlank cs = true) (d : Nat) (acc rest : List Char) :
    squash d false false acc (cs ++ rest) = squash d false false (cs.reverse ++ acc) rest := by
  simp only [allBlank, List.all_eq_true] at h
  exact squash_inerts (fun c hc => @isInert_of_blank_or ',' (by decide) c (.inl (h c hc)))
    d acc rest

/-- A container scan passes over a whole string literal. -/
theorem squash_string {body : List Char} (h : isStringBody body = true) (d : Nat)
    (acc rest : List Char) :
    squash d false false acc ('"' :: (body ++ '"' :: rest)) =
      squash d false false ('"' :: (body.reverse ++ '"' :: acc)) rest := by
  simp only [squash, if_true, Bool.false_eq_true, if_false]
  rw [squash_stringBody h]
  simp

mutual

/-- Inside a container, a scan passes over a whole valid value and comes out at the depth it
went in. -/
theorem squash_text : ∀ (t : TextTree), t.valid = true → ∀ (d : Nat), 1 ≤ d →
    ∀ (acc rest : List Char),
    squash d false false acc (t.text ++ rest) = squash d false false (t.text.reverse ++ acc) rest
  | .str body, h, d, _, acc, rest => by
    simp only [TextTree.valid] at h
    simp only [TextTree.text, List.cons_append, List.append_assoc, List.nil_append]
    rw [squash_string h]
    simp
  | .atom lit, h, d, _, acc, rest => by
    simp only [TextTree.valid, isAtom, Bool.and_eq_true, List.all_eq_true] at h
    exact squash_inerts (fun c hc => isInert_of_isAtomChar (h.1.2 c hc)) d acc rest
  | .obj ms close, h, d, hd, acc, rest => by
    simp only [TextTree.valid, Bool.and_eq_true] at h
    simp only [TextTree.text, List.cons_append, List.append_assoc, List.nil_append]
    -- the brace opens a level that the members and blanks leave alone, and the brace closes it
    have hopen : squash d false false acc ('{' :: (membersText ms ++ (close ++ '}' :: rest))) =
        squash (d + 1) false false ('{' :: acc) (membersText ms ++ (close ++ '}' :: rest)) := by
      simp [squash]
    rw [hopen, squash_members ms true h.1 (d + 1) (by omega), squash_blank h.2]
    have hclose : ¬d + 1 ≤ 1 := by omega
    simp [squash, hclose]
  | .arr is close, h, d, hd, acc, rest => by
    simp only [TextTree.valid, Bool.and_eq_true] at h
    simp only [TextTree.text, List.cons_append, List.append_assoc, List.nil_append]
    have hopen : squash d false false acc ('[' :: (itemsText is ++ (close ++ ']' :: rest))) =
        squash (d + 1) false false ('[' :: acc) (itemsText is ++ (close ++ ']' :: rest)) := by
      simp [squash]
    rw [hopen, squash_items is true h.1 (d + 1) (by omega), squash_blank h.2]
    have hclose : ¬d + 1 ≤ 1 := by omega
    simp [squash, hclose]

theorem squash_members : ∀ (ms : List (Member TextTree)) (first : Bool),
    membersValid first ms = true → ∀ (d : Nat), 1 ≤ d → ∀ (acc rest : List Char),
    squash d false false acc (membersText ms ++ rest) =
      squash d false false ((membersText ms).reverse ++ acc) rest
  | [], _, _, _, _, _, _ => by simp [membersText]
  | ⟨lead, key, colon, v⟩ :: ms, first, h, d, hd, acc, rest => by
    simp only [membersValid, Bool.and_eq_true] at h
    obtain ⟨⟨⟨⟨hl, hk⟩, hc⟩, hv⟩, hms⟩ := h
    simp only [membersText, List.cons_append, List.append_assoc]
    rw [squash_lead hl, squash_string hk, squash_colon hc, squash_text v hv d hd,
      squash_members ms false hms d hd]
    simp

theorem squash_items : ∀ (is : List (Item TextTree)) (first : Bool),
    itemsValid first is = true → ∀ (d : Nat), 1 ≤ d → ∀ (acc rest : List Char),
    squash d false false acc (itemsText is ++ rest) =
      squash d false false ((itemsText is).reverse ++ acc) rest
  | [], _, _, _, _, _, _ => by simp [itemsText]
  | ⟨lead, v⟩ :: is, first, h, d, hd, acc, rest => by
    simp only [itemsValid, Bool.and_eq_true] at h
    obtain ⟨⟨hl, hv⟩, his⟩ := h
    simp only [itemsText, List.append_assoc]
    rw [squash_lead hl, squash_text v hv d hd, squash_items is false his d hd]
    simp

end

/-! ## Spans and entries -/

/-- A valid value's text opens with a character that is no blank, comma, colon or closing
bracket. -/
theorem text_head {t : TextTree} (h : t.valid = true) :
    ∃ c cs, t.text = c :: cs ∧ isLow c = false ∧ c ≠ ',' ∧ c ≠ ':' ∧ c ≠ '}' ∧ c ≠ ']' := by
  cases t with
  | str body => exact ⟨'"', _, rfl, by decide, by decide, by decide, by decide, by decide⟩
  | atom lit =>
    simp only [TextTree.valid, isAtom, Bool.and_eq_true, Bool.not_eq_true', List.isEmpty_eq_false_iff,
      List.all_eq_true] at h
    obtain ⟨⟨hne, hall⟩, -⟩ := h
    obtain ⟨c, cs, rfl⟩ := List.exists_cons_of_ne_nil hne
    have hc := hall c (by simp)
    simp only [isAtomChar, endsScalar, Bool.not_eq_true', Bool.or_eq_false_iff,
      decide_eq_false_iff_not] at hc
    obtain ⟨⟨⟨⟨⟨⟨⟨hlow, hcomma⟩, hsq⟩, hbr⟩, -⟩, -⟩, -⟩, hcolon⟩ := hc
    exact ⟨c, cs, rfl, hlow, hcomma, hcolon, hbr, hsq⟩
  | obj ms close => exact ⟨'{', _, rfl, by decide, by decide, by decide, by decide, by decide⟩
  | arr is close => exact ⟨'[', _, rfl, by decide, by decide, by decide, by decide, by decide⟩

/-- The span of a valid value is its text, when what follows cannot go on a number or a
word. -/
theorem valueSpan_text {t : TextTree} (h : t.valid = true) {rest : List Char}
    (hr : ∀ c ∈ rest.head?, endsScalar c = true) : valueSpan (t.text ++ rest) = (t.text, rest) := by
  cases t with
  | str body =>
    simp only [TextTree.valid] at h
    simp only [TextTree.text, List.cons_append, List.append_assoc, List.nil_append, valueSpan]
    rw [stringTail_stringBody h]
    simp
  | atom lit =>
    simp only [TextTree.valid, isAtom, Bool.and_eq_true, Bool.not_eq_true',
      List.isEmpty_eq_false_iff, List.all_eq_true] at h
    obtain ⟨⟨hne, hall⟩, -⟩ := h
    have hlit : ∀ c ∈ lit, (!endsScalar c) = true := fun c hc => by
      have := hall c hc
      simp only [isAtomChar, Bool.not_eq_true', Bool.or_eq_false_iff] at this
      simp [this.1.1.1.1]
    -- nothing of what follows goes on the word
    have htake : (lit ++ rest).takeWhile (fun d => !endsScalar d) = lit := by
      rw [List.takeWhile_append_of_pos hlit]
      cases rest with
      | nil => simp
      | cons c rest => simp [hr c rfl]
    have hdrop : (lit ++ rest).dropWhile (fun d => !endsScalar d) = rest := by
      rw [List.dropWhile_append_of_pos hlit]
      cases rest with
      | nil => simp
      | cons c rest => simp [hr c rfl]
    obtain ⟨c, cs, rfl⟩ := List.exists_cons_of_ne_nil hne
    have hc := hall c (by simp)
    simp only [isAtomChar, Bool.not_eq_true', Bool.or_eq_false_iff, decide_eq_false_iff_not] at hc
    simp only [TextTree.text, List.cons_append] at htake hdrop ⊢
    rw [valueSpan.eq_3 _ _ hc.1.1.1.2]
    simp [hc.1.1.2, hc.1.2, htake, hdrop]
  | obj ms close =>
    simp only [TextTree.valid, Bool.and_eq_true] at h
    simp only [TextTree.text, List.cons_append, List.append_assoc, List.nil_append]
    rw [valueSpan.eq_3 _ _ (by decide), if_pos (by decide)]
    have hopen : squash 0 false false [] ('{' :: (membersText ms ++ (close ++ '}' :: rest))) =
        squash 1 false false ['{'] (membersText ms ++ (close ++ '}' :: rest)) := by
      simp [squash]
    rw [hopen, squash_members ms true h.1 1 le_rfl, squash_blank h.2]
    simp [squash]
  | arr is close =>
    simp only [TextTree.valid, Bool.and_eq_true] at h
    simp only [TextTree.text, List.cons_append, List.append_assoc, List.nil_append]
    rw [valueSpan.eq_3 _ _ (by decide), if_pos (by decide)]
    have hopen : squash 0 false false [] ('[' :: (itemsText is ++ (close ++ ']' :: rest))) =
        squash 1 false false ['['] (itemsText is ++ (close ++ ']' :: rest)) := by
      simp [squash]
    rw [hopen, squash_items is true h.1 1 le_rfl, squash_blank h.2]
    simp [squash]

/-- The entries the scanner gives for members followed by `after`, in a text of length
`total`: each member's name, the offset of its value and its value's text. -/
def memberEntries (total : Nat) (after : List Char) : List (Member TextTree) → List Entry
  | [] => []
  | m :: ms => ⟨m.name, total - (m.value.text ++ membersText ms ++ after).length, m.value.text⟩ ::
      memberEntries total after ms

/-- The entries the scanner gives for items followed by `after`, in a text of length `total`. -/
def itemEntries (total : Nat) (after : List Char) : List (Item TextTree) → List Entry
  | [] => []
  | i :: is => ⟨"", total - (i.value.text ++ itemsText is ++ after).length, i.value.text⟩ ::
      itemEntries total after is

theorem dropWhile_lead {first : Bool} {lead : List Char} (h : leads first lead = true) {c : Char}
    (hc : (isLow c || c = ',' || c = ':') = false) (rest : List Char) :
    (lead ++ c :: rest).dropWhile (fun c => isLow c || c = ',' || c = ':') = c :: rest := by
  have hl : ∀ d ∈ lead, (isLow d || d = ',' || d = ':') = true := fun d hd => by
    rcases leads_chars h d hd with hw | rfl
    · simp [isLow_of_isWs hw]
    · rfl
  rw [List.dropWhile_append_of_pos hl, List.dropWhile_cons_of_neg (by simp [hc])]

theorem dropWhile_colon {colon : List Char} (h : parted ':' colon = true) {c : Char}
    (hc : (isLow c || c = ':') = false) (rest : List Char) :
    (colon ++ c :: rest).dropWhile (fun c => isLow c || c = ':') = c :: rest := by
  have hl : ∀ d ∈ colon, (isLow d || d = ':') = true := fun d hd => by
    rcases parted_chars h d hd with hw | rfl
    · simp [isLow_of_isWs hw]
    · simp
  rw [List.dropWhile_append_of_pos hl, List.dropWhile_cons_of_neg (by simp [hc])]

/-- Past the colon, the scan of a member stands at its value. -/
theorem dropWhile_colon_text {colon : List Char} (h : parted ':' colon = true) {v : TextTree}
    (hv : v.valid = true) (rest : List Char) :
    (colon ++ (v.text ++ rest)).dropWhile (fun c => isLow c || c = ':') = v.text ++ rest := by
  obtain ⟨c, cs, hvt, hlow, -, hcolon, -, -⟩ := text_head hv
  rw [hvt, List.cons_append, dropWhile_colon h (by simp [hlow, hcolon])]

theorem dropWhile_close {close : List Char} (h : allBlank close = true) {c : Char}
    (hc : (isLow c || c = ',' || c = ':') = false) (rest : List Char) :
    (close ++ c :: rest).dropWhile (fun c => isLow c || c = ',' || c = ':') = c :: rest :=
  @dropWhile_lead true close (by simpa [leads] using h) _ hc rest

/-- Blanks before a closing bracket stop a number or a word. -/
theorem endsScalar_head_close {close : List Char} (h : allBlank close = true) {c : Char}
    (hc : endsScalar c = true) (rest : List Char) :
    ∀ d ∈ (close ++ c :: rest).head?, endsScalar d = true := by
  cases close with
  | nil => simpa using hc
  | cons d close =>
    simp only [allBlank, List.all_cons, Bool.and_eq_true] at h
    simp [endsScalar, isLow_of_isWs h.1]

/-- What parts a member or an item from the one before stops a number or a word. -/
theorem endsScalar_head_lead {lead : List Char} (h : leads false lead = true) (rest : List Char) :
    ∀ d ∈ (lead ++ rest).head?, endsScalar d = true := by
  obtain ⟨c, cs, rfl, hc⟩ := leads_head h
  intro d hd
  simp only [List.cons_append, List.head?_cons, Option.mem_def, Option.some.injEq] at hd
  subst hd
  rcases hc with hw | rfl
  · simp [endsScalar, isLow_of_isWs hw]
  · decide

theorem endsScalar_head_members {ms : List (Member TextTree)} (h : membersValid false ms = true)
    {after : List Char} (ha : ∀ c ∈ after.head?, endsScalar c = true) :
    ∀ c ∈ (membersText ms ++ after).head?, endsScalar c = true := by
  cases ms with
  | nil => simpa [membersText] using ha
  | cons m ms =>
    obtain ⟨lead, key, colon, v⟩ := m
    simp only [membersValid, Bool.and_eq_true] at h
    have e : membersText (⟨lead, key, colon, v⟩ :: ms) ++ after =
        lead ++ ('"' :: key ++ '"' :: colon ++ v.text ++ membersText ms ++ after) := by
      simp [membersText]
    rw [e]
    exact endsScalar_head_lead h.1.1.1.1 _

theorem endsScalar_head_items {is : List (Item TextTree)} (h : itemsValid false is = true)
    {after : List Char} (ha : ∀ c ∈ after.head?, endsScalar c = true) :
    ∀ c ∈ (itemsText is ++ after).head?, endsScalar c = true := by
  cases is with
  | nil => simpa [itemsText] using ha
  | cons i is =>
    obtain ⟨lead, v⟩ := i
    simp only [itemsValid, Bool.and_eq_true] at h
    have e : itemsText (⟨lead, v⟩ :: is) ++ after = lead ++ (v.text ++ itemsText is ++ after) := by
      simp [itemsText]
    rw [e]
    exact endsScalar_head_lead h.1.1 _

theorem entriesAux_members {total : Nat} {close rest : List Char} (hc : allBlank close = true) :
    ∀ (ms : List (Member TextTree)) (first : Bool) (fuel : Nat), membersValid first ms = true →
    ms.length < fuel →
    entriesAux true total fuel (membersText ms ++ (close ++ '}' :: rest)) =
      memberEntries total (close ++ '}' :: rest) ms
  | [], _, fuel + 1, _, _ => by
    simp only [membersText, List.nil_append, entriesAux]
    rw [dropWhile_close hc (by decide)]
    simp [memberEntries]
  | ⟨lead, key, colon, v⟩ :: ms, first, fuel + 1, h, hf => by
    simp only [membersValid, Bool.and_eq_true] at h
    obtain ⟨⟨⟨⟨hl, hk⟩, hcol⟩, hv⟩, hms⟩ := h
    simp only [membersText, List.append_assoc, List.cons_append, entriesAux]
    rw [dropWhile_lead hl (by decide)]
    simp only [if_true]
    -- the name's literal, then the colon, then the value and what follows it
    rw [if_neg (by decide), stringTail_stringBody hk, dropWhile_colon_text hcol hv,
      ← List.append_assoc, valueSpan_text hv (endsScalar_head_members hms
        (endsScalar_head_close hc (by decide) rest)),
      entriesAux_members hc ms false fuel hms (by simpa using hf)]
    simp [memberEntries, Member.name, List.append_assoc]

theorem entriesAux_items {total : Nat} {close rest : List Char} (hc : allBlank close = true) :
    ∀ (is : List (Item TextTree)) (first : Bool) (fuel : Nat), itemsValid first is = true →
    is.length < fuel →
    entriesAux false total fuel (itemsText is ++ (close ++ ']' :: rest)) =
      itemEntries total (close ++ ']' :: rest) is
  | [], _, fuel + 1, _, _ => by
    simp only [itemsText, List.nil_append, entriesAux]
    rw [dropWhile_close hc (by decide)]
    simp [itemEntries]
  | ⟨lead, v⟩ :: is, first, fuel + 1, h, hf => by
    simp only [itemsValid, Bool.and_eq_true] at h
    obtain ⟨⟨hl, hv⟩, his⟩ := h
    obtain ⟨c, cs, hvt, hlow, hcomma, hcolon, hbr, hsq⟩ := text_head hv
    simp only [itemsText, List.append_assoc, entriesAux]
    rw [hvt, List.cons_append, dropWhile_lead hl (by simp [hlow, hcomma, hcolon])]
    simp only [hbr, hsq, or_self, if_false, Bool.false_eq_true]
    rw [← List.cons_append, ← hvt, valueSpan_text hv (endsScalar_head_items his
        (endsScalar_head_close hc (by decide) rest)),
      entriesAux_items hc is false fuel his (by simpa using hf)]
    simp [itemEntries]

theorem length_le_membersText (ms : List (Member TextTree)) :
    ms.length ≤ (membersText ms).length := by
  induction ms with
  | nil => simp [membersText]
  | cons m ms ih =>
    obtain ⟨lead, key, colon, v⟩ := m
    simp only [membersText, List.length_cons, List.length_append]
    omega

theorem length_le_itemsText {is : List (Item TextTree)} {first : Bool}
    (h : itemsValid first is = true) : is.length ≤ (itemsText is).length := by
  induction is generalizing first with
  | nil => simp [itemsText]
  | cons i is ih =>
    obtain ⟨lead, v⟩ := i
    simp only [itemsValid, Bool.and_eq_true] at h
    obtain ⟨c, cs, hvt, -⟩ := text_head h.1.2
    have := ih h.2
    simp only [itemsText, List.length_cons, List.length_append, hvt]
    omega

/-- The entries of an object's text are its members, in order, with their names and the
offsets and texts of their values. -/
theorem entries_obj {ms : List (Member TextTree)} {close : List Char}
    (h : (TextTree.obj ms close).valid = true) (trail : List Char) :
    entries ((TextTree.obj ms close).text ++ trail) =
      memberEntries ((TextTree.obj ms close).text ++ trail).length (close ++ '}' :: trail) ms := by
  simp only [TextTree.valid, Bool.and_eq_true] at h
  have e : (TextTree.obj ms close).text ++ trail =
      '{' :: (membersText ms ++ (close ++ '}' :: trail)) := by
    simp [TextTree.text]
  have hlen := length_le_membersText ms
  rw [e]
  simp only [entries]
  exact entriesAux_members h.2 ms true _ h.1 (by simp; omega)

/-- The entries of an array's text are its items, in order, with the offsets and texts of
their values. -/
theorem entries_arr {is : List (Item TextTree)} {close : List Char}
    (h : (TextTree.arr is close).valid = true) (trail : List Char) :
    entries ((TextTree.arr is close).text ++ trail) =
      itemEntries ((TextTree.arr is close).text ++ trail).length (close ++ ']' :: trail) is := by
  simp only [TextTree.valid, Bool.and_eq_true] at h
  have e : (TextTree.arr is close).text ++ trail =
      '[' :: (itemsText is ++ (close ++ ']' :: trail)) := by
    simp [TextTree.text]
  have hlen := length_le_itemsText h.1
  rw [e]
  simp only [entries]
  exact entriesAux_items h.2 is true _ h.1 (by simp; omega)

theorem membersText_append (pre ms : List (Member TextTree)) :
    membersText (pre ++ ms) = membersText pre ++ membersText ms := by
  induction pre with
  | nil => simp [membersText]
  | cons m pre ih =>
    obtain ⟨lead, key, colon, v⟩ := m
    simp [membersText, ih]

theorem itemsText_append (pre is : List (Item TextTree)) :
    itemsText (pre ++ is) = itemsText pre ++ itemsText is := by
  induction pre with
  | nil => simp [itemsText]
  | cons i pre ih =>
    obtain ⟨lead, v⟩ := i
    simp [itemsText, ih]

theorem membersValid_append (first : Bool) (pre ms : List (Member TextTree)) :
    membersValid first (pre ++ ms) =
      (membersValid first pre && membersValid (first && pre.isEmpty) ms) := by
  induction pre generalizing first with
  | nil => simp [membersValid]
  | cons m pre ih =>
    obtain ⟨lead, key, colon, v⟩ := m
    simp [membersValid, ih, Bool.and_assoc]

theorem itemsValid_append (first : Bool) (pre is : List (Item TextTree)) :
    itemsValid first (pre ++ is) = (itemsValid first pre && itemsValid (first && pre.isEmpty) is) := by
  induction pre generalizing first with
  | nil => simp [itemsValid]
  | cons i pre ih =>
    obtain ⟨lead, v⟩ := i
    simp [itemsValid, ih, Bool.and_assoc]

/-- Blanks before a valid value are dropped up to the value. -/
theorem dropLow_text {lead : List Char} (hl : allBlank lead = true) {t : TextTree}
    (ht : t.valid = true) (rest : List Char) : dropLow (lead ++ t.text ++ rest) = t.text ++ rest := by
  obtain ⟨c, cs, hct, hlow, -⟩ := text_head ht
  have hlead : ∀ d ∈ lead, isLow d = true := fun d hd =>
    isLow_of_isWs (List.all_eq_true.mp hl d hd)
  rw [dropLow, List.append_assoc, List.dropWhile_append_of_pos hlead, hct, List.cons_append,
    List.dropWhile_cons_of_neg (by simp [hlow])]

theorem memberEntries_append (total : Nat) (after : List Char) (pre ms : List (Member TextTree)) :
    memberEntries total after (pre ++ ms) =
      memberEntries total (membersText ms ++ after) pre ++ memberEntries total after ms := by
  induction pre with
  | nil => simp [memberEntries]
  | cons m pre ih =>
    obtain ⟨lead, key, colon, v⟩ := m
    simp [memberEntries, ih, membersText_append]

theorem itemEntries_append (total : Nat) (after : List Char) (pre is : List (Item TextTree)) :
    itemEntries total after (pre ++ is) =
      itemEntries total (itemsText is ++ after) pre ++ itemEntries total after is := by
  induction pre with
  | nil => simp [itemEntries]
  | cons i pre ih =>
    obtain ⟨lead, v⟩ := i
    simp [itemEntries, ih, itemsText_append]

@[simp] theorem map_name_memberEntries (total : Nat) (after : List Char)
    (ms : List (Member TextTree)) : (memberEntries total after ms).map (·.name) = ms.map (·.name) := by
  induction ms with
  | nil => rfl
  | cons m ms ih => simp [memberEntries, ih]

@[simp] theorem length_itemEntries (total : Nat) (after : List Char) (is : List (Item TextTree)) :
    (itemEntries total after is).length = is.length := by
  induction is with
  | nil => rfl
  | cons i is ih => simp [itemEntries, ih]

end RemoteLsp.Json
