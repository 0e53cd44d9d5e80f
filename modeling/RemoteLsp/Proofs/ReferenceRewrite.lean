import RemoteLsp.Proofs.KeyPaths
import RemoteLsp.Proofs.TextTrees

/-!
# The reference rewrite of a message

What a pass over a message should make of it, said on the tree of its text and not through key
paths. `TextTree.rewrite` converts, below a value and at any depth, the string of each member
named `uri`, `targetUri`, `oldUri`, `newUri`, `rootUri` or `scopeUri` (and `rootPath`, with its
own conversion, when the pass has one), the string items of an `arguments` array, and the names
of a `changes` or `relatedDocuments` object, whose values are rewritten each on its own. The
value of a `data` member is kept whole. A converted string is written as the wire writes strings;
a keyed object in which a name or a value changes is written again compactly. Every other
character stays.

The pass finds each place by its key path, so the statement that it agrees with this rewrite
asks that the paths it writes lead to the places it walked: `TextTree.walkable` says that in each
object the pass walks, the member names are plain and no two are the same.

Main statement: the rewrite of a valid tree is valid (`valid_rewrite`).
-/

namespace RemoteLsp.Message

open Json

/-- The text between the quotes of a string as the wire writes it. -/
def wireBody (s : String) : List Char := s.toList.flatMap (escapeChar .wire)

theorem writeString_wire (s : String) : writeString .wire s = (TextTree.str (wireBody s)).text := by
  simp [writeString, wireBody, TextTree.text]

/-- Each character as the wire writes it may stand between the quotes of a string. -/
theorem isStringBody_escapeChar (c : Char) (rest : List Char) :
    isStringBody (escapeChar .wire c ++ rest) = isStringBody rest := by
  -- a `\u` escape of a unit below U+10000 has four hex digits
  have hunit : ∀ n, n < 65536 →
      isStringBody ('\\' :: 'u' :: Text.hexPadded 4 n ++ rest) = isStringBody rest := by
    intro n hn
    rw [hexPadded_four]
    simp [isStringBody, hex4?_hexPadded hn]
  unfold escapeChar
  split
  · simp [isStringBody]
  split
  · simp [isStringBody]
  split
  · simp [isStringBody]
  split
  · simp [isStringBody]
  split
  · simp [isStringBody]
  split
  · simp [isStringBody]
  split
  · simp [isStringBody]
  split
  · exact hunit _ (by omega)
  split
  · exact hunit _ (by omega)
  split
  · rename_i hhtml
    obtain ⟨-, h | h | h⟩ := hhtml <;> subst h <;> exact hunit _ (by decide)
  · rename_i hq hb _ _ _ _ _ hlow _ _
    simp [isStringBody, hq, hb]
    omega

theorem isStringBody_wireBody (s : String) : isStringBody (wireBody s) = true := by
  unfold wireBody
  induction s.toList with
  | nil => rfl
  | cons c cs ih => rw [List.flatMap_cons, isStringBody_escapeChar, ih]

/-- Whether a conversion changed its text. -/
def Converted.isChanged : Converted → Bool
  | .changed _ => true
  | _ => false

/-- A string as `convert` leaves it: written again when converted, kept otherwise. -/
def convertString (convert : String → Converted) (body : List Char) : TextTree :=
  match convert (decodeLiteral ('"' :: body ++ ['"'])) with
  | .changed out => .str (wireBody out)
  | _ => .str body

/-- A name as `convert` leaves it. -/
def convertName (convert : String → Converted) (name : String) : String :=
  match convert name with
  | .changed out => out
  | _ => name

end RemoteLsp.Message

namespace RemoteLsp.Json

open Message

mutual

/-- The reference rewrite of a value. -/
def TextTree.rewrite (p : Pass) : TextTree → TextTree
  | .str body => .str body
  | .atom lit => .atom lit
  | .obj ms close => .obj (rewriteMembers p ms) close
  | .arr is close => .arr (rewriteItems p is) close

/-- Members, each value rewritten by its member's name. -/
def rewriteMembers (p : Pass) : List (Member TextTree) → List (Member TextTree)
  | [] => []
  | ⟨lead, key, colon, v⟩ :: ms =>
    ⟨lead, key, colon, rewriteValue p (decodeLiteral ('"' :: key ++ ['"'])) v⟩ ::
      rewriteMembers p ms

/-- Items, each rewritten. -/
def rewriteItems (p : Pass) : List (Item TextTree) → List (Item TextTree)
  | [] => []
  | ⟨lead, v⟩ :: is => ⟨lead, v.rewrite p⟩ :: rewriteItems p is

/-- The value of a member named `name`: the string of a document member converted, a keyed
object written again, the items of `arguments` converted or rewritten, a `data` value kept,
and any other value rewritten. -/
def rewriteValue (p : Pass) (name : String) : TextTree → TextTree
  | .str body =>
    if name = "rootPath" ∧ p.rootPath.isSome then
      convertString (p.rootPath.getD fun _ => .unchanged) body
    else if name ∈ documentFields then convertString p.convert body
    else .str body
  | .atom lit => .atom lit
  | .obj ms close =>
    if name ∈ opaqueFields then .obj ms close
    else if name ∈ keyedFields then
      if rekeyChanged p ms then .obj (rekeyMembers p true ms) [] else .obj ms close
    else .obj (rewriteMembers p ms) close
  | .arr is close =>
    if name ∈ opaqueFields then .arr is close
    else if name = "arguments" then .arr (rewriteArguments p is) close
    else .arr (rewriteItems p is) close

/-- The items of an `arguments` array: strings converted, other values rewritten. -/
def rewriteArguments (p : Pass) : List (Item TextTree) → List (Item TextTree)
  | [] => []
  | ⟨lead, .str body⟩ :: is => ⟨lead, convertString p.convert body⟩ :: rewriteArguments p is
  | ⟨lead, v⟩ :: is => ⟨lead, v.rewrite p⟩ :: rewriteArguments p is

/-- The members of a keyed object written again compactly: the names converted, the values
rewritten, a comma before each member but the first. -/
def rekeyMembers (p : Pass) (first : Bool) : List (Member TextTree) → List (Member TextTree)
  | [] => []
  | ⟨_, key, _, v⟩ :: ms =>
    ⟨if first then [] else [','],
      wireBody (convertName p.convert (decodeLiteral ('"' :: key ++ ['"']))), [':'], v.rewrite p⟩ ::
      rekeyMembers p false ms

/-- Whether writing a keyed object again changes a name or the text of a value. -/
def rekeyChanged (p : Pass) : List (Member TextTree) → Bool
  | [] => false
  | ⟨_, key, _, v⟩ :: ms =>
    (p.convert (decodeLiteral ('"' :: key ++ ['"']))).isChanged || (v.rewrite p).text != v.text ||
      rekeyChanged p ms

end

/-- Whether the members of an object have plain names, no two the same. -/
def namesWalkable (ms : List (Member TextTree)) : Bool :=
  decide ((ms.map (·.name)).Nodup ∧ ∀ m ∈ ms, Plain m.name)

mutual

/-- Whether the key paths of a pass lead to the places it walks below a value: every object
the pass walks has plain member names, no two the same. -/
def TextTree.walkable : TextTree → Bool
  | .str _ => true
  | .atom _ => true
  | .obj ms _ => namesWalkable ms && membersWalkable ms
  | .arr is _ => itemsWalkable is

/-- Whether each value of the members is walkable as the value of its member. -/
def membersWalkable : List (Member TextTree) → Bool
  | [] => true
  | ⟨_, key, _, v⟩ :: ms => valueWalkable (decodeLiteral ('"' :: key ++ ['"'])) v && membersWalkable ms

/-- Whether each item is walkable. -/
def itemsWalkable : List (Item TextTree) → Bool
  | [] => true
  | ⟨_, v⟩ :: is => v.walkable && itemsWalkable is

/-- Whether the value of a member named `name` is walkable: a `data` value is not walked, and
of a keyed object only the values are, each on its own. -/
def valueWalkable (name : String) : TextTree → Bool
  | .str _ => true
  | .atom _ => true
  | .obj ms _ =>
    if name ∈ opaqueFields then true
    else if name ∈ keyedFields then keyedWalkable ms
    else namesWalkable ms && membersWalkable ms
  | .arr is _ => if name ∈ opaqueFields then true else itemsWalkable is

/-- Whether each value of a keyed object is walkable. -/
def keyedWalkable : List (Member TextTree) → Bool
  | [] => true
  | ⟨_, _, _, v⟩ :: ms => v.walkable && keyedWalkable ms

end

/-! ## The rewrite member by member -/

/-- An item of an `arguments` array rewritten: a string converted, any other value rewritten. -/
def argumentValue (p : Pass) : TextTree → TextTree
  | .str body => convertString p.convert body
  | v => v.rewrite p

/-- A member of a keyed object as it is written again, without the comma before it. -/
def rekeyPart (p : Pass) (m : Member TextTree) : List Char :=
  writeString .wire (convertName p.convert m.name) ++ [':'] ++ (m.value.rewrite p).text

theorem rewriteMembers_eq_map (p : Pass) (ms : List (Member TextTree)) :
    rewriteMembers p ms = ms.map fun m => ⟨m.lead, m.key, m.colon, rewriteValue p m.name m.value⟩ := by
  induction ms with
  | nil => rfl
  | cons m ms ih =>
    obtain ⟨lead, key, colon, v⟩ := m
    simp [rewriteMembers, ih, Member.name]

theorem rewriteItems_eq_map (p : Pass) (is : List (Item TextTree)) :
    rewriteItems p is = is.map fun i => ⟨i.lead, i.value.rewrite p⟩ := by
  induction is with
  | nil => rfl
  | cons i is ih =>
    obtain ⟨lead, v⟩ := i
    simp [rewriteItems, ih]

theorem rewriteArguments_eq_map (p : Pass) (is : List (Item TextTree)) :
    rewriteArguments p is = is.map fun i => ⟨i.lead, argumentValue p i.value⟩ := by
  induction is with
  | nil => rfl
  | cons i is ih =>
    obtain ⟨lead, v⟩ := i
    cases v <;> simp [rewriteArguments, argumentValue, ih]

theorem membersText_rekeyMembers_false (p : Pass) (ms : List (Member TextTree)) :
    membersText (rekeyMembers p false ms) = (ms.map (rekeyPart p)).flatMap (',' :: ·) := by
  induction ms with
  | nil => rfl
  | cons m ms ih =>
    obtain ⟨lead, key, colon, v⟩ := m
    simp [rekeyMembers, membersText, ih, rekeyPart, writeString_wire, TextTree.text, Member.name]

theorem joinWith_comma (x : List Char) (xs : List (List Char)) :
    joinWith [','] (x :: xs) = x ++ xs.flatMap (',' :: ·) := by
  induction xs generalizing x with
  | nil => simp [joinWith]
  | cons y ys ih => simp [joinWith_cons, ih]

/-- A keyed object written again is its parts joined by commas between braces. -/
theorem text_rekeyMembers (p : Pass) (ms : List (Member TextTree)) :
    (TextTree.obj (rekeyMembers p true ms) []).text =
      '{' :: joinWith [','] (ms.map (rekeyPart p)) ++ ['}'] := by
  cases ms with
  | nil => rfl
  | cons m ms =>
    obtain ⟨lead, key, colon, v⟩ := m
    simp [TextTree.text, rekeyMembers, membersText, membersText_rekeyMembers_false, joinWith_comma,
      rekeyPart, writeString_wire, Member.name]

theorem membersWalkable_iff {ms : List (Member TextTree)} :
    membersWalkable ms = true ↔ ∀ m ∈ ms, valueWalkable m.name m.value = true := by
  induction ms with
  | nil => simp [membersWalkable]
  | cons m ms ih =>
    obtain ⟨lead, key, colon, v⟩ := m
    simp [membersWalkable, ih, Member.name]

theorem itemsWalkable_iff {is : List (Item TextTree)} :
    itemsWalkable is = true ↔ ∀ i ∈ is, i.value.walkable = true := by
  induction is with
  | nil => simp [itemsWalkable]
  | cons i is ih =>
    obtain ⟨lead, v⟩ := i
    simp [itemsWalkable, ih]

theorem keyedWalkable_iff {ms : List (Member TextTree)} :
    keyedWalkable ms = true ↔ ∀ m ∈ ms, m.value.walkable = true := by
  induction ms with
  | nil => simp [keyedWalkable]
  | cons m ms ih =>
    obtain ⟨lead, key, colon, v⟩ := m
    simp [keyedWalkable, ih]

/-! ## The rewrite keeps JSON text -/

theorem valid_convertString (convert : String → Converted) {body : List Char}
    (h : isStringBody body = true) : (convertString convert body).valid = true := by
  unfold convertString
  split <;> simp [TextTree.valid, isStringBody_wireBody, h]

/-- A member's value is valid wherever the member list is. -/
theorem valid_of_membersValid {first : Bool} {ms : List (Member TextTree)}
    (h : membersValid first ms = true) : ∀ m ∈ ms, m.value.valid = true := by
  induction ms generalizing first with
  | nil => simp
  | cons m ms ih =>
    obtain ⟨lead, key, colon, v⟩ := m
    simp only [membersValid, Bool.and_eq_true] at h
    intro m' hm'
    rcases List.mem_cons.mp hm' with rfl | hm'
    · exact h.1.2
    · exact ih h.2 m' hm'

/-- An item's value is valid wherever the item list is. -/
theorem valid_of_itemsValid {first : Bool} {is : List (Item TextTree)}
    (h : itemsValid first is = true) : ∀ i ∈ is, i.value.valid = true := by
  induction is generalizing first with
  | nil => simp
  | cons i is ih =>
    obtain ⟨lead, v⟩ := i
    simp only [itemsValid, Bool.and_eq_true] at h
    intro i' hi'
    rcases List.mem_cons.mp hi' with rfl | hi'
    · exact h.1.2
    · exact ih h.2 i' hi'

theorem valid_of_mem_obj {ms : List (Member TextTree)} {close : List Char}
    (h : (TextTree.obj ms close).valid = true) : ∀ m ∈ ms, m.value.valid = true := by
  simp only [TextTree.valid, Bool.and_eq_true] at h
  exact valid_of_membersValid h.1

theorem valid_of_mem_arr {is : List (Item TextTree)} {close : List Char}
    (h : (TextTree.arr is close).valid = true) : ∀ i ∈ is, i.value.valid = true := by
  simp only [TextTree.valid, Bool.and_eq_true] at h
  exact valid_of_itemsValid h.1

mutual

theorem valid_rewrite (p : Pass) : ∀ t : TextTree, t.valid = true → (t.rewrite p).valid = true
  | .str _, h => h
  | .atom _, h => h
  | .obj ms close, h => by
    simp only [TextTree.valid, Bool.and_eq_true] at h
    simp [TextTree.rewrite, TextTree.valid, valid_rewriteMembers p ms true h.1, h.2]
  | .arr is close, h => by
    simp only [TextTree.valid, Bool.and_eq_true] at h
    simp [TextTree.rewrite, TextTree.valid, valid_rewriteItems p is true h.1, h.2]

theorem valid_rewriteMembers (p : Pass) : ∀ (ms : List (Member TextTree)) (first : Bool),
    membersValid first ms = true → membersValid first (rewriteMembers p ms) = true
  | [], _, _ => rfl
  | ⟨lead, key, colon, v⟩ :: ms, first, h => by
    simp only [membersValid, Bool.and_eq_true] at h
    obtain ⟨⟨⟨⟨hl, hk⟩, hc⟩, hv⟩, hms⟩ := h
    simp [rewriteMembers, membersValid, hl, hk, hc, valid_rewriteValue p _ v hv,
      valid_rewriteMembers p ms false hms]

theorem valid_rewriteItems (p : Pass) : ∀ (is : List (Item TextTree)) (first : Bool),
    itemsValid first is = true → itemsValid first (rewriteItems p is) = true
  | [], _, _ => rfl
  | ⟨lead, v⟩ :: is, first, h => by
    simp only [itemsValid, Bool.and_eq_true] at h
    simp [rewriteItems, itemsValid, h.1.1, valid_rewrite p v h.1.2, valid_rewriteItems p is false h.2]

theorem valid_rewriteValue (p : Pass) (name : String) :
    ∀ v : TextTree, v.valid = true → (rewriteValue p name v).valid = true
  | .str body, h => by
    simp only [rewriteValue]
    split
    · exact valid_convertString _ h
    split
    · exact valid_convertString _ h
    · exact h
  | .atom _, h => h
  | .obj ms close, h => by
    simp only [rewriteValue]
    split
    · exact h
    split
    · split
      · simp only [TextTree.valid, Bool.and_eq_true] at h
        simp [TextTree.valid, valid_rekeyMembers p ms true h.1, allBlank]
      · exact h
    · simp only [TextTree.valid, Bool.and_eq_true] at h
      simp [TextTree.valid, valid_rewriteMembers p ms true h.1, h.2]
  | .arr is close, h => by
    simp only [rewriteValue]
    split
    · exact h
    split
    · simp only [TextTree.valid, Bool.and_eq_true] at h
      simp [TextTree.valid, valid_rewriteArguments p is true h.1, h.2]
    · simp only [TextTree.valid, Bool.and_eq_true] at h
      simp [TextTree.valid, valid_rewriteItems p is true h.1, h.2]

theorem valid_rewriteArguments (p : Pass) : ∀ (is : List (Item TextTree)) (first : Bool),
    itemsValid first is = true → itemsValid first (rewriteArguments p is) = true
  | [], _, _ => rfl
  | ⟨lead, .str body⟩ :: is, first, h => by
    simp only [itemsValid, Bool.and_eq_true] at h
    simp [rewriteArguments, itemsValid, h.1.1, valid_convertString p.convert h.1.2,
      valid_rewriteArguments p is false h.2]
  | ⟨lead, .atom lit⟩ :: is, first, h => by
    simp only [itemsValid, Bool.and_eq_true] at h
    simp [rewriteArguments, itemsValid, h.1.1, valid_rewrite p _ h.1.2,
      valid_rewriteArguments p is false h.2]
  | ⟨lead, .obj ms close⟩ :: is, first, h => by
    simp only [itemsValid, Bool.and_eq_true] at h
    simp [rewriteArguments, itemsValid, h.1.1, valid_rewrite p _ h.1.2,
      valid_rewriteArguments p is false h.2]
  | ⟨lead, .arr is' close⟩ :: is, first, h => by
    simp only [itemsValid, Bool.and_eq_true] at h
    simp [rewriteArguments, itemsValid, h.1.1, valid_rewrite p _ h.1.2,
      valid_rewriteArguments p is false h.2]

theorem valid_rekeyMembers (p : Pass) : ∀ (ms : List (Member TextTree)) (first : Bool) {b : Bool},
    membersValid b ms = true → membersValid first (rekeyMembers p first ms) = true
  | [], _, _, _ => rfl
  | ⟨lead, key, colon, v⟩ :: ms, first, b, h => by
    simp only [membersValid, Bool.and_eq_true] at h
    have hlead : leads first (if first then [] else [',']) = true := by cases first <;> rfl
    simp [rekeyMembers, membersValid, hlead, isStringBody_wireBody, valid_rewrite p v h.1.2,
      valid_rekeyMembers p ms false h.2, show parted ':' [':'] = true from rfl]

end

end RemoteLsp.Json
