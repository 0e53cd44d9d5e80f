import RemoteLsp.Message.Locations

/-!
# Key paths of the members a pass walks

A pass over a message records the place of each value it converts as a key path: the names
of the members and the indices of the items it went through, each escaped, joined with dots.
The converted value is then set at that path. Reading the path back must find the member that
was walked, and it does when every name on the way is *plain*: not empty, and not opening with
a colon, which marks a step as a name and is dropped from it, nor with an exclamation mark or
a bracket, which open selectors.

Main statements: the key path of plain names is read as one step per name (`steps_keyPath`),
and each step is looked up as it is written (`lookupName_nameStep`), which unescapes to the name
(`unescapeName_escape`). The escapes a name receives are taken out again by reading the path
(`takeStep_escape`), and the dots between the names are exactly the unescaped ones
(`readSteps_escaped`). `colon_member_set_elsewhere` is a message whose member name opens with a
colon: its location is set at another member, and `colon_member_round_trip_adds_member` is what
the pass back towards the server makes of it.
-/

namespace RemoteLsp.Message

open Json

/-- A name with the characters of the path syntax escaped. -/
def escapeChars (k : List Char) : List Char :=
  k.flatMap fun c => if isPathSyntax c then ['\\', c] else [c]

@[simp] theorem escapeChars_nil : escapeChars [] = [] := rfl

theorem escapeChars_cons (c : Char) (k : List Char) :
    escapeChars (c :: k) = (if isPathSyntax c then ['\\', c] else [c]) ++ escapeChars k := by
  simp [escapeChars]

theorem toList_escapeStep (k : String) : (escapeStep k).toList = escapeChars k.toList := by
  simp [escapeStep, escapeChars]

/-- A name the key path syntax reads back as itself. -/
def Plain (k : String) : Prop :=
  k ≠ "" ∧ ∀ c, k.toList.head? = some c → c ≠ ':' ∧ c ≠ '!' ∧ c ≠ '[' ∧ c ≠ '{'

-- The first character is decided through the option, never by running over every character.
instance : DecidablePred Plain := fun k =>
  haveI : Decidable (∀ c ∈ k.toList.head?, c ≠ ':' ∧ c ≠ '!' ∧ c ≠ '[' ∧ c ≠ '{') :=
    Option.decidableForallMem _
  inferInstanceAs (Decidable (k ≠ "" ∧ ∀ c ∈ k.toList.head?, c ≠ ':' ∧ c ≠ '!' ∧ c ≠ '[' ∧ c ≠ '{'))

/-- The key path the pass writes for the members and items it went through, outermost first. -/
def keyPath (ks : List String) : String := ks.foldl join ""

/-- The step a plain name is read as. -/
def nameStep (k : String) : Step := ⟨k.toList, escapeChars k.toList, false⟩

/-! ## Reading one escaped name -/

/-- A character outside the path syntax is plain for a step. -/
theorem isPlainPathChar_of_unescaped {c : Char} (h : isPathSyntax c = false) :
    isPlainPathChar c = true := by
  simp only [isPathSyntax, Bool.or_eq_false_iff, decide_eq_false_iff_not] at h
  simp [isPlainPathChar, h]

/-- Reading a step through an escaped name gathers the name and its escaped form, and stops
where the text after the name stops it. -/
theorem takeStep_escape (k : List Char) {tail : List Char} {more : Option (List Char)}
    (hend : ∀ name written, takeStep name written tail = some (name.reverse, written.reverse, more))
    (name written : List Char) :
    takeStep name written (escapeChars k ++ tail) =
      some (name.reverse ++ k, written.reverse ++ escapeChars k, more) := by
  induction k generalizing name written with
  | nil => simpa using hend name written
  | cons c k ih =>
    rw [escapeChars_cons]
    by_cases hc : isPathSyntax c = true
    · -- an escaped character is taken literally, whatever it is
      simp only [hc, if_true, List.cons_append, List.nil_append, takeStep, ih]
      simp
    · -- any other character is neither a dot nor a backslash, and is plain
      have hsyn : isPathSyntax c = false := by simpa using hc
      have hdot : c ≠ '.' := by rintro rfl; simp [isPathSyntax] at hsyn
      have hslash : c ≠ '\\' := by rintro rfl; simp [isPathSyntax] at hsyn
      simp only [hsyn, Bool.false_eq_true, if_false, List.cons_append, List.nil_append]
      rw [takeStep.eq_5 _ _ _ _ hdot (fun h _ => hslash h) (fun _ _ h _ => hslash h)]
      simp [isPlainPathChar_of_unescaped hsyn, ih]

theorem takeStep_nil_end (name written : List Char) :
    takeStep name written [] = some (name.reverse, written.reverse, none) := by
  simp [takeStep]

theorem takeStep_dot_end (rest name written : List Char) :
    takeStep name written ('.' :: rest) = some (name.reverse, written.reverse, some rest) := by
  simp [takeStep]

/-- The escaped form of a name opens with a colon only when the name does. -/
theorem head_escapeChars {k : List Char} (hk : ∀ c, k.head? = some c → c ≠ ':') :
    ∀ c, (escapeChars k).head? = some c → c ≠ ':' := by
  intro c hc
  cases k with
  | nil => simp at hc
  | cons d k =>
    rw [escapeChars_cons] at hc
    split at hc
    · simp only [List.cons_append, List.head?_cons, Option.some.injEq] at hc
      subst hc
      decide
    · simp only [List.cons_append, List.nil_append, List.head?_cons, Option.some.injEq] at hc
      subst hc
      exact hk _ rfl

/-- A name that does not open with a colon is read as a step of its own, not forced. -/
theorem readStep_escape {k : List Char} (hk : ∀ c, k.head? = some c → c ≠ ':') {tail : List Char}
    {more : Option (List Char)}
    (hend : ∀ name written, takeStep name written tail = some (name.reverse, written.reverse, more))
    (htail : ∀ c, tail.head? = some c → c ≠ ':') :
    readStep (escapeChars k ++ tail) = some (⟨k, escapeChars k, false⟩, more) := by
  have hhead : ∀ rest, escapeChars k ++ tail = ':' :: rest → False := by
    intro rest hcs
    cases he : escapeChars k with
    | nil =>
      rw [he, List.nil_append] at hcs
      exact htail ':' (by rw [hcs]; rfl) rfl
    | cons e es =>
      rw [he, List.cons_append, List.cons.injEq] at hcs
      exact head_escapeChars hk e (by rw [he]; rfl) hcs.1
  rw [readStep.eq_2 _ hhead, takeStep_escape k hend]
  simp

/-! ## Reading a whole path -/

/-- A path of names joined by dots has at least one character fewer than names. -/
theorem length_le_intercalate (xs : List (List Char)) :
    xs.length ≤ (['.'].intercalate xs).length + 1 := by
  induction xs with
  | nil => simp
  | cons x xs ih =>
    cases xs with
    | nil => simp
    | cons y ys =>
      simp only [List.intercalate_cons_cons, List.length_append, List.length_cons] at ih ⊢
      omega

/-- The escaped names of a path, joined by dots, are read back as the names, one step each,
given a step of fuel per name. -/
theorem readSteps_escaped (ks : List (List Char)) (hne : ks ≠ [])
    (hk : ∀ k ∈ ks, ∀ c, k.head? = some c → c ≠ ':') (fuel : Nat) (hfuel : ks.length ≤ fuel) :
    readSteps fuel (['.'].intercalate (ks.map escapeChars)) =
      some (ks.map fun k => ⟨k, escapeChars k, false⟩) := by
  induction ks generalizing fuel with
  | nil => exact absurd rfl hne
  | cons k ks ih =>
    obtain ⟨fuel, rfl⟩ : ∃ f, fuel = f + 1 := ⟨fuel - 1, by simp at hfuel; omega⟩
    have hk₀ := hk k List.mem_cons_self
    cases ks with
    | nil =>
      -- the last name ends the path
      have h := readStep_escape hk₀ takeStep_nil_end (by simp)
      rw [List.append_nil] at h
      simp [readSteps, h]
    | cons k' ks =>
      -- the first name stops at the dot that joins it to the rest
      have h := readStep_escape hk₀
        (takeStep_dot_end (['.'].intercalate ((k' :: ks).map escapeChars))) (by simp)
      have htl := ih (by simp) (fun k hm => hk k (List.mem_cons_of_mem _ hm)) fuel
        (by simp at hfuel ⊢; omega)
      simp only [List.map_cons] at h htl ⊢
      rw [List.intercalate_cons_cons, List.append_assoc, List.singleton_append]
      simp [readSteps, h, htl]

/-- The key path of names, one after the other, is their escaped forms joined by dots, as long
as every name is there to be joined. -/
theorem toList_keyPath (ks : List String) (hne : ks ≠ []) (hk : ∀ k ∈ ks, k ≠ "") :
    (keyPath ks).toList = ['.'].intercalate (ks.map fun k => escapeChars k.toList) := by
  -- a path that is already there gets a dot before each further name
  have grow : ∀ (p : String), p ≠ "" → ∀ ks : List String,
      (ks.foldl join p).toList = p.toList ++ ks.flatMap fun k => '.' :: escapeChars k.toList := by
    intro p hp ks
    induction ks generalizing p with
    | nil => simp
    | cons k ks ih =>
      have hjoin : join p k = p ++ "." ++ escapeStep k := by
        simp [join, String.isEmpty_iff, hp]
      have hp' : join p k ≠ "" := by
        rw [hjoin]
        intro h
        have := congrArg String.toList h
        simp at this
      rw [List.foldl_cons, ih _ hp', hjoin]
      simp [String.toList_append, toList_escapeStep]
  obtain ⟨k, ks, rfl⟩ := List.exists_cons_of_ne_nil hne
  have hk₀ : k ≠ "" := hk k List.mem_cons_self
  have hfirst : join "" k = escapeStep k := by simp [join]
  have hfirst_ne : escapeStep k ≠ "" := by
    intro h
    have hc := congrArg String.toList h
    rw [toList_escapeStep] at hc
    cases hk' : k.toList with
    | nil => exact hk₀ (String.toList_inj.mp (by simp [hk']))
    | cons c cs =>
      rw [hk', escapeChars_cons] at hc
      split at hc <;> simp at hc
  rw [keyPath, List.foldl_cons, hfirst, grow _ hfirst_ne, toList_escapeStep]
  clear hk hne hfirst hfirst_ne hk₀ grow
  induction ks generalizing k with
  | nil => simp
  | cons k' ks ih =>
    have hrest := ih k'
    simp only [List.map_cons] at hrest ⊢
    rw [List.intercalate_cons_cons, ← hrest]
    simp

/-! ## Looking the names up -/

/-- Escapes are taken out again when a name is looked up. -/
theorem unescapeName_escape (k : List Char) : unescapeName (escapeChars k) = k := by
  induction k with
  | nil => simp [unescapeName]
  | cons c k ih =>
    rw [escapeChars_cons]
    split
    · simp [unescapeName, ih]
    · rename_i hc
      have hslash : c ≠ '\\' := by rintro rfl; simp [isPathSyntax] at hc
      simp only [List.cons_append, List.nil_append]
      rw [unescapeName.eq_def]
      split
      · simp_all
      · simp_all
      · simp_all
      · simp_all

/-- A name that does not open a selector is looked up as it is written. -/
theorem lookupName_escape {k : List Char}
    (hk : ∀ c, k.head? = some c → c ≠ '!' ∧ c ≠ '[' ∧ c ≠ '{') :
    lookupName (escapeChars k) = some (escapeChars k) := by
  -- the escaped form opens with the name's first character or with a backslash
  have hhead : ∀ c, (escapeChars k).head? = some c → c ≠ '!' ∧ c ≠ '[' ∧ c ≠ '{' := by
    intro c hc
    cases k with
    | nil => simp at hc
    | cons d k =>
      rw [escapeChars_cons] at hc
      split at hc
      · simp only [List.cons_append, List.head?_cons, Option.some.injEq] at hc
        subst hc
        decide
      · simp only [List.cons_append, List.nil_append, List.head?_cons, Option.some.injEq] at hc
        subst hc
        exact hk _ rfl
  unfold lookupName
  split
  · rename_i c d more hw
    obtain ⟨hbang, hsq, hbr⟩ := hhead c (by rw [hw]; rfl)
    simp [hbang, hsq, hbr, hw]
  · rfl

/-- The key path of plain names is read as one step per name, not forced. -/
theorem steps_keyPath {ks : List String} (hne : ks ≠ []) (hk : ∀ k ∈ ks, Plain k) :
    steps (keyPath ks).toList = some (ks.map nameStep) := by
  have hmap : ks.map (fun k => escapeChars k.toList) = (ks.map String.toList).map escapeChars := by
    simp
  rw [toList_keyPath ks hne fun k hm => (hk k hm).1, hmap, steps,
    readSteps_escaped _ (by simpa using hne) ?_ _ ?_]
  · simp [nameStep]
  · intro k hm c hc
    obtain ⟨k', hk', rfl⟩ := List.mem_map.mp hm
    exact ((hk k' hk').2 c hc).1
  · simpa using length_le_intercalate ((ks.map String.toList).map escapeChars)

/-- The step of a plain name is looked up as it is written, which unescapes to the name. -/
theorem lookupName_nameStep {k : String} (hk : Plain k) :
    lookupName (nameStep k).written = some (nameStep k).written :=
  lookupName_escape fun c hc => (hk.2 c hc).2

/-- A member name that opens with a colon is not plain, and the pass sets the location found
under it at another member: the colon makes the path's step the name without it. Of
`{":a":{"uri":"file:///srv/a.py"}}` the pass towards the editor leaves the member `:a` as it
was and adds a member `a` holding the converted location, where the location under `:a` should
have been converted in place. -/
theorem colon_member_set_elsewhere :
    mapPayload (toEditorPass (.ofScheme "") "h1")
        "\x7b\":a\":\x7b\"uri\":\"file:///srv/a.py\"\x7d\x7d" =
      ("\x7b\":a\":\x7b\"uri\":\"file:///srv/a.py\"\x7d,\"a\":\x7b\"uri\":\"scp://h1//srv/a.py\"\x7d\x7d",
        ⟨1, 0⟩) := by
  decide +kernel

/-- A pass towards the server does not undo the pass towards the editor over a member name that
opens with a colon. The converted location went to a new member `a`, which the pass towards
the server converts back in place; the message that comes back keeps that member beside `:a`. -/
theorem colon_member_round_trip_adds_member :
    (mapPayload (toServerPass (.ofScheme ""))
        (mapPayload (toEditorPass (.ofScheme "") "h1")
          "\x7b\":a\":\x7b\"uri\":\"file:///srv/a.py\"\x7d\x7d").1).1 =
      "\x7b\":a\":\x7b\"uri\":\"file:///srv/a.py\"\x7d,\"a\":\x7b\"uri\":\"file:///srv/a.py\"\x7d\x7d" := by
  decide +kernel

/-! ## What the counts count

A pass counts a converted value when it queues the value's edit, before any edit is applied.
Applying the edits leaves that count alone and adds one failure for each edit that cannot be
set. So an edit counted as changed that then cannot be set is counted in both counts, while the
message keeps the value as it was (`unset_edit_counted_as_changed`). -/

/-- One edit applied: set at its path, or counted as failed and skipped. -/
theorem applyEdits_cons (e : Edit) (rest : List Edit) (doc : List Char) (t : Tally) :
    applyEdits (e :: rest) doc t =
      match setPath doc e.path e.raw with
      | .ok next => applyEdits rest next t
      | .error _ => applyEdits rest doc t.bumpFailed := by
  simp only [applyEdits, List.foldl_cons]
  cases setPath doc e.path e.raw <;> rfl

/-- Applying edits keeps the count of changed values and adds at most one failure per edit. -/
theorem applyEdits_tally (edits : List Edit) (doc : List Char) (t : Tally) :
    (applyEdits edits doc t).2.changed = t.changed ∧
      t.failed ≤ (applyEdits edits doc t).2.failed ∧
      (applyEdits edits doc t).2.failed ≤ t.failed + edits.length := by
  induction edits generalizing doc t with
  | nil => simp [applyEdits]
  | cons e rest ih =>
    rw [applyEdits_cons]
    split
    · obtain ⟨hc, hlo, hhi⟩ := ih _ t
      exact ⟨hc, hlo, by simp only [List.length_cons]; omega⟩
    · obtain ⟨hc, hlo, hhi⟩ := ih doc t.bumpFailed
      simp only [Tally.bumpFailed] at hc hlo hhi ⊢
      exact ⟨hc, by omega, by simp only [List.length_cons]; omega⟩

/-- The location under `:x` is converted and its edit queued, counted as changed; the edit's
path names the array `x`, where a name cannot be set, so it is also counted as failed, and the
message comes back unchanged. -/
theorem unset_edit_counted_as_changed :
    mapPayload (toEditorPass (.ofScheme "") "h1")
        "\x7b\"x\":[],\":x\":\x7b\"uri\":\"file:///a\"\x7d\x7d" =
      ("\x7b\"x\":[],\":x\":\x7b\"uri\":\"file:///a\"\x7d\x7d", ⟨1, 1⟩) := by
  decide +kernel

end RemoteLsp.Message
