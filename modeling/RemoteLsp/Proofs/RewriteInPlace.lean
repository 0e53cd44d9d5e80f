import RemoteLsp.Proofs.PathSetting
import RemoteLsp.Proofs.ReferenceRewrite
import RemoteLsp.Proofs.ReadingTrees

/-!
# A pass rewrites a message in place

A pass over a message walks its text, gathers one edit per location it converts (a string set
at its key path, or a keyed object written again), and then sets the edits one after the other.
This module proves that the edits together make the reference rewrite of the message.

`Transforms C t t' E` says that the edits `E`, set one after the other in a document that holds
`t` at the end of the frames `C`, leave `t'` there and every other character as it was.
`Gathers N t t' walk` says that a walk adds such edits for `t` and `t'` in every place whose
frames are named `N`. One lemma per part of the walk shows what it gathers: a converted string
(`gathers_convertAt`), the members and items of a container one after the other
(`gathers_members`, `gathers_items`), a member by its name (`gathers_collectMember`), and a
keyed object (`rekeysAt_succ`). The walk, the keyed objects and the passes over their values
call each other with less fuel, and an induction on the fuel shows all three right at once
(`walks_at`).

Main statement: for every payload, a text that is not JSON comes back as it was, and a JSON text
whose walked objects have plain member names, no two the same, comes back as the text of its
reference rewrite, towards the editor and towards the server (`payload_rewritten_in_place`).
-/

namespace RemoteLsp.Message

open Json

/-! ## Edits set in a document -/

theorem applyEdits_append (E E' : List Edit) (doc : List Char) (t : Tally) :
    applyEdits (E ++ E') doc t = applyEdits E' (applyEdits E doc t).1 (applyEdits E doc t).2 := by
  simp [applyEdits, List.foldl_append]

/-- Edits that, set one after the other in a document holding `t` at the end of the frames `C`,
leave `t'` there and every other character as it was. -/
def Transforms (C : List Frame) (t t' : TextTree) (edits : List Edit) : Prop :=
  ∀ (blank trail : List Char) (tally : Tally), allBlank blank = true →
    (applyEdits edits (blank ++ (plugIn C t).text ++ trail) tally).1 =
      blank ++ (plugIn C t').text ++ trail

theorem transforms_nil (C : List Frame) (t : TextTree) : Transforms C t t [] :=
  fun _ _ _ _ => rfl

theorem Transforms.append {C : List Frame} {t t' t'' : TextTree} {E E' : List Edit}
    (h : Transforms C t t' E) (h' : Transforms C t' t'' E') : Transforms C t t'' (E ++ E') := by
  intro blank trail tally hb
  rw [applyEdits_append, h blank trail tally hb]
  exact h' blank trail _ hb

/-- Edits at the end of one more frame transform the frame's container. -/
theorem transforms_frame {C : List Frame} {f : Frame} {v v' : TextTree} {E : List Edit} :
    Transforms (C ++ [f]) v v' E ↔ Transforms C (f.plug v) (f.plug v') E := by
  simp [Transforms, plugIn_append]

/-- One edit sets its text at the key path of its place, whose frames are named `N`. -/
theorem transforms_set {N : List String} (hN : N ≠ []) {C : List Frame} (hC : ∀ f ∈ C, f.Fits)
    (hCN : C.map Frame.name = N) {v : TextTree} (hv : v.valid = true) (v' : TextTree) :
    Transforms C v v' [⟨keyPath N, v'.text⟩] := by
  intro blank trail tally hb
  have hne : C ≠ [] := by
    rintro rfl
    exact hN hCN.symm
  subst hCN
  simp only [applyEdits, List.foldl_cons, List.foldl_nil]
  rw [setPath_plugIn hne hC hv v' hb trail]

/-! ## What a walk gathers -/

/-- What a walk of `t` at the key path of the names `N` adds to the edits already gathered:
edits that rewrite `t` into `t'` wherever `t` stands at the end of frames with those names. -/
def Gathers (N : List String) (t t' : TextTree) (walk : List Edit × Tally → List Edit × Tally) :
    Prop :=
  ∀ E tally, ∃ E' tally', walk (E, tally) = (E ++ E', tally') ∧
    ∀ C : List Frame, (∀ f ∈ C, f.Fits) → C.map Frame.name = N → Transforms C t t' E'

theorem gathers_id (N : List String) (t : TextTree) : Gathers N t t fun acc => acc :=
  fun E tally => ⟨[], tally, by simp, fun C _ _ => transforms_nil C t⟩

theorem Gathers.comp {N : List String} {t t' t'' : TextTree}
    {w w' : List Edit × Tally → List Edit × Tally} (h : Gathers N t t' w)
    (h' : Gathers N t' t'' w') : Gathers N t t'' fun acc => w' (w acc) := by
  intro E tally
  obtain ⟨E₁, tally₁, hw, ht⟩ := h E tally
  obtain ⟨E₂, tally₂, hw', ht'⟩ := h' (E ++ E₁) tally₁
  refine ⟨E₁ ++ E₂, tally₂, ?_, fun C hC hN => (ht C hC hN).append (ht' C hC hN)⟩
  show w' (w (E, tally)) = _
  rw [hw, hw', List.append_assoc]

/-- What a walk gathers for a value, it gathers for the value's container. -/
theorem Gathers.plug {N : List String} {f : Frame} (hf : f.Fits) {v v' : TextTree}
    {w : List Edit × Tally → List Edit × Tally} (h : Gathers (N ++ [f.name]) v v' w) :
    Gathers N (f.plug v) (f.plug v') w := by
  intro E tally
  obtain ⟨E', tally', hw, ht⟩ := h E tally
  refine ⟨E', tally', hw, fun C hC hN => ?_⟩
  have hC' : ∀ g ∈ C ++ [f], g.Fits := by
    intro g hg
    rcases List.mem_append.mp hg with hg | hg
    · exact hC g hg
    · rw [List.mem_singleton.mp hg]
      exact hf
  exact transforms_frame.mp (ht (C ++ [f]) hC' (by simp [hN]))

theorem keyPath_concat (N : List String) (k : String) : keyPath (N ++ [k]) = join (keyPath N) k := by
  simp [keyPath, List.foldl_append]

/-- A converted string is one edit at its key path, and nothing when it is not converted. -/
theorem gathers_convertAt {N : List String} (hN : N ≠ []) (convert : String → Converted)
    {body : List Char} (hb : isStringBody body = true) :
    Gathers N (.str body) (convertString convert body)
      (convertAt (keyPath N) (decodeLiteral ('"' :: body ++ ['"'])) convert) := by
  intro E tally
  unfold convertAt convertString
  cases convert (decodeLiteral ('"' :: body ++ ['"'])) with
  | unchanged => exact ⟨[], tally, by simp, fun C _ _ => transforms_nil C _⟩
  | failed => exact ⟨[], tally.bumpFailed, by simp, fun C _ _ => transforms_nil C _⟩
  | changed out =>
    refine ⟨[⟨keyPath N, writeString .wire out⟩], tally.bumpChanged, rfl, fun C hC hCN => ?_⟩
    rw [writeString_wire]
    exact transforms_set hN hC hCN (show (TextTree.str body).valid = true from hb) _

/-! ## Containers walked member by member -/

/-- The walk of an object's members one after the other rewrites each value in place. The
induction is on the members still to walk; those already walked, and rewritten, are `pre`. -/
theorem gathers_members {N : List String} {close after : List Char} {total : Nat}
    {step : List Edit × Tally → Entry → List Edit × Tally} {g : String → TextTree → TextTree}
    (hg : ∀ k v, v.valid = true → (g k v).valid = true) :
    ∀ (rest pre : List (Member TextTree)),
    (∀ m ∈ rest, ∀ off, Gathers (N ++ [m.name]) m.value (g m.name m.value)
      fun acc => step acc ⟨m.name, off, m.value.text⟩) →
    (TextTree.obj (pre ++ rest) close).valid = true →
    (∀ m ∈ rest, Plain m.name) → ((pre ++ rest).map (·.name)).Nodup →
    Gathers N (.obj (pre ++ rest) close)
      (.obj (pre ++ rest.map fun m => ⟨m.lead, m.key, m.colon, g m.name m.value⟩) close)
      fun acc => (memberEntries total after rest).foldl step acc
  | [], pre, _, _, _, _ => by simpa [memberEntries] using gathers_id N (.obj pre close)
  | ⟨lead, key, colon, v⟩ :: rest, pre, hstep, hvalid, hplain, hnodup => by
    -- the member's place: its frame, which the key path finds
    let f := Frame.member pre lead key colon rest close
    have hfv : f.valid = true ∧ v.valid = true := by
      have h := Frame.valid_plug f v
      rw [show f.plug v = TextTree.obj (pre ++ ⟨lead, key, colon, v⟩ :: rest) close from rfl,
        hvalid] at h
      simpa using h.symm
    have hfresh : f.name ∉ f.earlier := by
      have h := (List.nodup_append.mp (by simpa using hnodup)).2.2
      intro hm
      exact h _ hm _ List.mem_cons_self rfl
    have hf : f.Fits := ⟨hfv.1, hplain _ List.mem_cons_self, hfresh⟩
    -- its value is rewritten first, and the members after it then
    have hfirst := (hstep _ List.mem_cons_self
      (total - (v.text ++ membersText rest ++ after).length)).plug hf
    have hrest := @gathers_members N close after total step g hg rest
      (pre ++ [⟨lead, key, colon, g f.name v⟩])
      (fun m hm => hstep m (List.mem_cons_of_mem _ hm))
      (by
        have h := Frame.valid_plug f (g f.name v)
        simp only [f, Frame.plug, hfv.1, hg _ v hfv.2, Bool.and_self] at h
        simpa using h)
      (fun m hm => hplain m (List.mem_cons_of_mem _ hm))
      (by simpa [Member.name] using hnodup)
    rw [List.append_assoc, List.singleton_append, List.append_assoc, List.singleton_append] at hrest
    simpa [memberEntries, f, Frame.plug, Frame.name, Member.name] using hfirst.comp hrest

/-- The walk of an array's items one after the other rewrites each item in place. The induction
is on the items still to walk; those already walked, and rewritten, are `pre`, whose length is
the index of the next item. -/
theorem gathers_items {N : List String} {close after : List Char} {total : Nat}
    {step : List Edit × Tally → Entry × Nat → List Edit × Tally} {g : TextTree → TextTree}
    (hg : ∀ v, v.valid = true → (g v).valid = true) :
    ∀ (rest pre : List (Item TextTree)),
    (∀ i ∈ rest, ∀ off n, Gathers (N ++ [toString n]) i.value (g i.value)
      fun acc => step acc (⟨"", off, i.value.text⟩, n)) →
    (TextTree.arr (pre ++ rest) close).valid = true →
    Gathers N (.arr (pre ++ rest) close) (.arr (pre ++ rest.map fun i => ⟨i.lead, g i.value⟩) close)
      fun acc => ((itemEntries total after rest).zipIdx pre.length).foldl step acc
  | [], pre, _, _ => by simpa [itemEntries] using gathers_id N (.arr pre close)
  | ⟨lead, v⟩ :: rest, pre, hstep, hvalid => by
    -- the item's place: its frame, named by its index
    let f := Frame.item pre lead rest close
    have hfv : f.valid = true ∧ v.valid = true := by
      have h := Frame.valid_plug f v
      rw [show f.plug v = TextTree.arr (pre ++ ⟨lead, v⟩ :: rest) close from rfl, hvalid] at h
      simpa using h.symm
    have hf : f.Fits := ⟨hfv.1, plain_toString _, by simp [f, Frame.earlier]⟩
    have hfirst := (hstep _ List.mem_cons_self
      (total - (v.text ++ itemsText rest ++ after).length) pre.length).plug hf
    have hrest := @gathers_items N close after total step g hg rest (pre ++ [⟨lead, g v⟩])
      (fun i hi => hstep i (List.mem_cons_of_mem _ hi))
      (by
        have h := Frame.valid_plug f (g v)
        simp only [f, Frame.plug, hfv.1, hg v hfv.2, Bool.and_self] at h
        simpa using h)
    rw [List.append_assoc, List.singleton_append, List.append_assoc, List.singleton_append,
      List.length_append, List.length_singleton] at hrest
    simpa [itemEntries, f, Frame.plug, Frame.name, List.zipIdx_cons] using hfirst.comp hrest

/-! ## One member -/

/-- A number or a word is neither a string, an object nor an array, whatever follows it. -/
theorem kinds_atom {lit : List Char} (h : (TextTree.atom lit).valid = true) (rest : List Char) :
    isStringText (lit ++ rest) = false ∧ isObjectText (lit ++ rest) = false ∧
      isArrayText (lit ++ rest) = false := by
  simp only [TextTree.valid, isAtom, Bool.and_eq_true, Bool.not_eq_true',
    List.isEmpty_eq_false_iff, List.all_eq_true] at h
  obtain ⟨⟨hne, hall⟩, -⟩ := h
  obtain ⟨c, cs, rfl⟩ := List.exists_cons_of_ne_nil hne
  have hc := hall c List.mem_cons_self
  simp only [isAtomChar, Bool.not_eq_true', Bool.or_eq_false_iff, decide_eq_false_iff_not] at hc
  simp [isStringText, isObjectText, isArrayText, hc.1.1.1.2, hc.1.1.2, hc.1.2]

theorem length_value_add_two_le {ms : List (Member TextTree)} {m : Member TextTree}
    (hm : m ∈ ms) : m.value.text.length + 2 ≤ (membersText ms).length := by
  induction ms with
  | nil => simp at hm
  | cons m' ms ih =>
    obtain ⟨lead, key, colon, v⟩ := m'
    simp only [membersText, List.length_append, List.length_cons]
    rcases List.mem_cons.mp hm with rfl | hm
    · dsimp only
      omega
    · have := ih hm
      omega

theorem length_item_le {is : List (Item TextTree)} {i : Item TextTree} (hi : i ∈ is) :
    i.value.text.length ≤ (itemsText is).length := by
  induction is with
  | nil => simp at hi
  | cons i' is ih =>
    obtain ⟨lead, v⟩ := i'
    simp only [itemsText, List.length_append]
    rcases List.mem_cons.mp hi with rfl | hi
    · dsimp only
      omega
    · have := ih hi
      omega

/-- A member's value is shorter than its object by more than the braces: by the quotes of its
name too. This is the margin the fuel of the walk comes down by. -/
theorem length_member_lt {ms : List (Member TextTree)} (close : List Char) {m : Member TextTree}
    (hm : m ∈ ms) : m.value.text.length + 1 < (TextTree.obj ms close).text.length := by
  have := length_value_add_two_le hm
  simp only [TextTree.text, List.length_cons, List.length_append]
  omega

theorem length_item_lt {is : List (Item TextTree)} (close : List Char) {i : Item TextTree}
    (hi : i ∈ is) : i.value.text.length < (TextTree.arr is close).text.length := by
  have := length_item_le hi
  simp only [TextTree.text, List.length_cons, List.length_append]
  omega

/-- A walk that gathers the reference rewrite of every walkable value no longer than `fuel`. -/
def WalksValues (p : Pass) (fuel : Nat)
    (walk : List Char → String → List Edit × Tally → List Edit × Tally) : Prop :=
  ∀ u : TextTree, u.valid = true → u.walkable = true → u.text.length ≤ fuel → ∀ N,
    Gathers N u (u.rewrite p) (walk u.text (keyPath N))

/-- A writing again of keyed objects that gathers the reference rewrite of every keyed object
no longer than `fuel`. -/
def RekeysObjects (p : Pass) (fuel : Nat)
    (rekey : String → List Char → List Edit × Tally → List Edit × Tally) : Prop :=
  ∀ (ms : List (Member TextTree)) (close : List Char), (TextTree.obj ms close).valid = true →
    keyedWalkable ms = true → (TextTree.obj ms close).text.length ≤ fuel → ∀ N, N ≠ [] →
    Gathers N (.obj ms close)
      (if rekeyChanged p ms then .obj (rekeyMembers p true ms) [] else .obj ms close)
      (rekey (keyPath N) (TextTree.obj ms close).text)

theorem valid_argumentValue (p : Pass) {v : TextTree} (h : v.valid = true) :
    (argumentValue p v).valid = true := by
  cases v with
  | str body => exact valid_convertString _ h
  | atom _ => exact valid_rewrite p _ h
  | obj _ _ => exact valid_rewrite p _ h
  | arr _ _ => exact valid_rewrite p _ h

/-- The items of an `arguments` array: each string converted, each other item walked. -/
theorem gathers_arguments {p : Pass} {F : Nat}
    {walk : List Char → String → List Edit × Tally → List Edit × Tally}
    (hwalk : WalksValues p F walk) {N : List String} {is : List (Item TextTree)}
    {close : List Char} (hv : (TextTree.arr is close).valid = true)
    (hw : itemsWalkable is = true) (hlen : (TextTree.arr is close).text.length ≤ F) :
    Gathers N (.arr is close) (.arr (rewriteArguments p is) close)
      (collectArguments p walk (keyPath N) (TextTree.arr is close).text) := by
  unfold collectArguments
  rw [← List.append_nil (TextTree.arr is close).text, entries_arr (by simpa using hv) [],
    rewriteArguments_eq_map]
  refine gathers_items (fun _ h => valid_argumentValue p h) is [] (fun i hi off n => ?_)
    (by simpa using hv)
  have hu := valid_of_mem_arr hv i hi
  have hul : i.value.text.length ≤ F := by
    have := length_item_lt close hi
    omega
  obtain ⟨lead, u⟩ := i
  simp only [← keyPath_concat]
  cases u with
  | str body =>
    simpa [argumentValue, TextTree.text, isStringText] using
      gathers_convertAt (N := N ++ [toString n]) (by simp) p.convert hu
  | atom lit =>
    have hs : isStringText lit = false := by simpa using (kinds_atom hu []).1
    simpa [argumentValue, hs, TextTree.text] using
      hwalk (.atom lit) hu (itemsWalkable_iff.mp hw _ hi) hul (N ++ [toString n])
  | obj ms c =>
    simpa [argumentValue, TextTree.text, isStringText] using
      hwalk (.obj ms c) hu (itemsWalkable_iff.mp hw _ hi) hul (N ++ [toString n])
  | arr is' c =>
    simpa [argumentValue, TextTree.text, isStringText] using
      hwalk (.arr is' c) hu (itemsWalkable_iff.mp hw _ hi) hul (N ++ [toString n])

/-- One member of an object: a `data` value is passed over, a string of a document member is
converted, a keyed object written again, the items of `arguments` converted or walked, and any
other value walked. -/
theorem gathers_collectMember {p : Pass} {F : Nat}
    {walk : List Char → String → List Edit × Tally → List Edit × Tally}
    {rekey : String → List Char → List Edit × Tally → List Edit × Tally}
    (hwalk : WalksValues p F walk) (hrekey : RekeysObjects p F rekey) {N : List String}
    {k : String} {v : TextTree} (hv : v.valid = true) (hw : valueWalkable k v = true)
    (hlen : v.text.length ≤ F) (off : Nat) :
    Gathers (N ++ [k]) v (rewriteValue p k v)
      fun acc => collectMember p walk rekey (keyPath N) acc ⟨k, off, v.text⟩ := by
  have hN : N ++ [k] ≠ [] := by simp
  simp only [collectMember, ← keyPath_concat]
  cases v with
  | str body =>
    by_cases hop : k ∈ opaqueFields
    · have hk : k = "data" := by simpa [opaqueFields] using hop
      subst hk
      simpa [rewriteValue, opaqueFields, documentFields] using gathers_id (N ++ ["data"]) (.str body)
    by_cases hroot : k = "rootPath" ∧ p.rootPath.isSome = true
    · simpa [rewriteValue, hroot, opaqueFields, TextTree.text, isStringText] using
        gathers_convertAt hN (p.rootPath.getD fun _ => .unchanged) hv
    by_cases hdoc : k ∈ documentFields
    · simpa [rewriteValue, hop, hroot, hdoc, TextTree.text, isStringText] using
        gathers_convertAt hN p.convert hv
    · simpa [rewriteValue, hop, hroot, hdoc, TextTree.rewrite, TextTree.text, isStringText,
        isObjectText, isArrayText] using hwalk (.str body) hv rfl hlen (N ++ [k])
  | atom lit =>
    obtain ⟨hs, ho, ha⟩ := kinds_atom hv []
    rw [List.append_nil] at hs ho ha
    by_cases hop : k ∈ opaqueFields
    · simpa [rewriteValue, hop] using gathers_id (N ++ [k]) (.atom lit)
    · simpa [rewriteValue, hop, hs, ho, ha, TextTree.rewrite, TextTree.text] using
        hwalk (.atom lit) hv rfl hlen (N ++ [k])
  | obj ms close =>
    by_cases hop : k ∈ opaqueFields
    · simpa [rewriteValue, hop] using gathers_id (N ++ [k]) (.obj ms close)
    by_cases hkey : k ∈ keyedFields
    · have hkw : keyedWalkable ms = true := by simpa [valueWalkable, hop, hkey] using hw
      simpa [rewriteValue, hop, hkey, TextTree.text, isStringText, isObjectText] using
        hrekey ms close hv hkw hlen (N ++ [k]) hN
    · have hw' : (TextTree.obj ms close).walkable = true := by
        simpa [valueWalkable, hop, hkey, TextTree.walkable] using hw
      simpa [rewriteValue, hop, hkey, TextTree.rewrite, TextTree.text, isStringText, isObjectText,
        isArrayText] using hwalk (.obj ms close) hv hw' hlen (N ++ [k])
  | arr is close =>
    by_cases hop : k ∈ opaqueFields
    · simpa [rewriteValue, hop] using gathers_id (N ++ [k]) (.arr is close)
    have hiw : itemsWalkable is = true := by simpa [valueWalkable, hop] using hw
    by_cases harg : k = "arguments"
    · subst harg
      simpa [rewriteValue, opaqueFields, keyedFields, TextTree.text, isStringText, isObjectText,
        isArrayText] using gathers_arguments hwalk hv hiw hlen (N := N ++ ["arguments"])
    · simpa [rewriteValue, hop, harg, TextTree.rewrite, TextTree.text, isStringText, isObjectText,
        isArrayText] using hwalk (.arr is close) hv hiw hlen (N ++ [k])

/-! ## Keyed objects -/

/-- One member of a keyed object written again, when passing over its value gives `V` whatever
the counts. -/
theorem keyedEntry_eq {p : Pass} {map : List Char → Tally → List Char × Tally} {e : Entry}
    {V : List Char} (hmap : ∀ t, (map e.raw t).1 = V) (parts : List (List Char)) (changed : Bool)
    (t : Tally) :
    ∃ t', keyedEntry p map (parts, changed, t) e =
      (parts ++ [writeString .wire (convertName p.convert e.name) ++ [':'] ++ V],
        changed || (p.convert e.name).isChanged || V != e.raw, t') := by
  unfold keyedEntry
  cases hc : p.convert e.name with
  | unchanged =>
    rcases hm : map e.raw t with ⟨V', t'⟩
    obtain rfl : V' = V := by rw [← hmap t, hm]
    exact ⟨t', by simp [convertName, hc, Converted.isChanged, hm]⟩
  | failed =>
    rcases hm : map e.raw t.bumpFailed with ⟨V', t'⟩
    obtain rfl : V' = V := by rw [← hmap t.bumpFailed, hm]
    exact ⟨t', by simp [convertName, hc, Converted.isChanged, hm]⟩
  | changed out =>
    rcases hm : map e.raw t.bumpChanged with ⟨V', t'⟩
    obtain rfl : V' = V := by rw [← hmap t.bumpChanged, hm]
    exact ⟨t', by simp [convertName, hc, Converted.isChanged, hm]⟩

/-- Writing a keyed object again member by member gives the parts of its reference rewrite,
and whether any name or value changed. -/
theorem keyedEntry_foldl {p : Pass} {map : List Char → Tally → List Char × Tally} {total : Nat}
    {after : List Char} :
    ∀ (ms : List (Member TextTree)), (∀ m ∈ ms, ∀ t, (map m.value.text t).1 = (m.value.rewrite p).text) →
    ∀ (parts : List (List Char)) (changed : Bool) (t : Tally), ∃ t',
      (memberEntries total after ms).foldl (keyedEntry p map) (parts, changed, t) =
        (parts ++ ms.map (rekeyPart p), changed || rekeyChanged p ms, t')
  | [], _, parts, changed, t => ⟨t, by simp [memberEntries, rekeyChanged]⟩
  | ⟨lead, key, colon, v⟩ :: ms, hmap, parts, changed, t => by
    obtain ⟨t₁, h₁⟩ := keyedEntry_eq (p := p)
      (e := ⟨decodeLiteral ('"' :: key ++ ['"']), total - (v.text ++ membersText ms ++ after).length,
        v.text⟩) (hmap _ List.mem_cons_self) parts changed t
    obtain ⟨t₂, h₂⟩ := keyedEntry_foldl ms (fun m hm => hmap m (List.mem_cons_of_mem _ hm)) _ _ t₁
    refine ⟨t₂, ?_⟩
    simp only [memberEntries, List.foldl_cons, Member.name]
    rw [h₁, h₂]
    simp [rekeyPart, rekeyChanged, Member.name, Bool.or_assoc]

/-! ## The walk, keyed objects and passes over values, by fuel -/

/-- The walk with `fuel` gathers the reference rewrite of every walkable value no longer than
`fuel`, whatever text follows it. -/
def CollectsAt (p : Pass) (fuel : Nat) : Prop :=
  ∀ t : TextTree, t.valid = true → t.walkable = true → t.text.length ≤ fuel →
    ∀ (N : List String) (trail : List Char),
    Gathers N t (t.rewrite p) (collect p fuel (t.text ++ trail) (keyPath N))

/-- A pass with `fuel` over a walkable value shorter than `fuel`, between blanks, writes its
reference rewrite. -/
def MapsAt (p : Pass) (fuel : Nat) : Prop :=
  ∀ t : TextTree, t.valid = true → t.walkable = true → t.text.length < fuel →
    ∀ (lead trail : List Char) (tally : Tally), allBlank lead = true → allBlank trail = true →
    (mapText p fuel (lead ++ t.text ++ trail) tally).1 = lead ++ (t.rewrite p).text ++ trail

theorem CollectsAt.walks {p : Pass} {F : Nat} (h : CollectsAt p F) : WalksValues p F (collect p F) :=
  fun u hv hw hl N => by simpa using h u hv hw hl N []

/-- A pass walks the value after the blanks and sets what the walk gathered. -/
theorem mapsAt_succ {p : Pass} {F : Nat} (h : CollectsAt p F) : MapsAt p (F + 1) := by
  intro t hv hw hl lead trail tally hlead htrail
  have hvalid := isValidText_text hv hlead htrail
  obtain ⟨c, cs, hct, -⟩ := text_head hv
  have hne : (lead ++ t.text ++ trail).isEmpty = false := by simp [hct]
  obtain ⟨E', tally', hcol, ht⟩ := h t hv hw (by omega) [] trail [] tally
  have hroot := ht [] (by simp) rfl lead trail tally' hlead
  simp only [mapText, hne, hvalid, Bool.not_true, Bool.or_false, Bool.false_eq_true, if_false]
  rw [dropLow_text hlead hv, show ("" : String) = keyPath [] from rfl, hcol]
  simpa using hroot

/-- Writing a keyed object again passes over each value, and records the object written again
when a name or a value changed. -/
theorem rekeysAt_succ {p : Pass} {F : Nat} (h : MapsAt p F) :
    RekeysObjects p (F + 1) (keyed p (F + 1)) := by
  intro ms close hv hkw hlen N hN E tally
  have hmap : ∀ m ∈ ms, ∀ t, (mapText p F m.value.text t).1 = (m.value.rewrite p).text := by
    intro m hm t
    have hl := length_member_lt close hm
    simpa using h m.value (valid_of_mem_obj hv m hm) (keyedWalkable_iff.mp hkw m hm) (by omega)
      [] [] t rfl rfl
  obtain ⟨t', hfold⟩ := @keyedEntry_foldl p (mapText p F)
    ((TextTree.obj ms close).text ++ []).length (close ++ '}' :: []) ms hmap [] false tally
  simp only [keyed]
  rw [← List.append_nil (TextTree.obj ms close).text, entries_obj hv [], hfold]
  cases hch : rekeyChanged p ms
  · refine ⟨[], t', by simp, fun C _ _ => ?_⟩
    simpa using transforms_nil C (.obj ms close)
  · refine ⟨[⟨keyPath N, '{' :: joinWith [','] (ms.map (rekeyPart p)) ++ ['}']⟩], t', by simp,
      fun C hC hCN => ?_⟩
    rw [← text_rekeyMembers]
    simpa using transforms_set hN hC hCN hv (.obj (rekeyMembers p true ms) [])

/-- The walk of a value: nothing for a string, a number or a word, the members of an object by
their names, and the items of an array by their indices. -/
theorem collectsAt_succ {p : Pass} {F : Nat} (hc : CollectsAt p F)
    (hr : RekeysObjects p F (keyed p F)) : CollectsAt p (F + 1) := by
  intro t hv hw hlen N trail
  cases t with
  | str body =>
    have hcol : collect p (F + 1) ((TextTree.str body).text ++ trail) (keyPath N) = fun acc => acc := by
      funext acc
      simp [collect, TextTree.text, isObjectText, isArrayText]
    rw [hcol]
    exact gathers_id N _
  | atom lit =>
    obtain ⟨-, ho, ha⟩ := kinds_atom hv trail
    have hcol : collect p (F + 1) ((TextTree.atom lit).text ++ trail) (keyPath N) = fun acc => acc := by
      funext acc
      simp [collect, TextTree.text, ho, ha]
    rw [hcol]
    exact gathers_id N _
  | obj ms close =>
    simp only [TextTree.walkable, Bool.and_eq_true] at hw
    obtain ⟨hnames, hmw⟩ := hw
    obtain ⟨hnodup, hplain⟩ := of_decide_eq_true hnames
    -- the walk goes through the entries of the object, which are its members
    have hcol : collect p (F + 1) ((TextTree.obj ms close).text ++ trail) (keyPath N) =
        fun acc => (memberEntries ((TextTree.obj ms close).text ++ trail).length
          (close ++ '}' :: trail) ms).foldl
            (collectMember p (collect p F) (keyed p F) (keyPath N)) acc := by
      funext acc
      rw [collect, if_pos (by simp [TextTree.text, isObjectText]), entries_obj hv trail]
    rw [hcol, TextTree.rewrite, rewriteMembers_eq_map]
    refine gathers_members (fun k v h => valid_rewriteValue p k v h) ms []
      (fun m hm off => ?_) hv hplain hnodup
    have hl := length_member_lt close hm
    exact gathers_collectMember hc.walks hr (valid_of_mem_obj hv m hm)
      (membersWalkable_iff.mp hmw m hm) (by omega) off
  | arr is close =>
    have hiw := itemsWalkable_iff.mp (by simpa [TextTree.walkable] using hw)
    -- the walk goes through the entries of the array, which are its items; the step is left
    -- for the definition to supply, so that no second matcher on the pairs is made here
    rw [show collect p (F + 1) ((TextTree.arr is close).text ++ trail) (keyPath N) = _ from
      funext fun acc => by
        rw [collect, if_neg (by simp [TextTree.text, isObjectText]),
          if_pos (by simp [TextTree.text, isArrayText]), entries_arr hv trail]]
    rw [TextTree.rewrite, rewriteItems_eq_map]
    refine gathers_items (fun v h => valid_rewrite p v h) is [] (fun i hi off n => ?_) hv
    have hl := length_item_lt close hi
    simp only [← keyPath_concat]
    simpa using hc.walks i.value (valid_of_mem_arr hv i hi) (hiw i hi) (by omega)
      (N ++ [toString n])

theorem collectsAt_zero (p : Pass) : CollectsAt p 0 := by
  intro t hv _ hlen
  have := length_text_pos hv
  omega

theorem rekeysAt_zero (p : Pass) : RekeysObjects p 0 (keyed p 0) := by
  intro ms close hv _ hlen
  simp [TextTree.text] at hlen

theorem mapsAt_zero (p : Pass) : MapsAt p 0 := by
  intro t _ _ hlen
  omega

/-- With any fuel, the walk, the writing again of keyed objects and the pass over a value each
make the reference rewrite of what they are given, as long as the fuel is enough for its
length. The induction is on the fuel: each of the three calls the others with one less. -/
theorem walks_at (p : Pass) :
    ∀ F, CollectsAt p F ∧ RekeysObjects p F (keyed p F) ∧ MapsAt p F
  | 0 => ⟨collectsAt_zero p, rekeysAt_zero p, mapsAt_zero p⟩
  | F + 1 =>
    have ⟨hc, hr, hm⟩ := walks_at p F
    ⟨collectsAt_succ hc hr, rekeysAt_succ hm, mapsAt_succ hc⟩

/-! ## Payloads -/

/-- A pass leaves a payload that is not JSON as it was, and counts nothing. -/
theorem mapPayload_not_json (p : Pass) {payload : String} (h : isValidText payload = false) :
    mapPayload p payload = (payload, ⟨0, 0⟩) := by
  simp [mapPayload, mapText, h]

/-- A pass over a JSON payload whose walked objects have plain member names, no two the same,
writes the reference rewrite of the payload's value in place, with the blanks around it. -/
theorem mapPayload_rewrite (p : Pass) {t : TextTree} (hv : t.valid = true)
    (hw : t.walkable = true) {lead trail : List Char} (hl : allBlank lead = true)
    (ht : allBlank trail = true) :
    (mapPayload p (String.ofList (lead ++ t.text ++ trail))).1 =
      String.ofList (lead ++ (t.rewrite p).text ++ trail) := by
  have hm := (walks_at p _).2.2 t hv hw
    (show t.text.length < (String.ofList (lead ++ t.text ++ trail)).length + 2 by simp; omega)
    lead trail ⟨0, 0⟩ hl ht
  simp only [mapPayload, String.toList_ofList]
  rw [← hm]

/-- A pass towards the editor and a pass towards the server each rewrite a message in place: a
text that is not JSON comes back as it was, and a JSON text whose walked objects have plain
member names, no two the same, comes back as the text of its reference rewrite, with every
character outside the converted strings and the keyed objects written again kept. -/
theorem payload_rewritten_in_place (tr : Path.Translator) (host : String) :
    (∀ payload : String, isValidText payload = false →
      (mapPayload (toEditorPass tr host) payload).1 = payload ∧
        (mapPayload (toServerPass tr) payload).1 = payload) ∧
    ∀ (t : TextTree) (lead trail : List Char), t.valid = true → t.walkable = true →
      allBlank lead = true → allBlank trail = true →
      (mapPayload (toEditorPass tr host) (String.ofList (lead ++ t.text ++ trail))).1 =
          String.ofList (lead ++ (t.rewrite (toEditorPass tr host)).text ++ trail) ∧
        (mapPayload (toServerPass tr) (String.ofList (lead ++ t.text ++ trail))).1 =
          String.ofList (lead ++ (t.rewrite (toServerPass tr)).text ++ trail) := by
  refine ⟨fun payload h => ?_, fun t lead trail hv hw hl ht => ?_⟩
  · rw [mapPayload_not_json _ h, mapPayload_not_json _ h]
    exact ⟨rfl, rfl⟩
  · exact ⟨mapPayload_rewrite _ hv hw hl ht, mapPayload_rewrite _ hv hw hl ht⟩

/-- Towards the editor, a text cut short comes back as it was; of a message with a location, a
`data` member holding another and a `changes` object keyed by a third, the first and the third
are converted and the one under `data` is kept. -/
theorem editor_pass_converts_locations :
    (mapPayload (toEditorPass (.ofScheme "") "h1") "[1,").1 = "[1," ∧
    (mapPayload (toEditorPass (.ofScheme "") "h1")
        "\x7b\"uri\":\"file:///srv/a.py\", \"data\":\x7b\"uri\":\"file:///srv/b.py\"\x7d,\"changes\":\x7b\"file:///srv/c.py\":[]\x7d\x7d").1 =
      "\x7b\"uri\":\"scp://h1//srv/a.py\", \"data\":\x7b\"uri\":\"file:///srv/b.py\"\x7d,\"changes\":\x7b\"scp://h1//srv/c.py\":[]\x7d\x7d" := by
  obtain ⟨hbad, hgood⟩ := payload_rewritten_in_place (.ofScheme "") "h1"
  refine ⟨(hbad "[1," (by decide +kernel)).1, ?_⟩
  -- the message as a tree, with its text and the text of its rewrite
  obtain ⟨t, hv, hw, hin, hout⟩ : ∃ t : TextTree, t.valid = true ∧ t.walkable = true ∧
      String.ofList t.text =
        "\x7b\"uri\":\"file:///srv/a.py\", \"data\":\x7b\"uri\":\"file:///srv/b.py\"\x7d,\"changes\":\x7b\"file:///srv/c.py\":[]\x7d\x7d" ∧
      String.ofList (t.rewrite (toEditorPass (.ofScheme "") "h1")).text =
        "\x7b\"uri\":\"scp://h1//srv/a.py\", \"data\":\x7b\"uri\":\"file:///srv/b.py\"\x7d,\"changes\":\x7b\"scp://h1//srv/c.py\":[]\x7d\x7d" :=
    ⟨.obj [⟨[], "uri".toList, [':'], .str "file:///srv/a.py".toList⟩,
      ⟨[',', ' '], "data".toList, [':'],
        .obj [⟨[], "uri".toList, [':'], .str "file:///srv/b.py".toList⟩] []⟩,
      ⟨[','], "changes".toList, [':'],
        .obj [⟨[], "file:///srv/c.py".toList, [':'], .arr [] []⟩] []⟩] [],
      by decide +kernel, by decide +kernel, by decide +kernel, by decide +kernel⟩
  have h := (hgood t [] [] hv hw rfl rfl).1
  simp only [List.nil_append, List.append_nil, hin, hout] at h
  exact h

-- Two members of one name share a key path, so both edits land on the first: the rewrite
-- converts both, the pass sets the first to the second's conversion and keeps the second.
example : (mapPayload (toEditorPass (.ofScheme "") "h1")
    "\x7b\"uri\":\"file:///a\",\"uri\":\"file:///b\"\x7d").1 =
      "\x7b\"uri\":\"scp://h1//b\",\"uri\":\"file:///b\"\x7d" := by decide +kernel

end RemoteLsp.Message
