import RemoteLsp.Proofs.KeyPaths
import RemoteLsp.Proofs.TextTrees

/-!
# Setting a text at the key path of a place

A place in a tree is the value at the end of a list of frames, outermost first. A frame is a
member of an object with the members around it, or an item of an array with the items around
it. The key path of a place names the members of its frames and the indices of their items.

Main statement: setting a text at the key path of a place writes it in place of the value there
and leaves every other character where it was (`setPath_plugIn`), as long as each frame is JSON
text, its name is plain and no member before it has the same name. The step of one frame finds
the frame's value (`find?_plug`), and the steps of a path are taken one frame after the other
(`setAt_plugIn`).
-/

namespace RemoteLsp.Message

open Json

/-- Where a value stands in its container. -/
inductive Frame where
  /-- A member's value, with the members before and after it and the blanks before the closing
  brace. -/
  | member (pre : List (Member TextTree)) (lead key colon : List Char)
      (post : List (Member TextTree)) (close : List Char)
  /-- An item, with the items before and after it and the blanks before the closing bracket. -/
  | item (pre : List (Item TextTree)) (lead : List Char) (post : List (Item TextTree))
      (close : List Char)

namespace Frame

/-- The container with `v` in the frame. -/
def plug : Frame → TextTree → TextTree
  | member pre lead key colon post close, v => .obj (pre ++ ⟨lead, key, colon, v⟩ :: post) close
  | item pre lead post close, v => .arr (pre ++ ⟨lead, v⟩ :: post) close

/-- The container's text before the value. -/
def before : Frame → List Char
  | member pre lead key colon _ _ => '{' :: membersText pre ++ lead ++ '"' :: key ++ '"' :: colon
  | item pre lead _ _ => '[' :: itemsText pre ++ lead

/-- The container's text after the value. -/
def after : Frame → List Char
  | member _ _ _ _ post close => membersText post ++ close ++ ['}']
  | item _ _ post close => itemsText post ++ close ++ [']']

/-- The name of the place: the member's name, or the item's index. -/
def name : Frame → String
  | member _ _ key _ _ _ => decodeLiteral ('"' :: key ++ ['"'])
  | item pre _ _ _ => toString pre.length

/-- The names of the members before the value. -/
def earlier : Frame → List String
  | member pre _ _ _ _ _ => pre.map (·.name)
  | item _ _ _ _ => []

/-- Whether the frame is JSON text around a valid value. -/
def valid : Frame → Bool
  | member pre lead key colon post close =>
    membersValid true pre && leads pre.isEmpty lead && isStringBody key && parted ':' colon &&
      membersValid false post && allBlank close
  | item pre lead post close =>
    itemsValid true pre && leads pre.isEmpty lead && itemsValid false post && allBlank close

/-- A frame that the step of its name finds: JSON text, with a plain name that no member before
it has. -/
def Fits (f : Frame) : Prop := f.valid = true ∧ Plain f.name ∧ f.name ∉ f.earlier

theorem text_plug (f : Frame) (v : TextTree) : (f.plug v).text = f.before ++ v.text ++ f.after := by
  cases f <;> simp [plug, before, after, TextTree.text, membersText_append, itemsText_append,
    membersText, itemsText]

theorem valid_plug (f : Frame) (v : TextTree) : (f.plug v).valid = (f.valid && v.valid) := by
  cases f <;> cases hv : v.valid <;>
    simp [plug, valid, TextTree.valid, membersValid_append, itemsValid_append, membersValid,
      itemsValid, hv, Bool.and_assoc]

end Frame

/-- The tree with `v` at the end of the frames, outermost first. -/
def plugIn (C : List Frame) (v : TextTree) : TextTree := C.foldr Frame.plug v

@[simp] theorem plugIn_nil (v : TextTree) : plugIn [] v = v := rfl

@[simp] theorem plugIn_cons (f : Frame) (C : List Frame) (v : TextTree) :
    plugIn (f :: C) v = f.plug (plugIn C v) := rfl

theorem plugIn_append (C D : List Frame) (v : TextTree) :
    plugIn (C ++ D) v = plugIn C (plugIn D v) := by
  simp [plugIn, List.foldr_append]

theorem valid_plugIn {C : List Frame} (hC : ∀ f ∈ C, f.Fits) {v : TextTree}
    (hv : v.valid = true) : (plugIn C v).valid = true := by
  induction C with
  | nil => exact hv
  | cons f C ih =>
    rw [plugIn_cons, Frame.valid_plug, (hC f List.mem_cons_self).1,
      ih fun g hg => hC g (List.mem_cons_of_mem f hg)]
    rfl

/-! ## One step -/

theorem isDigit_of_mem_toString {n : Nat} {c : Char} (hc : c ∈ (toString n).toList) :
    c.isDigit = true :=
  Nat.isDigit_of_mem_toDigits (b := 10) (by decide) (by decide)
    (by simpa [Nat.toList_repr] using hc)

/-- The digits of an index are read back as the index. -/
theorem arrayIndex?_toString (n : Nat) : arrayIndex? (toString n).toList = some n := by
  have hfold : (Nat.toDigits 10 n).foldl (fun n c => n * 10 + (c.toNat - 48)) 0 =
      Nat.ofDigitChars 10 (Nat.toDigits 10 n) 0 := by
    simp [Nat.ofDigitChars_eq_foldl, Nat.mul_comm]
  have hdigits : ∀ c ∈ Nat.toDigits 10 n, c.isDigit = true := fun c hc =>
    isDigit_of_mem_toString (by simpa [Nat.toList_repr] using hc)
  simpa [arrayIndex?, Nat.toDigits_ne_nil, hfold] using hdigits

/-- An index is a plain name. -/
theorem plain_toString (n : Nat) : Plain (toString n) := by
  obtain ⟨c, cs, hc⟩ := List.exists_cons_of_ne_nil
    (show (toString n).toList ≠ [] by simp [Nat.toList_repr, Nat.toDigits_ne_nil])
  have hd : c.isDigit = true := isDigit_of_mem_toString (by rw [hc]; exact List.mem_cons_self)
  refine ⟨fun h => by simp [h] at hc, fun d hd' => ?_⟩
  rw [hc] at hd'
  obtain rfl := Option.some.inj hd'
  refine ⟨?_, ?_, ?_, ?_⟩ <;> rintro rfl <;> exact absurd hd (by decide)

theorem isPathSyntax_of_isDigit {c : Char} (h : c.isDigit = true) : isPathSyntax c = false := by
  simp only [isPathSyntax, Bool.or_eq_false_iff, decide_eq_false_iff_not]
  refine ⟨⟨⟨⟨⟨⟨?_, ?_⟩, ?_⟩, ?_⟩, ?_⟩, ?_⟩, ?_⟩ <;>
    rintro rfl <;> exact absurd h (by decide)

/-- A name without characters of the path syntax is its own escaped form. -/
theorem escapeChars_of_unescaped {k : List Char} (h : ∀ c ∈ k, isPathSyntax c = false) :
    escapeChars k = k := by
  induction k with
  | nil => rfl
  | cons c k ih =>
    rw [escapeChars_cons, h c List.mem_cons_self, ih fun d hd => h d (List.mem_cons_of_mem c hd)]
    rfl

/-- The digits of an index need no escapes. -/
theorem escapeChars_toString (n : Nat) :
    escapeChars (toString n).toList = (toString n).toList :=
  escapeChars_of_unescaped fun _ hc => isPathSyntax_of_isDigit (isDigit_of_mem_toString hc)

theorem length_sub_length (blank : List Char) (t : TextTree) (trail : List Char) :
    (blank ++ t.text ++ trail).length - (t.text ++ trail).length = blank.length := by
  simp only [List.length_append]
  omega

/-- A step looked up as it is written finds, in an object's text, the first member of its
name. -/
theorem find?_obj {ms : List (Member TextTree)} {close : List Char}
    (h : (TextTree.obj ms close).valid = true) {blank : List Char} (hb : allBlank blank = true)
    (trail : List Char) {w : List Char} (hw : lookupName w = some w) :
    find? (blank ++ (TextTree.obj ms close).text ++ trail) w =
      ((entries ((TextTree.obj ms close).text ++ trail)).find?
        (·.name = String.ofList (unescapeName w))).map fun e => (blank.length + e.offset, e.raw) := by
  unfold find?
  rw [hw]
  simp only [rootStart, dropLow_text hb h, length_sub_length, Option.bind_eq_bind,
    Option.bind_some]
  -- the text opens with a brace, so the step is looked up by name
  simp only [TextTree.text, List.cons_append]
  cases (entries ('{' :: (membersText ms ++ close ++ ['}'] ++ trail))).find?
    (·.name = String.ofList (unescapeName w)) <;> rfl

/-- A step looked up as it is written finds, in an array's text, the item at the index it
spells. -/
theorem find?_arr {is : List (Item TextTree)} {close : List Char}
    (h : (TextTree.arr is close).valid = true) {blank : List Char} (hb : allBlank blank = true)
    (trail : List Char) {w : List Char} (hw : lookupName w = some w) :
    find? (blank ++ (TextTree.arr is close).text ++ trail) w =
      ((arrayIndex? (w.takeWhile fun c => c ≠ '.' && c ≠ '|')).bind fun i =>
        (entries ((TextTree.arr is close).text ++ trail))[i]?).map
          fun e => (blank.length + e.offset, e.raw) := by
  unfold find?
  rw [hw]
  simp only [rootStart, dropLow_text hb h, length_sub_length, Option.bind_eq_bind,
    Option.bind_some]
  -- the text opens with a bracket, so the step is looked up by index
  simp only [TextTree.text, List.cons_append]
  cases arrayIndex? (w.takeWhile fun c => c ≠ '.' && c ≠ '|') with
  | none => rfl
  | some i =>
    simp only [Option.bind_some]
    cases (entries ('[' :: (itemsText is ++ close ++ [']'] ++ trail)))[i]? <;> rfl

/-- A step written for a name is read back as the name. -/
theorem ofList_unescapeName_nameStep (k : String) :
    String.ofList (unescapeName (nameStep k).written) = k := by
  simp [nameStep, unescapeName_escape]

/-- No entry of members without a name is found by that name. -/
theorem find?_memberEntries_eq_none {k : String} {ms : List (Member TextTree)}
    (h : k ∉ ms.map (·.name)) (total : Nat) (after : List Char) :
    (memberEntries total after ms).find? (·.name = k) = none := by
  rw [List.find?_eq_none]
  intro e he hk
  apply h
  rw [← map_name_memberEntries total after ms]
  exact List.mem_map.mpr ⟨e, he, of_decide_eq_true hk⟩

theorem takeWhile_toString (n : Nat) :
    (toString n).toList.takeWhile (fun c => c ≠ '.' && c ≠ '|') = (toString n).toList := by
  rw [List.takeWhile_eq_self_iff]
  intro c hc
  have hd := isDigit_of_mem_toString hc
  have hdot : c ≠ '.' := by rintro rfl; exact absurd hd (by decide)
  have hbar : c ≠ '|' := by rintro rfl; exact absurd hd (by decide)
  simp [hdot, hbar]

/-- The step of a frame that fits finds the frame's value, just after the container's text
before it. -/
theorem find?_plug {f : Frame} (hf : f.Fits) {v : TextTree} (hv : v.valid = true)
    {blank : List Char} (hb : allBlank blank = true) (trail : List Char) :
    find? (blank ++ (f.plug v).text ++ trail) (nameStep f.name).written =
      some ((blank ++ f.before).length, v.text) := by
  obtain ⟨hvalid, hplain, hfirst⟩ := hf
  have hT : (f.plug v).valid = true := by rw [Frame.valid_plug, hvalid, hv]; rfl
  have htext := Frame.text_plug f v
  have hw := lookupName_nameStep hplain
  cases f with
  | member pre lead key colon post close =>
    simp only [Frame.plug] at hT htext ⊢
    -- no member before has the name, and the member of the frame has it
    rw [find?_obj hT hb trail hw, entries_obj hT trail, memberEntries_append,
      ofList_unescapeName_nameStep, List.find?_append, find?_memberEntries_eq_none hfirst]
    simp [memberEntries, Member.name, Frame.name, htext, Frame.before, Frame.after]
    omega
  | item pre lead post close =>
    simp only [Frame.plug] at hT htext ⊢
    -- the step spells the index of the frame's item
    rw [find?_arr hT hb trail hw]
    simp only [Frame.name, nameStep, escapeChars_toString, takeWhile_toString,
      arrayIndex?_toString, Option.bind_some]
    rw [entries_arr hT trail, itemEntries_append, List.getElem?_append_right (by simp)]
    simp [itemEntries, htext, Frame.before, Frame.after]
    omega

/-! ## A whole path -/

/-- Setting a text at the steps of a place's frames writes it in place of the value there. The
induction is on the frames, outermost first: each step finds the value its frame holds, and the
rest of the path is set inside that value's own text. -/
theorem setAt_plugIn (v' : TextTree) : ∀ (C : List Frame), C ≠ [] → (∀ f ∈ C, f.Fits) →
    ∀ {v : TextTree}, v.valid = true → ∀ {blank : List Char}, allBlank blank = true →
    ∀ (trail : List Char),
    setAt v'.text (C.map fun f => nameStep f.name) (blank ++ (plugIn C v).text ++ trail) =
      .ok (blank ++ (plugIn C v').text ++ trail)
  | [], hne, _, _, _, _, _, _ => absurd rfl hne
  | f :: C, _, hC, v, hv, blank, hb, trail => by
    have hf := hC f List.mem_cons_self
    have hC' : ∀ g ∈ C, g.Fits := fun g hg => hC g (List.mem_cons_of_mem f hg)
    have hu : (plugIn C v).valid = true := valid_plugIn hC' hv
    -- the document is the container's text around the value the first step finds
    have hdoc : blank ++ (f.plug (plugIn C v)).text ++ trail =
        (blank ++ f.before) ++ ((plugIn C v).text ++ (f.after ++ trail)) := by
      simp [Frame.text_plug]
    have hafter : (blank ++ f.before ++ ((plugIn C v).text ++ (f.after ++ trail))).drop
        ((blank ++ f.before).length + (plugIn C v).text.length) = f.after ++ trail := by
      rw [← List.append_assoc, List.drop_left' (by simp only [List.length_append])]
    simp only [List.map_cons, plugIn_cons, setAt, find?_plug hf hu hb trail]
    rw [hdoc, List.take_left' rfl, hafter]
    cases C with
    | nil => simp [Frame.text_plug]
    | cons g C =>
      -- the rest of the path is set inside the value found
      have hinner := setAt_plugIn v' (g :: C) (List.cons_ne_nil g C) hC' hv
        (show allBlank [] = true from rfl) []
      simp only [List.nil_append, List.append_nil] at hinner
      rw [hinner]
      simp [Except.map, Frame.text_plug]

/-- A path of plain names is never empty, and is set step by step. -/
theorem setPath_keyPath {names : List String} (hne : names ≠ []) (hk : ∀ k ∈ names, Plain k)
    (doc raw : List Char) :
    setPath doc (keyPath names) raw = setAt raw (names.map nameStep) doc := by
  have hsteps := steps_keyPath hne hk
  have hpath : (keyPath names).isEmpty = false := by
    cases h : (keyPath names).isEmpty with
    | false => rfl
    | true =>
      -- the empty path is read as one empty step, which no plain name gives
      have hempty : steps (keyPath names).toList = some [⟨[], [], false⟩] := by
        rw [String.isEmpty_iff.mp h]
        rfl
      rw [hempty] at hsteps
      cases names with
      | nil => exact absurd rfl hne
      | cons k ks =>
        simp only [List.map_cons, Option.some.injEq, List.cons.injEq, nameStep,
          Step.mk.injEq] at hsteps
        exact absurd (String.toList_eq_nil_iff.mp hsteps.1.1.symm) (hk k List.mem_cons_self).1
  simp [setPath, hpath, hsteps]

/-- Setting a text at the key path of a place writes it in place of the value there, and
leaves every other character of the document where it was. -/
theorem setPath_plugIn {C : List Frame} (hne : C ≠ []) (hC : ∀ f ∈ C, f.Fits) {v : TextTree}
    (hv : v.valid = true) (v' : TextTree) {blank : List Char} (hb : allBlank blank = true)
    (trail : List Char) :
    setPath (blank ++ (plugIn C v).text ++ trail) (keyPath (C.map Frame.name)) v'.text =
      .ok (blank ++ (plugIn C v').text ++ trail) := by
  have hplain : ∀ k ∈ C.map Frame.name, Plain k := by
    intro k hk
    obtain ⟨f, hf, rfl⟩ := List.mem_map.mp hk
    exact (hC f hf).2.1
  rw [setPath_keyPath (by simpa using hne) hplain, List.map_map]
  exact setAt_plugIn v' C hne hC hv hb trail

end RemoteLsp.Message
