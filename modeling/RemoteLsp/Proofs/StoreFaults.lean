import RemoteLsp.Proofs.StoreForgetting

/-!
# When the identity store faults

The store reads its two documents on first use. A document that is missing, cannot be read, is
not JSON or is JSON of another shape reads as an empty map, and entries that are `null` are
dropped; but a document that holds JSON `null` itself reads as no map at all
(`load_history_eq_none_iff`). Every change copes with whatever was read, except that recording
into an absent map faults: remembering an environment without a history map, or marking one valid
without a validation map. Which maps are present never changes, so a run of changes faults exactly
when one of them records into an absent map (`changes_error_iff`).

Saving never fails as far as the caller sees: the maps the store answers from, and whether a change
faults, are the same whichever step of every save fails (`changes_maps_fault`).

Main statement: `store_faults_only_on_null_documents`.
-/

namespace RemoteLsp

namespace Json

/-- A text decodes as `null` into a map exactly when it is the JSON `null`. -/
theorem decode_map_eq_nil_iff (t : String) (value : Schema) (text : String) :
    decode (.map t value) text = .ok (.ok .nil) ↔ read text = .ok .null := by
  obtain ⟨fuel, hfuel⟩ : ∃ fuel, 2 * text.length + 2 = fuel + 1 := ⟨_, rfl⟩
  simp only [decode, hfuel]
  cases hr : read text with
  | error e => simp [bind, Except.bind]
  | ok j =>
    simp only [bind, Except.bind, pure, Except.pure, Except.ok.injEq]
    cases j with
    | null => exact iff_of_true rfl rfl
    | obj ms => simpa using decodeInto_map_obj_ne_nil _ _ _ _ _ ms _
    | _ => exact iff_of_false (fun h => by cases h) (by simp)

end Json

namespace Identity

open Json

/-- A document that is there, can be read, and holds JSON `null`. -/
def Documents.HoldsNull (d : Documents) (name : String) : Prop :=
  name ∉ d.unreadable ∧ ∃ text, d.find? name = some text ∧ read text = .ok .null

/-- Reading a map document gives no map exactly when the document holds `null`. -/
theorem readDocument_map_eq_none_iff {α : Type} (d : Documents) (name t : String) (value : Schema)
    (entry : Val → Option α) :
    readDocument d name (.map t value) entry = none ↔ d.HoldsNull name := by
  unfold readDocument Documents.HoldsNull
  by_cases hu : name ∈ d.unreadable
  · simp [hu]
  · cases hf : d.find? name with
    | none => simp [hu]
    | some text =>
      simp only [hu, if_false, not_false_eq_true, Option.some.injEq, exists_eq_left', true_and]
      rw [← decode_map_eq_nil_iff t value]
      split <;> simp_all

theorem load_history_eq_none_iff (d : Documents) :
    (Store.load d).history = none ↔ d.HoldsNull historyFile :=
  readDocument_map_eq_none_iff _ _ _ _ _

theorem load_valid_eq_none_iff (d : Documents) :
    (Store.load d).valid = none ↔ d.HoldsNull validationFile :=
  readDocument_map_eq_none_iff _ _ _ _ _

namespace Store

/-- The maps a store answers from. -/
def maps (s : Store) : Option (Assoc History) × Option (Assoc (Assoc Bool)) := (s.history, s.valid)

/-- A change that records into a map the store does not have: remembering an environment of a
host without a history map, or marking a validation without a validation map. -/
def Refuses (s : Store) : Change → Prop
  | .remember host env =>
    host ≠ "" ∧ (Path.normalizeEnvironment env).isSome ∧ s.history = none
  | .markValid _ _ => s.valid = none
  | .forget _ _ => False
  | .forgetValidation _ => False

/-- A change faults exactly when it records into an absent map, with the message of that fault. -/
theorem change_error_iff (s : Store) (c : Change) (m : String) :
    s.change c = .error m ↔ s.Refuses c ∧ m = nilMapMessage := by
  cases c with
  | remember host env =>
    simp only [change, remember, Refuses]
    cases hn : Path.normalizeEnvironment env with
    | none => simp
    | some n =>
      by_cases hh : host = ""
      · simp [hh]
      · have he : host.isEmpty = false := by simpa [String.isEmpty_iff] using hh
        cases hs : s.history <;> simp [he, hh, eq_comm]
  | markValid key env =>
    simp only [change, markValid, Refuses]
    cases s.valid <;> simp [eq_comm]
  | forget host env => simp [change, Refuses]
  | forgetValidation key => simp [change, Refuses]

/-- Whether a change is refused depends only on which maps are present. -/
theorem refuses_congr {s s' : Store} (hh : s'.history.isSome = s.history.isSome)
    (hv : s'.valid.isSome = s.valid.isSome) (c : Change) : s'.Refuses c ↔ s.Refuses c := by
  cases c <;> simp only [Refuses, ← Option.not_isSome_iff_eq_none, hh, hv]

/-- A change that goes through keeps the same maps present. -/
theorem change_present {s s' : Store} {c : Change} (h : s.change c = .ok s') :
    s'.history.isSome = s.history.isSome ∧ s'.valid.isSome = s.valid.isSome := by
  cases c with
  | remember host env =>
    simp only [change, remember] at h
    split at h
    · cases h; simp
    · split at h
      · cases h; simp
      · split at h
        · cases h
        · cases h; simp_all
  | markValid key env =>
    simp only [change, markValid] at h
    split at h
    · cases h
    · cases h; simp_all
  | forget host env =>
    simp only [change, forget, Except.ok.injEq] at h
    subst h
    split
    · simp
    · split <;> simp [forgetHost, forgetEnvironment]
  | forgetValidation key =>
    cases h
    simp [forgetValidation]

/-- A run of changes faults exactly when one of them records into a map that the store started
without; the fault is always that of an absent map. -/
theorem changes_error_iff (s : Store) (cs : List Change) (m : String) :
    s.changes cs = .error m ↔ m = nilMapMessage ∧ ∃ c ∈ cs, s.Refuses c := by
  induction cs generalizing s with
  | nil => simp [changes, pure, Except.pure]
  | cons c cs ih =>
    rw [changes_cons]
    cases hc : s.change c with
    | error m' =>
      obtain ⟨href, rfl⟩ := (change_error_iff s c m').mp hc
      simp only [bind, Except.bind, Except.error.injEq, List.mem_cons, exists_eq_or_imp]
      exact ⟨fun h => ⟨h.symm, .inl href⟩, fun h => h.1.symm⟩
    | ok s' =>
      -- the change went through, so it is not refused, and the rest sees the same maps present
      have hnot : ¬ s.Refuses c := fun hr => by
        simpa [hc] using (change_error_iff s c nilMapMessage).mpr ⟨hr, rfl⟩
      obtain ⟨hh, hv⟩ := change_present hc
      simp only [bind, Except.bind, ih s', List.mem_cons, exists_eq_or_imp, hnot, false_or,
        refuses_congr hh hv]

/-- A change reads only the maps of the store, and writes nothing else that it answers from. -/
theorem change_maps (s : Store) (docs : Documents) (c : Change) :
    ({ s with documents := docs }.change c).map maps = (s.change c).map maps := by
  cases c with
  | remember host env =>
    simp only [change, remember]
    split
    · rfl
    · split
      · rfl
      · cases s.history <;> rfl
  | markValid key env =>
    simp only [change, markValid]
    cases s.valid <;> rfl
  | forget host env =>
    simp only [change, forget]
    split
    · rfl
    · split <;> rfl
  | forgetValidation key => rfl

/-- Two stores with the same maps fault alike and answer alike after any run of changes. -/
theorem changes_maps (s : Store) (docs : Documents) (cs : List Change) :
    ({ s with documents := docs }.changes cs).map maps = (s.changes cs).map maps := by
  induction cs generalizing s docs with
  | nil => rfl
  | cons c cs ih =>
    have hc := change_maps s docs c
    rw [changes_cons, changes_cons]
    cases h : s.change c with
    | error m =>
      rw [h] at hc
      cases h' : ({ s with documents := docs }.change c) with
      | error m' =>
        rw [h'] at hc
        exact hc
      | ok s' =>
        rw [h'] at hc
        cases hc
    | ok s₁ =>
      rw [h] at hc
      cases h' : ({ s with documents := docs }.change c) with
      | error m' =>
        rw [h'] at hc
        cases hc
      | ok s₁' =>
        rw [h'] at hc
        -- the two results differ in their documents only
        have heq : s₁' = { s₁ with documents := s₁'.documents } := by
          simp only [Except.map, Except.ok.injEq, maps, Prod.mk.injEq] at hc
          cases s₁'
          cases s₁
          simp_all
        simp only [bind, Except.bind]
        rw [heq]
        exact ih s₁ _

/-- The maps of a store do not depend on which step of a save fails. -/
theorem changes_maps_fault (d : Documents) (f : Option WriteFault) (cs : List Change) :
    ((Store.load { d with fault := f }).changes cs).map maps =
      ((Store.load d).changes cs).map maps :=
  changes_maps (Store.load d) _ cs

end Store

/-- Whatever the two documents hold, whether they can be read, and whichever step of every save
fails: a document reads as no map exactly when it holds JSON `null`; a run of changes faults
exactly when one of them records into such an absent map, with the fault of an absent map; and
what the store answers from never depends on the failing save step. -/
theorem store_faults_only_on_null_documents (d : Documents) (cs : List Change) :
    ((Store.load d).history = none ↔ d.HoldsNull historyFile) ∧
    ((Store.load d).valid = none ↔ d.HoldsNull validationFile) ∧
    (∀ m, (Store.load d).changes cs = .error m ↔
      m = nilMapMessage ∧ ∃ c ∈ cs, (Store.load d).Refuses c) ∧
    ∀ f, ((Store.load { d with fault := f }).changes cs).map Store.maps =
      ((Store.load d).changes cs).map Store.maps :=
  ⟨load_history_eq_none_iff d, load_valid_eq_none_iff d, Store.changes_error_iff _ cs,
    fun f => Store.changes_maps_fault d f cs⟩

/-- A validation document holding `null`: marking an environment valid faults. -/
theorem null_validation_faults_markValid :
    (⟨[("validated.json", "null")], [], none⟩ : Documents).HoldsNull validationFile ∧
      (Store.load ⟨[("validated.json", "null")], [], none⟩).changes
        [.markValid "pyright:h1" "/srv/venv"] = .error nilMapMessage :=
  ⟨⟨by decide, "null", rfl, rfl⟩, rfl⟩

end Identity

end RemoteLsp
