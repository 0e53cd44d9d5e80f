import RemoteLsp.Proofs.Execution

/-!
# Work in flight

While the daemon waits on the world, what it will do next is data: the continuation of a remote
run, the continuation of a prompt, a queued task, a waiter on a validation key. Three kinds of
such data matter to the life of a session:

* an *enable* under way, named by the session instance and the generation it started in: it
  waits on the check of a validation key, on the host prompt, or on the search for the
  workspace root, and will start a server or give up;
* a *check* of a validation key under way, carried by an attempt;
* the *exit* of a server, queued for the loop.

`enables`, `checks` and `exits` collect them from the keys, the pending runs, the pending
prompts and the loop's queue. The keys are an association list with one entry per key; the
lemmas on `put` say what setting a key does to what it holds and to the waiters counted.
-/

namespace RemoteLsp

/-! ## The table of validation keys -/

namespace Identity.Assoc

variable {β : Type}

theorem get?_put (m : Assoc β) (k k' : String) (v : β) :
    get? (put m k v) k' = if k' = k then some v else get? m k' := by
  unfold put get?
  by_cases hm : m.any (·.1 = k) = true
  · rw [if_pos hm, List.find?_map]
    have hp : ((fun e : String × β => decide (e.1 = k')) ∘ fun e => if e.1 = k then (k, v) else e) =
        fun e => decide (e.1 = k') := by
      funext e
      simp only [Function.comp]
      split <;> simp_all
    rw [hp]
    cases hf : m.find? (fun e => decide (e.1 = k')) with
    | none =>
      have hk : k' ≠ k := by
        rintro rfl
        obtain ⟨e, he, hek⟩ := List.any_eq_true.mp hm
        exact List.find?_eq_none.mp hf e he hek
      simp [hk]
    | some e =>
      have he := List.find?_some hf
      simp only [decide_eq_true_eq] at he
      by_cases hk : k' = k <;> simp [he, hk]
  · rw [if_neg hm, List.find?_append]
    by_cases hk : k' = k
    · subst hk
      have hn : m.find? (fun e => decide (e.1 = k')) = none := by
        refine List.find?_eq_none.mpr fun e he hek => hm ?_
        exact List.any_eq_true.mpr ⟨e, he, hek⟩
      simp [hn]
    · simp [Ne.symm hk, hk]

theorem map_fst_put (m : Assoc β) (k : String) (v : β) :
    (put m k v).map (·.1) = if m.any (·.1 = k) then m.map (·.1) else m.map (·.1) ++ [k] := by
  unfold put
  split
  · rw [List.map_map]
    congr 1
    funext e
    simp only [Function.comp]
    split <;> simp_all
  · simp

theorem nodup_put {m : Assoc β} (hm : (m.map (·.1)).Nodup) (k : String) (v : β) :
    ((put m k v).map (·.1)).Nodup := by
  rw [map_fst_put]
  split
  · exact hm
  · rename_i hk
    refine List.nodup_append.mpr ⟨hm, by simp, ?_⟩
    intro a ha b hb
    simp only [List.mem_singleton] at hb
    subst hb
    rintro rfl
    obtain ⟨e, he, rfl⟩ := List.mem_map.mp ha
    exact hk (List.any_eq_true.mpr ⟨e, he, by simp⟩)

theorem put_cons_ne {m : Assoc β} {k k' : String} {b v : β} (h : k' ≠ k) :
    put ((k', b) :: m) k v = (k', b) :: put m k v := by
  unfold put
  by_cases hm : m.any (·.1 = k) = true
  · simp [hm, h]
  · simp [hm, h]

theorem put_cons_self {m : Assoc β} {k : String} {b v : β} (hk : k ∉ m.map (·.1)) :
    put ((k, b) :: m) k v = (k, v) :: m := by
  have hid : ∀ e ∈ m, (if e.1 = k then (k, v) else e) = e := fun e he =>
    if_neg fun (h : e.1 = k) => hk (h ▸ List.mem_map_of_mem he)
  simp [put, List.map_congr_left hid]

theorem get?_cons (m : Assoc β) (k k' : String) (b : β) :
    get? ((k', b) :: m) k = if k' = k then some b else get? m k := by
  unfold get?
  by_cases h : k' = k <;> simp [h]

theorem count_flatMap_put {γ : Type} [BEq γ] [LawfulBEq γ] (F : β → List γ) {m : Assoc β}
    (hm : (m.map (·.1)).Nodup) (k : String) (v : β) (x : γ) :
    ((put m k v).flatMap (fun e => F e.2)).count x + (((get? m k).map F).getD []).count x =
      (m.flatMap (fun e => F e.2)).count x + (F v).count x := by
  induction m with
  | nil => simp [put, get?]
  | cons e m ih =>
    obtain ⟨k', b⟩ := e
    simp only [List.map_cons, List.nodup_cons] at hm
    by_cases hk : k' = k
    · subst hk
      simp only [put_cons_self hm.1, get?_cons, if_true, List.flatMap_cons, List.count_append,
        Option.map_some, Option.getD_some]
      omega
    · have := ih hm.2
      simp only [put_cons_ne hk, get?_cons, if_neg hk, List.flatMap_cons, List.count_append]
      omega

end Identity.Assoc

namespace Daemon

namespace RunNext

/-- The enable a run continues: the search for an instance's workspace root. -/
def enable? : RunNext → Option (Nat × Nat)
  | .root inst gen _ => some (inst, gen)
  | _ => none

/-- The check a run belongs to. -/
def check? : RunNext → Option Attempt
  | .executable a => some a
  | .version a => some a
  | .detect a _ => some a
  | .install a => some a
  | .root .. => none

end RunNext

namespace InputNext

/-- The enable an answer continues: the host prompt of an instance. -/
def enable? : InputNext → Option (Nat × Nat)
  | .host inst gen => some (inst, gen)
  | .environment .. => none

/-- The check an answer continues: the prompt for a replacement environment. -/
def check? : InputNext → Option Attempt
  | .environment a _ => some a
  | .host .. => none

end InputNext

namespace Prompt

/-- The enable a pending prompt continues. -/
def enable? : Prompt → Option (Nat × Nat)
  | .input _ next => next.enable?
  | .confirm .. => none

/-- The check a pending prompt continues. -/
def check? : Prompt → Option Attempt
  | .input _ next => next.check?
  | .confirm _ a => some a

end Prompt

namespace Task

/-- The enable a queued task continues. -/
def enable? : Task → Option (Nat × Nat)
  | .ran next _ => next.enable?
  | .answered next _ _ => next.enable?
  | _ => none

/-- The check a queued task continues. -/
def check? : Task → Option Attempt
  | .ran next _ => next.check?
  | .answered next _ _ => next.check?
  | .confirmed a _ _ => some a
  | _ => none

/-- The server whose exit a queued task reports. -/
def exit? : Task → Option Nat
  | .exited _ n _ => some n
  | _ => none

end Task

/-- The enables waiting on a key: one per waiter. -/
def KeyState.enables (ks : KeyState) : List (Nat × Nat) := ks.waiters.map fun w => (w.owner, w.gen)

/-- Every enable under way, by instance and generation. -/
def enables (d : State) : List (Nat × Nat) :=
  d.keys.flatMap (·.2.enables) ++ d.world.pendingRuns.filterMap (·.2.enable?) ++
    d.world.prompts.filterMap Prompt.enable? ++ d.world.queue.filterMap Task.enable?

/-- Every check under way. -/
def checks (d : State) : List Attempt :=
  d.world.pendingRuns.filterMap (·.2.check?) ++ d.world.prompts.filterMap Prompt.check? ++
    d.world.queue.filterMap Task.check?

/-- The servers whose exits are queued. -/
def exits (d : State) : List Nat := d.world.queue.filterMap Task.exit?

/-! ## What the primitives do to the work in flight -/

section Views

variable (d : State)

theorem enables_post (t : Task) :
    enables { d with world := { d.world with queue := d.world.queue ++ [t] } } =
      enables d ++ t.enable?.toList := by
  cases h : t.enable? <;> simp [enables, h]

theorem checks_post (t : Task) :
    checks { d with world := { d.world with queue := d.world.queue ++ [t] } } =
      checks d ++ t.check?.toList := by
  cases h : t.check? <;> simp [checks, h]

theorem exits_post (t : Task) :
    exits { d with world := { d.world with queue := d.world.queue ++ [t] } } =
      exits d ++ t.exit?.toList := by
  cases h : t.exit? <;> simp [exits, h]

theorem enables_pend (entry : Nat × RunNext) :
    (enables { d with world := { d.world with pendingRuns := d.world.pendingRuns ++ [entry] } }).Perm
      (enables d ++ entry.2.enable?.toList) := by
  cases h : entry.2.enable? with
  | none => simp [enables, h]
  | some e =>
    simp only [enables, List.filterMap_append, List.filterMap_cons, List.filterMap_nil, h,
      Option.toList_some, List.append_assoc]
    exact List.Perm.append_left _ (List.Perm.append_left _
      (List.perm_append_comm.trans (by simp)))

theorem checks_pend (entry : Nat × RunNext) :
    (checks { d with world := { d.world with pendingRuns := d.world.pendingRuns ++ [entry] } }).Perm
      (checks d ++ entry.2.check?.toList) := by
  cases h : entry.2.check? with
  | none => simp [checks, h]
  | some a =>
    simp only [checks, List.filterMap_append, List.filterMap_cons, List.filterMap_nil, h,
      Option.toList_some, List.append_assoc]
    exact List.Perm.append_left _
      (List.perm_append_comm.trans (by simp))

theorem enables_ask (p : Prompt) :
    (enables { d with world := { d.world with prompts := d.world.prompts ++ [p] } }).Perm
      (enables d ++ p.enable?.toList) := by
  cases h : p.enable? with
  | none => simp [enables, h]
  | some e =>
    simp only [enables, List.filterMap_append, List.filterMap_cons, List.filterMap_nil, h,
      Option.toList_some, List.append_assoc]
    exact List.Perm.append_left _ (List.Perm.append_left _ (List.Perm.append_left _
      (List.perm_append_comm.trans (by simp))))

theorem checks_ask (p : Prompt) :
    (checks { d with world := { d.world with prompts := d.world.prompts ++ [p] } }).Perm
      (checks d ++ p.check?.toList) := by
  cases h : p.check? with
  | none => simp [checks, h]
  | some a =>
    simp only [checks, List.filterMap_append, List.filterMap_cons, List.filterMap_nil, h,
      Option.toList_some, List.append_assoc]
    exact List.Perm.append_left _ (List.Perm.append_left _
      (List.perm_append_comm.trans (by simp)))

end Views

end Daemon

end RemoteLsp
