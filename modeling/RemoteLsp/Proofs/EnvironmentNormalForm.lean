import RemoteLsp.Proofs.StoreForgetting

/-!
# When an environment root is its own normal form

Normalising a user's text trims its blanks once, then only ever cuts characters off the end:
trailing slashes and the suffixes `/bin/python3`, `/bin/python`, `/bin`, with `/` standing for
a path that nothing is left of. So a root starts where the trimmed text starts, with no blank,
and is never longer than it.

Cutting a suffix can lay a blank bare at the end (`a /bin` gives `a `), and the trim that would
take it off has already run. Normalising such a root again trims that blank: a root is its own
normal form exactly when it does not end with a blank.

The loop repeats its round until a round changes nothing. A round that changes a non-empty path
makes it shorter, the round that cuts the path to nothing and puts `/` in its place included:
only a path of two characters or more can be cut to nothing. So the loop, with no bound on its
rounds (`LoopReturns`), returns from every non-empty path, and the bounded loop, given a round
more than the path has characters, returns the same root. That root ends with a slash only when
it is `/`, and with none of `/bin`, `/bin/python`, `/bin/python3`.

Main statements: `normalizeEnvironment_stable_iff`, `normalizeEnvironment_loop_ends_canonical`.
-/

namespace RemoteLsp

namespace Text

/-- Trimming a text that ends with a blank makes it shorter. -/
theorem trimBlanks_length_lt {s : String} (h : ∃ c ∈ s.toList.getLast?, isBlank c = true) :
    (trimBlanks s).length < s.length := by
  obtain ⟨c, hc, hb⟩ := h
  rw [trimBlanks_eq_rdropWhile, String.length_ofList, ← String.length_toList]
  -- what is kept is a piece of the text that does not end with the text's last character
  have hinf : (dropBlanks s.toList).rdropWhile isBlank <:+: s.toList :=
    (List.rdropWhile_prefix _ _).isInfix.trans (List.dropWhile_suffix _).isInfix
  refine lt_of_le_of_ne hinf.length_le fun hlen => ?_
  have hkept := getLast?_rdropWhile isBlank (dropBlanks s.toList) c
    (by rw [hinf.eq_of_length hlen]; exact hc)
  simp [hb] at hkept

end Text

namespace Path

/-- Dropping a suffix keeps a prefix. -/
theorem prefix_of_dropSuffix? {s p q : String} (h : Text.dropSuffix? s p = some q) :
    q.toList <+: s.toList := by
  unfold Text.dropSuffix? at h
  split at h
  · cases h
    rw [String.toList_ofList]
    exact List.take_prefix _ _
  · cases h

theorem dropEnvironmentSuffix_prefix (p : String) :
    ∀ ss : List String, (dropEnvironmentSuffix p ss).toList <+: p.toList
  | [] => List.prefix_refl _
  | s :: rest => by
    rw [dropEnvironmentSuffix]
    cases hd : Text.dropSuffix? p s with
    | some q => exact prefix_of_dropSuffix? hd
    | none => exact dropEnvironmentSuffix_prefix p rest

theorem trimTrailingSlashes_prefix (p : String) :
    (trimTrailingSlashes p).toList <+: p.toList ∨ trimTrailingSlashes p = "/" := by
  rw [trimTrailingSlashes_eq]
  split
  · exact .inr rfl
  · rw [trimRightChar_slash_eq, String.toList_ofList]
    exact .inl (List.rdropWhile_prefix _ _)

/-- One round of normalisation keeps a prefix of the path, or gives `/`. -/
theorem normalizeStep_prefix (p : String) :
    (normalizeStep p).toList <+: p.toList ∨ normalizeStep p = "/" := by
  have hd := dropEnvironmentSuffix_prefix (trimTrailingSlashes p) environmentSuffixes
  have ht := trimTrailingSlashes_prefix p
  rw [normalizeStep_eq]
  generalize trimTrailingSlashes p = t at hd ht
  generalize dropEnvironmentSuffix t environmentSuffixes = q at hd ⊢
  split
  · exact .inr rfl
  rename_i hq
  rcases ht with ht | rfl
  · exact .inl (hd.trans ht)
  · -- the only non-empty prefix of `/` is `/`
    rcases Text.prefix_eq_or_length_lt hd with he | hlt
    · exact .inr (String.toList_inj.mp he)
    · exact absurd (String.length_eq_zero_iff.mp (by simpa using hlt)) hq

/-- The loop keeps a prefix of the path it starts from, or gives `/`. -/
theorem normalizeLoop_prefix : ∀ (fuel : Nat) (p : String),
    (normalizeLoop fuel p).toList <+: p.toList ∨ normalizeLoop fuel p = "/"
  | 0, _ => .inl (List.prefix_refl _)
  | fuel + 1, p => by
    simp only [normalizeLoop]
    split
    · exact .inl (List.prefix_refl _)
    · rcases normalizeStep_prefix p with hs | hs
      · rcases normalizeLoop_prefix fuel (normalizeStep p) with hl | hl
        · exact .inl (hl.trans hs)
        · exact .inr hl
      · rw [hs, normalizeLoop_root]
        exact .inr rfl

/-- A root is a prefix of the trimmed text it comes from, or `/`. -/
theorem normalizeEnvironment_prefix {raw root : String} (h : normalizeEnvironment raw = some root) :
    root.toList <+: (Text.trimBlanks raw).toList ∨ root = "/" := by
  rw [normalizeEnvironment_eq] at h
  split at h
  · cases h
  · rw [← Option.some.inj h]
    exact normalizeLoop_prefix _ _

/-- A root does not start with a blank. -/
theorem normalizeEnvironment_head {raw root : String} (h : normalizeEnvironment raw = some root) :
    ∀ c ∈ root.toList.head?, Text.isBlank c = false := by
  rcases normalizeEnvironment_prefix h with hp | rfl
  · have hne : root.toList ≠ [] := by
      simpa [String.toList_eq_nil_iff] using normalizeEnvironment_ne_empty h
    rw [Text.prefix_head?_eq hp hne]
    exact (Text.trimBlanks_trimmed raw).1
  · intro c hc
    rw [show ("/" : String).toList.head? = some '/' from rfl, Option.mem_some_iff] at hc
    subst hc
    rfl

/-- A text that ends with a blank is not its own normal form: normalising it trims the blank,
and cutting further only shortens what is left. -/
theorem normalizeEnvironment_ne_self {e : String}
    (hb : ∃ c ∈ e.toList.getLast?, Text.isBlank c = true) : normalizeEnvironment e ≠ some e := by
  intro he
  rcases normalizeEnvironment_prefix he with hp | rfl
  · have hle := hp.length_le
    have hlt := Text.trimBlanks_length_lt hb
    simp only [String.length_toList] at hle
    omega
  · obtain ⟨c, hc, hbc⟩ := hb
    rw [show ("/" : String).toList.getLast? = some '/' from rfl, Option.mem_some_iff] at hc
    subst hc
    exact absurd hbc (by decide)

/-- A root is its own normal form exactly when it does not end with a blank. -/
theorem normalizeEnvironment_stable_iff {raw root : String}
    (h : normalizeEnvironment raw = some root) :
    normalizeEnvironment root = some root ↔ ∀ c ∈ root.toList.getLast?, Text.isBlank c = false := by
  constructor
  · intro hstable c hc
    cases hbc : Text.isBlank c with
    | false => rfl
    | true => exact absurd hstable (normalizeEnvironment_ne_self ⟨c, hc, hbc⟩)
  · intro hlast
    exact normalizeEnvironment_root ⟨raw, h⟩ ⟨normalizeEnvironment_head h, hlast⟩

/-- The root of an interpreter path is its own normal form. -/
theorem normalizeEnvironment_stable_iff_venv :
    normalizeEnvironment "  /opt/venv/bin/python3/  " = some "/opt/venv" ∧
      (normalizeEnvironment "/opt/venv" = some "/opt/venv" ↔
        ∀ c ∈ "/opt/venv".toList.getLast?, Text.isBlank c = false) :=
  have h : normalizeEnvironment "  /opt/venv/bin/python3/  " = some "/opt/venv" := by decide
  ⟨h, normalizeEnvironment_stable_iff h⟩

/-- Cutting `/bin` off `a /bin` leaves the root `a `, which normalises to `a`. -/
theorem blank_ended_root_renormalizes :
    normalizeEnvironment "a /bin" = some "a " ∧ normalizeEnvironment "a " = some "a" :=
  ⟨by decide, by decide⟩

/-! ## The loop ends -/

/-- The loop of normalisation with no bound on its rounds, as a relation: from `p` it returns
`r`. A round that leaves the path as it is ends the loop; any other round starts it again from
the path the round gives. -/
inductive LoopReturns : String → String → Prop
  | stop {p : String} : normalizeStep p = p → LoopReturns p p
  | next {p r : String} : normalizeStep p ≠ p → LoopReturns (normalizeStep p) r → LoopReturns p r

theorem environmentSuffixes_long : ∀ s ∈ environmentSuffixes, 4 ≤ s.length := by decide

/-- A path of one character is bare: if it ends with a slash it is `/`, and every suffix is
longer than it. -/
theorem bare_of_length_eq_one {p : String} (h : p.length = 1) : Bare p := by
  cases hs : Text.endsWith p "/" with
  | true =>
    left
    obtain ⟨l, hl⟩ := Text.endsWith_iff.mp hs
    have hlen := congrArg List.length hl
    rw [String.length_toList, h, List.length_append] at hlen
    have hl0 : l = [] := List.eq_nil_of_length_eq_zero (by simpa using hlen)
    rw [hl0, List.nil_append] at hl
    exact String.toList_inj.mp hl.symm
  | false =>
    refine .inr ⟨hs, fun s hs' => Bool.eq_false_iff.mpr fun he => ?_⟩
    have hle := (Text.endsWith_iff.mp he).length_le
    have h4 := environmentSuffixes_long s hs'
    rw [String.length_toList, String.length_toList, h] at hle
    omega

/-- A round that changes a non-empty path makes it shorter, also when it cuts the path to
nothing and gives `/` in its place. -/
theorem normalizeStep_length_lt {p : String} (hp : p ≠ "") (hs : normalizeStep p ≠ p) :
    (normalizeStep p).length < p.length := by
  rcases normalizeStep_shorter p with h | h | h
  · exact absurd h hs
  · exact h
  · -- `/` is shorter than a path of two characters or more, and one of one is left alone
    have hpos : 0 < p.length := Nat.pos_of_ne_zero (mt String.length_eq_zero_iff.mp hp)
    rcases Nat.lt_or_ge 1 p.length with hlt | hle
    · rw [h]
      exact hlt
    · exact absurd (normalizeStep_of_bare (bare_of_length_eq_one (by omega)) hp) hs

/-- From every non-empty path the loop returns: the path stays non-empty, and each round that
does not return shortens it. -/
theorem exists_loopReturns (p : String) (hp : p ≠ "") : ∃ r, LoopReturns p r := by
  by_cases hs : normalizeStep p = p
  · exact ⟨p, .stop hs⟩
  · have := normalizeStep_length_lt hp hs
    obtain ⟨r, hr⟩ := exists_loopReturns (normalizeStep p) (normalizeStep_ne_empty p)
    exact ⟨r, .next hs hr⟩
termination_by p.length

/-- With more rounds than the path has characters, the bounded loop returns what the loop with
no bound returns. -/
theorem normalizeLoop_eq_of_loopReturns {p r : String} (h : LoopReturns p r) (hp : p ≠ "") :
    ∀ {fuel : Nat}, p.length < fuel → normalizeLoop fuel p = r := by
  induction h with
  | stop hs =>
    intro fuel hf
    obtain ⟨n, rfl⟩ := Nat.exists_eq_add_one_of_ne_zero (by omega : fuel ≠ 0)
    simp only [normalizeLoop, hs, ↓reduceIte]
  | @next p r hs _ ih =>
    intro fuel hf
    obtain ⟨n, rfl⟩ := Nat.exists_eq_add_one_of_ne_zero (by omega : fuel ≠ 0)
    -- the round shortens the path, so one round less still outnumbers its characters
    have hlt := normalizeStep_length_lt hp hs
    simp only [normalizeLoop, hs, ↓reduceIte]
    exact ih (normalizeStep_ne_empty p) (by omega)

/-- The root of a text is what the loop with no bound returns from the trimmed text. -/
theorem loopReturns_of_normalizeEnvironment {raw root : String}
    (h : normalizeEnvironment raw = some root) : LoopReturns (Text.trimBlanks raw) root := by
  rw [normalizeEnvironment_eq] at h
  split at h
  · cases h
  · rename_i hp
    obtain ⟨r, hr⟩ := exists_loopReturns _ hp
    rw [← Option.some.inj h, normalizeLoop_eq_of_loopReturns hr hp (by omega)]
    exact hr

/-- A bare path ends with a slash only when it is `/`, and with none of the suffixes. -/
theorem Bare.canonical {p : String} (h : Bare p) :
    (Text.endsWith p "/" = true → p = "/") ∧
      ∀ s ∈ environmentSuffixes, Text.endsWith p s = false := by
  rcases h with rfl | ⟨hs, hsuf⟩
  · exact ⟨fun _ => rfl, by decide⟩
  · refine ⟨fun he => ?_, hsuf⟩
    rw [hs] at he
    cases he

/-- Normalisation ends, on a root in normal form. Every round that changes a non-empty path
shortens it, so the loop with no bound returns from every non-empty path; from a text that is
not blank it returns the root that `normalizeEnvironment` gives. That root is not empty, ends
with a slash only when it is `/`, and ends with none of the environment suffixes. -/
theorem normalizeEnvironment_loop_ends_canonical :
    (∀ p : String, p ≠ "" → normalizeStep p ≠ p → (normalizeStep p).length < p.length) ∧
    (∀ p : String, p ≠ "" → ∃ r, LoopReturns p r) ∧
    ∀ raw root : String, normalizeEnvironment raw = some root →
      LoopReturns (Text.trimBlanks raw) root ∧ root ≠ "" ∧
        (Text.endsWith root "/" = true → root = "/") ∧
        ∀ s ∈ environmentSuffixes, Text.endsWith root s = false :=
  ⟨fun _ hp hs => normalizeStep_length_lt hp hs, exists_loopReturns, fun _ _ h =>
    ⟨loopReturns_of_normalizeEnvironment h, normalizeEnvironment_ne_empty h,
      (bare_of_normalizeEnvironment h).canonical⟩⟩

/-- `/bin` is cut to nothing in one round, which gives `/`, shorter than `/bin`; the loop then
returns `/`. -/
theorem normalizeEnvironment_loop_ends_bin :
    ("/bin" : String) ≠ "" ∧ normalizeStep "/bin" ≠ "/bin" ∧
      (normalizeStep "/bin").length < ("/bin" : String).length ∧
      normalizeEnvironment "/bin" = some "/" ∧ LoopReturns (Text.trimBlanks "/bin") "/" :=
  have hp : ("/bin" : String) ≠ "" := by decide
  have hs : normalizeStep "/bin" ≠ "/bin" := by decide
  have h : normalizeEnvironment "/bin" = some "/" := by decide
  ⟨hp, hs, normalizeEnvironment_loop_ends_canonical.1 _ hp hs, h,
    (normalizeEnvironment_loop_ends_canonical.2.2 _ _ h).1⟩

example : normalizeEnvironment "  /opt/venv/bin/python3/  " = some "/opt/venv" := by decide

end Path

end RemoteLsp
