import Mathlib.Data.List.TakeWhile
import RemoteLsp.Path.Virtual

/-!
# Virtual paths read back

A virtual URI of an absolute path is the scheme's prefix, the host, two slashes and the path
without its leading slash. Reading it back cuts at the first slash behind the prefix, so the host
comes back exactly when it has no slash of its own: a host such as `a/b` is read as the host `a`,
with `/b/` put in front of the path (`slash_host_read_apart`). Whatever a virtual URI is read as,
its host has no slash and its path is absolute, so writing those again and reading gives them
back: writing after reading puts every virtual URI in its double-slash form.

Main statement: `virtual_round_trip`.
-/

namespace RemoteLsp

namespace Text

theorem startsWith_append (p s : String) : startsWith (p ++ s) p = true := by
  simp [startsWith, List.isPrefixOf_iff_prefix]

theorem dropPrefix?_append (p s : String) : dropPrefix? (p ++ s) p = some s := by
  simp [dropPrefix?, startsWith_append, ← String.length_toList]

/-- A text that starts with a piece is that piece and the rest. -/
theorem eq_append_of_startsWith {s p : String} (h : startsWith s p = true) :
    ∃ r, s = p ++ r := by
  rw [startsWith, List.isPrefixOf_iff_prefix] at h
  obtain ⟨r, hr⟩ := h
  exact ⟨String.ofList r, String.toList_inj.mp (by simp [hr])⟩

/-- Cutting at a separator that the first piece lacks gives the two pieces back. -/
theorem cut?_append {a : String} {c : Char} (ha : c ∉ a.toList) (b : String) :
    cut? (a ++ String.singleton c ++ b) c = some (a, b) := by
  -- every character of the first piece passes the scan
  have hpos : ∀ x ∈ a.toList, decide (x ≠ c) = true := by
    intro x hx
    simpa using fun hxc : x = c => ha (hxc ▸ hx)
  simp only [cut?, String.toList_append, String.toList_singleton, List.append_assoc,
    List.singleton_append, List.takeWhile_append_of_pos hpos, List.dropWhile_append_of_pos hpos]
  simp

/-- The text before the first separator has none. -/
theorem not_mem_of_cut? {s a b : String} {c : Char} (h : cut? s c = some (a, b)) :
    c ∉ a.toList := by
  simp only [cut?] at h
  split at h
  · cases h
    intro hc
    have hne := List.mem_takeWhile_imp (by simpa using hc)
    simp at hne
  · cases h

end Text

namespace Path.Translator

variable (t : Translator)

/-- What a virtual URI is read as: a host without slashes, and an absolute path. -/
theorem fromVirtual_shape {v host path : String} (h : t.fromVirtual v = some (host, path)) :
    host ≠ "" ∧ '/' ∉ host.toList ∧ Text.startsWith path "/" = true := by
  simp only [fromVirtual, Option.bind_eq_bind] at h
  cases hr : Text.dropPrefix? v t.pfx with
  | none => simp [hr] at h
  | some rest =>
    cases hc : Text.cut? rest '/' with
    | none => simp [hr, hc] at h
    | some cut =>
      obtain ⟨h₀, p₀⟩ := cut
      have hslash := Text.not_mem_of_cut? hc
      simp only [hr, hc, Option.bind_some] at h
      split at h
      · cases h
      · rename_i hne
        split at h <;> cases h
        · rename_i hp
          refine ⟨hne, hslash, ?_⟩
          obtain ⟨r, hr⟩ := List.head?_eq_some_iff.mp hp
          simp [Text.startsWith, hr]
        · exact ⟨hne, hslash, Text.startsWith_append _ _⟩

/-- An absolute path on a host without slashes is written in the double-slash form, the host
and the path joined by one slash, and read back as it was. -/
theorem fromVirtual_toVirtual {host path : String} (hh : host ≠ "") (hs : '/' ∉ host.toList)
    (hp : Text.startsWith path "/" = true) :
    t.toVirtual path host = .ok (t.pfx ++ host ++ "/" ++ path) ∧
      t.fromVirtual (t.pfx ++ host ++ "/" ++ path) = some (host, path) := by
  obtain ⟨r, rfl⟩ := Text.eq_append_of_startsWith hp
  have hwrite : t.pfx ++ host ++ "//" ++ r = t.pfx ++ host ++ "/" ++ ("/" ++ r) := by
    simp only [String.append_assoc]
    rfl
  refine ⟨by simp [toVirtual, hh, Text.dropPrefix?_append, hwrite], ?_⟩
  -- behind the prefix stand the host, the separating slash, and the path with its slash
  have hrest : t.pfx ++ host ++ "/" ++ ("/" ++ r) =
      t.pfx ++ (host ++ String.singleton '/' ++ ("/" ++ r)) := by
    simp only [String.append_assoc]
    rfl
  simp only [fromVirtual, Option.bind_eq_bind, hrest, Text.dropPrefix?_append, Option.bind_some,
    Text.cut?_append hs]
  simp [hh]

end Path.Translator

open RemoteLsp.Path (Translator)

/-- Writing an absolute path on a host and reading it back gives both back exactly when the host
has no slash. Whatever a virtual URI is read as, its host is not empty and has no slash, its path
starts with a slash, and the two are written in the double-slash form and read back unchanged. -/
theorem virtual_round_trip (t : Translator) :
    (∀ path host, host ≠ "" → Text.startsWith path "/" = true →
      ((∃ v, t.toVirtual path host = .ok v ∧ t.fromVirtual v = some (host, path)) ↔
        '/' ∉ host.toList)) ∧
    ∀ v host path, t.fromVirtual v = some (host, path) →
      host ≠ "" ∧ '/' ∉ host.toList ∧ Text.startsWith path "/" = true ∧
        t.toVirtual path host = .ok (t.pfx ++ host ++ "/" ++ path) ∧
        t.fromVirtual (t.pfx ++ host ++ "/" ++ path) = some (host, path) := by
  refine ⟨fun path host hh hp =>
    ⟨?_, fun hs => ⟨_, t.fromVirtual_toVirtual hh hs hp⟩⟩, ?_⟩
  · rintro ⟨v, -, hv⟩
    exact (t.fromVirtual_shape hv).2.1
  · intro v host path hv
    obtain ⟨hh, hs, hp⟩ := t.fromVirtual_shape hv
    exact ⟨hh, hs, hp, t.fromVirtual_toVirtual hh hs hp⟩

/-- The default translator reads `scp://h1/srv/x.py` as `/srv/x.py` on `h1`, and writes that in
the double-slash form. -/
theorem virtual_round_trip_h1 :
    ("h1" ≠ "" ∧ Text.startsWith "/srv/x.py" "/" = true ∧
      ((∃ v, (Translator.ofScheme "").toVirtual "/srv/x.py" "h1" = .ok v ∧
          (Translator.ofScheme "").fromVirtual v = some ("h1", "/srv/x.py")) ↔
        '/' ∉ "h1".toList)) ∧
    ((Translator.ofScheme "").fromVirtual "scp://h1/srv/x.py" = some ("h1", "/srv/x.py") ∧
      "h1" ≠ "" ∧ '/' ∉ "h1".toList ∧ Text.startsWith "/srv/x.py" "/" = true ∧
      (Translator.ofScheme "").toVirtual "/srv/x.py" "h1" =
          .ok ((Translator.ofScheme "").pfx ++ "h1" ++ "/" ++ "/srv/x.py") ∧
        (Translator.ofScheme "").fromVirtual ((Translator.ofScheme "").pfx ++ "h1" ++ "/" ++
          "/srv/x.py") = some ("h1", "/srv/x.py")) := by
  have hv :
      (Translator.ofScheme "").fromVirtual "scp://h1/srv/x.py" = some ("h1", "/srv/x.py") := by
    decide +kernel
  exact ⟨⟨by decide, by decide, (virtual_round_trip _).1 _ _ (by decide) (by decide)⟩, hv,
    (virtual_round_trip _).2 _ _ _ hv⟩

example : (Translator.ofScheme "").fromVirtual "scp://h1//srv/a.py" = some ("h1", "/srv/a.py") := by
  decide +kernel

/-- A host with a slash is read apart: `a/b` comes back as the host `a`, with `/b/` in front of
the path. -/
theorem slash_host_read_apart :
    (Translator.ofScheme "").toVirtual "/srv/x.py" "a/b" = .ok "scp://a/b//srv/x.py" ∧
      (Translator.ofScheme "").fromVirtual "scp://a/b//srv/x.py" = some ("a", "/b//srv/x.py") :=
  ⟨rfl, by decide +kernel⟩

end RemoteLsp
