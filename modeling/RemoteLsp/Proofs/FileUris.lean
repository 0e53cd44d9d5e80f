import Mathlib.Data.List.TakeWhile
import RemoteLsp.Proofs.VirtualPaths

/-!
# File URIs read back

The file URI of an absolute path is `file://` and the path, cleaned and escaped: every byte of
its UTF-8 encoding that a path may not hold as it is becomes `%` and two hex digits. What is
left is printable ASCII with no `#` and no `?`, so reading the URI finds no fragment and no
query, the scheme `file`, an empty authority, and a path that unescapes to the cleaned path.

The reader then treats a path that looks like a Windows drive, a slash, a letter and a colon,
as one and drops its slash. So a clean absolute path comes back as it was unless it has that
shape: `/C:/x` comes back as `C:/x` (`drive_path_read_without_slash`).

Towards the server, a virtual URI of an absolute path on a host without slashes is read back
as that path, and its file URI is the path's.

Main statement: `file_uri_round_trip`.
-/

namespace RemoteLsp

/-! ## UTF-8 read back -/

namespace Text

theorem encodeChar_ne_nil (c : Char) : encodeChar c ≠ [] := by
  unfold encodeChar
  dsimp only
  split_ifs <;> simp

/-- Decoding reads back the character an encoding starts with, and the encoding's length. -/
theorem decodeFirst_encodeChar (c : Char) (rest : List UInt8) :
    decodeFirst (encodeChar c ++ rest) = some (c, (encodeChar c).length) := by
  have hv : c.toNat < 0xD800 ∨ (0xDFFF < c.toNat ∧ c.toNat < 0x110000) := c.valid
  have hc : Char.ofNat c.toNat = c := Char.ofNat_toNat c
  unfold encodeChar
  generalize c.toNat = n at hv hc
  subst hc
  dsimp only
  -- one case per length of the encoding; each byte's value is read off, then the scalar value
  split
  · have hb : n.toUInt8.toNat = n := by simp; omega
    simp only [decodeFirst, List.cons_append, hb]
    rw [if_pos ‹_›]
    rfl
  split
  · have hb : (192 + n / 64).toUInt8.toNat = 192 + n / 64 := by simp; omega
    have hd : (128 + n % 64).toUInt8.toNat = 128 + n % 64 := by simp; omega
    simp only [decodeFirst, List.cons_append, hb, hd, isContinuation, low6]
    rw [if_neg (by omega), if_pos (by omega), if_pos (by simp; omega)]
    have hn : (192 + n / 64 - 192) * 64 + (128 + n % 64) % 64 = n := by omega
    rw [hn]
    rfl
  split
  · have hb : (224 + n / 4096).toUInt8.toNat = 224 + n / 4096 := by simp; omega
    have hd : (128 + n / 64 % 64).toUInt8.toNat = 128 + n / 64 % 64 := by simp; omega
    have he : (128 + n % 64).toUInt8.toNat = 128 + n % 64 := by simp; omega
    have hn : (224 + n / 4096 - 224) * 4096 + (128 + n / 64 % 64) % 64 * 64 +
        (128 + n % 64) % 64 = n := by omega
    simp only [decodeFirst, List.cons_append, hb, hd, he, isContinuation, low6, hn]
    rw [if_neg (by omega), if_neg (by omega), if_pos (by omega), if_pos (by simp; omega)]
    rfl
  · have hb : (240 + n / 262144).toUInt8.toNat = 240 + n / 262144 := by simp; omega
    have hd : (128 + n / 4096 % 64).toUInt8.toNat = 128 + n / 4096 % 64 := by simp; omega
    have he : (128 + n / 64 % 64).toUInt8.toNat = 128 + n / 64 % 64 := by simp; omega
    have hf : (128 + n % 64).toUInt8.toNat = 128 + n % 64 := by simp; omega
    have hn : (240 + n / 262144 - 240) * 262144 + (128 + n / 4096 % 64) % 64 * 4096 +
        (128 + n / 64 % 64) % 64 * 64 + (128 + n % 64) % 64 = n := by omega
    simp only [decodeFirst, List.cons_append, hb, hd, he, hf, isContinuation, low6, hn]
    rw [if_neg (by omega), if_neg (by omega), if_neg (by omega), if_pos (by omega),
      if_pos (by simp; omega)]
    rfl

theorem decodeLossyAux_encodeChar_append (c : Char) (rest : List UInt8) (fuel : Nat) :
    decodeLossyAux (fuel + 1) (encodeChar c ++ rest) = c :: decodeLossyAux fuel rest := by
  have hd := decodeFirst_encodeChar c rest
  obtain ⟨b, bs, hb⟩ := List.exists_cons_of_ne_nil (encodeChar_ne_nil c)
  rw [hb, List.cons_append] at hd ⊢
  rw [decodeLossyAux, hd]
  simp

theorem decodeLossyAux_flatMap_encodeChar :
    ∀ (cs : List Char) (fuel : Nat), cs.length ≤ fuel →
      decodeLossyAux fuel (cs.flatMap encodeChar) = cs
  | [], fuel, _ => by cases fuel <;> rfl
  | _ :: _, 0, h => absurd h (by simp)
  | c :: cs, fuel + 1, h => by
    rw [List.flatMap_cons, decodeLossyAux_encodeChar_append,
      decodeLossyAux_flatMap_encodeChar cs fuel (by simpa using h)]

/-- Every character takes at least one byte. -/
theorem length_le_flatMap_encodeChar : ∀ cs : List Char, cs.length ≤ (cs.flatMap encodeChar).length
  | [] => le_refl _
  | c :: cs => by
    have hc := List.length_pos_iff.mpr (encodeChar_ne_nil c)
    have ih := length_le_flatMap_encodeChar cs
    simp only [List.flatMap_cons, List.length_append, List.length_cons]
    omega

/-- Decoding the UTF-8 encoding of a text gives the text back. -/
theorem decodeLossy_utf8 (s : String) : decodeLossy (utf8 s) = s := by
  rw [decodeLossy, utf8, decodeLossyAux_flatMap_encodeChar _ _ (length_le_flatMap_encodeChar _),
    String.ofList_toList]

/-- The character of an ASCII byte. -/
def asciiChar (b : UInt8) : Char := Char.ofNat b.toNat

theorem toNat_asciiChar {b : UInt8} (hb : b.toNat < 128) : (asciiChar b).toNat = b.toNat := by
  have hv : b.toNat.isValidChar := Or.inl (by omega)
  rw [asciiChar, Char.ofNat, dif_pos hv]
  -- a character built from a valid value holds that value
  rfl

theorem encodeChar_asciiChar {b : UInt8} (hb : b.toNat < 128) : encodeChar (asciiChar b) = [b] := by
  simp [encodeChar, toNat_asciiChar hb, hb]

/-- ASCII bytes are the encoding of the text of their characters. -/
theorem utf8_asciiChars {bs : List UInt8} (h : ∀ b ∈ bs, b.toNat < 128) :
    utf8 (String.ofList (bs.map asciiChar)) = bs := by
  rw [utf8, String.toList_ofList, List.flatMap_map]
  induction bs with
  | nil => rfl
  | cons b bs ih =>
    rw [List.flatMap_cons, encodeChar_asciiChar (h b List.mem_cons_self),
      ih fun b' hb' => h b' (List.mem_cons_of_mem b hb')]
    rfl

/-- ASCII bytes decode to their characters. -/
theorem decodeLossy_ascii {bs : List UInt8} (h : ∀ b ∈ bs, b.toNat < 128) :
    decodeLossy bs = String.ofList (bs.map asciiChar) := by
  calc decodeLossy bs = decodeLossy (utf8 (String.ofList (bs.map asciiChar))) := by
        rw [utf8_asciiChars h]
    _ = String.ofList (bs.map asciiChar) := decodeLossy_utf8 _

end Text

/-! ## Escaped paths -/

namespace Uri

open Text (asciiChar)

/-- What an escaped path is made of: printable ASCII other than the blank, `#` and `?`. -/
def PlainByte (n : Nat) : Prop := 32 < n ∧ n < 127 ∧ n ≠ 35 ∧ n ≠ 63

instance : DecidablePred PlainByte := fun n =>
  inferInstanceAs (Decidable (32 < n ∧ n < 127 ∧ n ≠ 35 ∧ n ≠ 63))

/-- A byte a path keeps as it is is plain and is no `%`. -/
theorem kept_path_byte : ∀ n < 256, shouldEscape .path n.toUInt8 = false →
    PlainByte n ∧ n ≠ 37 := by
  decide +kernel

/-- A hex digit is plain and reads back as its value. -/
theorem upperHex_plain : ∀ n < 16, hexOf? (upperHex n) = some n ∧ PlainByte (upperHex n).toNat := by
  decide

theorem escapeBytes_cons (m : Component) (b : UInt8) (bs : List UInt8) :
    escapeBytes m (b :: bs) =
      (if shouldEscape m b then [37, upperHex (b.toNat / 16), upperHex (b.toNat % 16)] else [b]) ++
        escapeBytes m bs :=
  List.flatMap_cons

theorem shouldEscape_path_kept {b : UInt8} (h : shouldEscape .path b = false) :
    PlainByte b.toNat ∧ b ≠ 37 := by
  have hk := kept_path_byte b.toNat b.toNat_lt (by simpa using h)
  refine ⟨hk.1, fun hb => hk.2 ?_⟩
  simp [hb]

/-- Every byte of an escaped path is plain. -/
theorem escapeBytes_plain : ∀ (bs : List UInt8), ∀ x ∈ escapeBytes .path bs, PlainByte x.toNat
  | [] => by simp [escapeBytes]
  | b :: bs => by
    intro x hx
    rw [escapeBytes_cons, List.mem_append] at hx
    rcases hx with hx | hx
    · split at hx
      · simp only [List.mem_cons, List.not_mem_nil, or_false] at hx
        have hlt := b.toNat_lt
        rcases hx with rfl | rfl | rfl
        · decide
        · exact (upperHex_plain _ (by omega)).2
        · exact (upperHex_plain _ (by omega)).2
      · rw [List.mem_singleton] at hx
        subst hx
        exact (shouldEscape_path_kept (Bool.eq_false_iff.mpr ‹_›)).1
    · exact escapeBytes_plain bs x hx

theorem unescapeBytes_kept {b : UInt8} (rest : List UInt8) (hb : b ≠ 37) :
    unescapeBytes .path (b :: rest) = (unescapeBytes .path rest).map (b :: ·) := by
  rw [unescapeBytes]
  · rfl
  · exact hb

theorem unescapeBytes_escaped (b : UInt8) (rest : List UInt8) :
    unescapeBytes .path (37 :: upperHex (b.toNat / 16) :: upperHex (b.toNat % 16) :: rest) =
      (unescapeBytes .path rest).map (b :: ·) := by
  have hlt : b.toNat < 256 := b.toNat_lt
  have hhi := (upperHex_plain (b.toNat / 16) (by omega)).1
  have hlo := (upperHex_plain (b.toNat % 16) (by omega)).1
  have hb : (b.toNat / 16 * 16 + b.toNat % 16).toUInt8 = b := by
    rw [show b.toNat / 16 * 16 + b.toNat % 16 = b.toNat by omega]
    simp
  rw [unescapeBytes]
  simp only [hhi, hlo, hb]
  rfl

/-- Unescaping an escaped path gives its bytes back. -/
theorem unescapeBytes_escapeBytes : ∀ bs : List UInt8,
    unescapeBytes .path (escapeBytes .path bs) = .ok bs
  | [] => rfl
  | b :: bs => by
    rw [escapeBytes_cons]
    split
    · rw [List.cons_append, List.cons_append, List.cons_append, List.nil_append,
        unescapeBytes_escaped, unescapeBytes_escapeBytes bs]
      rfl
    · rw [List.singleton_append, unescapeBytes_kept _ (shouldEscape_path_kept (Bool.eq_false_iff.mpr ‹_›)).2,
        unescapeBytes_escapeBytes bs]
      rfl

/-- An escaped path is the text of its plain bytes. -/
theorem escape_path_eq (s : String) :
    escape .path s = String.ofList ((escapeBytes .path (Text.utf8 s)).map asciiChar) :=
  Text.decodeLossy_ascii fun b hb => (escapeBytes_plain _ b hb).2.1.trans (by decide)

/-- Unescaping an escaped path gives the path back. -/
theorem unescape_escape_path (s : String) : unescape .path (escape .path s) = .ok s := by
  have hascii : ∀ b ∈ escapeBytes .path (Text.utf8 s), b.toNat < 128 :=
    fun b hb => (escapeBytes_plain _ b hb).2.1.trans (by decide)
  rw [unescape, escape_path_eq, Text.utf8_asciiChars hascii, unescapeBytes_escapeBytes]
  exact congrArg Except.ok (Text.decodeLossy_utf8 s)

/-- The characters of plain bytes hold no `#`, no `?` and no control character. -/
theorem asciiChar_plain {b : UInt8} (h : PlainByte b.toNat) :
    asciiChar b ≠ '#' ∧ asciiChar b ≠ '?' ∧ isControl (asciiChar b) = false := by
  have hc := Text.toNat_asciiChar (b := b) (by unfold PlainByte at h; omega)
  unfold PlainByte at h
  refine ⟨fun he => ?_, fun he => ?_, ?_⟩
  · have := congrArg Char.toNat he
    simp only [hc] at this
    exact h.2.2.1 this
  · have := congrArg Char.toNat he
    simp only [hc] at this
    exact h.2.2.2 this
  · simp only [isControl, hc]
    simp
    omega

/-- An escaped absolute path starts with its slash. -/
theorem escape_path_slash {s : String} {r : List Char} (hs : s.toList = '/' :: r) :
    ∃ t, (escape .path s).toList = '/' :: t ∧ ∀ c ∈ t, c ≠ '#' ∧ c ≠ '?' ∧ isControl c = false := by
  have hu : Text.utf8 s = 47 :: r.flatMap Text.encodeChar := by
    rw [Text.utf8, hs, List.flatMap_cons]
    rfl
  have hk : shouldEscape .path 47 = false := by decide
  refine ⟨(escapeBytes .path (r.flatMap Text.encodeChar)).map asciiChar, ?_, ?_⟩
  · rw [escape_path_eq, String.toList_ofList, hu, escapeBytes_cons, if_neg (by simp [hk])]
    rfl
  · intro c hc
    obtain ⟨b, hb, rfl⟩ := List.mem_map.mp hc
    exact asciiChar_plain (escapeBytes_plain _ b hb)

/-! ## Reading a file URI -/

/-- A `file://` URI whose rest is an absolute path with no `#`, `?` or control character reads
as the scheme `file`, no authority and the unescaped path. -/
theorem parse_file {r : List Char} (hr : ∀ c ∈ r, c ≠ '#' ∧ c ≠ '?' ∧ isControl c = false)
    {p : String} (hp : unescape .path (String.ofList ('/' :: r)) = .ok p) :
    parse (String.ofList ("file://".toList ++ '/' :: r)) = .ok { scheme := "file", path := p } := by
  have hall : "file://".toList ++ '/' :: r =
      'f' :: 'i' :: 'l' :: 'e' :: ':' :: '/' :: '/' :: '/' :: r := rfl
  -- no fragment, no control character and no query in what follows the slash
  have htw : r.takeWhile (· ≠ '#') = r :=
    List.takeWhile_eq_self_iff.mpr fun c hc => by simpa using (hr c hc).1
  have hdw : r.dropWhile (· ≠ '#') = [] :=
    List.dropWhile_eq_nil_iff.mpr fun c hc => by simpa using (hr c hc).1
  have hany : r.any isControl = false := List.any_eq_false.mpr fun c hc => by simp [(hr c hc).2.2]
  have hqtw : r.takeWhile (· ≠ '?') = r :=
    List.takeWhile_eq_self_iff.mpr fun c hc => by simpa using (hr c hc).2.1
  have hqdw : r.dropWhile (· ≠ '?') = [] :=
    List.dropWhile_eq_nil_iff.mpr fun c hc => by simpa using (hr c hc).2.1
  have hfilter : r.filter (· = '?') = [] :=
    List.filter_eq_nil_iff.mpr fun c hc => by simpa using (hr c hc).2.1
  -- the scheme, and the empty authority between the second and the third slash
  have hsplit : splitScheme [] ('f' :: 'i' :: 'l' :: 'e' :: ':' :: '/' :: '/' :: '/' :: r) =
      .ok (some (['f', 'i', 'l', 'e'], '/' :: '/' :: '/' :: r)) := rfl
  have hauth : parseAuthority [] = .ok (none, "") := rfl
  have h2 : "//".toList = ['/', '/'] := rfl
  have h3 : "///".toList = ['/', '/', '/'] := rfl
  simp +decide only [parse, String.toList_ofList, hall, List.takeWhile_cons, List.dropWhile_cons,
    htw, hdw, hqtw, hqdw, List.any_cons, hany, hsplit, ↓reduceIte, Bool.or_false, List.drop_one,
    List.tail_nil, List.isEmpty_nil, bind, Except.bind, pure, Except.pure, List.filter_cons,
    hfilter, List.length_nil, and_false, List.head?_cons, h2, h3, List.isPrefixOf,
    List.drop_succ_cons, List.drop_zero, hauth, hp, ne_eq, true_or, and_true]
  rfl

theorem isDrivePath_of_slash {p : String} {r : List Char} (hp : p.toList = '/' :: r) :
    isDrivePath p = false := by
  unfold isDrivePath
  rw [hp]
  split
  · rename_i c _ h
    cases h
    rfl
  · rfl

theorem clean_slash {p : String} {r : List Char} (hp : p.toList = '/' :: r) :
    ∃ t, (Path.clean p).toList = '/' :: t := by
  have hne : p ≠ "" := by
    rintro rfl
    cases hp
  unfold Path.clean
  rw [if_neg hne]
  simp only [hp, List.head?_cons, decide_true, ↓reduceIte, String.toList_append]
  exact ⟨_, rfl⟩

/-- The file URI of an absolute path reads back as the cleaned path, without its slash when
it looks like a Windows drive. -/
theorem pathOfFileUri_fileUriOfPath {p : String} {r : List Char} (hp : p.toList = '/' :: r) :
    pathOfFileUri? (fileUriOfPath p) =
      some (if isDriveUriPath (Path.clean p) then String.ofList ((Path.clean p).toList.drop 1)
        else Path.clean p) := by
  have hfull : absolute p = Path.clean p := by
    rw [absolute, hp]
    rfl
  obtain ⟨t, ht⟩ := clean_slash hp
  obtain ⟨e, he, hplain⟩ := escape_path_slash ht
  have hp' : unescape .path (String.ofList ('/' :: e)) = .ok (Path.clean p) := by
    rw [← he, String.ofList_toList]
    exact unescape_escape_path _
  have huri : fileUriOfPath p = String.ofList ("file://".toList ++ '/' :: e) := by
    rw [fileUriOfPath, isDrivePath_of_slash hp, hfull]
    apply String.toList_inj.mp
    simp [he]
  have hhead : (Path.clean p).toList.head? = some '/' := by
    rw [ht]
    rfl
  rw [huri, pathOfFileUri?, parse_file hplain hp']
  simp [hhead]

end Uri

open RemoteLsp.Path (Translator)

/-- A clean absolute path written as a file URI reads back as itself, unless it looks like a
Windows drive, a slash, a letter and a colon, when it reads back without its slash. On a host
without slashes, its virtual URI is converted to its file URI. -/
theorem file_uri_round_trip (t : Translator) {p host : String} (hp : Text.startsWith p "/" = true)
    (hc : Path.clean p = p) (hh : host ≠ "") (hs : '/' ∉ host.toList) :
    Uri.pathOfFileUri? (Uri.fileUriOfPath p) =
        some (if Uri.isDriveUriPath p then String.ofList (p.toList.drop 1) else p) ∧
      ∃ v, t.toVirtual p host = .ok v ∧ t.virtualToFileUri v = some (Uri.fileUriOfPath p) := by
  obtain ⟨r, hr⟩ := Text.eq_append_of_startsWith hp
  have hl : p.toList = '/' :: r.toList := by
    rw [hr, String.toList_append]
    rfl
  refine ⟨by rw [Uri.pathOfFileUri_fileUriOfPath hl, hc], ?_⟩
  obtain ⟨hwrite, hread⟩ := t.fromVirtual_toVirtual hh hs hp
  refine ⟨_, hwrite, ?_⟩
  rw [Translator.virtualToFileUri, hread]
  rfl

/-- `/srv/a b.py` on `h1` reads back as itself, and its virtual URI converts to
`file:///srv/a%20b.py`. -/
theorem file_uri_round_trip_space :
    (Text.startsWith "/srv/a b.py" "/" = true ∧ Path.clean "/srv/a b.py" = "/srv/a b.py" ∧
      "h1" ≠ "" ∧ '/' ∉ "h1".toList) ∧
    (Uri.pathOfFileUri? (Uri.fileUriOfPath "/srv/a b.py") =
        some (if Uri.isDriveUriPath "/srv/a b.py" then String.ofList ("/srv/a b.py".toList.drop 1)
          else "/srv/a b.py") ∧
      ∃ v, (Translator.ofScheme "").toVirtual "/srv/a b.py" "h1" = .ok v ∧
        (Translator.ofScheme "").virtualToFileUri v = some (Uri.fileUriOfPath "/srv/a b.py")) :=
  have hp : Text.startsWith "/srv/a b.py" "/" = true := by decide
  have hc : Path.clean "/srv/a b.py" = "/srv/a b.py" := by decide
  have hh : "h1" ≠ "" := by decide
  have hs : '/' ∉ "h1".toList := by decide
  ⟨⟨hp, hc, hh, hs⟩, file_uri_round_trip _ hp hc hh hs⟩

/-- `/C:/x` is clean and absolute, but its file URI `file:///C:/x` reads back as `C:/x`. -/
theorem drive_path_read_without_slash :
    Path.clean "/C:/x" = "/C:/x" ∧ Uri.fileUriOfPath "/C:/x" = "file:///C:/x" ∧
      Uri.pathOfFileUri? "file:///C:/x" = some "C:/x" :=
  ⟨by decide, by decide, by decide⟩

end RemoteLsp
