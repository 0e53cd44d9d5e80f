/-!
# UTF-8 bytes of a text

Percent-escapes in a URI name bytes, not characters, so escaping works on the UTF-8 encoding
of a text and unescaping gives bytes back. Bytes that are not valid UTF-8 are shown as the
replacement character U+FFFD, one for each byte that cannot start a character.
-/

namespace RemoteLsp.Text

/-- The UTF-8 encoding of a character. -/
def encodeChar (c : Char) : List UInt8 :=
  let n := c.toNat
  if n < 0x80 then [n.toUInt8]
  else if n < 0x800 then [(0xC0 + n / 64).toUInt8, (0x80 + n % 64).toUInt8]
  else if n < 0x10000 then
    [(0xE0 + n / 4096).toUInt8, (0x80 + n / 64 % 64).toUInt8, (0x80 + n % 64).toUInt8]
  else
    [(0xF0 + n / 262144).toUInt8, (0x80 + n / 4096 % 64).toUInt8,
      (0x80 + n / 64 % 64).toUInt8, (0x80 + n % 64).toUInt8]

/-- The UTF-8 encoding of a text. -/
def utf8 (s : String) : List UInt8 := s.toList.flatMap encodeChar

/-- The number of bytes of the UTF-8 encoding of a text. -/
def utf8Length (s : String) : Nat := (utf8 s).length

/-- Whether a byte continues a multi-byte character. -/
def isContinuation (b : UInt8) : Bool := 0x80 ≤ b.toNat && b.toNat < 0xC0

/-- The payload bits of a continuation byte. -/
def low6 (b : UInt8) : Nat := b.toNat % 64

/-- The character that a sequence of bytes starts with, and how many bytes it takes; `none`
when the first byte starts no valid character. Overlong forms, surrogates and values past
U+10FFFF are not valid. -/
def decodeFirst : List UInt8 → Option (Char × Nat)
  | [] => none
  | b :: rest =>
    let n := b.toNat
    if n < 0x80 then some (Char.ofNat n, 1)
    else if 0xC2 ≤ n ∧ n < 0xE0 then
      match rest with
      | c :: _ => if isContinuation c then some (Char.ofNat ((n - 0xC0) * 64 + low6 c), 2)
                  else none
      | [] => none
    else if 0xE0 ≤ n ∧ n < 0xF0 then
      match rest with
      | c :: d :: _ =>
        let v := (n - 0xE0) * 4096 + low6 c * 64 + low6 d
        if isContinuation c && isContinuation d && 0x800 ≤ v && !(0xD800 ≤ v && v < 0xE000)
        then some (Char.ofNat v, 3) else none
      | _ => none
    else if 0xF0 ≤ n ∧ n < 0xF5 then
      match rest with
      | c :: d :: e :: _ =>
        let v := (n - 0xF0) * 262144 + low6 c * 4096 + low6 d * 64 + low6 e
        if isContinuation c && isContinuation d && isContinuation e && 0x10000 ≤ v &&
          v < 0x110000 then some (Char.ofNat v, 4) else none
      | _ => none
    else none

/-- Decodes bytes, reading a byte that starts no valid character as U+FFFD. -/
def decodeLossyAux : (fuel : Nat) → List UInt8 → List Char
  | 0, _ => []
  | _ + 1, [] => []
  | fuel + 1, bs@(_ :: rest) =>
    match decodeFirst bs with
    | some (c, k) => c :: decodeLossyAux fuel (bs.drop k)
    | none => Char.ofNat 0xFFFD :: decodeLossyAux fuel rest

/-- The text of a byte sequence, with U+FFFD for each byte that starts no valid character. -/
def decodeLossy (bs : List UInt8) : String := String.ofList (decodeLossyAux bs.length bs)

end RemoteLsp.Text
