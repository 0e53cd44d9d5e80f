import RemoteLsp.Yaml.Scalar
import RemoteLsp.Text.Quoted
import RemoteLsp.Text.Chars

/-!
# Writing YAML documents

A value is written as a block document: a mapping is one `key: value` line per member, a
sequence one `- item` line per item, and a non-empty collection that is a member's value or an
item starts on the line after its key, or on the dash's line. Empty collections are written in
flow style, `{}` and `[]`.

Two layouts are in use. The one a configuration is written in again before it is read into a
record sorts the keys of every mapping in their natural order and writes the items of a
sequence that is a member's value level with the key. The one the command line prints with
keeps the members in the order given and indents such items under the key.

A string is written plain when it would be read back as the same string and no character of
it stands for structure; otherwise in single quotes, and in double quotes with escapes when it
holds characters that cannot be written as they are. A string of several lines is written as a
literal block.
-/

namespace RemoteLsp.Yaml

/-- How block collections are laid out. -/
structure Layout where
  /-- Whether the items of a sequence that is a member's value are indented under its key. -/
  indentItems : Bool
  /-- Whether the keys of a mapping are sorted in their natural order. -/
  sortKeys : Bool
  deriving Repr, DecidableEq

/-- The layout of a configuration written again before it is read into a record. -/
def Layout.config : Layout := ⟨false, true⟩

/-- The layout of what the command line prints. -/
def Layout.report : Layout := ⟨true, false⟩

/-- Whether a character counts as a letter when keys are ordered. -/
def isKeyLetter (c : Char) : Bool := c.isAlpha || c.toNat > 127

/-- The number a run of digits starting at `i` stands for, and where the run ends; `start` is
the number the run continues. -/
def digitRun (cs : Array Char) (i : Nat) (start : Int) : Int × Nat :=
  let run := (cs.toList.drop i).takeWhile Char.isDigit
  (run.foldl (fun n c => n * 10 + (c.toNat - '0'.toNat : Nat)) start, i + run.length)

/-- The natural order of keys: the first differing characters decide; two letters compare as
characters, a letter comes after anything else, and runs of digits compare by the numbers
they stand for. A key that is a prefix of the other comes first. -/
def naturalLess (a b : String) : Bool :=
  let ar := a.toList.toArray
  let br := b.toList.toArray
  let rec go (i : Nat) : Nat → Bool
    | 0 => ar.size < br.size
    | fuel + 1 =>
      match ar[i]?, br[i]? with
      | some x, some y =>
        if x = y then go (i + 1) fuel
        else if isKeyLetter x && isKeyLetter y then x < y
        else if isKeyLetter x || isKeyLetter y then isKeyLetter y
        else
          let before := (ar.toList.take i).reverse.takeWhile Char.isDigit
          let start : Int := if (x = '0' || y = '0') && before.any (· ≠ '0') then 1 else 0
          let (an, ai) := digitRun ar i start
          let (bn, bi) := digitRun br i start
          if an ≠ bn then an < bn
          else if ai ≠ bi then ai < bi
          else x < y
      | _, _ => ar.size < br.size
  go 0 (ar.size + 1)

/-- Members sorted by the natural order of their keys. -/
def naturalSort (ms : List (String × Json)) : List (String × Json) :=
  ms.mergeSort fun p q => !naturalLess q.1 p.1

/-- Whether a character can be written as it is. -/
def isPrintable (c : Char) : Bool :=
  let n := c.toNat
  n = 0x0A || (0x20 ≤ n && n ≤ 0x7E) || (0xA0 ≤ n && n ≤ 0xD7FF) ||
    (0xE000 ≤ n && n ≤ 0xFFFD && n ≠ 0xFEFF)

/-- Whether a character breaks a line. -/
def isLineBreak (c : Char) : Bool :=
  c = '\n' || c = '\r' || c.toNat = 0x85 || c.toNat = 0x2028 || c.toNat = 0x2029

/-- The styles a string may be written in. -/
structure Styles where
  plain : Bool
  single : Bool
  block : Bool
  deriving Repr

/-- The styles a string may be written in, from the characters it holds: indicators of
structure rule out the plain style, spaces next to line breaks rule out quotes, and
characters that cannot be written as they are leave only double quotes. -/
def stylesOf (s : String) : Styles :=
  let cs := s.toList
  if cs.isEmpty then ⟨true, true, false⟩
  else
    let marker := cs.take 3 = ['-', '-', '-'] || cs.take 3 = ['.', '.', '.']
    let arr := cs.toArray
    let blankAfter (i : Nat) : Bool := match arr[i + 1]? with
      | none => true
      | some c => c = ' ' || c = '\t'
    let firstIndicator : Bool := match cs.head? with
      | some c =>
        "#,[]\x7b\x7d&*!|>'\"%@`".toList.contains c ||
          ((c = '?' || c = ':' || c = '-') && blankAfter 0)
      | none => false
    let laterIndicator : Bool := (List.range cs.length).any fun i =>
      i > 0 &&
        (match arr[i]? with
         | some ':' => blankAfter i
         | some '#' => match arr[i - 1]? with
           | some p => p = ' ' || p = '\t' || isLineBreak p
           | none => false
         | _ => false)
    let special := cs.any (!isPrintable ·)
    let pairs := cs.zip cs.tail
    let spaceBreak := pairs.any fun (p, q) => p = ' ' && isLineBreak q
    let breakSpace := pairs.any fun (p, q) => isLineBreak p && q = ' '
    let lineBreaks := cs.any isLineBreak
    let edges := cs.head? = some ' ' || (cs.head?.map isLineBreak).getD false ||
      cs.getLast? = some ' ' || (cs.getLast?.map isLineBreak).getD false
    let trailingSpace := cs.getLast? = some ' '
    ⟨!(edges || breakSpace || spaceBreak || special || lineBreaks || marker || firstIndicator ||
        laterIndicator),
      !(breakSpace || spaceBreak || special),
      !(trailingSpace || spaceBreak || special)⟩

/-- Whether text is a number in base 60, which older readers took for a float. -/
def isSexagesimal (s : String) : Bool :=
  let cs := match s.toList with
    | '+' :: r | '-' :: r => r
    | r => r
  match cs with
  | c :: _ =>
    c.isDigit && cs.contains ':' &&
      (match Text.split (String.ofList cs) ':' with
       | first :: rest =>
         first.toList.all (fun c => c.isDigit || c = '_') &&
           rest.length > 0 &&
           (rest.dropLast.all fun p => p.length ≥ 1 && p.length ≤ 2 && p.toList.all Char.isDigit) &&
           (match rest.getLast? with
            | some last =>
              let (whole, frac) := match Text.cut? last '.' with
                | some (w, f) => (w, some f)
                | none => (last, none)
              whole.length ≥ 1 && whole.length ≤ 2 && whole.toList.all Char.isDigit &&
                (frac.map (·.toList.all fun c => c.isDigit || c = '_')).getD true
            | none => false)
       | [] => false)
  | [] => false

/-- `n` in upper-case hex, padded with zeros to `width` digits. -/
def upperHex (width n : Nat) : List Char :=
  (Text.hexPadded width n).map Char.toUpper

/-- The escape of a character in double quotes. -/
def escaped (c : Char) : List Char :=
  match c.toNat with
  | 0x00 => ['\\', '0']
  | 0x07 => ['\\', 'a']
  | 0x08 => ['\\', 'b']
  | 0x09 => ['\\', 't']
  | 0x0A => ['\\', 'n']
  | 0x0B => ['\\', 'v']
  | 0x0C => ['\\', 'f']
  | 0x0D => ['\\', 'r']
  | 0x1B => ['\\', 'e']
  | 0x22 => ['\\', '"']
  | 0x5C => ['\\', '\\']
  | 0x85 => ['\\', 'N']
  | 0xA0 => ['\\', '_']
  | 0x2028 => ['\\', 'L']
  | 0x2029 => ['\\', 'P']
  | n =>
    if n ≤ 0xFF then '\\' :: 'x' :: upperHex 2 n
    else if n ≤ 0xFFFF then '\\' :: 'u' :: upperHex 4 n
    else '\\' :: 'U' :: upperHex 8 n

/-- A string in double quotes. -/
def doubleQuotedText (s : String) : String :=
  let body := s.toList.flatMap fun c =>
    if !isPrintable c || c.toNat = 0xFEFF || isLineBreak c || c = '"' || c = '\\' then escaped c
    else [c]
  "\"" ++ String.ofList body ++ "\""

/-- A string in single quotes. -/
def singleQuotedText (s : String) : String :=
  "'" ++ String.ofList (s.toList.flatMap fun c => if c = '\'' then ['\'', '\''] else [c]) ++ "'"

/-- How a scalar is written: on its line, or as a literal block with its header and lines. -/
inductive Written where
  | inline (text : String)
  | literal (header : String) (lines : List String)
  deriving Repr

/-- The header of a literal block: an indentation digit when the text starts with a space or
a break, and how its final breaks are kept. -/
def literalHeader (s : String) : String :=
  let cs := s.toList
  let hint := match cs.head? with
    | some c => if c = ' ' || isLineBreak c then "2" else ""
    | none => ""
  let chomp := match cs.reverse with
    | [] => "-"
    | [c] => if isLineBreak c then "+" else "-"
    | c :: d :: _ => if !isLineBreak c then "-" else if isLineBreak d then "+" else ""
  "|" ++ hint ++ chomp

/-- How a string is written; a key may not be a block. -/
def writeString (key : Bool) (s : String) : Written :=
  let st := stylesOf s
  let readsBack := (match resolvePlain s with
    | .str _ => true
    | _ => false) && !isSexagesimal s
  if s.toList.any isLineBreak && readsBack && st.block && !key then
    let body := (Text.split s '\n')
    let body := if body.getLast? = some "" then body.dropLast else body
    .literal (literalHeader s) body
  else if readsBack && st.plain && !(s.isEmpty && key) then .inline s
  else if readsBack && st.single then .inline (singleQuotedText s)
  else .inline (doubleQuotedText s)

/-- The digits of a decimal literal without its sign, as significant digits and the place
of the point: the value is `0.d₁d₂… × 10 ^ point`. -/
def decimalDigits (cs : List Char) : List Nat × Int :=
  let cs := cs.filter (· ≠ '_')
  let (mant, ex) := match cs.findIdx? (fun c => c = 'e' || c = 'E') with
    | some i => (cs.take i, cs.drop (i + 1))
    | none => (cs, [])
  let exv : Int := match ex with
    | '-' :: ds => -(((String.ofList ds).toNat?).getD 0 : Nat)
    | '+' :: ds => (((String.ofList ds).toNat?).getD 0 : Nat)
    | ds => (((String.ofList ds).toNat?).getD 0 : Nat)
  let whole := mant.takeWhile (· ≠ '.')
  let frac := (mant.drop (whole.length + 1))
  let all := (whole ++ frac).map fun c => c.toNat - '0'.toNat
  let lead := (all.takeWhile (· = 0)).length
  let ds := all.drop lead
  let ds := (ds.reverse.dropWhile (· = 0)).reverse
  (ds, (whole.length : Int) - lead + exv)

/-- A float literal as the shortest general format writes it. -/
def floatText (lit : String) : String :=
  if [".inf", ".Inf", ".INF", "+.inf", "+.Inf", "+.INF"].contains lit then ".inf"
  else if ["-.inf", "-.Inf", "-.INF"].contains lit then "-.inf"
  else if [".nan", ".NaN", ".NAN"].contains lit then ".nan"
  else
    let (neg, body) := match lit.toList with
      | '-' :: r => (true, r)
      | '+' :: r => (false, r)
      | r => (false, r)
    let sign := if neg then "-" else ""
    let (ds, point) := decimalDigits body
    let digitText (xs : List Nat) : String := String.ofList (xs.map fun d => Char.ofNat (d + 48))
    if ds.isEmpty then sign ++ "0"
    else
      let ex := point - 1
      if ex < -4 || ex ≥ 21 then
        let rest := ds.tail
        let exText := toString ex.natAbs
        sign ++ digitText [ds.head!] ++ (if rest.isEmpty then "" else "." ++ digitText rest) ++
          "e" ++ (if ex < 0 then "-" else "+") ++ (if exText.length < 2 then "0" else "") ++ exText
      else if point ≤ 0 then
        sign ++ "0." ++ String.ofList (List.replicate point.natAbs '0') ++ digitText ds
      else if point.toNat ≥ ds.length then
        sign ++ digitText ds ++ String.ofList (List.replicate (point.toNat - ds.length) '0')
      else
        sign ++ digitText (ds.take point.toNat) ++ "." ++ digitText (ds.drop point.toNat)

/-- How a scalar value is written. -/
def writeScalar (key : Bool) : Json → Written
  | .null => .inline "null"
  | .bool b => .inline (if b then "true" else "false")
  | .num l =>
    if l.toList.all (fun c => c.isDigit || c = '-') then .inline l else .inline (floatText l)
  | .str s => writeString key s
  | .arr _ => .inline "[]"
  | .obj _ => .inline "\x7b\x7d"

/-- Spaces for an indentation. -/
def pad (n : Nat) : String := String.ofList (List.replicate n ' ')

/-- What introduces a value: nothing at the top of a document, a key, or a dash. -/
inductive Lead where
  | top
  | key (text : String)
  | dash
  deriving Repr, DecidableEq

/-- The text a lead puts before a value on its own line, at an indentation. -/
def Lead.text (indent : Nat) : Lead → String
  | .top => ""
  | .key t => pad indent ++ t ++ ": "
  | .dash => pad indent ++ "- "

/-- The lines of a literal block introduced by a lead: the header on the lead's line, then the
text's lines two columns in from the lead, empty lines left empty. -/
def literalLines (indent : Nat) (lead : Lead) (header : String) (body : List String) :
    List String :=
  let inner := match lead with
    | .top => 2
    | _ => indent + 2
  (lead.text indent ++ header) :: body.map fun l => if l.isEmpty then l else pad inner ++ l

/-- Puts a prefix in place of the indentation of the first line. -/
def startWith (pre : String) (indent : Nat) : List String → List String
  | [] => [pre]
  | l :: ls => (pre ++ String.ofList (l.toList.drop indent)) :: ls

/-- Places the lines of a block collection after its lead: under a key they follow its line,
after a dash the first of them moves up onto the dash's line. -/
def placeBlock (indent : Nat) (lead : Lead) (body : List String) : List String :=
  match lead with
  | .top => body
  | .key t => (pad indent ++ t ++ ":") :: body
  | .dash => startWith (pad indent ++ "- ") (indent + 2) body

/-- The text of a key. -/
def keyWritten (k : String) : String :=
  match writeString true k with
  | .inline t => t
  | .literal _ _ => doubleQuotedText k

mutual
/-- The lines of a value introduced by a lead at an indentation. -/
def nodeLines (lay : Layout) (indent : Nat) (lead : Lead) : Json → List String
  | .arr [] => [lead.text indent ++ "[]"]
  | .obj [] => [lead.text indent ++ "\x7b\x7d"]
  | .arr xs =>
    let inner := match lead with
      | .top => indent
      | .key _ => if lay.indentItems then indent + 2 else indent
      | .dash => indent + 2
    placeBlock indent lead (itemLines lay inner xs)
  | .obj ms =>
    let inner := match lead with
      | .top => indent
      | _ => indent + 2
    placeBlock indent lead (memberLines lay inner ms)
  | v => match writeScalar false v with
    | .inline t => [lead.text indent ++ t]
    | .literal h ls => literalLines indent lead h ls

/-- The lines of the members of a mapping. -/
def memberLines (lay : Layout) (indent : Nat) : List (String × Json) → List String
  | [] => []
  | (k, v) :: ms => nodeLines lay indent (.key (keyWritten k)) v ++ memberLines lay indent ms

/-- The lines of the items of a sequence. -/
def itemLines (lay : Layout) (indent : Nat) : List Json → List String
  | [] => []
  | x :: xs => nodeLines lay indent .dash x ++ itemLines lay indent xs
end

mutual
/-- A value with the keys of every mapping in it in their natural order. -/
def sortDeep : Json → Json
  | .arr xs => .arr (sortItems xs)
  | .obj ms => .obj (naturalSort (sortMembersDeep ms))
  | v => v

/-- Items with their mappings sorted. -/
def sortItems : List Json → List Json
  | [] => []
  | x :: xs => sortDeep x :: sortItems xs

/-- Members with their mappings sorted. -/
def sortMembersDeep : List (String × Json) → List (String × Json)
  | [] => []
  | (k, v) :: ms => (k, sortDeep v) :: sortMembersDeep ms
end

/-- A value as a YAML document, ending with a line break. -/
def render (lay : Layout) (v : Json) : String :=
  let v := if lay.sortKeys then sortDeep v else v
  String.join ((nodeLines lay 0 .top v).map (· ++ "\n"))

theorem placeBlock_top (indent : Nat) (body : List String) :
    placeBlock indent .top body = body := rfl

end RemoteLsp.Yaml
