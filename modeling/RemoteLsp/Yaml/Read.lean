import RemoteLsp.Yaml.Scalar
import RemoteLsp.Text.Quoted
import RemoteLsp.Text.Chars

/-!
# Reading YAML documents

The block and flow styles of YAML as configuration files use them: mappings and sequences by
indentation, flow sequences and mappings in brackets, plain, single-quoted and double-quoted
scalars, literal and folded block scalars, and comments. A plain scalar in block style goes
on over the following lines that are indented beyond its owner; a mapping value on the same
line as its key cannot itself be a mapping or a sequence.

Reading first builds a tree of nodes that keeps every scalar's text, whether it was quoted and
its line; typing the scalars and checking that no mapping repeats a key is a second step.
Errors name the line where the reader noticed them. Errors found while splitting the text into
tokens count lines from one; errors of structure, found on the token where the reader got
stuck, count them from zero and say no line at all on the first. The end of a text that does
not end in a line break counts as the start of one more line.
-/

namespace RemoteLsp.Yaml

/-- A scalar as written: its text, whether it was written without quotes, and its line. -/
structure Scalar where
  text : String
  plain : Bool
  line : Nat
  deriving Repr, Inhabited

/-- A node of a document as read, before its scalars are typed. Collections keep the line
they start on. -/
inductive Node where
  | scalar (s : Scalar)
  | seq (line : Nat) (items : List Node)
  | map (line : Nat) (entries : List (Scalar × Node))
  deriving Repr, Inhabited

/-- A value that was left out, which stands for null. -/
def Node.absent (line : Nat) : Node := .scalar ⟨"", true, line⟩

/-- The line a node starts on. -/
def Node.line : Node → Nat
  | .scalar s => s.line
  | .seq l _ => l
  | .map l _ => l

/-- Why a text is not a document. -/
inductive ReadError where
  /-- The text cannot be split into tokens; the line counts from zero. -/
  | scanner (line : Nat) (problem : String)
  /-- The tokens do not make a document; the line is shown as is, and not at all when zero. -/
  | parser (line : Nat) (problem : String)
  /-- Keys given again in a mapping: the line of each repeated value, and the key as shown. -/
  | repeated (keys : List (Nat × String))
  deriving Repr

/-- The message of a reading error. -/
def ReadError.message : ReadError → String
  | .scanner l p => "yaml: line " ++ toString (l + 1) ++ ": " ++ p
  | .parser 0 p => "yaml: " ++ p
  | .parser l p => "yaml: line " ++ toString l ++ ": " ++ p
  | .repeated ks => "yaml: unmarshal errors:" ++
      String.join (ks.map fun (l, k) => "\n  line " ++ toString l ++ ": key " ++ k ++
        " already set in map")

/-- Where the reader is: the index of the next character, its line and its column. -/
structure Pos where
  index : Nat := 0
  line : Nat := 0
  col : Nat := 0
  deriving Repr, Inhabited

/-- A step of reading the characters of a text. -/
abbrev ReadM := ReaderT (Array Char) (StateT Pos (Except ReadError))

/-- Whether a character is a blank: a space or a tab. -/
def isBlankChar (c : Char) : Bool := c = ' ' || c = '\t'

/-- Whether a character breaks a line. -/
def isBreakChar (c : Char) : Bool := c = '\n' || c = '\r'

/-- Whether the next character is a blank, a line break, or missing. -/
def isBlankOrEnd : Option Char → Bool
  | none => true
  | some c => isBlankChar c || isBreakChar c

/-- Whether a character delimits entries of a flow collection. -/
def isFlowIndicator (c : Char) : Bool := c = ',' || c = '[' || c = ']' || c = '{' || c = '}'

/-- The character `k` places ahead. -/
def peekAt (k : Nat) : ReadM (Option Char) := do
  let src ← read
  return src[(← get).index + k]?

/-- The next character. -/
def peek : ReadM (Option Char) := peekAt 0

/-- The number of characters left. -/
def remaining : ReadM Nat := do return (← read).size - (← get).index

/-- Moves past the next character. -/
def bump : ReadM Unit := do
  match ← peek with
  | some '\n' => modify fun p => { index := p.index + 1, line := p.line + 1, col := 0 }
  | some _ => modify fun p => { p with index := p.index + 1, col := p.col + 1 }
  | none => pure ()

/-- Moves past `k` characters. -/
def bumpN : Nat → ReadM Unit
  | 0 => pure ()
  | k + 1 => do bump; bumpN k

/-- Moves past the characters that satisfy a test, at most `fuel` of them. -/
def skipWhile (pred : Char → Bool) : Nat → ReadM Unit
  | 0 => pure ()
  | fuel + 1 => do
    match ← peek with
    | some c => if pred c then do bump; skipWhile pred fuel else pure ()
    | none => pure ()

/-- Reads the characters that satisfy a test, at most `fuel` of them. -/
def takeWhileM (pred : Char → Bool) : Nat → List Char → ReadM (List Char)
  | 0, acc => pure acc.reverse
  | fuel + 1, acc => do
    match ← peek with
    | some c => if pred c then do bump; takeWhileM pred fuel (c :: acc) else pure acc.reverse
    | none => pure acc.reverse

/-- The line a token at the reader's place starts on; the end of the text counts as the
start of a new line unless a line break came just before it. -/
def tokenLine : ReadM Nat := do
  let p ← get
  match ← peek with
  | none => return if p.col = 0 then p.line else p.line + 1
  | some _ => return p.line

/-- Fails with an error found while splitting the text into tokens. -/
def scannerError {α : Type} (problem : String) : ReadM α := do
  throw (.scanner (← get).line problem)

/-- Fails with an error of structure at the token at the reader's place. -/
def parserError {α : Type} (problem : String) : ReadM α := do
  throw (.parser (← tokenLine) problem)

/-- Skips blanks on the current line. -/
def skipBlanks : ReadM Unit := do skipWhile isBlankChar (← remaining)

/-- Skips a comment up to the end of its line. -/
def skipComment : ReadM Unit := do
  if (← peek) = some '#' then skipWhile (fun c => !isBreakChar c) (← remaining)

/-- Moves past one line break. -/
def skipBreak : ReadM Unit := do
  if (← peek) = some '\r' then bump
  if (← peek) = some '\n' then bump

/-- Whether the current line ends after blanks and a comment; they are skipped. -/
def lineEnds : ReadM Bool := do
  skipBlanks
  skipComment
  return isBreakChar ((← peek).getD '\n') || (← peek).isNone

/-- Moves to the first character of the next line with content, skipping blank lines and
comment lines, and returns its column; none at the end of the text. A tab in the indentation
cannot start anything. -/
def nextContent : Nat → ReadM (Option Nat)
  | 0 => pure none
  | fuel + 1 => do
    skipWhile (· = ' ') (← remaining)
    match ← peek with
    | none => pure none
    | some '\t' => scannerError "found character that cannot start any token"
    | some '#' => do skipComment; skipBreak; nextContent fuel
    | some '\n' | some '\r' => do skipBreak; nextContent fuel
    | some _ => pure (some (← get).col)

/-- Whether a block sequence entry starts at an index: a dash and then a blank, a line break
or the end. -/
def dashAt (src : Array Char) (i : Nat) : Bool := src[i]? = some '-' && isBlankOrEnd src[i + 1]?

/-- The index just past a quoted scalar that starts at `i` and closes on the same line. -/
def quotedEndAt (src : Array Char) (q : Char) : Nat → Nat → Option Nat
  | 0, _ => none
  | fuel + 1, j =>
    match src[j]? with
    | none => none
    | some c =>
      if isBreakChar c then none
      else if q = '"' && c = '\\' then quotedEndAt src q fuel (j + 2)
      else if c = q then
        if q = '\'' && src[j + 1]? = some '\'' then quotedEndAt src q fuel (j + 2) else some (j + 1)
      else quotedEndAt src q fuel (j + 1)

/-- The index of the colon that ends a plain key on the line from `j`, if one does before the
line or a comment ends. -/
def plainKeyColon (src : Array Char) : Nat → Nat → Option Nat
  | 0, _ => none
  | fuel + 1, j =>
    match src[j]? with
    | none => none
    | some c =>
      if isBreakChar c then none
      else if c = ':' && isBlankOrEnd src[j + 1]? then some j
      else if isBlankChar c && src[j + 1]? = some '#' then none
      else plainKeyColon src fuel (j + 1)

/-- The index past the blanks from `j`. -/
def skipBlanksAt (src : Array Char) : Nat → Nat → Nat
  | 0, j => j
  | fuel + 1, j => if (src[j]?.map isBlankChar).getD false then skipBlanksAt src fuel (j + 1) else j

/-- Whether a mapping key followed by its colon starts at an index. -/
def keyAt (src : Array Char) (i : Nat) : Bool :=
  match src[i]? with
  | some '"' | some '\'' =>
    match quotedEndAt src (src[i]?.getD '"') src.size (i + 1) with
    | some j =>
      let k := skipBlanksAt src src.size j
      src[k]? = some ':' && isBlankOrEnd src[k + 1]?
    | none => false
  | some '[' | some '{' | some '#' | none => false
  | some _ => (plainKeyColon src src.size i).isSome

/-- Whether a block sequence entry starts at the reader's place. -/
def atDash : ReadM Bool := do return dashAt (← read) (← get).index

/-- Whether a mapping key starts at the reader's place. -/
def atKey : ReadM Bool := do return keyAt (← read) (← get).index

/-- Drops trailing blanks from reversed text. -/
def dropBlanksFront (acc : List Char) : List Char := acc.dropWhile isBlankChar

/-- Moves over line breaks and the blanks that start the following lines; returns how many
line breaks there were. -/
def skipBreaks : Nat → Nat → ReadM Nat
  | 0, n => pure n
  | fuel + 1, n => do
    skipBlanks
    match ← peek with
    | some c => if isBreakChar c then do skipBreak; skipBreaks fuel (n + 1) else pure n
    | none => pure n

/-- What a run of line breaks inside a scalar becomes: one break is a space, more keep all
but the first. -/
def folded (breaks : Nat) (acc : List Char) : List Char :=
  if breaks ≤ 1 then ' ' :: acc else List.replicate (breaks - 1) '\n' ++ acc

/-- Reads the rest of a single-quoted scalar. -/
def singleQuoted : Nat → List Char → ReadM String
  | 0, acc => pure (String.ofList acc.reverse)
  | fuel + 1, acc => do
    match ← peek with
    | none => scannerError "found unexpected end of stream"
    | some '\'' =>
      if (← peekAt 1) = some '\'' then do bumpN 2; singleQuoted fuel ('\'' :: acc)
      else do bump; pure (String.ofList acc.reverse)
    | some c =>
      if isBreakChar c then do
        let n ← skipBreaks (← remaining) 0
        singleQuoted fuel (folded n (dropBlanksFront acc))
      else do bump; singleQuoted fuel (c :: acc)

/-- The value of a run of hex digits. -/
def hexValue (cs : List Char) : Option Nat := digitsValue 16 cs

/-- The character of a one-letter escape. -/
def escapeOf : Char → Option Char
  | '0' => some (Char.ofNat 0)
  | 'a' => some (Char.ofNat 7)
  | 'b' => some (Char.ofNat 8)
  | 't' | '\t' => some '\t'
  | 'n' => some '\n'
  | 'v' => some (Char.ofNat 11)
  | 'f' => some (Char.ofNat 12)
  | 'r' => some '\r'
  | 'e' => some (Char.ofNat 27)
  | ' ' => some ' '
  | '"' => some '"'
  | '/' => some '/'
  | '\\' => some '\\'
  | 'N' => some (Char.ofNat 0x85)
  | '_' => some (Char.ofNat 0xA0)
  | 'L' => some (Char.ofNat 0x2028)
  | 'P' => some (Char.ofNat 0x2029)
  | _ => none

/-- Reads a hex escape of `width` digits. -/
def hexEscape (width : Nat) : ReadM Char := do
  let mut ds : List Char := []
  for _ in List.range width do
    match ← peek with
    | some c =>
      if (digitIn 16 c).isSome then
        ds := ds ++ [c]
        bump
      else scannerError "did not find expected hexdecimal number"
    | none => scannerError "did not find expected hexdecimal number"
  match hexValue ds with
  | some n =>
    if (0xD800 ≤ n && n ≤ 0xDFFF) || n > 0x10FFFF then
      scannerError "found invalid Unicode character escape code"
    else pure (Char.ofNat n)
  | none => scannerError "did not find expected hexdecimal number"

/-- Reads the rest of a double-quoted scalar. -/
def doubleQuoted : Nat → List Char → ReadM String
  | 0, acc => pure (String.ofList acc.reverse)
  | fuel + 1, acc => do
    match ← peek with
    | none => scannerError "found unexpected end of stream"
    | some '"' => do bump; pure (String.ofList acc.reverse)
    | some '\\' =>
      bump
      match ← peek with
      | some 'x' => do bump; doubleQuoted fuel ((← hexEscape 2) :: acc)
      | some 'u' => do bump; doubleQuoted fuel ((← hexEscape 4) :: acc)
      | some 'U' => do bump; doubleQuoted fuel ((← hexEscape 8) :: acc)
      | some c =>
        if isBreakChar c then do
          skipBreak
          let n ← skipBreaks (← remaining) 0
          doubleQuoted fuel (List.replicate n '\n' ++ acc)
        else
          match escapeOf c with
          | some e => do bump; doubleQuoted fuel (e :: acc)
          | none => scannerError "found unknown escape character"
      | none => scannerError "found unexpected end of stream"
    | some c =>
      if isBreakChar c then do
        let n ← skipBreaks (← remaining) 0
        doubleQuoted fuel (folded n (dropBlanksFront acc))
      else do bump; doubleQuoted fuel (c :: acc)

/-- Reads a quoted scalar at the reader's place. -/
def quoted : ReadM Scalar := do
  let line := (← get).line
  match ← peek with
  | some '\'' => do bump; return ⟨← singleQuoted (← remaining) [], false, line⟩
  | _ => do bump; return ⟨← doubleQuoted (← remaining) [], false, line⟩

/-- Reads one line of a plain scalar in block style: up to a colon before a blank, a blank
before a comment, or the end of the line; trailing blanks are dropped. -/
def plainRun : Nat → List Char → ReadM (List Char)
  | 0, acc => pure acc
  | fuel + 1, acc => do
    match ← peek with
    | none => pure acc
    | some c =>
      if isBreakChar c then pure acc
      else if c = ':' && isBlankOrEnd (← peekAt 1) then pure acc
      else if isBlankChar c && (← peekAt 1) = some '#' then pure acc
      else do bump; plainRun fuel (c :: acc)

/-- Whether a line that starts at the reader's place begins a document marker. -/
def atDocumentMarker : ReadM Bool := do
  let p ← get
  if p.col ≠ 0 then return false
  let a ← peekAt 0
  let b ← peekAt 1
  let c ← peekAt 2
  let d ← peekAt 3
  return ((a = some '-' && b = some '-' && c = some '-') ||
    (a = some '.' && b = some '.' && c = some '.')) && isBlankOrEnd d

/-- Reads a plain scalar in block style. Lines after the first continue it when they are
indented beyond `indent` and are not comments. -/
def plainBlock (indent : Int) : Nat → List Char → ReadM (List Char)
  | 0, acc => pure acc
  | fuel + 1, acc => do
    let acc ← plainRun (← remaining) acc
    let acc := dropBlanksFront acc
    match ← peek with
    | some c =>
      if isBreakChar c then do
        let saved ← get
        let n ← skipBreaks (← remaining) 0
        let col := (← get).col
        let next ← peek
        let comment := next = some '#'
        let ends := next.isNone || (next.map isBreakChar).getD false
        if ends || comment || (col : Int) ≤ indent || (← atDocumentMarker) then
          set saved
          pure acc
        else plainBlock indent fuel (folded n acc)
      else pure acc
    | none => pure acc

/-- Reads a plain scalar in flow style: up to a flow indicator, a colon before a blank or an
indicator, or a comment; it goes on over line breaks. -/
def plainFlow : Nat → List Char → ReadM (List Char)
  | 0, acc => pure acc
  | fuel + 1, acc => do
    match ← peek with
    | none => pure (dropBlanksFront acc)
    | some c =>
      if isFlowIndicator c then pure (dropBlanksFront acc)
      else if c = ':' && (isBlankOrEnd (← peekAt 1) || ((← peekAt 1).map isFlowIndicator).getD false)
        then pure (dropBlanksFront acc)
      else if isBlankChar c && (← peekAt 1) = some '#' then pure (dropBlanksFront acc)
      else if isBreakChar c then do
        let saved ← get
        let n ← skipBreaks (← remaining) 0
        match ← peek with
        | some d =>
          if isFlowIndicator d || d = '#' || (d = ':' && isBlankOrEnd (← peekAt 1)) then
            set saved
            pure (dropBlanksFront acc)
          else plainFlow fuel (folded n (dropBlanksFront acc))
        | none => do set saved; pure (dropBlanksFront acc)
      else do bump; plainFlow fuel (c :: acc)

/-- The lines of a block scalar: each line's text past the content indentation, read while
lines are empty or indented at least that far. -/
def blockLines (width : Nat) : Nat → List String → ReadM (List String)
  | 0, acc => pure acc.reverse
  | fuel + 1, acc => do
    let saved ← get
    skipWhile (· = ' ') width
    let col := (← get).col
    match ← peek with
    | none => pure acc.reverse
    | some c =>
      if isBreakChar c then do skipBreak; blockLines width fuel ("" :: acc)
      else if col < width then do set saved; pure acc.reverse
      else do
        let text ← takeWhileM (fun c => !isBreakChar c) (← remaining) []
        skipBreak
        blockLines width fuel (String.ofList text :: acc)

/-- Joins the lines of a folded block scalar: lines of text are joined by spaces, while empty
lines and more indented lines keep their breaks. -/
def foldLines : List String → String
  | [] => ""
  | [l] => l
  | l :: m :: rest =>
    let sep := if l.isEmpty || m.isEmpty || Text.startsWith m " " || Text.startsWith l " "
      then "\n" else " "
    l ++ sep ++ foldLines (m :: rest)

/-- Reads a literal (`|`) or folded (`>`) block scalar whose owner is at `indent`. -/
def blockScalar (indent : Int) : ReadM Scalar := do
  let line := (← get).line
  let literal := (← peek) = some '|'
  bump
  let header ← takeWhileM (fun c => c = '+' || c = '-' || c.isDigit) 3 []
  unless (← lineEnds) do scannerError "did not find expected comment or line break"
  skipBreak
  let explicit := (header.find? Char.isDigit).map fun d => d.toNat - '0'.toNat
  let saved ← get
  let _ ← skipBreaks (← remaining) 0
  let firstCol := (← get).col
  set saved
  let base : Nat := if indent < 0 then 0 else indent.toNat + 1
  let width := match explicit with
    | some w => (if indent < 0 then 0 else indent.toNat) + w
    | none => max firstCol base
  let lines ← if firstCol < base && explicit.isNone then pure [] else blockLines width (← remaining) []
  let trailing := (lines.reverse.takeWhile (·.isEmpty)).length
  let body := lines.take (lines.length - trailing)
  let text := if literal then "\n".intercalate body else foldLines body
  let chomped :=
    if header.contains '-' then text
    else if header.contains '+' then text ++ String.ofList (List.replicate (trailing + 1) '\n')
    else if body.isEmpty then "" else text ++ "\n"
  return ⟨chomped, false, line⟩

/-- Skips the blanks, line breaks and comments between the tokens of a flow collection. -/
def skipFlowSpace : Nat → ReadM Unit
  | 0 => pure ()
  | fuel + 1 => do
    match ← peek with
    | some c =>
      if isBlankChar c || isBreakChar c then do bump; skipFlowSpace fuel
      else if c = '#' then do skipComment; skipFlowSpace fuel
      else pure ()
    | none => pure ()

mutual
/-- Reads a node of a flow collection. -/
def flowNode : Nat → ReadM Node
  | 0 => parserError "did not find expected node content"
  | fuel + 1 => do
    match ← peek with
    | some '[' => flowSeq fuel
    | some '{' => flowMap fuel
    | some '"' | some '\'' => return .scalar (← quoted)
    | some c =>
      if isFlowIndicator c then parserError "did not find expected node content"
      else do
        let line := (← get).line
        let text ← plainFlow (← remaining) []
        return .scalar ⟨String.ofList text.reverse, true, line⟩
    | none => parserError "did not find expected node content"

/-- Reads a flow sequence at its opening bracket. -/
def flowSeq : Nat → ReadM Node
  | 0 => parserError "did not find expected node content"
  | fuel + 1 => do
    let line := (← get).line
    bump
    return .seq line (← flowItems fuel true [])

/-- Reads the entries of a flow sequence up to its closing bracket. An entry written as a key
and a value is a mapping of one pair. -/
def flowItems : Nat → Bool → List Node → ReadM (List Node)
  | 0, _, acc => pure acc.reverse
  | fuel + 1, first, acc => do
    skipFlowSpace (← remaining)
    if (← peek) = some ']' then do bump; return acc.reverse
    if !first then
      if (← peek) = some ',' then do
        bump
        skipFlowSpace (← remaining)
        if (← peek) = some ']' then do bump; return acc.reverse
      else parserError "did not find expected ',' or ']'"
    let key ← flowNode fuel
    skipFlowSpace (← remaining)
    if (← peek) = some ':' then do
      bump
      skipFlowSpace (← remaining)
      let value ← match ← peek with
        | some ',' | some ']' => pure (Node.absent (← get).line)
        | _ => flowNode fuel
      let k : Scalar := match key with
        | .scalar s => s
        | other => ⟨"", true, other.line⟩
      flowItems fuel false (.map key.line [(k, value)] :: acc)
    else flowItems fuel false (key :: acc)

/-- Reads a flow mapping at its opening brace. -/
def flowMap : Nat → ReadM Node
  | 0 => parserError "did not find expected node content"
  | fuel + 1 => do
    let line := (← get).line
    bump
    return .map line (← flowEntries fuel true [])

/-- Reads the entries of a flow mapping up to its closing brace; a key without a colon has
a null value. -/
def flowEntries : Nat → Bool → List (Scalar × Node) → ReadM (List (Scalar × Node))
  | 0, _, acc => pure acc.reverse
  | fuel + 1, first, acc => do
    skipFlowSpace (← remaining)
    if (← peek) = some '}' then do bump; return acc.reverse
    if !first then
      if (← peek) = some ',' then do
        bump
        skipFlowSpace (← remaining)
        if (← peek) = some '}' then do bump; return acc.reverse
      else parserError "did not find expected ',' or '\x7d'"
    let key ← if (← peek) = some ':' then pure (Node.absent (← get).line) else flowNode fuel
    skipFlowSpace (← remaining)
    let value ← if (← peek) = some ':' then do
        bump
        skipFlowSpace (← remaining)
        match ← peek with
        | some ',' | some '}' => pure (Node.absent (← get).line)
        | _ => flowNode fuel
      else pure (Node.absent (← get).line)
    let k : Scalar := match key with
      | .scalar s => s
      | other => ⟨"", true, other.line⟩
    flowEntries fuel false ((k, value) :: acc)
end

/-- Skips a tag or an anchor before a node: its name up to a blank. -/
def skipProperties : Nat → ReadM Unit
  | 0 => pure ()
  | fuel + 1 => do
    match ← peek with
    | some '!' | some '&' => do
      skipWhile (fun c => !isBlankChar c && !isBreakChar c) (← remaining)
      skipBlanks
      skipProperties fuel
    | _ => pure ()

/-- Reads a node that starts on the current line in block style, other than a block
collection; plain scalars continue on lines indented beyond `indent`. -/
def inlineNode (indent : Int) (fuel : Nat) : ReadM Node := do
  skipProperties 4
  match ← peek with
  | some '[' => flowSeq fuel
  | some '{' => flowMap fuel
  | some '"' | some '\'' => return .scalar (← quoted)
  | some '|' | some '>' => return .scalar (← blockScalar indent)
  | some c =>
    if c = '%' || c = '@' || c = '`' then scannerError "found character that cannot start any token"
    else if c = ',' || c = ']' || c = '}' then parserError "did not find expected node content"
    else do
      let line := (← get).line
      let text ← plainBlock indent (← remaining) []
      if (← peek) = some ':' then scannerError "mapping values are not allowed in this context"
      return .scalar ⟨String.ofList text.reverse, true, line⟩
  | none => return Node.absent (← tokenLine)

/-- After a value on a line: the rest of the line must be blank or a comment. -/
def endLine : ReadM Unit := do
  if !(← lineEnds) then
    if (← peek) = some ':' then scannerError "mapping values are not allowed in this context"
    else parserError "did not find expected key"
  skipBreak

/-- Reads a mapping key at the reader's place, up to and past its colon. -/
def blockKey : ReadM Scalar := do
  match ← peek with
  | some '"' | some '\'' =>
    let s ← quoted
    skipBlanks
    bump
    return s
  | _ =>
    let line := (← get).line
    let text ← plainRun (← remaining) []
    bump
    return ⟨String.ofList (dropBlanksFront text).reverse, true, line⟩

mutual
/-- Reads the value of a block collection entry whose content starts on the following lines:
nothing when the next content is not indented beyond `indent`, except that a mapping value
may be a sequence at the mapping's own indentation. -/
def blockValue : Nat → Int → Bool → Nat → ReadM Node
  | 0, _, _, line => pure (Node.absent line)
  | fuel + 1, indent, seqAtIndent, line => do
    match ← nextContent (← remaining) with
    | none => pure (Node.absent line)
    | some col =>
      if (col : Int) > indent then blockAt fuel col indent
      else if seqAtIndent && (col : Int) = indent && (← atDash) then blockSeq fuel col true
      else pure (Node.absent line)

/-- Reads a node whose first character is at column `col`, owned by something at `indent`. -/
def blockAt : Nat → Nat → Int → ReadM Node
  | 0, _, _ => parserError "did not find expected node content"
  | fuel + 1, col, indent => do
    if ← atDash then blockSeq fuel col false
    else if ← atKey then blockMap fuel col
    else do
      let node ← inlineNode indent fuel
      endLine
      pure node

/-- Reads a block sequence whose dashes are at column `col`. An indentless sequence, the
value of a mapping at the mapping's own indentation, ends at the first line without a dash. -/
def blockSeq : Nat → Nat → Bool → ReadM Node
  | 0, _, _ => parserError "did not find expected node content"
  | fuel + 1, col, indentless => do
    let line := (← get).line
    return .seq line (← seqItems fuel col indentless [])

/-- Reads the entries of a block sequence. -/
def seqItems : Nat → Nat → Bool → List Node → ReadM (List Node)
  | 0, _, _, acc => pure acc.reverse
  | fuel + 1, col, indentless, acc => do
    let line := (← get).line
    bump
    skipBlanks
    let item ← if (← lineEnds) then do
        skipBreak
        blockValue fuel col false line
      else do
        let c := (← get).col
        if ← atDash then blockSeq fuel c false
        else if ← atKey then blockMap fuel c
        else do
          let node ← inlineNode col fuel
          endLine
          pure node
    let acc := item :: acc
    match ← nextContent (← remaining) with
    | none => pure acc.reverse
    | some next =>
      if next = col && (← atDash) then seqItems fuel col indentless acc
      else if next < col || (next = col && indentless) then pure acc.reverse
      else parserError "did not find expected '-' indicator"

/-- Reads a block mapping whose keys are at column `col`. -/
def blockMap : Nat → Nat → ReadM Node
  | 0, _ => parserError "did not find expected node content"
  | fuel + 1, col => do
    let line := (← get).line
    return .map line (← mapEntries fuel col [])

/-- Reads the entries of a block mapping. -/
def mapEntries : Nat → Nat → List (Scalar × Node) → ReadM (List (Scalar × Node))
  | 0, _, acc => pure acc.reverse
  | fuel + 1, col, acc => do
    if !(← atKey) then
      skipWhile (fun c => !isBreakChar c) (← remaining)
      skipBreak
      let _ ← nextContent (← remaining)
      throw (.scanner (← tokenLine) "could not find expected ':'")
    let key ← blockKey
    skipBlanks
    let line := (← get).line
    let value ← if (← lineEnds) then do
        skipBreak
        blockValue fuel col true line
      else do
        if ← atDash then scannerError "block sequence entries are not allowed in this context"
        else if ← atKey then scannerError "mapping values are not allowed in this context"
        else do
          let node ← inlineNode col fuel
          endLine
          pure node
    let acc := (key, value) :: acc
    match ← nextContent (← remaining) with
    | none => pure acc.reverse
    | some next =>
      if next = col then
        if ← atDash then parserError "did not find expected key"
        else mapEntries fuel col acc
      else if next < col then pure acc.reverse
      else parserError "did not find expected key"
end

/-- Reads the first document of a text; none when it holds no content. -/
def document : ReadM (Option Node) := do
  let fuel := 2 * (← remaining) + 8
  let some _ ← nextContent (← remaining) | return none
  if ← atDocumentMarker then
    if (← peek) = some '.' then return none
    bumpN 3
    skipBlanks
    if !(← lineEnds) then
      let node ← inlineNode (-1) fuel
      endLine
      return some node
    skipBreak
  let some col ← nextContent (← remaining) | return none
  let node ← blockAt fuel col (-1)
  match ← nextContent (← remaining) with
  | none => return some node
  | some _ =>
    if ← atDocumentMarker then return some node
    else parserError "did not find expected <document start>"

/-- The text of a key for messages, as a repeated key is shown. -/
def keyShown (s : Scalar) : String :=
  if s.plain then
    match resolvePlain s.text with
    | .num l => l
    | .bool b => if b then "true" else "false"
    | .null => "interface \x7b\x7d(nil)"
    | _ => Text.quoted s.text
  else Text.quoted s.text

/-- The text a key stands for in a mapping of texts. -/
def keyText (s : Scalar) : String :=
  if s.plain then
    match resolvePlain s.text with
    | .num l => l
    | .bool b => if b then "true" else "false"
    | .null => "null"
    | _ => s.text
  else s.text

/-- The value of a scalar. -/
def Scalar.value (s : Scalar) : Json := if s.plain then resolvePlain s.text else .str s.text

mutual
/-- The value of a node, and the keys it repeats, in the order they are met. -/
def Node.value : Node → Json × List (Nat × String)
  | .scalar s => (s.value, [])
  | .seq _ items =>
    let (vs, errs) := Node.values items
    (.arr vs, errs)
  | .map _ entries =>
    let (ms, errs) := Node.members [] entries
    (.obj ms, errs)

/-- The values of nodes. -/
def Node.values : List Node → List Json × List (Nat × String)
  | [] => ([], [])
  | n :: ns =>
    let (v, e1) := n.value
    let (vs, e2) := Node.values ns
    (v :: vs, e1 ++ e2)

/-- The members of mapping entries; a key given again is reported at its value's line and
the first value is kept. -/
def Node.members : List String → List (Scalar × Node) → List (String × Json) × List (Nat × String)
  | _, [] => ([], [])
  | seen, (k, n) :: rest =>
    let key := keyText k
    let (v, e1) := n.value
    if seen.contains key then
      let (ms, e2) := Node.members seen rest
      (ms, e1 ++ [(n.line + 1, keyShown k)] ++ e2)
    else
      let (ms, e2) := Node.members (key :: seen) rest
      ((key, v) :: ms, e1 ++ e2)
end

/-- Reads the first document of a text as its nodes, with the lines they stand on; none when
it holds no content. -/
def readTree (text : String) : Except ReadError (Option Node) :=
  match (document.run text.toList.toArray).run {} with
  | .error e => .error e
  | .ok (n, _) => .ok n

/-- Reads the first document of a text: none when it holds no content, else its value. -/
def readDocument (text : String) : Except ReadError (Option Json) :=
  match (document.run text.toList.toArray).run {} with
  | .error e => .error e
  | .ok (none, _) => .ok none
  | .ok (some node, _) =>
    match node.value with
    | (v, []) => .ok (some v)
    | (_, errs) => .error (.repeated errs)

end RemoteLsp.Yaml
