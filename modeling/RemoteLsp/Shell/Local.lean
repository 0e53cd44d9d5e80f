import RemoteLsp.Text.Chars
import RemoteLsp.Text.Quoted
import RemoteLsp.Text.Space

/-!
# Commands on the local machine

A deterministic model of running a command line on the local machine, for the commands a
probe or a test uses: `sh -c` with the POSIX shell's words, quotes, parameters, `;`, `&&`,
`||` and stream redirections, and the utilities `echo`, `printf`, `exit`, `kill`, `sleep`,
`eval`, `true` and `false`. A program that is not found fails to start, with the message of
the process launcher: for a name searched along the path, that it is not found there; for a
path, that no such file exists.

The shell's own process id is a fixed number per nesting level, so `kill -TERM $$` ends the
shell with the signal while killing any other process fails. `sleep` takes no time here but
marks the run as slow: a run that is slow ends only after any timeout a caller sets.
-/

namespace RemoteLsp.Shell.Local

/-- A piece of a word as written: a character, or a parameter to expand; either may be
quoted, which keeps an expansion from being split into fields. -/
inductive Piece where
  | char (c : Char) (quoted : Bool)
  | param (name : String) (quoted : Bool)
  deriving Repr, DecidableEq

/-- A word as written. -/
abbrev Word := List Piece

/-- A token of a command line. -/
inductive Token where
  | word (w : Word)
  /-- A separator: a newline, `;`, `&`, `&&`, `||` or `|`. -/
  | op (s : String)
  /-- A redirection operator (`>`, `>>`, `<`, `>&`, `<&`), with the stream it names. -/
  | redirect (fd : Option Nat) (kind : String)
  deriving Repr, DecidableEq

/-- The value of a text of decimal digits. -/
def digitsValue (cs : List Char) : Nat := cs.foldl (fun n c => 10 * n + (c.toNat - '0'.toNat)) 0

/-- Whether a character starts a parameter name. -/
def isNameStart (c : Char) : Bool := c.isAlpha || c = '_'

/-- Whether a character continues a parameter name. -/
def isNameChar (c : Char) : Bool := c.isAlphanum || c = '_'

/-- The parameter written after a `$`, and the text after it; none when the `$` stands for
itself. -/
def readParam (quoted : Bool) : List Char → Option (Piece × List Char)
  | '{' :: rest =>
    some (.param (String.ofList (rest.takeWhile (· ≠ '}'))) quoted,
      (rest.dropWhile (· ≠ '}')).drop 1)
  | c :: rest =>
    if c = '$' || c = '#' || c = '?' || c = '@' || c = '*' || c = '!' || c = '-' || c.isDigit then
      some (.param (String.singleton c) quoted, rest)
    else if isNameStart c then
      some (.param (String.ofList ((c :: rest).takeWhile isNameChar)) quoted,
        (c :: rest).dropWhile isNameChar)
    else none
  | [] => none

/-- The pieces of a double-quoted text up to its closing quote, and the text after it. -/
def readDouble : Nat → List Char → Word → Word × List Char
  | 0, cs, acc => (acc, cs)
  | _ + 1, [], acc => (acc, [])
  | fuel + 1, c :: rest, acc =>
    if c = '"' then (acc, rest)
    else if c = '\\' then
      match rest with
      | '\n' :: r => readDouble fuel r acc
      | d :: r =>
        if d = '$' || d = '"' || d = '\\' || d = '`' then readDouble fuel r (acc ++ [.char d true])
        else readDouble fuel r (acc ++ [.char '\\' true, .char d true])
      | [] => (acc ++ [.char '\\' true], [])
    else if c = '$' then
      match readParam true rest with
      | some (p, r) => readDouble fuel r (acc ++ [p])
      | none => readDouble fuel rest (acc ++ [.char '$' true])
    else readDouble fuel rest (acc ++ [.char c true])

/-- Ends the current word, if one was started. -/
def flushWord (cur : Word) (started : Bool) (acc : List Token) : List Token :=
  if started then .word cur :: acc else acc

/-- The stream number a word of one unquoted digit names before a redirection. -/
def streamDigit : Word → Option Nat
  | [.char d false] => if d.isDigit then some (d.toNat - '0'.toNat) else none
  | _ => none

/-- Splits a command line into tokens; the tokens are kept in reverse. -/
def lexAux : Nat → List Char → Word → Bool → List Token → List Token
  | 0, _, cur, started, acc => flushWord cur started acc
  | _ + 1, [], cur, started, acc => flushWord cur started acc
  | fuel + 1, c :: rest, cur, started, acc =>
    match c with
    | '\'' =>
      let lit := rest.takeWhile (· ≠ '\'')
      lexAux fuel ((rest.dropWhile (· ≠ '\'')).drop 1) (cur ++ lit.map (.char · true)) true acc
    | '"' =>
      let (w, r) := readDouble rest.length rest []
      lexAux fuel r (cur ++ w) true acc
    | '\\' =>
      match rest with
      | '\n' :: r => lexAux fuel r cur started acc
      | d :: r => lexAux fuel r (cur ++ [.char d true]) true acc
      | [] => lexAux fuel [] (cur ++ [.char '\\' false]) true acc
    | '$' =>
      match readParam false rest with
      | some (p, r) => lexAux fuel r (cur ++ [p]) true acc
      | none => lexAux fuel rest (cur ++ [.char '$' false]) true acc
    | ' ' | '\t' => lexAux fuel rest [] false (flushWord cur started acc)
    | '\n' | ';' => lexAux fuel rest [] false (.op (String.singleton c) :: flushWord cur started acc)
    | '&' =>
      match rest with
      | '&' :: r => lexAux fuel r [] false (.op "&&" :: flushWord cur started acc)
      | _ => lexAux fuel rest [] false (.op "&" :: flushWord cur started acc)
    | '|' =>
      match rest with
      | '|' :: r => lexAux fuel r [] false (.op "||" :: flushWord cur started acc)
      | _ => lexAux fuel rest [] false (.op "|" :: flushWord cur started acc)
    | '>' | '<' =>
      let fd := if started then streamDigit cur else none
      let acc := if fd.isSome then acc else flushWord cur started acc
      match c, rest with
      | '>', '>' :: r => lexAux fuel r [] false (.redirect fd ">>" :: acc)
      | '>', '&' :: r => lexAux fuel r [] false (.redirect fd ">&" :: acc)
      | '<', '&' :: r => lexAux fuel r [] false (.redirect fd "<&" :: acc)
      | _, _ => lexAux fuel rest [] false (.redirect fd (String.singleton c) :: acc)
    | '#' =>
      if started then lexAux fuel rest (cur ++ [.char '#' false]) true acc
      else lexAux fuel (rest.dropWhile (· ≠ '\n')) [] false acc
    | _ => lexAux fuel rest (cur ++ [.char c false]) true acc

/-- The tokens of a command line. -/
def lex (s : String) : List Token := (lexAux (s.length + 1) s.toList [] false []).reverse

/-- Where a redirection sends a stream. -/
inductive Target where
  /-- Into another stream, `n>&m`. -/
  | stream (fd : Nat)
  /-- Into a file named by a word. -/
  | file (w : Word)
  /-- From a file or stream, which the model leaves unread. -/
  | input
  deriving Repr, DecidableEq

/-- A simple command: its words, its redirections in order, and its line. -/
structure Command where
  words : List Word
  redirects : List (Nat × Target)
  line : Nat
  deriving Repr

/-- How a command follows the one before it. -/
inductive Link where
  | always
  | ifSucceeded
  | ifFailed
  deriving Repr, DecidableEq

/-- The link a separator makes. -/
def linkOf : String → Link
  | "&&" => .ifSucceeded
  | "||" => .ifFailed
  | _ => .always

/-- The digits of a word written without quotes or parameters, if it is a number. -/
def wordNumber (w : Word) : Option Nat :=
  let cs := w.filterMap fun | .char c _ => some c | .param _ _ => none
  if cs.length = w.length && !cs.isEmpty && cs.all Char.isDigit then
    some (digitsValue cs)
  else none

/-- The redirection an operator makes with its target word. -/
def redirectOf (fd : Option Nat) (kind : String) (w : Word) : Nat × Target :=
  match kind with
  | ">&" => (fd.getD 1, match wordNumber w with
      | some n => .stream n
      | none => .file w)
  | "<" | "<&" => (fd.getD 0, .input)
  | _ => (fd.getD 1, .file w)

/-- Groups tokens into commands with their links; the result is kept in reverse. -/
def parseAux : List Token → Command → Link → Nat → List (Link × Command) → List (Link × Command)
  | [], cur, link, _, acc =>
    if cur.words.isEmpty && cur.redirects.isEmpty then acc else (link, cur) :: acc
  | .word w :: rest, cur, link, line, acc =>
    parseAux rest { cur with words := cur.words ++ [w] } link line acc
  | .redirect fd kind :: .word w :: rest, cur, link, line, acc =>
    parseAux rest { cur with redirects := cur.redirects ++ [redirectOf fd kind w] } link line acc
  | .redirect _ _ :: rest, cur, link, line, acc => parseAux rest cur link line acc
  | .op s :: rest, cur, link, line, acc =>
    let line' := if s = "\n" then line + 1 else line
    let acc := if cur.words.isEmpty && cur.redirects.isEmpty then acc else (link, cur) :: acc
    let link' := if cur.words.isEmpty && cur.redirects.isEmpty && s = "\n" then link else linkOf s
    parseAux rest ⟨[], [], line'⟩ link' line' acc

/-- The commands of a command line, each with the link to the one before it. -/
def parse (s : String) : List (Link × Command) := (parseAux (lex s) ⟨[], [], 1⟩ .always 1 []).reverse

/-- The state of one shell: its name (`$0`), arguments, process id, last status, variables,
whether a slow command has run, the standard input not read yet, and the working
directory. -/
structure Env where
  name : String
  args : List String
  pid : Nat
  status : Nat
  vars : List (String × String)
  slow : Bool
  stdin : String := ""
  dir : String := "/"
  deriving Repr

/-- The value of a parameter. -/
def Env.param (env : Env) (name : String) : String :=
  match name with
  | "$" => toString env.pid
  | "#" => toString env.args.length
  | "?" => toString env.status
  | "@" | "*" => " ".intercalate env.args
  | "!" | "-" => ""
  | _ =>
    if name.all Char.isDigit && !name.isEmpty then
      let i := digitsValue name.toList
      if i = 0 then env.name else (env.args[i - 1]?).getD ""
    else ((env.vars.find? (·.1 = name)).map (·.2)).getD ""

/-- Whether a character separates fields after an unquoted expansion. -/
def isFieldSeparator (c : Char) : Bool := c = ' ' || c = '\t' || c = '\n'

/-- Adds a text that is split into fields at separators. -/
def splitInto (fields : List String) (cur : String) (started : Bool) :
    List Char → List String × String × Bool
  | [] => (fields, cur, started)
  | c :: cs =>
    if isFieldSeparator c then
      if started then splitInto (fields ++ [cur]) "" false cs else splitInto fields cur started cs
    else splitInto fields (cur.push c) true cs

/-- The fields of a word after expansion. -/
def expandAux (env : Env) : Word → List String → String → Bool → List String
  | [], fields, cur, started => if started then fields ++ [cur] else fields
  | .char c _ :: rest, fields, cur, _ => expandAux env rest fields (cur.push c) true
  | .param "@" true :: rest, fields, cur, started =>
    match env.args with
    | [] => expandAux env rest fields cur started
    | a :: more =>
      let all := (cur ++ a) :: more
      expandAux env rest (fields ++ all.dropLast) (all.getLast?.getD "") true
  | .param n true :: rest, fields, cur, _ => expandAux env rest fields (cur ++ env.param n) true
  | .param n false :: rest, fields, cur, started =>
    let (fields, cur, started) := splitInto fields cur started (env.param n).toList
    expandAux env rest fields cur started

/-- The fields of a word after expansion. -/
def expand (env : Env) (w : Word) : List String := expandAux env w [] "" false

/-- The name and value of a word that assigns a variable. -/
def assignment? (env : Env) (w : Word) : Option (String × String) :=
  let name := w.takeWhile fun
    | .char c false => isNameChar c
    | _ => false
  match w.drop name.length with
  | .char '=' false :: value =>
    let n := String.ofList (name.filterMap fun | .char c _ => some c | _ => none)
    if !((n.toList.head?.map isNameStart).getD false) then none
    else some (n, "".intercalate (expand env value))
  | _ => none

/-- What a command's streams are connected to. -/
inductive Sink where
  | out
  | err
  | null
  deriving Repr, DecidableEq

/-- The text written to standard output and standard error. -/
structure Streams where
  out : String := ""
  err : String := ""
  deriving Repr, DecidableEq, Inhabited

instance : Append Streams := ⟨fun a b => ⟨a.out ++ b.out, a.err ++ b.err⟩⟩

/-- Sends text to a sink. -/
def Sink.write (s : Sink) (text : String) : Streams :=
  match s with
  | .out => { out := text }
  | .err => { err := text }
  | .null => {}

/-- Where a command's output and error streams go after its redirections. -/
def sinks (env : Env) (redirects : List (Nat × Target)) : Sink × Sink :=
  redirects.foldl (fun (o, e) (fd, t) =>
    let target : Option Sink := match t with
      | .stream 1 => some o
      | .stream 2 => some e
      | .stream _ => some .null
      | .file w => match expand env w with
        | ["/dev/stdout"] => some o
        | ["/dev/stderr"] => some e
        | _ => some .null
      | .input => none
    match target, fd with
    | some s, 1 => (s, e)
    | some s, 2 => (o, s)
    | _, _ => (o, e)) (.out, .err)

/-- Sends a command's own output and errors where its redirections say. -/
def route (env : Env) (redirects : List (Nat × Target)) (s : Streams) : Streams :=
  let (o, e) := sinks env redirects
  o.write s.out ++ e.write s.err

/-- How a command ended the shell, if it did. -/
inductive Flow where
  | next
  | exit (code : Nat)
  | killed (signal : Nat)
  deriving Repr, DecidableEq

/-- The value of an octal digit. -/
def octal? (c : Char) : Option Nat :=
  if '0' ≤ c && c ≤ '7' then some (c.toNat - '0'.toNat) else none

/-- Up to `n` octal digits and their value. -/
def readOctal : Nat → List Char → Nat → Nat × List Char
  | 0, cs, v => (v, cs)
  | n + 1, c :: cs, v =>
    match octal? c with
    | some d => readOctal n cs (8 * v + d)
    | none => (v, c :: cs)
  | _ + 1, [], v => (v, [])

/-- The character of a one-letter escape. -/
def escapeChar? : Char → Option Char
  | '\\' => some '\\'
  | 'a' => some (Char.ofNat 7)
  | 'b' => some (Char.ofNat 8)
  | 'f' => some (Char.ofNat 12)
  | 'n' => some '\n'
  | 'r' => some '\r'
  | 't' => some '\t'
  | 'v' => some (Char.ofNat 11)
  | _ => none

/-- A text with its backslash escapes replaced, as `echo` and `%b` read them: `\c` ends the
output, `\0` takes up to three octal digits. Returns the text and whether `\c` ended it. -/
def echoEscapes : Nat → List Char → String → String × Bool
  | 0, _, acc => (acc, false)
  | _ + 1, [], acc => (acc, false)
  | _ + 1, '\\' :: 'c' :: _, acc => (acc, true)
  | fuel + 1, '\\' :: '0' :: rest, acc =>
    let (v, r) := readOctal 3 rest 0
    echoEscapes fuel r (acc.push (Char.ofNat v))
  | fuel + 1, '\\' :: c :: rest, acc =>
    match escapeChar? c with
    | some e => echoEscapes fuel rest (acc.push e)
    | none => echoEscapes fuel rest ((acc.push '\\').push c)
  | fuel + 1, c :: rest, acc => echoEscapes fuel rest (acc.push c)

/-- What `echo` writes. -/
def echoText (args : List String) : String :=
  let (newline, args) := match args with
    | "-n" :: rest => (false, rest)
    | _ => (true, args)
  let (text, stopped) := echoEscapes ((" ".intercalate args).length + 1) (" ".intercalate args).toList ""
  if stopped || !newline then text else text ++ "\n"

/-- A conversion of a `printf` format: its flags, width, precision and letter. -/
structure Spec where
  leftAlign : Bool
  zeroPad : Bool
  width : Nat
  precision : Option Nat
  letter : Char
  deriving Repr

/-- A piece of a `printf` format. -/
inductive FormatPiece where
  | text (s : String)
  | conversion (s : Spec)
  deriving Repr

/-- The digits at the front of a text and their value. -/
def readNumber (cs : List Char) : Option Nat × List Char :=
  let ds := cs.takeWhile Char.isDigit
  if ds.isEmpty then (none, cs) else (some (digitsValue ds), cs.drop ds.length)

/-- The pieces of a `printf` format; an unknown conversion letter is an error naming it. -/
def parseFormat : Nat → List Char → List FormatPiece → Except String (List FormatPiece)
  | 0, _, acc => .ok acc
  | _ + 1, [], acc => .ok acc
  | fuel + 1, '\\' :: rest, acc =>
    match rest with
    | c :: r =>
      if (octal? c).isSome then
        let (v, r) := readOctal 3 rest 0
        parseFormat fuel r (acc ++ [.text (String.singleton (Char.ofNat v))])
      else match escapeChar? c with
        | some e => parseFormat fuel r (acc ++ [.text (String.singleton e)])
        | none =>
          if c = '"' || c = '\'' then parseFormat fuel r (acc ++ [.text (String.singleton c)])
          else parseFormat fuel r (acc ++ [.text ("\\" ++ String.singleton c)])
    | [] => .ok (acc ++ [.text "\\"])
  | fuel + 1, '%' :: '%' :: rest, acc => parseFormat fuel rest (acc ++ [.text "%"])
  | fuel + 1, '%' :: rest, acc =>
    let flags := rest.takeWhile (fun c => c = '-' || c = '0' || c = '+' || c = ' ' || c = '#')
    let rest := rest.drop flags.length
    let (width, rest) := readNumber rest
    let (precision, rest) := match rest with
      | '.' :: r => let (p, r) := readNumber r; (some (p.getD 0), r)
      | _ => (none, rest)
    match rest with
    | c :: r =>
      if "sbcdiuoxX".toList.contains c then
        parseFormat fuel r (acc ++ [.conversion ⟨flags.contains '-', flags.contains '0',
          width.getD 0, precision, c⟩])
      else .error ("%" ++ String.ofList flags ++ String.singleton c)
    | [] => .error "%"
  | fuel + 1, c :: rest, acc => parseFormat fuel rest (acc ++ [.text (String.singleton c)])

/-- Pads a text to a width. -/
def pad (s : Spec) (text : String) (numeric : Bool) : String :=
  let fill := s.width - text.length
  if s.leftAlign then text ++ String.ofList (List.replicate fill ' ')
  else if s.zeroPad && numeric then
    match text.toList with
    | '-' :: ds => "-" ++ String.ofList (List.replicate fill '0') ++ String.ofList ds
    | _ => String.ofList (List.replicate fill '0') ++ text
  else String.ofList (List.replicate fill ' ') ++ text

/-- The number an argument of a numeric conversion gives, or none when it is not a number. -/
def numericArg (a : String) : Option Int :=
  match a.toList with
  | [] => some 0
  | '\'' :: c :: _ => some c.toNat
  | '"' :: c :: _ => some c.toNat
  | '+' :: ds => if !ds.isEmpty && ds.all Char.isDigit then some (digitsValue ds : Int) else none
  | '-' :: ds => if !ds.isEmpty && ds.all Char.isDigit then some (-(digitsValue ds : Int)) else none
  | ds => if ds.all Char.isDigit then some (digitsValue ds : Int) else none

/-- The digits of a number in a base. -/
def digitsIn (base : Nat) (n : Nat) (upper : Bool) : String :=
  let s := String.ofList (Nat.toDigits base n)
  if upper then s.toUpper else s

/-- The text of one conversion of an argument, and the argument that is not a number, if any. -/
def convert (s : Spec) (arg : String) : String × Option String :=
  match s.letter with
  | 's' =>
    let t := match s.precision with
      | some p => String.ofList (arg.toList.take p)
      | none => arg
    (pad s t false, none)
  | 'b' => (pad s (echoEscapes (arg.length + 1) arg.toList "").1 false, none)
  | 'c' => (pad s (String.ofList (arg.toList.take 1)) false, none)
  | l =>
    let (n, bad) := match numericArg arg with
      | some n => (n, none)
      | none => (0, some arg)
    let text := match l with
      | 'o' => digitsIn 8 n.toNat false
      | 'x' => digitsIn 16 n.toNat false
      | 'X' => digitsIn 16 n.toNat true
      | _ => toString n
    (pad s text true, bad)

/-- One pass of a format over arguments: the text, the arguments left, whether any
conversion took an argument, and the arguments that were not numbers. -/
def formatOnce (pieces : List FormatPiece) (args : List String) :
    String × List String × Bool × List String :=
  pieces.foldl (fun (out, args, took, bad) p =>
    match p with
    | .text t => (out ++ t, args, took, bad)
    | .conversion s =>
      let (arg, rest, took') := match args with
        | a :: r => (a, r, true)
        | [] => ("", [], took)
      let (text, b) := convert s arg
      (out ++ text, rest, took', bad ++ b.toList)) ("", args, false, [])

/-- What `printf` writes, reusing the format while arguments remain, and the arguments that
were not numbers. -/
def printfRun : Nat → List FormatPiece → List String → String × List String
  | 0, _, _ => ("", [])
  | fuel + 1, pieces, args =>
    let (out, rest, took, bad) := formatOnce pieces args
    if took && !rest.isEmpty then
      let (more, bad') := printfRun fuel pieces rest
      (out ++ more, bad ++ bad')
    else (out, bad)

/-- The number of a signal name or number, with or without its `SIG` prefix. -/
def signalNumber (s : String) : Option Nat :=
  let u := s.toUpper
  let u := (Text.dropPrefix? u "SIG").getD u
  if u.all Char.isDigit && !u.isEmpty then some (digitsValue u.toList)
  else
    let names := ["HUP", "INT", "QUIT", "ILL", "TRAP", "ABRT", "BUS", "FPE", "KILL", "USR1",
      "SEGV", "USR2", "PIPE", "ALRM", "TERM", "STKFLT", "CHLD", "CONT", "STOP", "TSTP", "TTIN",
      "TTOU", "URG", "XCPU", "XFSZ", "VTALRM", "PROF", "WINCH", "IO", "PWR", "SYS"]
    match names.findIdx? (· = u) with
    | some i => some (i + 1)
    | none => if u = "IOT" then some 6 else if u = "POLL" then some 29 else none

/-- Whether a signal's default action leaves a process running. -/
def signalIgnored (n : Nat) : Bool := n = 0 || n = 17 || n = 18 || n = 23 || n = 28

/-- Whether a signal's default action stops a process until it is continued. -/
def signalStops (n : Nat) : Bool := n = 19 || n = 20 || n = 21 || n = 22

/-- The names the shell runs as itself. -/
def shellNames : List String := ["sh", "/bin/sh", "/usr/bin/sh", "dash", "/bin/dash", "/usr/bin/dash"]

/-- The result of a command: the new shell state, its output, and whether it ended the
shell. -/
abbrev Ran := Env × Streams × Flow

/-- A command that failed with a message on standard error. -/
def failWith (env : Env) (line : Nat) (message : String) (status : Nat) : Ran :=
  ({ env with status := status },
    { err := env.name ++ ": " ++ toString line ++ ": " ++ message ++ "\n" }, .next)

/-- The state of a new shell. -/
def Env.child (env : Env) (name : String) (args : List String) : Env :=
  ⟨name, args, env.pid + 1, 0, [], env.slow, env.stdin, env.dir⟩

/-- The arguments of `sh`: the script of `-c`, the name and the positional arguments. -/
def shellArgs (argv0 : String) : List String → Option (String × String × List String)
  | "-c" :: script :: name :: args => some (script, name, args)
  | ["-c", script] => some (script, argv0, [])
  | _ => none

/-- Runs `kill`: the signal it sends to the shell itself, if any. -/
def killRun (env : Env) (line : Nat) (args : List String) : Ran :=
  let (signal, targets) : Option Nat × List String := match args with
    | "-s" :: s :: rest => (signalNumber s, rest)
    | a :: rest =>
      if Text.startsWith a "-" && a.length > 1 then (signalNumber (String.ofList (a.toList.drop 1)), rest)
      else (some 15, a :: rest)
    | [] => (some 15, [])
  match signal with
  | none => failWith env line ("kill: invalid signal number or name: " ++
      ((args.head?.map fun a => ((Text.dropPrefix? a "-").getD a)).getD "")) 2
  | some sig =>
    if targets.isEmpty then failWith env line "kill: Usage: kill [-s sigspec | -signum | -sigspec] [pid | job]... or\nkill -l [exitstatus]" 2
    else if targets.all (· = toString env.pid) then
      if signalIgnored sig then ({ env with status := 0 }, {}, .next)
      else if signalStops sig then ({ env with status := 0, slow := true }, {}, .next)
      else (env, {}, .killed sig)
    else failWith env line "kill: No such process" 1

mutual

/-- Runs a script in a shell. -/
def runScript (fuel : Nat) (env : Env) (script : String) : Ran :=
  runItems fuel env (parse script)
termination_by (fuel, 2, 0)

/-- Runs commands in order, each as its link to the one before allows. -/
def runItems (fuel : Nat) (env : Env) : List (Link × Command) → Ran
  | [] => (env, {}, .next)
  | (link, cmd) :: rest =>
    let runs := match link with
      | .always => true
      | .ifSucceeded => env.status = 0
      | .ifFailed => env.status ≠ 0
    if !runs then runItems fuel env rest
    else
      let (env, s1, flow) := runCommand fuel env cmd
      match flow with
      | .next =>
        let (env, s2, flow) := runItems fuel env rest
        (env, s1 ++ s2, flow)
      | f => (env, s1, f)
termination_by items => (fuel, 1, items.length)

/-- Runs one simple command. -/
def runCommand (fuel : Nat) (env : Env) (cmd : Command) : Ran :=
  match fuel with
  | 0 => (env, {}, .next)
  | fuel + 1 =>
    let assigns := cmd.words.takeWhile fun w => (assignment? env w).isSome
    let rest := cmd.words.drop assigns.length
    let fields := rest.flatMap (expand env)
    match fields with
    | [] =>
      let env := assigns.foldl (fun env w => match assignment? env w with
        | some (n, v) => { env with vars := (n, v) :: env.vars.filter (·.1 ≠ n) }
        | none => env) env
      ({ env with status := 0 }, {}, .next)
    | name :: args =>
      let (env, s, flow) : Ran := match name with
        | "echo" => ({ env with status := 0 }, { out := echoText args }, .next)
        | "printf" =>
          match args with
          | [] => failWith env cmd.line "printf: usage: printf format [arg ...]" 2
          | fmt :: fargs =>
            match parseFormat (fmt.length + 1) fmt.toList [] with
            | .error d => failWith env cmd.line ("printf: " ++ d ++ ": invalid directive") 1
            | .ok pieces =>
              let (text, bad) := printfRun (fargs.length + 1) pieces fargs
              let errs := String.join (bad.map fun b =>
                env.name ++ ": " ++ toString cmd.line ++ ": printf: " ++ b ++ ": expected numeric value\n")
              ({ env with status := if bad.isEmpty then 0 else 1 }, { out := text, err := errs }, .next)
        | "exit" =>
          match args with
          | [] => (env, {}, .exit env.status)
          | a :: _ =>
            if a.all Char.isDigit && !a.isEmpty then (env, {}, .exit (digitsValue a.toList % 256))
            else
              let (env, s, _) := failWith env cmd.line ("exit: Illegal number: " ++ a) 2
              (env, s, .exit 2)
        | "true" | ":" => ({ env with status := 0 }, {}, .next)
        | "cat" =>
          if args.all (· = "-") then ({ env with status := 0, stdin := "" }, { out := env.stdin }, .next)
          else
            let missing := args.filter (· ≠ "-")
            ({ env with status := 1, stdin := "" },
              { out := env.stdin, err := String.join (missing.map fun f =>
                "cat: " ++ f ++ ": No such file or directory\n") }, .next)
        | "pwd" => ({ env with status := 0 }, { out := env.dir ++ "\n" }, .next)
        | "false" => ({ env with status := 1 }, {}, .next)
        | "sleep" => ({ env with status := 0, slow := true }, {}, .next)
        | "kill" => killRun env cmd.line args
        | "eval" => runScript fuel env (" ".intercalate args)
        | _ =>
          if shellNames.contains name then
            match shellArgs name args with
            | none => ({ env with status := 0 }, {}, .next)
            | some (script, n, as) =>
              let (child, s, flow) := runScript fuel (env.child n as) script
              let status := match flow with
                | .next => child.status
                | .exit c => c
                | .killed sig => 128 + sig
              ({ env with status := status, slow := child.slow, stdin := child.stdin }, s, .next)
          else failWith env cmd.line (name ++ ": not found") 127
      (env, route env cmd.redirects s, flow)
termination_by (fuel, 0, 0)

end

/-- How a local command ended. -/
inductive Ending where
  | exited (code : Nat)
  | signaled (signal : Nat)
  /-- The command could not be started, for the launcher's reason. -/
  | notStarted (reason : String)
  deriving Repr, DecidableEq

/-- The outcome of a local command: its output, how it ended, and whether it ran slowly. -/
structure Outcome where
  stdout : String
  stderr : String
  ending : Ending
  slow : Bool
  deriving Repr, DecidableEq

/-- The process id of the outermost shell. -/
def firstPid : Nat := 4242

/-- How deep scripts may nest through `eval` and `sh -c`. -/
def nestingLimit : Nat := 64

/-- The directories known to exist on the local machine. -/
def knownDirectories : List String :=
  ["/", "/bin", "/dev", "/etc", "/home", "/proc", "/root", "/tmp", "/usr", "/usr/bin", "/var"]

/-- Whether a working directory exists; the empty one is the current directory. -/
def directoryExists (dir : String) : Bool :=
  dir.isEmpty || knownDirectories.contains dir ||
    (dir.length > 1 && knownDirectories.contains (Text.trimRightChar dir '/'))

/-- Runs a command line, given as its program and arguments, on the local machine, with its
standard input and working directory (empty for the current one, the root). -/
def runIn (argv : List String) (stdin dir : String) : Outcome :=
  let dir := if dir.isEmpty then "/" else dir
  match argv with
  | [] => ⟨"", "", .exited 0, false⟩
  | prog :: args =>
    let base := ((prog.splitOn "/").getLast?).getD prog
    let located := !Text.startsWith prog "/" || Text.startsWith prog "/bin/" ||
      Text.startsWith prog "/usr/bin/"
    if shellNames.contains prog then
      match shellArgs prog args with
      | none => ⟨"", "", .exited 0, false⟩
      | some (script, name, as) =>
        let (env, s, flow) :=
          runScript nestingLimit ⟨name, as, firstPid, 0, [], false, stdin, dir⟩ script
        let ending := match flow with
          | .next => .exited env.status
          | .exit c => .exited c
          | .killed sig => .signaled sig
        ⟨s.out, s.err, ending, env.slow⟩
    else if located && (base = "sleep") then ⟨"", "", .exited 0, true⟩
    else if located && (base = "true") then ⟨"", "", .exited 0, false⟩
    else if located && (base = "false") then ⟨"", "", .exited 1, false⟩
    else if located && (base = "pwd") then ⟨dir ++ "\n", "", .exited 0, false⟩
    else if located && (base = "cat") && args.isEmpty then ⟨stdin, "", .exited 0, false⟩
    else if located && (base = "echo") then
      let (newline, args) := match args with
        | "-n" :: rest => (false, rest)
        | _ => (true, args)
      ⟨" ".intercalate args ++ (if newline then "\n" else ""), "", .exited 0, false⟩
    else if prog.contains '/' then
      ⟨"", "", .notStarted ("fork/exec " ++ prog ++ ": no such file or directory"), false⟩
    else
      ⟨"", "", .notStarted ("exec: " ++ Text.quoted prog ++ ": executable file not found in $PATH"),
        false⟩

/-- Runs a command line on the local machine, with no input, in the root directory. -/
def run (argv : List String) : Outcome := runIn argv "" "/"

end RemoteLsp.Shell.Local
