import RemoteLsp.Text.Chars
import RemoteLsp.Text.Quoted
import RemoteLsp.Text.Space

/-!
# The command line

The program is `rlsp`. Run alone it serves editors; `serve` does the same; `env` has three
subcommands that look at remembered environments; `help` shows the help of any command, and
`completion` is listed among the commands. `rlsp` and `serve` take `--stdio` and
`--tcp <address>`, at most one of them; every command takes `-h`/`--help`.

A command line is read in two passes. The first finds the command: it skips what looks like
flags (a long flag without `=` and a one-letter flag take the next word as their value unless
they are known to be switches) and follows the remaining words down the command tree while
they name subcommands. Only the top command refuses words that name no subcommand. The second
pass reads the flags of the command found, which now include `--help`, then checks the
number of remaining words and that at most one of `--stdio` and `--tcp` was given.

Help is written in a fixed layout: the description, the usage lines, the subcommands with
their names padded to eleven columns, the flags aligned after their longest form, and a
closing hint for commands with subcommands.
-/

namespace RemoteLsp.Program

/-- The commands of the program. -/
inductive Command where
  | root
  | serve
  | env
  | envList
  | envForget
  | envValidated
  | help
  | completion
  /-- The completion script of a shell, which is not written here. -/
  | completionScript (shell : String)
  deriving Repr, DecidableEq

/-- A flag: its name, its one-letter form, whether it takes a value (otherwise it is a
switch), the name shown for its value, and its description. -/
structure Flag where
  name : String
  shorthand : Option Char := none
  takesValue : Bool := false
  valueName : String := ""
  usage : String
  deriving Repr, DecidableEq

/-- How many words a command takes after its flags. -/
inductive ArgRule where
  /-- No rule of its own: only the top command refuses words naming no subcommand. -/
  | legacy
  /-- No words at all. -/
  | noArgs
  /-- At most this many. -/
  | atMost (n : Nat)
  /-- Between two bounds. -/
  | between (lo hi : Nat)
  deriving Repr, DecidableEq

/-- The serving flags of `rlsp` and `serve`. -/
def servingFlags : List Flag :=
  [{ name := "stdio", usage := "serve a single editor over stdin and stdout" },
   { name := "tcp", takesValue := true, valueName := "string",
     usage := "listen for editors on this address" }]

namespace Command

/-- The name of a command. -/
def name : Command → String
  | .root => "rlsp"
  | .serve => "serve"
  | .env => "env"
  | .envList => "list"
  | .envForget => "forget"
  | .envValidated => "validated"
  | .help => "help"
  | .completion => "completion"
  | .completionScript shell => shell

/-- How a command is used, its name first. -/
def use : Command → String
  | .envList => "list [host]"
  | .envForget => "forget <host> [environment]"
  | .help => "help [command]"
  | c => c.name

/-- The one-line description of a command. -/
def short : Command → String
  | .root => "Language server proxy for files on remote hosts"
  | .serve => "Run the daemon"
  | .env => "Inspect and edit remembered environments"
  | .envList => "Print remembered environments, most recently used first"
  | .envForget => "Forget one environment of a host, or the whole host"
  | .envValidated => "Print the environments with a validated backend, per backend and host"
  | .help => "Help about any command"
  | .completion => "Generate the autocompletion script for the specified shell"
  | .completionScript shell => "Generate the autocompletion script for " ++ shell

/-- The longer description of a command, when it has one. -/
def long : Command → Option String
  | .help => some ("Help provides help for any command in the application.\n" ++
      "Simply type rlsp help [path to command] for full details.")
  | .completion => some ("Generate the autocompletion script for rlsp for the specified shell.\n" ++
      "See each sub-command\x27s help for details on how to use the generated script.\n")
  | _ => none

/-- The subcommands of a command, in the order they were added. -/
def children : Command → List Command
  | .root => [.serve, .env, .help, .completion]
  | .env => [.envList, .envForget, .envValidated]
  | .completion => ["bash", "zsh", "fish", "powershell"].map .completionScript
  | _ => []

/-- The command a command belongs to. -/
def parent? : Command → Option Command
  | .root => none
  | .serve | .env | .help | .completion => some .root
  | .envList | .envForget | .envValidated => some .env
  | .completionScript _ => some .completion

/-- Whether a command does something of its own rather than only holding subcommands. -/
def runnable : Command → Bool
  | .env | .completion => false
  | _ => true

/-- How many words a command takes. -/
def args : Command → ArgRule
  | .serve | .envValidated | .completion | .completionScript _ => .noArgs
  | .envList => .atMost 1
  | .envForget => .between 1 2
  | _ => .legacy

/-- The flags a command declares. -/
def flags : Command → List Flag
  | .root | .serve => servingFlags
  | _ => []

/-- The flag every command gets when it runs. -/
def helpFlag (c : Command) : Flag :=
  { name := "help", shorthand := some 'h', usage := "help for " ++ c.name }

/-- The path of a command from the top. -/
def path : Command → String
  | .root => "rlsp"
  | .serve => "rlsp serve"
  | .env => "rlsp env"
  | .envList => "rlsp env list"
  | .envForget => "rlsp env forget"
  | .envValidated => "rlsp env validated"
  | .help => "rlsp help"
  | .completion => "rlsp completion"
  | .completionScript shell => "rlsp completion " ++ shell

/-- Whether a command is offered among the subcommands and as a suggestion: every command
but the help command. -/
def available (c : Command) : Bool := c ≠ .help

/-- The subcommand of a command with a name. -/
def child? (c : Command) (word : String) : Option Command := c.children.find? (·.name = word)

end Command

/-- Whether a flag named by its long form is a switch. -/
def isSwitch (flags : List Flag) (name : String) : Bool :=
  match flags.find? (·.name = name) with
  | some f => !f.takesValue
  | none => false

/-- Whether a flag named by its one-letter form is a switch. -/
def isShortSwitch (flags : List Flag) (letters : String) : Bool :=
  match letters.toList.head? with
  | some c =>
    match flags.find? (·.shorthand = some c) with
    | some f => !f.takesValue
    | none => false
  | none => false

/-- Whether a word is a flag that takes the next word as its value. -/
def takesNext (flags : List Flag) (w : String) : Bool :=
  (Text.startsWith w "--" && !w.toList.contains '=' && !isSwitch flags (String.ofList (w.toList.drop 2))) ||
  (Text.startsWith w "-" && !w.toList.contains '=' && w.length = 2 &&
    !isShortSwitch flags (String.ofList (w.toList.drop 1)))

/-- The words of a command line that are not flags or their values. A flag that would take
the next word stops the scan when at most one word is left after it. -/
def stripFlags (flags : List Flag) : List String → List String
  | [] => []
  | [w] => if w = "--" || takesNext flags w || w.isEmpty || Text.startsWith w "-" then [] else [w]
  | w :: v :: after =>
    if w = "--" then []
    else if takesNext flags w then
      match after with
      | [] => []
      | _ :: _ => stripFlags flags after
    else if !w.isEmpty && !Text.startsWith w "-" then w :: stripFlags flags (v :: after)
    else stripFlags flags (v :: after)

/-- The words without the first occurrence of a subcommand's name that is not a flag's value. -/
def withoutFirst (flags : List Flag) (x : String) : List String → List String
  | [] => []
  | [w] => if w ≠ "--" && !takesNext flags w && !Text.startsWith w "-" && w = x then [] else [w]
  | w :: v :: after =>
    if w = "--" then w :: v :: after
    else if takesNext flags w then w :: v :: withoutFirst flags x after
    else if !Text.startsWith w "-" && w = x then v :: after
    else w :: withoutFirst flags x (v :: after)

/-- Follows the words down the command tree: the command found and the words left for it. -/
def findCommand : Nat → Command → List String → Command × List String
  | 0, c, ws => (c, ws)
  | fuel + 1, c, ws =>
    match stripFlags c.flags ws with
    | [] => (c, ws)
    | next :: _ =>
      match c.child? next with
      | some sub => findCommand fuel sub (withoutFirst c.flags next ws)
      | none => (c, ws)

/-- The edit distance of two texts, letters compared without case. -/
def editDistance (s t : String) : Nat :=
  let s := (s.map Char.toLower).toList
  let t := (t.map Char.toLower).toList
  let first : List Nat := (List.range (t.length + 1))
  let row (prev : List Nat) (i : Nat) (c : Char) : List Nat :=
    let cells := (t.zip ((prev.zip prev.tail))).foldl (fun (acc : List Nat) (d, (diag, up)) =>
      let left := acc.headD (i + 1)
      let v := if c = d then diag else (min (min up left) diag) + 1
      v :: acc) [i + 1]
    cells.reverse
  (s.zipIdx.foldl (fun prev (c, i) => row prev i c) first).getLastD 0

/-- The suggestions for a word that names no subcommand of the top command. -/
def suggestionsFor (word : String) : String :=
  let names := (Command.root.children.filter Command.available).filterMap fun c =>
    if editDistance word c.name ≤ 2 || Text.startsWith (c.name.map Char.toLower) (word.map Char.toLower)
    then some c.name else none
  if names.isEmpty then ""
  else "\n\nDid you mean this?\n" ++ String.join (names.map fun n => "\t" ++ n ++ "\n")

/-- The error of a word that names no command. -/
def unknownCommand (word path : String) : String :=
  "unknown command " ++ Text.quoted word ++ " for " ++ Text.quoted path

/-- Finds the command of a command line; only the top command refuses a word that names no
subcommand. -/
def find (args : List String) : Except String (Command × List String) :=
  let (c, rest) := findCommand 4 .root args
  if c.args = .legacy && !c.children.isEmpty && c.parent?.isNone then
    match stripFlags c.flags rest with
    | word :: _ => .error (unknownCommand word c.path ++ suggestionsFor word)
    | [] => .ok (c, rest)
  else .ok (c, rest)

/-- The flags given on a command line, in order, with their values, and the other words. -/
structure Parsed where
  given : List (String × String) := []
  words : List String := []
  deriving Repr

/-- The value of a switch, read as a boolean. -/
def parseBool (flagName v : String) : Except String String :=
  if ["1", "t", "T", "TRUE", "true", "True"].contains v then .ok "true"
  else if ["0", "f", "F", "FALSE", "false", "False"].contains v then .ok "false"
  else .error ("invalid argument " ++ Text.quoted v ++ " for " ++ Text.quoted flagName ++
    " flag: strconv.ParseBool: parsing " ++ Text.quoted v ++ ": invalid syntax")

/-- How a flag is named in an error about its value. -/
def Flag.shownName (f : Flag) : String :=
  match f.shorthand with
  | some c => "-" ++ String.ofList [c] ++ ", --" ++ f.name
  | none => "--" ++ f.name

/-- Sets a flag to a value: a switch's value must be a boolean. -/
def setFlag (p : Parsed) (f : Flag) (v : String) : Except String Parsed :=
  if f.takesValue then .ok { p with given := p.given ++ [(f.name, v)] }
  else do
    let b ← parseBool f.shownName v
    pure { p with given := p.given ++ [(f.name, b)] }

/-- Reads a long flag: its value after `=`, its default as a switch, or the next word. -/
def longFlag (flags : List Flag) (p : Parsed) (w : String) (rest : List String) :
    Except String (Parsed × List String) :=
  let body := String.ofList (w.toList.drop 2)
  if body.isEmpty || Text.startsWith body "-" || Text.startsWith body "=" then
    .error ("bad flag syntax: " ++ w)
  else
    let (name, value?) := match Text.cut? body '=' with
      | some (n, v) => (n, some v)
      | none => (body, none)
    match flags.find? (·.name = name) with
    | none => .error ("unknown flag: --" ++ name)
    | some f =>
      match value? with
      | some v => do pure (← setFlag p f v, rest)
      | none =>
        if !f.takesValue then do pure (← setFlag p f "true", rest)
        else match rest with
          | v :: after => do pure (← setFlag p f v, after)
          | [] => .error ("flag needs an argument: " ++ w)

/-- Reads a group of one-letter flags. -/
def shortFlags (flags : List Flag) : Nat → Parsed → List Char → List String →
    Except String (Parsed × List String)
  | 0, p, _, rest => .ok (p, rest)
  | _ + 1, p, [], rest => .ok (p, rest)
  | fuel + 1, p, c :: more, rest =>
    let shown := String.ofList (c :: more)
    match flags.find? (·.shorthand = some c) with
    | none => .error ("unknown shorthand flag: \x27" ++ String.ofList [c] ++ "\x27 in -" ++ shown)
    | some f =>
      match more with
      | '=' :: v@(_ :: _) => do pure (← setFlag p f (String.ofList v), rest)
      | _ =>
        if !f.takesValue then do shortFlags flags fuel (← setFlag p f "true") more rest
        else if !more.isEmpty then do pure (← setFlag p f (String.ofList more), rest)
        else match rest with
          | v :: after => do pure (← setFlag p f v, after)
          | [] => .error ("flag needs an argument: \x27" ++ String.ofList [c] ++ "\x27 in -" ++ shown)

/-- Reads the flags of a command line; words that are not flags are kept in order, and `--`
ends the flags. -/
def parseFlags (flags : List Flag) (p : Parsed) : List String → Except String Parsed
  | [] => .ok p
  | w :: rest =>
    if w.length ≤ 1 || !Text.startsWith w "-" then parseFlags flags { p with words := p.words ++ [w] } rest
    else if w = "--" then .ok { p with words := p.words ++ rest }
    else
      let step : Except String (Parsed × List String) :=
        if Text.startsWith w "--" then longFlag flags p w rest
        else shortFlags flags w.length p (w.toList.drop 1) rest
      match step with
      | .error e => .error e
      | .ok (p, after) =>
        if after.length < rest.length + 1 then parseFlags flags p after
        else .ok p
termination_by ws => ws.length
decreasing_by all_goals simp_wf <;> omega

/-- The last value a flag was given, if it was given. -/
def Parsed.value? (p : Parsed) (name : String) : Option String :=
  (p.given.reverse.find? (·.1 = name)).map (·.2)

/-- Checks the number of words a command takes. -/
def checkArgs (c : Command) (words : List String) : Except String Unit :=
  match c.args, words with
  | .noArgs, w :: _ => .error (unknownCommand w c.path)
  | .atMost n, ws =>
    if ws.length ≤ n then .ok ()
    else .error ("accepts at most " ++ toString n ++ " arg(s), received " ++ toString ws.length)
  | .between lo hi, ws =>
    if lo ≤ ws.length && ws.length ≤ hi then .ok ()
    else .error ("accepts between " ++ toString lo ++ " and " ++ toString hi ++
      " arg(s), received " ++ toString ws.length)
  | _, _ => .ok ()

/-- Checks that at most one flag of the serving group was given. -/
def checkGroup (p : Parsed) : Except String Unit :=
  let given := ["stdio", "tcp"].filter fun n => (p.value? n).isSome
  if given.length > 1 then
    .error ("if any flags in the group [stdio tcp] are set none of the others can be; " ++
      listTextOf given ++ " were all set")
  else .ok ()
where
  listTextOf (xs : List String) : String := "[" ++ " ".intercalate xs ++ "]"

/-- Pads a text with spaces to a width. -/
def padRight (s : String) (width : Nat) : String :=
  s ++ String.ofList (List.replicate (width - s.length) ' ')

/-- The usage lines of a command's flags, aligned after the longest flag. -/
def flagUsages (flags : List Flag) : String :=
  let sorted := flags.mergeSort fun a b => decide (a.name ≤ b.name)
  let heads := sorted.map fun f =>
    (match f.shorthand with
     | some c => "  -" ++ String.ofList [c] ++ ", --" ++ f.name
     | none => "      --" ++ f.name) ++
    (if f.valueName.isEmpty then "" else " " ++ f.valueName)
  let width := heads.foldl (fun m h => max m (h.length + 1)) 0
  String.join ((heads.zip sorted).map fun (h, f) =>
    h ++ " " ++ String.ofList (List.replicate (width - h.length) ' ') ++ " " ++ f.usage ++ "\n")

/-- The width command names are padded to in a list of subcommands. -/
def namePadding : Nat := 11

/-- The usage line of a command. -/
def useLine (c : Command) : String :=
  (match c.parent? with
   | some p => p.path ++ " " ++ c.use
   | none => c.use) ++ " [flags]"

/-- The text of a command's usage. -/
def usageText (c : Command) : String :=
  let subs := c.children
  let hasSubs := subs.any Command.available
  let listed := (subs.mergeSort fun a b => decide (a.name ≤ b.name)).filter fun s =>
    s.available || s = .help
  let flagText := flagUsages (c.helpFlag :: c.flags)
  "Usage:" ++
  (if c.runnable then "\n  " ++ useLine c else "") ++
  (if hasSubs then "\n  " ++ c.path ++ " [command]" else "") ++
  (if hasSubs then
    "\n\nAvailable Commands:" ++
      String.join (listed.map fun s => "\n  " ++ padRight s.name namePadding ++ " " ++ s.short)
   else "") ++
  "\n\nFlags:\n" ++ Text.trimRightChar flagText '\n' ++
  (if hasSubs then
    "\n\nUse \"" ++ c.path ++ " [command] --help\" for more information about a command."
   else "") ++ "\n"

/-- The help of a command: its description and its usage. -/
def helpText (c : Command) : String :=
  String.ofList (Text.dropBlanksRight (c.long.getD c.short).toList) ++ "\n\n" ++ usageText c

/-- What a command line asks for. -/
inductive Invocation where
  /-- Text written to standard output, and nothing else. -/
  | print (text : String)
  /-- Serving editors, with the variables that the flags set. -/
  | serve (vars : List (String × String))
  /-- Listing remembered environments, of the hosts given or of every host. -/
  | envList (hosts : Option String)
  /-- Forgetting an environment of a host, or the whole host for an empty environment. -/
  | envForget (host environment : String)
  /-- Listing validated environments. -/
  | envValidated
  deriving Repr, DecidableEq

/-- The variables a serving command line sets: `--stdio` chooses standard streams, else a
non-empty `--tcp` chooses TCP on its address. -/
def servingVars (p : Parsed) : List (String × String) :=
  if p.value? "stdio" = some "true" then [("RLSP_JSONRPC_MODE", "stdio")]
  else match p.value? "tcp" with
    | some a => if a.isEmpty then [] else [("RLSP_JSONRPC_MODE", "tcp"), ("RLSP_JSONRPC_ADDRESS", a)]
    | none => []

/-- Reads a command line. -/
def invocation (args : List String) : Except String Invocation := do
  let (c, rest) ← find args
  let p ← parseFlags (c.helpFlag :: c.flags) {} rest
  if p.value? "help" = some "true" || !c.runnable then return .print (helpText c)
  checkArgs c p.words
  checkGroup p
  match c with
  | .root | .serve => pure (.serve (servingVars p))
  | .envList => pure (.envList p.words.head?)
  | .envForget => pure (.envForget (p.words.headD "") ((p.words.drop 1).headD ""))
  | .envValidated => pure .envValidated
  | .help =>
    match find p.words with
    | .ok (topic, _) => pure (.print (helpText topic))
    | .error _ => pure (.print "")
  | .env | .completion => pure (.print (helpText c))
  | .completionScript _ => pure (.print "")

theorem stripFlags_nil (flags : List Flag) : stripFlags flags [] = [] := by
  simp [stripFlags]

end RemoteLsp.Program
