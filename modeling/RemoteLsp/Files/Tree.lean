import RemoteLsp.Path.Clean

/-!
# An in-memory file tree

Files and directories are kept by their cleaned paths. Looking a path up walks it from the
top: a missing step means the path does not exist, and a step that is a file means a
directory was expected. Operations fail the way the system's calls do, each error naming the
operation and the path: `open`, `read`, `stat`, `mkdir`, `remove` and `rename`.

A tree can be told to fail some operations with a fixed message, to stand for a disk that
refuses them; such a failure happens before the operation looks at the tree.

The names of temporary files are partly random; here the random part is a fixed marker
followed by a counter, so that names stay distinct.
-/

namespace RemoteLsp.Files

/-- A node: a directory, or a file with its content. -/
inductive Node where
  | dir
  | file (content : String)
  deriving Repr, DecidableEq

/-- Why a system call failed. -/
inductive Errno where
  | noEntry
  | notDirectory
  | isDirectory
  | notEmpty
  deriving Repr, DecidableEq

/-- The system's text for an error. -/
def Errno.text : Errno → String
  | .noEntry => "no such file or directory"
  | .notDirectory => "not a directory"
  | .isDirectory => "is a directory"
  | .notEmpty => "directory not empty"

/-- The error of an operation on a path. -/
def pathError (op path : String) (e : Errno) : String := op ++ " " ++ path ++ ": " ++ e.text

/-- The operations a tree can be told to refuse. -/
inductive Operation where
  | mkdir
  | write
  | read
  | remove
  | rename
  | exists
  | tempFile
  deriving Repr, DecidableEq

/-- A file tree: its nodes by path, the operations it refuses with their messages, the
counter of temporary names, and the directories in which nothing can be created, as in a
file system of the kernel's own. -/
structure Tree where
  nodes : List (String × Node)
  refused : List (Operation × String) := []
  nextTemp : Nat := 0
  sealed : List String := []
  deriving Repr

/-- The marker that stands for the random part of a temporary name. -/
def randomMarker : String := "<RANDOM>"

namespace Tree

/-- A tree with the given directories and nothing else; the root and `.` always exist. -/
def withDirs (dirs : List String) : Tree :=
  ⟨(["/", "."] ++ dirs).map fun d => (Path.clean d, .dir), [], 0, []⟩

/-- Whether nothing can be created at a path, its directory being sealed. -/
def sealedAt (t : Tree) (p : String) : Bool := t.sealed.contains (Path.dir (Path.clean p))

/-- The node at a path, without walking. -/
def node? (t : Tree) (p : String) : Option Node :=
  (t.nodes.find? (·.1 = Path.clean p)).map (·.2)

/-- The message an operation is refused with, if it is. -/
def refusal? (t : Tree) (op : Operation) : Option String :=
  (t.refused.find? (·.1 = op)).map (·.2)

/-- The directories above a path, from the top down. -/
def above (p : String) : List String :=
  let rec up : Nat → String → List String → List String
    | 0, _, acc => acc
    | fuel + 1, q, acc =>
      let d := Path.dir q
      if d = q then acc else up fuel d (d :: acc)
  up (p.length + 1) (Path.clean p) []

/-- Looks a path up, walking it from the top. -/
def lookup (t : Tree) (p : String) : Except Errno Node :=
  let walk : Except Errno Unit := (above p).foldl (fun (acc : Except Errno Unit) d =>
    match acc with
    | .error e => .error e
    | .ok () =>
      match t.node? d with
      | none => .error .noEntry
      | some .dir => .ok ()
      | some (.file _) => .error .notDirectory) (.ok ())
  match walk with
  | .error e => .error e
  | .ok () =>
    match t.node? p with
    | some n => .ok n
    | none => .error .noEntry

/-- Sets the node at a path. -/
def put (t : Tree) (p : String) (n : Node) : Tree :=
  let p := Path.clean p
  { t with nodes := (t.nodes.filter (·.1 ≠ p)) ++ [(p, n)] }

/-- The paths directly inside a directory. -/
def children (t : Tree) (p : String) : List String :=
  let p := Path.clean p
  (t.nodes.filter fun (q, _) => q ≠ p && Path.dir q = p).map (·.1)

/-- Whether a path is a file: false when it is missing; an error when a step above it is a
file. -/
def fileExists (t : Tree) (p : String) : Except String Bool :=
  match t.refusal? .exists with
  | some m => .error m
  | none =>
    match t.lookup p with
    | .ok n => .ok (n != .dir)
    | .error .noEntry => .ok false
    | .error e => .error (pathError "stat" p e)

/-- Creates a directory and the ones above it that are missing. -/
def mkdirAll (t : Tree) (p : String) : Except String Tree :=
  match t.refusal? .mkdir with
  | some m => .error m
  | none =>
    let step (acc : Except String Tree) (d : String) : Except String Tree :=
      match acc with
      | .error e => .error e
      | .ok t =>
        match t.lookup d with
        | .ok .dir => .ok t
        | .ok (.file _) => .error (pathError "mkdir" d .notDirectory)
        | .error _ =>
          if t.sealedAt d then .error (pathError "mkdir" d .noEntry) else .ok (t.put d .dir)
    step ((above p).foldl step (.ok t)) p

/-- The content of a file. -/
def contents (t : Tree) (p : String) : Except String String :=
  match t.refusal? .read with
  | some m => .error m
  | none =>
    match t.lookup p with
    | .ok (.file c) => .ok c
    | .ok .dir => .error (pathError "read" p .isDirectory)
    | .error e => .error (pathError "open" p e)

/-- Writes a file, creating it or replacing its content; its directory must exist. -/
def write (t : Tree) (p content : String) : Except String Tree :=
  match t.refusal? .write with
  | some m => .error m
  | none =>
    match t.lookup p with
    | .ok .dir => .error (pathError "open" p .isDirectory)
    | .ok (.file _) => .ok (t.put p (.file content))
    | .error .noEntry =>
      match t.lookup (Path.dir p) with
      | .ok .dir =>
        if t.sealedAt p then .error (pathError "open" p .noEntry) else .ok (t.put p (.file content))
      | .ok (.file _) => .error (pathError "open" p .notDirectory)
      | .error e => .error (pathError "open" p e)
    | .error e => .error (pathError "open" p e)

/-- Appends to a file that exists. -/
def append (t : Tree) (p text : String) : Tree :=
  match t.node? p with
  | some (.file c) => t.put p (.file (c ++ text))
  | _ => t

/-- Removes a file or an empty directory. -/
def remove (t : Tree) (p : String) : Except String Tree :=
  match t.refusal? .remove with
  | some m => .error m
  | none =>
    match t.lookup p with
    | .error e => .error (pathError "remove" p e)
    | .ok .dir =>
      if (t.children p).isEmpty then .ok { t with nodes := t.nodes.filter (·.1 ≠ Path.clean p) }
      else .error (pathError "remove" p .notEmpty)
    | .ok (.file _) => .ok { t with nodes := t.nodes.filter (·.1 ≠ Path.clean p) }

/-- Moves a file to a new path, replacing any file there. -/
def rename (t : Tree) (src dst : String) : Except String Tree :=
  let fail (e : Errno) : Except String Tree := .error ("rename " ++ src ++ " " ++ dst ++ ": " ++ e.text)
  match t.refusal? .rename with
  | some m => .error m
  | none =>
    match t.lookup src with
    | .error e => fail e
    | .ok n =>
      match t.lookup (Path.dir dst) with
      | .ok .dir =>
        match t.lookup dst with
        | .ok .dir => fail (if n = .dir then .notEmpty else .isDirectory)
        | _ => .ok ({ t with nodes := t.nodes.filter (·.1 ≠ Path.clean src) }.put dst n)
      | .ok (.file _) => fail .notDirectory
      | .error e => fail e

/-- Creates a new empty file in a directory, named by a pattern whose last `*` stands for the
random part (appended when there is none). Returns its path. -/
def tempFile (t : Tree) (dir pattern : String) : Except String (String × Tree) :=
  match t.refusal? .tempFile with
  | some m => .error m
  | none =>
    let (pre, suf) := match (pattern.splitOn "*").reverse with
      | last :: before@(_ :: _) => ("*".intercalate before.reverse, last)
      | _ => (pattern, "")
    let shown := dir ++ "/" ++ pre ++ randomMarker ++ suf
    let name := dir ++ "/" ++ pre ++ randomMarker ++ toString t.nextTemp ++ suf
    match t.lookup dir with
    | .ok .dir => .ok (name, { t.put name (.file "") with nextTemp := t.nextTemp + 1 })
    | .ok (.file _) => .error (pathError "open" shown .notDirectory)
    | .error e => .error (pathError "open" shown e)

/-- The path a temporary file is shown with: its random part is the bare marker. -/
def shownTemp (name : String) : String :=
  match name.splitOn randomMarker with
  | [before, after] => before ++ randomMarker ++ String.ofList (after.toList.dropWhile Char.isDigit)
  | _ => name

end Tree

/-- The operation a name stands for. -/
def Operation.ofName? : String → Option Operation
  | "mkdir" => some .mkdir
  | "write" => some .write
  | "read" => some .read
  | "remove" => some .remove
  | "rename" => some .rename
  | "exists" => some .exists
  | "tempfile" => some .tempFile
  | _ => none

/-- A tree with the temporary directory `<TMP>` that refuses the named operations with the
messages given; unknown names are ignored. -/
def Tree.withFaults (faults : List (String × String)) : Tree :=
  { withDirs ["<TMP>"] with
    refused := faults.filterMap fun (k, m) => (Operation.ofName? k).map (·, m) }

/-- Text as a transcript shows it: the temporary directory and the random part of temporary
names are markers, also where JSON text escaped their angle brackets, and a random part is
shown as `<FILE>` with the rest of the name after it. -/
def shown (s : String) : String :=
  let s := (s.replace "\\u003cTMP\\u003e" "<TMP>").replace "\\u003cRANDOM\\u003e" randomMarker
  match s.splitOn randomMarker with
  | first :: rest =>
    first ++ String.join (rest.map fun r => "<FILE>" ++ String.ofList (r.toList.dropWhile Char.isDigit))
  | [] => s

/-- Text with every quoted run of digits shown as a process id marker. -/
def shownPids (s : String) : String :=
  let parts := s.splitOn "\""
  "\"".intercalate (parts.zipIdx.map fun (p, i) =>
    if i % 2 = 1 && !p.isEmpty && p.all Char.isDigit then "<PID>" else p)

/-- The directory of the program's data: under the data home when it is set, otherwise
under the home directory; without either there is none. -/
def userDataDir (dataHome home : String) : Except String String :=
  if !dataHome.isEmpty then .ok (Path.clean (dataHome ++ "/rlsp"))
  else if home.isEmpty then .error "$HOME is not defined"
  else .ok (Path.clean (home ++ "/.local/share/rlsp"))

/-- The node just put at a path is the one found there. -/
theorem Tree.node?_put (t : Tree) (p : String) (n : Node) : (t.put p n).node? p = some n := by
  unfold Tree.put Tree.node?
  rw [List.find?_append]
  have h : (t.nodes.filter (·.1 ≠ Path.clean p)).find? (·.1 = Path.clean p) = none := by
    rw [List.find?_eq_none]
    intro x hx
    simp only [List.mem_filter, decide_eq_true_eq] at hx
    simp [hx.2]
  rw [h]
  simp

end RemoteLsp.Files
