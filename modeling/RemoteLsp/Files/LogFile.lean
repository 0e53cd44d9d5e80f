import RemoteLsp.Files.InfoFile
import RemoteLsp.Text.Utf8
import RemoteLsp.Text.Space

/-!
# Log files of remote output

The output of remote processes is kept in a log file of its own, created under the temporary
directory and announced in the server information file. Text written to the log is split
into lines, and each non-empty line becomes one entry. A stream, named by a prefix, collects
text until whole lines arrive; a line loses its trailing carriage returns and its entry notes
the stream as its source; closing the stream writes what is left as a last entry. When the
server stops, the log file is removed.

An entry is written as its level and message separated by a tab, followed by its source as a
JSON object when it has one.
-/

namespace RemoteLsp.Files

/-- A log writer: its file, and the text each stream has not yet ended with a newline. -/
structure LogWriter where
  path : String
  streams : List (String × String) := []
  deriving Repr

/-- The text of an informational entry, with its source when it has one. -/
def entryLine (message : String) (source : Option String) : String :=
  "INFO\t" ++ message ++
    (match source with
     | some s => "\t\x7b\"source\": " ++ Json.render .plain (.str s) ++ "\x7d"
     | none => "") ++ "\n"

namespace LogWriter

/-- Creates the log file of a named output under the temporary directory, and announces its
path in the information file. -/
def setup (t : Tree) (info : InfoFile) (tmp name : String) :
    Except String LogWriter × Tree × InfoFile :=
  let dir := Path.clean (tmp ++ "/rlsp/" ++ name)
  match t.mkdirAll dir with
  | .error e => (.error e, t, info)
  | .ok t =>
    match t.tempFile dir "" with
    | .error e => (.error e, t, info)
    | .ok (file, t) =>
      match info.update t ("output:" ++ name) file with
      | (.error e, info) => (.error e, t, info)
      | (.ok t, info) => (.ok ⟨file, []⟩, t, info)

/-- Writes text to the log: one entry per non-empty line. Returns the number of bytes taken. -/
def write (w : LogWriter) (t : Tree) (text : String) : Tree × Nat :=
  let lines := (text.splitOn "\n").filter (!·.isEmpty)
  (t.append w.path (String.join (lines.map (entryLine · none))), Text.utf8Length text)

/-- Splits text at its newlines: the whole lines, and what follows the last newline. -/
def wholeLines (text : String) : List String × String :=
  match (text.splitOn "\n").reverse with
  | rest :: lines => (lines.reverse, rest)
  | [] => ([], "")

/-- Writes text to a named stream: every whole line, without its trailing carriage returns,
becomes an entry if anything is left of it. Returns the number of bytes taken. -/
def stream (w : LogWriter) (t : Tree) (name text : String) : LogWriter × Tree × Nat :=
  let pending := ((w.streams.find? (·.1 = name)).map (·.2)).getD ""
  let (lines, rest) := wholeLines (pending ++ text)
  let lines := (lines.map fun l => Text.trimRightChar l '\r').filter (!·.isEmpty)
  let t := t.append w.path (String.join (lines.map (entryLine · (some name))))
  ({ w with streams := (w.streams.filter (·.1 ≠ name)) ++ [(name, rest)] }, t,
    Text.utf8Length text)

/-- Whether a stream has been written to. -/
def hasStream (w : LogWriter) (name : String) : Bool := w.streams.any (·.1 = name)

/-- Closes a stream: what is left becomes a last entry. -/
def closeStream (w : LogWriter) (t : Tree) (name : String) : LogWriter × Tree :=
  let pending := ((w.streams.find? (·.1 = name)).map (·.2)).getD ""
  let t := if pending.isEmpty then t else t.append w.path (entryLine pending (some name))
  ({ w with streams := w.streams.map fun (n, p) => if n = name then (n, "") else (n, p) }, t)

/-- Removes the log file when the server stops. -/
def onStop (w : LogWriter) (t : Tree) : Except String Tree := t.remove w.path

end LogWriter

/-- A log output in use: the file tree, the information file, the writer once it is set up,
and whether it has been stopped. -/
structure LogSession where
  tree : Tree
  info : InfoFile
  writer : Option LogWriter
  stopped : Bool := false
  deriving Repr

/-- Stops a log output once: the log file is removed first, then the information file; each
step reports its error, if any. Stopping again does nothing. -/
def LogSession.stop (r : LogSession) : List (Option String) × LogSession :=
  if r.stopped then ([], r)
  else
    let (first, t) : List (Option String) × Tree := match r.writer with
      | some w =>
        match w.onStop r.tree with
        | .ok t => ([none], t)
        | .error e => ([some e], r.tree)
      | none => ([], r.tree)
    let (second, t) : List (Option String) × Tree := match r.info.onStop t with
      | .ok t => ([none], t)
      | .error e => ([some e], t)
    (first ++ second, { r with tree := t, stopped := true })

/-- A write takes every byte it is given. -/
theorem LogWriter.write_taken (w : LogWriter) (t : Tree) (text : String) :
    (w.write t text).2 = Text.utf8Length text := rfl

end RemoteLsp.Files
