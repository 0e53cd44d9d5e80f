import RemoteLsp.Text.Chars
import RemoteLsp.Text.Space
import RemoteLsp.Text.Utf8

/-!
# Framing messages on a stream

On standard streams each message is framed by headers, one per line, ended by an empty line:
`Content-Length` gives the number of bytes of the message that follows. Other headers are
read and ignored; header names are matched without regard to case, and line ends may carry a
carriage return.
-/

namespace RemoteLsp.Program

/-- A header line as it is read. -/
inductive Header where
  /-- The empty line that ends the headers. -/
  | blank
  /-- The length of the message in bytes. -/
  | length (n : Nat)
  /-- Any other header, or one that cannot be read. -/
  | other
  deriving Repr, DecidableEq

/-- Reads a header line, its line end included or not. -/
def readHeader (line : String) : Header :=
  let line := Text.trimRightChar (Text.trimRightChar line '\n') '\r'
  if line.isEmpty then .blank
  else
    match Text.cut? line ':' with
    | some (name, value) =>
      if name.map Char.toLower = "content-length" then
        match (Text.trimBlanks value).toNat? with
        | some n => .length n
        | none => .other
      else .other
    | none => .other

/-- A message framed for the stream. -/
def frame (body : String) : String :=
  "Content-Length: " ++ toString (Text.utf8Length body) ++ "\r\n\r\n" ++ body

end RemoteLsp.Program
