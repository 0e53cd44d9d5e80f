import RemoteLsp.Text.Chars

/-!
# Single-word shell quoting

A text is passed to a POSIX shell as one literal word by putting it between single quotes; a
single quote inside it is written as `'"'"'`: close the quotes, a double-quoted single quote,
open them again. Nothing inside single quotes is expanded.
-/

namespace RemoteLsp.Shell

/-- The shell word that stands for `v` literally. -/
def quote (v : String) : String := "'" ++ Text.replaceAll v "'" "'\"'\"'" ++ "'"

/-- The quoted words joined by spaces. -/
def quoteAll (vs : List String) : String := " ".intercalate (vs.map quote)

end RemoteLsp.Shell
