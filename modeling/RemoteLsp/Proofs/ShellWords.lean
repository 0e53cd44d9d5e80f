import RemoteLsp.Shell.Local
import RemoteLsp.Shell.Runner
import RemoteLsp.Backend.Script
import RemoteLsp.Daemon.Attach

/-!
# Quoted words

A text put between single quotes, each single quote inside written as `'"'"'`, reads back as one
word of the shell whose characters are all quoted: nothing in it is a parameter to expand, and it
is neither split into fields nor matched against file names. Main statements:

* the shell reads `quote v` as the one word of `v`'s characters, every one of them quoted
  (`lex_quote`), and reads `quote v` followed by any text as that word followed by what the text
  reads as (`read_quote`);
* the remote command `sh -c <quoted script>` reads as the three words `sh`, `-c` and the script;
* every value that the probes, the detect, install and launch scripts and the repository search
  put through `quote` is one such word of their tokens.

The shell's reader `lexAux` runs on fuel; `read` runs it with as much fuel as the text has
characters, which is always enough (`lexAux_fuel`), so that reading can be followed one
character at a time.
-/

namespace RemoteLsp.Shell.Local

/-! ## Reading without fuel -/

theorem length_dropWhile_le {α : Type} (p : α → Bool) (l : List α) :
    (l.dropWhile p).length ≤ l.length :=
  (List.dropWhile_suffix p).length_le

theorem readParam_rest_length {quoted : Bool} {cs : List Char} {p : Piece} {r : List Char}
    (h : readParam quoted cs = some (p, r)) : r.length ≤ cs.length := by
  unfold readParam at h
  split at h
  · cases h
    simp only [List.length_drop, List.length_cons]
    have := length_dropWhile_le (fun c => decide (c ≠ '}')) ‹List Char›
    omega
  · split at h
    · cases h
      simp
    · split at h
      · cases h
        exact length_dropWhile_le _ _
      · cases h
  · cases h

theorem readDouble_rest_length (n : Nat) (cs : List Char) (acc : Word) :
    (readDouble n cs acc).2.length ≤ cs.length := by
  fun_induction readDouble n cs acc with
  | case8 fuel rest acc p r hp ih =>
    have := readParam_rest_length hp
    simp only [List.length_cons]
    omega
  | _ => simp_all <;> omega

/-- Every move of the reader consumes a character, so fuel at least as large as the text reads
all of it: any two such amounts read alike. -/
theorem lexAux_fuel (n : Nat) (cs : List Char) (cur : Word) (started : Bool)
    (acc : List Token) :
    ∀ m, cs.length ≤ n → cs.length ≤ m → lexAux n cs cur started acc = lexAux m cs cur started acc := by
  fun_induction lexAux n cs cur started acc
  case case1 cs cur started acc =>
    intro m hn _
    rw [List.length_eq_zero_iff.mp (Nat.le_zero.mp hn)]
    cases m <;> rfl
  case case2 =>
    intro m _ _
    cases m <;> rfl
  -- the moves that read past more than one character: a quoted text, a double-quoted text, a
  -- parameter and a comment
  case case3 fuel rest cur started acc lit ih =>
    intro m hn hm
    obtain ⟨m, rfl⟩ : ∃ k, m = k + 1 := ⟨m - 1, by simp at hm; omega⟩
    have := length_dropWhile_le (fun x => !decide (x = '\'')) rest
    rw [lexAux.eq_def (m + 1)]
    exact ih m (by simp at hn ⊢; omega) (by simp at hm ⊢; omega)
  case case4 fuel rest cur started acc w r hr ih =>
    intro m hn hm
    obtain ⟨m, rfl⟩ : ∃ k, m = k + 1 := ⟨m - 1, by simp at hm; omega⟩
    have : r.length ≤ rest.length := by simpa [hr] using readDouble_rest_length rest.length rest []
    rw [lexAux.eq_def (m + 1)]
    simp only [hr]
    exact ih m (by simp only [List.length_cons] at hn; omega)
      (by simp only [List.length_cons] at hm; omega)
  case case8 fuel rest cur started acc p r hp ih =>
    intro m hn hm
    obtain ⟨m, rfl⟩ : ∃ k, m = k + 1 := ⟨m - 1, by simp at hm; omega⟩
    have := readParam_rest_length hp
    rw [lexAux.eq_def (m + 1)]
    simp only [hp]
    exact ih m (by simp at hn; omega) (by simp at hm; omega)
  case case27 fuel rest cur started acc hs ih =>
    intro m hn hm
    obtain ⟨m, rfl⟩ : ∃ k, m = k + 1 := ⟨m - 1, by simp at hm; omega⟩
    have := length_dropWhile_le (fun x => decide (x ≠ '\n')) rest
    rw [lexAux.eq_def (m + 1)]
    simp only [hs]
    exact ih m (by simp at hn; omega) (by simp at hm; omega)
  all_goals
    intro m hn hm
    obtain ⟨m, rfl⟩ : ∃ k, m = k + 1 := ⟨m - 1, by simp at hm; omega⟩
    rw [lexAux.eq_def (m + 1)]
    simp only [List.length_cons, Nat.add_le_add_iff_right] at hn hm
    simp_all only [Char.isValue, Char.reduceEq, reduceIte, ne_eq, String.reduceSingleton,
      List.cons.injEq, false_and, implies_true, true_and, imp_false, decide_not]
  -- what is left is the next move read with the two amounts of fuel
  all_goals apply_assumption <;> omega

/-- The tokens read from a text, in reverse, from a state of the reader: the word being read,
whether one was started, and the tokens read before. -/
def read (cs : List Char) (cur : Word) (started : Bool) (acc : List Token) : List Token :=
  lexAux cs.length cs cur started acc

theorem lexAux_eq_read {n : Nat} {cs : List Char} (h : cs.length ≤ n) (cur : Word)
    (started : Bool) (acc : List Token) : lexAux n cs cur started acc = read cs cur started acc :=
  lexAux_fuel n cs cur started acc cs.length h (Nat.le_refl _)

theorem lex_eq_read (s : String) : lex s = (read s.toList [] false []).reverse := by
  rw [lex, lexAux_eq_read (by rw [String.length_toList]; omega)]

section Moves

variable {rest : List Char} {cur : Word} {started : Bool} {acc : List Token}

/-- One move of the reader from `c :: rest`, continued on a shorter text. -/
theorem read_cons {r : List Char} {cur' : Word} {started' : Bool} {acc' : List Token} {c : Char}
    (hr : r.length ≤ rest.length)
    (h : lexAux (rest.length + 1) (c :: rest) cur started acc =
      lexAux rest.length r cur' started' acc') :
    read (c :: rest) cur started acc = read r cur' started' acc' := by
  rw [read, List.length_cons, h, lexAux_eq_read hr]

@[simp] theorem read_nil : read [] cur started acc = flushWord cur started acc := rfl

/-- The characters that only continue a word. -/
def isWordChar : Char → Bool
  | '\'' | '"' | '\\' | '$' | ' ' | '\t' | '\n' | ';' | '&' | '|' | '>' | '<' | '#' => false
  | _ => true

@[simp] theorem read_wordChar {c : Char} (hc : isWordChar c = true) :
    read (c :: rest) cur started acc = read rest (cur ++ [.char c false]) true acc := by
  refine read_cons (Nat.le_refl _) ?_
  rw [lexAux.eq_def]
  unfold isWordChar at hc
  split at hc <;> simp_all

@[simp] theorem read_blank : read (' ' :: rest) cur started acc =
    read rest [] false (flushWord cur started acc) :=
  read_cons (Nat.le_refl _) (by rw [lexAux.eq_def]; rfl)

@[simp] theorem read_newline : read ('\n' :: rest) cur started acc =
    read rest [] false (.op "\n" :: flushWord cur started acc) :=
  read_cons (Nat.le_refl _) (by rw [lexAux.eq_def]; rfl)

@[simp] theorem read_semicolon : read (';' :: rest) cur started acc =
    read rest [] false (.op ";" :: flushWord cur started acc) :=
  read_cons (Nat.le_refl _) (by rw [lexAux.eq_def]; rfl)

@[simp] theorem read_and : read ('&' :: '&' :: rest) cur started acc =
    read rest [] false (.op "&&" :: flushWord cur started acc) :=
  read_cons (by simp) (by rw [lexAux.eq_def]; rfl)

@[simp] theorem read_or : read ('|' :: '|' :: rest) cur started acc =
    read rest [] false (.op "||" :: flushWord cur started acc) :=
  read_cons (by simp) (by rw [lexAux.eq_def]; rfl)

/-- A redirection of an output stream to a file: the stream is named by a word of one digit
just before it. -/
@[simp] theorem read_redirect {d : Char} (hd : d ≠ '>' ∧ d ≠ '&') :
    read ('>' :: d :: rest) cur started acc =
      read (d :: rest) [] false (.redirect (if started then streamDigit cur else none) ">" ::
        if (if started then streamDigit cur else none).isSome then acc
        else flushWord cur started acc) := by
  refine read_cons (Nat.le_refl _) ?_
  rw [lexAux.eq_def]
  simp [hd.1, hd.2]

/-- A redirection of an output stream into another. -/
@[simp] theorem read_redirect_stream : read ('>' :: '&' :: rest) cur started acc =
    read rest [] false (.redirect (if started then streamDigit cur else none) ">&" ::
      if (if started then streamDigit cur else none).isSome then acc
      else flushWord cur started acc) :=
  read_cons (by simp) (by rw [lexAux.eq_def]; rfl)

/-- Text between single quotes is read as it is, every character quoted. -/
@[simp] theorem read_singleQuote : read ('\'' :: rest) cur started acc =
    read ((rest.dropWhile (· ≠ '\'')).drop 1)
      (cur ++ (rest.takeWhile (· ≠ '\'')).map (.char · true)) true acc :=
  read_cons (by simp; have := length_dropWhile_le (fun x => !decide (x = '\'')) rest; omega)
    (by rw [lexAux.eq_def]; rfl)

theorem read_singleQuoted {lit : List Char} (hl : '\'' ∉ lit) :
    read ('\'' :: (lit ++ '\'' :: rest)) cur started acc =
      read rest (cur ++ lit.map (.char · true)) true acc := by
  have hp : ∀ c ∈ lit, decide (c ≠ '\'') = true := fun c hc => by
    have : c ≠ '\'' := fun h => hl (h ▸ hc)
    simpa using this
  have hd : (lit ++ '\'' :: rest).dropWhile (· ≠ '\'') = '\'' :: rest := by
    rw [List.dropWhile_append_of_pos hp]
    simp
  have ht : (lit ++ '\'' :: rest).takeWhile (· ≠ '\'') = lit := by
    rw [List.takeWhile_append_of_pos hp]
    simp
  rw [read_singleQuote, hd, ht]
  rfl

/-- Text between double quotes is read by `readDouble`. -/
@[simp] theorem read_doubleQuote : read ('"' :: rest) cur started acc =
    read (readDouble rest.length rest []).2 (cur ++ (readDouble rest.length rest []).1) true acc :=
  read_cons (readDouble_rest_length _ _ _) (by rw [lexAux.eq_def]; rfl)

/-- A single quote between double quotes is read as a quoted single quote. -/
theorem read_doubleQuotedQuote : read ('"' :: '\'' :: '"' :: rest) cur started acc =
    read rest (cur ++ [.char '\'' true]) true acc := by
  rw [read_doubleQuote]
  simp [readDouble]

end Moves

/-! ## Quoted words -/

/-- The word that stands for `v` itself: its characters, every one quoted, so that no
parameter in it is expanded and it is neither split into fields nor matched against file
names. -/
def literalWord (v : String) : Word := v.toList.map (.char · true)

/-- A word of characters written without quotes. -/
def bareWord (s : String) : Word := s.toList.map (.char · false)

/-- The characters between the outer quotes of `quote v`: a single quote closes the quotes, is
written between double quotes, and opens them again. -/
def quoteBody (cs : List Char) : List Char :=
  cs.flatMap fun c => if c = '\'' then ['\'', '"', '\'', '"', '\''] else [c]

theorem replaceChars_single (c : Char) (new : List Char) :
    ∀ cs, Text.replaceChars [c] new 0 cs = cs.flatMap fun x => if x = c then new else [x]
  | [] => rfl
  | x :: xs => by
    by_cases h : x = c
    · subst h
      simp [Text.replaceChars, replaceChars_single x new xs]
    · have hne : (c == x) = false := by simpa using fun h' => h h'.symm
      simp [Text.replaceChars, List.isPrefixOf, hne, h, replaceChars_single c new xs]

theorem toList_quote (v : String) : (quote v).toList = '\'' :: quoteBody v.toList ++ ['\''] := by
  simp [quote, Text.replaceAll, replaceChars_single, quoteBody]

/-- Reading on from inside a quoted text: `pre` has been read since the last quote opened. -/
theorem read_quoteBody (rest : List Char) :
    ∀ (cs pre : List Char) (cur : Word) (started : Bool) (acc : List Token), '\'' ∉ pre →
      read ('\'' :: (pre ++ quoteBody cs ++ '\'' :: rest)) cur started acc =
        read rest (cur ++ (pre ++ cs).map (.char · true)) true acc
  | [], pre, cur, started, acc, hp => by
    simp only [quoteBody, List.flatMap_nil, List.append_nil]
    exact read_singleQuoted hp
  | c :: cs, pre, cur, started, acc, hp => by
    by_cases hc : c = '\''
    · -- the quote closes, a double-quoted quote follows, and the quote opens again
      subst hc
      have hs := @read_singleQuoted ('"' :: '\'' :: '"' :: '\'' :: (quoteBody cs ++ '\'' :: rest))
        cur started acc _ hp
      have hb : quoteBody ('\'' :: cs) = ['\'', '"', '\'', '"', '\''] ++ quoteBody cs := by
        simp [quoteBody]
      rw [hb]
      simp only [List.append_assoc, List.cons_append, List.nil_append] at hs ⊢
      rw [hs, read_doubleQuotedQuote]
      have := read_quoteBody rest cs [] (cur ++ pre.map (.char · true) ++ [.char '\'' true])
        true acc List.not_mem_nil
      simpa using this
    · have hb : quoteBody (c :: cs) = c :: quoteBody cs := by
        simp [quoteBody, hc]
      have hp' : '\'' ∉ pre ++ [c] := by simpa [hp] using Ne.symm hc
      have := read_quoteBody rest cs (pre ++ [c]) cur started acc hp'
      simpa [hb] using this

/-- Reading `quote v` adds `v`'s characters, every one quoted, to the word being read, whatever
text follows. -/
theorem read_quote (v : String) (rest : List Char) (cur : Word) (started : Bool)
    (acc : List Token) :
    read ((quote v).toList ++ rest) cur started acc = read rest (cur ++ literalWord v) true acc := by
  have := read_quoteBody rest v.toList [] cur started acc List.not_mem_nil
  simpa [toList_quote, literalWord] using this

theorem read_quote_end (v : String) (cur : Word) (started : Bool) (acc : List Token) :
    read (quote v).toList cur started acc = .word (cur ++ literalWord v) :: acc := by
  simpa [flushWord] using read_quote v [] cur started acc

/-- The shell reads `quote v` as one word: `v`'s characters, every one of them quoted. -/
theorem lex_quote (v : String) : lex (quote v) = [.word (literalWord v)] := by
  simp [lex_eq_read, read_quote_end]

/-- The remote command that runs a script reads as the words `sh`, `-c` and the script. -/
theorem lex_remoteCommand (script : String) :
    lex ("sh -c " ++ quote script) =
      [.word (bareWord "sh"), .word (bareWord "-c"), .word (literalWord script)] := by
  simp (disch := decide) only [lex_eq_read, String.toList_append, String.reduceToList,
    List.cons_append, List.nil_append, read_wordChar, read_blank, read_quote_end]
  simp [flushWord, bareWord]

/-- Quoted words after a blank each: the characters `quoteAll` puts after its first word. -/
def quotedTail (xs : List String) : List Char := xs.flatMap fun x => ' ' :: (quote x).toList

theorem toList_quoteAll_cons (x : String) (xs : List String) :
    (quoteAll (x :: xs)).toList = (quote x).toList ++ quotedTail xs := by
  induction xs generalizing x with
  | nil => simp [quoteAll, quotedTail]
  | cons y ys ih =>
    have h := ih y
    simp only [quoteAll, List.map_cons, String.intercalate_cons_cons, String.toList_append] at h ⊢
    rw [h]
    simp [quotedTail]

/-- A command of quoted words is the quoted list of all its words. -/
theorem withArgs_append_quote (p c : String) (xs : List String) :
    BackendSpec.withArgs (p ++ quote c) (quoteAll xs) = p ++ quoteAll (c :: xs) := by
  cases xs with
  | nil => simp [BackendSpec.withArgs, quoteAll]
  | cons y ys =>
    have hne : quoteAll (y :: ys) ≠ "" := fun h => by
      have := congrArg String.toList h
      simp [toList_quoteAll_cons, toList_quote] at this
    rw [BackendSpec.withArgs, if_neg hne]
    simp only [quoteAll, List.map_cons, String.intercalate_cons_cons, String.append_assoc]

theorem withArgs_quote (c : String) (xs : List String) :
    BackendSpec.withArgs (quote c) (quoteAll xs) = quoteAll (c :: xs) := by
  simpa using withArgs_append_quote "" c xs

/-- Quoted words after a blank each, up to a `;`, are read as one word each. -/
theorem read_quotedTail_semicolon (rest : List Char) :
    ∀ (xs : List String) (w : Word) (acc : List Token),
      read (quotedTail xs ++ ';' :: rest) w true acc =
        read rest [] false (.op ";" :: ((w :: xs.map literalWord).map .word).reverse ++ acc)
  | [], w, acc => by simp [quotedTail, flushWord]
  | x :: xs, w, acc => by
    have := read_quotedTail_semicolon rest xs (literalWord x) (.word w :: acc)
    simp only [quotedTail] at this ⊢
    simp [read_quote, flushWord, this]

/-- Quoted words after a blank each, at the end of a text, are read as one word each. -/
theorem read_quotedTail_end :
    ∀ (xs : List String) (w : Word) (acc : List Token),
      read (quotedTail xs) w true acc = ((w :: xs.map literalWord).map .word).reverse ++ acc
  | [], w, acc => by simp [quotedTail, flushWord]
  | x :: xs, w, acc => by
    have := read_quotedTail_end xs (literalWord x) (.word w :: acc)
    simp only [quotedTail] at this ⊢
    simp [read_quote, flushWord, this]

end RemoteLsp.Shell.Local

namespace RemoteLsp

open Shell Shell.Local

/-! ## The scripts run on remote hosts -/

/-- The probe that an interpreter can be run reads its interpreter as one word. -/
theorem lex_executableProbe (python : String) :
    lex (executableProbe python) =
      if '/' ∈ python.toList then lex "test -x" ++ [Token.word (literalWord python)]
      else lex "command -v" ++ [Token.word (literalWord python)] ++ lex ">/dev/null 2>&1" := by
  unfold executableProbe
  split <;> simp (disch := decide) [lex_eq_read, read_quote, read_quote_end, flushWord, streamDigit]

/-- The probe of an interpreter's version reads its interpreter as one word. -/
theorem lex_versionProbe (python : String) :
    lex (versionProbe python) = Token.word (literalWord python) :: lex "--version" := by
  simp (disch := decide) [versionProbe, lex_eq_read, read_quote, flushWord]

namespace BackendSpec

/-- The detect script reads its interpreter, the backend's binary in the environment, the
binary's name and the statement importing the backend's module as one word each. -/
theorem lex_detectScript (s : BackendSpec) (python environment : String) :
    lex (s.detectScript python environment) =
      Token.word (bareWord "PY=" ++ literalWord python) ::
        lex "\n\"$PY\" -c 'import sys' >/dev/null 2>&1 || exit 2\n" ++
        (if environment = "" then []
         else lex "[ -x" ++ [Token.word (literalWord (s.environmentBinary environment))] ++
           lex "] && exit 0\n") ++
        lex "command -v" ++ [Token.word (literalWord s.binary)] ++
        lex ">/dev/null 2>&1 && exit 0\n\"$PY\" -c" ++
        [Token.word (literalWord ("import " ++ s.importName))] ++
        lex ">/dev/null 2>&1 && exit 0\nexit 1" := by
  unfold detectScript
  split <;> simp (disch := decide) [lex_eq_read, read_quote, flushWord, streamDigit, readDouble,
    readParam, isNameStart, bareWord]

/-- The install script reads its interpreter and the backend's package as one word each. -/
theorem lex_installScript (s : BackendSpec) (python : String) :
    lex (s.installScript python) =
      Token.word (bareWord "PY=" ++ literalWord python) ::
        lex ("\n\"$PY\" -c 'import sys' >/dev/null 2>&1 || \x7b echo \"interpreter $PY is not runnable\" >&2; exit 2; \x7d\n" ++
          "\"$PY\" -m pip install --upgrade") ++
        [Token.word (literalWord s.package)] := by
  simp (disch := decide) [installScript, lex_eq_read, read_quote, read_quote_end, flushWord,
    streamDigit, readDouble, readParam, isNameStart, bareWord]

/-- The launch script reads the workspace root, the backend's binary in the environment and on
the search path, the interpreter, the module and every server argument as one word each. -/
theorem lex_launchScript (s : BackendSpec) (python environment workspaceRoot : String) :
    lex (s.launchScript python environment workspaceRoot) =
      (if workspaceRoot = "" then []
       else lex "cd" ++ Token.word (literalWord workspaceRoot) :: lex "2>/dev/null || true\n") ++
      (if environment = "" then []
       else lex "if [ -x" ++ Token.word (literalWord (s.environmentBinary environment)) ::
         lex "]; then exec" ++
         (s.environmentBinary environment :: s.serverArgs).map (Token.word ∘ literalWord) ++
         lex "; fi\n") ++
      lex "if command -v" ++ Token.word (literalWord s.binary) :: lex ">/dev/null 2>&1; then exec" ++
      (s.binary :: s.serverArgs).map (Token.word ∘ literalWord) ++ lex "; fi\nexec" ++
      Token.word (literalWord python) :: lex "-m" ++ (s.module :: s.serverArgs).map (Token.word ∘ literalWord) := by
  unfold launchScript
  simp only [withArgs_quote, withArgs_append_quote]
  split <;> split <;>
    simp (disch := decide) [lex_eq_read, read_quote, flushWord, streamDigit, toList_quoteAll_cons,
      read_quotedTail_semicolon, read_quotedTail_end]

end BackendSpec

/-- The search for a directory's repository reads the directory as one word. -/
theorem lex_repositoryScript (dir : String) :
    lex (Daemon.repositoryScript dir) =
      lex "cd" ++ Token.word (literalWord dir) :: lex "&& git rev-parse --show-toplevel" := by
  simp (disch := decide) [Daemon.repositoryScript, lex_eq_read, read_quote, flushWord]

/-- The remote command is the last argument of a runner's command line. -/
theorem argv_getLast? (r : Runner) (host script : String) :
    (r.argv host script).getLast? = some ("sh -c " ++ quote script) := by
  rw [Runner.argv, List.getLast?_append]
  simp

/-- Quoting makes one literal word of any text: the shell reads `quote v` as the word of `v`'s
characters, every one quoted; the remote command a runner puts last on its command line reads
as `sh`, `-c` and the script; and each script run on a host reads every value it quotes as one
such word, the rest of its text being read as written. -/
theorem quoted_values_read_as_words :
    (∀ v : String, lex (quote v) = [Token.word (literalWord v)]) ∧
    (∀ (r : Runner) (host script : String),
      (r.argv host script).getLast? = some ("sh -c " ++ quote script) ∧
      lex ("sh -c " ++ quote script) =
        [Token.word (bareWord "sh"), Token.word (bareWord "-c"), Token.word (literalWord script)]) ∧
    (∀ python : String,
      lex (executableProbe python) =
        (if '/' ∈ python.toList then lex "test -x" ++ [Token.word (literalWord python)]
         else lex "command -v" ++ [Token.word (literalWord python)] ++ lex ">/dev/null 2>&1") ∧
      lex (versionProbe python) = Token.word (literalWord python) :: lex "--version") ∧
    (∀ (s : BackendSpec) (python environment : String),
      lex (s.detectScript python environment) =
        Token.word (bareWord "PY=" ++ literalWord python) ::
          lex "\n\"$PY\" -c 'import sys' >/dev/null 2>&1 || exit 2\n" ++
          (if environment = "" then []
           else lex "[ -x" ++ [Token.word (literalWord (s.environmentBinary environment))] ++
             lex "] && exit 0\n") ++
          lex "command -v" ++ [Token.word (literalWord s.binary)] ++
          lex ">/dev/null 2>&1 && exit 0\n\"$PY\" -c" ++
          [Token.word (literalWord ("import " ++ s.importName))] ++
          lex ">/dev/null 2>&1 && exit 0\nexit 1") ∧
    (∀ (s : BackendSpec) (python : String),
      lex (s.installScript python) =
        Token.word (bareWord "PY=" ++ literalWord python) ::
          lex ("\n\"$PY\" -c 'import sys' >/dev/null 2>&1 || \x7b echo \"interpreter $PY is not runnable\" >&2; exit 2; \x7d\n" ++
            "\"$PY\" -m pip install --upgrade") ++
          [Token.word (literalWord s.package)]) ∧
    (∀ (s : BackendSpec) (python environment workspaceRoot : String),
      lex (s.launchScript python environment workspaceRoot) =
        (if workspaceRoot = "" then []
         else lex "cd" ++ Token.word (literalWord workspaceRoot) :: lex "2>/dev/null || true\n") ++
        (if environment = "" then []
         else lex "if [ -x" ++ Token.word (literalWord (s.environmentBinary environment)) ::
           lex "]; then exec" ++
           (s.environmentBinary environment :: s.serverArgs).map (Token.word ∘ literalWord) ++
           lex "; fi\n") ++
        lex "if command -v" ++ Token.word (literalWord s.binary) :: lex ">/dev/null 2>&1; then exec" ++
        (s.binary :: s.serverArgs).map (Token.word ∘ literalWord) ++ lex "; fi\nexec" ++
        Token.word (literalWord python) :: lex "-m" ++
        (s.module :: s.serverArgs).map (Token.word ∘ literalWord)) ∧
    (∀ dir : String,
      lex (Daemon.repositoryScript dir) =
        lex "cd" ++ Token.word (literalWord dir) :: lex "&& git rev-parse --show-toplevel") :=
  ⟨lex_quote,
    fun r host script => ⟨argv_getLast? r host script, lex_remoteCommand script⟩,
    fun python => ⟨lex_executableProbe python, lex_versionProbe python⟩,
    BackendSpec.lex_detectScript, BackendSpec.lex_installScript, BackendSpec.lex_launchScript,
    lex_repositoryScript⟩

end RemoteLsp
