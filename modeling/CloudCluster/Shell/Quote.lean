/-!
Quoting a word for a POSIX shell.
-/

namespace CloudCluster.Shell

/-- The characters that no shell gives a meaning, other than ASCII letters and
digits. -/
def plainMarks : List Char := "@%+=:,./-_".toList

/-- Whether a character needs no quotes. -/
def isSafe (c : Char) : Bool :=
  c.isAlphanum || plainMarks.contains c

/-- A text between single quotes: each single quote in it leaves them, stands
between double quotes, and enters them again. -/
def quoteBody : List Char → List Char
  | [] => []
  | c :: rest => if c = '\'' then "'\"'\"'".toList ++ quoteBody rest else c :: quoteBody rest

/-- The text that a shell reads as one word, equal to `s`. -/
def quoteChars (s : List Char) : List Char :=
  if s.isEmpty then ['\'', '\'']
  else if s.all isSafe then s
  else ['\''] ++ quoteBody s ++ ['\'']

/-- `quoteChars` on strings. -/
def quote (s : String) : String :=
  String.ofList (quoteChars s.toList)

end CloudCluster.Shell
