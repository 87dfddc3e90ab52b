import SbtWorkspace.Text.CodePoint

/-! Words of a shell command line. A word without special characters is written as it is, any other
between single quotes, where a single quote is written `'"'"'`. The empty word is a pair of quotes. -/

namespace SbtWorkspace.ShellWord

def isSafe (c : Char) : Bool := c.isAlphanum || "@%+=:,./-_".toList.contains c

def quoteChar (c : Char) : List Char :=
  if c = '\x27' then ['\x27', '"', '\x27', '"', '\x27'] else [c]

/-- The written form of a word. -/
def quote (word : List Char) : List Char :=
  if word ≠ [] ∧ word.all isSafe then word
  else '\x27' :: word.flatMap quoteChar ++ ['\x27']

/-- The command line of some words. -/
def join (words : List String) : String :=
  String.ofList ([' '].intercalate (words.map fun w => quote w.toList))

end SbtWorkspace.ShellWord
