import SbtWorkspace.Text.Quoted
import SbtWorkspace.Toml.Value

/-! Writing TOML: one line for each key with a string or a boolean. In a string the quotation mark,
the backslash and every control but the tab are escaped, by a letter where there is one. -/

namespace SbtWorkspace.Toml

/-- A value that is written on its line. -/
inductive Scalar where
  | string (s : String)
  | boolean (b : Bool)
  deriving DecidableEq

namespace Scalar

def toValue : Scalar → Value
  | string s => .string s
  | boolean b => .boolean b

/-- One character of a string. -/
def escape (c : Char) : List Char :=
  if c = '"' then ['\\', '"']
  else if c = '\\' then ['\\', '\\']
  else if c = '\n' then ['\\', 'n']
  else if c = '\r' then ['\\', 'r']
  else if c = '\x08' then ['\\', 'b']
  else if c = '\x0c' then ['\\', 'f']
  else if (c.toNat < 0x20 ∧ c ≠ '\t') ∨ c.toNat = 0x7f then '\\' :: 'u' :: Quoted.hex 4 c.toNat
  else [c]

/-- The written form of a value. -/
def render : Scalar → List Char
  | string s => '"' :: s.toList.flatMap escape ++ ['"']
  | boolean true => ['t', 'r', 'u', 'e']
  | boolean false => ['f', 'a', 'l', 's', 'e']

end Scalar

def renderEntry (entry : String × Scalar) : List Char :=
  entry.1.toList ++ [' ', '=', ' '] ++ entry.2.render ++ ['\n']

/-- The document of some keys. -/
def render (entries : List (String × Scalar)) : String :=
  String.ofList (entries.flatMap renderEntry)

end SbtWorkspace.Toml
