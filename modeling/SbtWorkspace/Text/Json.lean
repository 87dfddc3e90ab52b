import SbtWorkspace.Text.Quoted

/-! JSON in ASCII. In a string, controls and everything beyond ASCII are escaped by their UTF-16 units,
so a character beyond U+FFFF becomes two escapes. -/

namespace SbtWorkspace.Json

def units (n : Nat) : List Nat :=
  if n < 0x10000 then [n]
  else [0xD800 + (n - 0x10000) / 0x400, 0xDC00 + (n - 0x10000) % 0x400]

/-- A code point in a string. -/
def escape (c : CodePoint) : List Char :=
  if c = '"' then ['\\', '"']
  else if c = '\\' then ['\\', '\\']
  else if c = '\n' then ['\\', 'n']
  else if c = '\r' then ['\\', 'r']
  else if c = '\t' then ['\\', 't']
  else if c = '\x08' then ['\\', 'b']
  else if c = '\x0c' then ['\\', 'f']
  else if 0x20 ≤ c.val ∧ c.val < 0x7f then [Char.ofNat c.val]
  else (units c.val).flatMap fun unit => '\\' :: 'u' :: Quoted.hex 4 unit

/-- A value without parts. -/
inductive Scalar where
  | null
  | boolean (b : Bool)
  | string (t : Text)

def renderString (t : Text) : List Char := '"' :: t.flatMap escape ++ ['"']

/-- The written form of a value. -/
def Scalar.render : Scalar → List Char
  | null => ['n', 'u', 'l', 'l']
  | boolean true => ['t', 'r', 'u', 'e']
  | boolean false => ['f', 'a', 'l', 's', 'e']
  | string t => renderString t

def renderArray (items : List String) : String :=
  String.ofList
    (['['] ++ [',', ' '].intercalate (items.map fun s => renderString (Text.ofString s)) ++ [']'])

def renderField (field : String × Scalar) : List Char :=
  [' ', ' '] ++ renderString (Text.ofString field.1) ++ [':', ' '] ++ field.2.render

def renderObject (fields : List (String × Scalar)) : String :=
  String.ofList (['\x7b', '\n'] ++ [',', '\n'].intercalate (fields.map renderField) ++ ['\n', '\x7d'])

end SbtWorkspace.Json
