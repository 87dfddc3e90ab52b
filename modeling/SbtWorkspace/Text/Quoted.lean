import SbtWorkspace.Text.Printable

/-! The quoted form in which a message shows a text: between single quotes, or between double
quotes if the text holds single ones and no double one, with everything unprintable escaped. -/

namespace SbtWorkspace.Quoted

/-- The lower-case hexadecimal digits of a number, with zeros in front up to a least count. -/
def hex (width n : Nat) : List Char :=
  let digits := Nat.toDigits 16 n
  List.replicate (width - digits.length) '0' ++ digits

/-- The escape of a code point by its number: two, four or eight hexadecimal digits. -/
def escapeNumber (n : Nat) : List Char :=
  if n < 0x100 then '\\' :: 'x' :: hex 2 n
  else if n < 0x10000 then '\\' :: 'u' :: hex 4 n
  else '\\' :: 'U' :: hex 8 n

/-- One code point between quotes of the given kind. -/
def escape (quote : Char) : CodePoint → List Char
  | .surrogate n => escapeNumber (0xD800 + n)
  | .scalar c =>
    if c = quote ∨ c = '\\' then ['\\', c]
    else if c = '\n' then ['\\', 'n']
    else if c = '\r' then ['\\', 'r']
    else if c = '\t' then ['\\', 't']
    else if Printable.covers c.toNat then [c]
    else escapeNumber c.toNat

def quoteFor (t : Text) : Char :=
  if t.contains (.scalar '\x27') && !t.contains (.scalar '"') then '"' else '\x27'

end SbtWorkspace.Quoted

namespace SbtWorkspace

def Text.quoted (t : Text) : String :=
  let quote := Quoted.quoteFor t
  String.ofList (quote :: t.flatMap (Quoted.escape quote) ++ [quote])

end SbtWorkspace
