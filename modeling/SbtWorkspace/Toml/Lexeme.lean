import SbtWorkspace.Text.Numeral
import SbtWorkspace.Toml.Value

/-! The parts of a TOML text without parts of their own: blanks, comments, strings, numbers, dates
and times. Each reader takes the characters that are left and gives what it read and the rest;
carriage returns before line feeds are gone by then. -/

namespace SbtWorkspace.Toml

/-- Why a text is no document. An integer of more than 4300 decimal digits has a cause of its own. -/
inductive Error where
  | malformed
  | tooManyDigits (count : Nat)
  | tooDeep
  deriving DecidableEq, Repr

namespace Lexeme

/-- Space and tab. -/
def isGap (c : Char) : Bool := c = ' ' || c = '\t'

def isGapOrLineEnd (c : Char) : Bool := isGap c || c = '\n'

/-- ASCII controls other than the tab; none may stand in a comment or a one-line string. -/
def isControl (c : Char) : Bool := (c.toNat < 0x20 && c ≠ '\t') || c.toNat = 0x7f

def isBare (c : Char) : Bool := c.isAlphanum || c = '-' || c = '_'

def skipGaps (cs : List Char) : List Char := cs.dropWhile isGap

def skipComment (cs : List Char) : Except Error (List Char) :=
  match cs with
  | '#' :: rest =>
    if (rest.takeWhile (· ≠ '\n')).any isControl then .error .malformed
    else .ok (rest.dropWhile (· ≠ '\n'))
  | _ => .ok cs

/-- What follows gaps, line ends and comments, of which there are at most `fuel`. -/
def skipIgnored : (fuel : Nat) → List Char → Except Error (List Char)
  | 0, cs => .ok cs
  | fuel + 1, cs =>
    match cs.dropWhile isGapOrLineEnd with
    | '#' :: rest => do skipIgnored fuel (← skipComment ('#' :: rest))
    | rest => .ok rest

def hexValue? (c : Char) : Option Nat :=
  if '0' ≤ c ∧ c ≤ '9' then some (c.toNat - '0'.toNat)
  else if 'a' ≤ c ∧ c ≤ 'f' then some (c.toNat - 'a'.toNat + 10)
  else if 'A' ≤ c ∧ c ≤ 'F' then some (c.toNat - 'A'.toNat + 10)
  else none

/-- The character that hexadecimal digits name, unless it is no Unicode scalar value. -/
def hexChar? (digits : List Char) : Option Char := do
  let values ← digits.mapM hexValue?
  let n := Numeral.ofDigits 16 values
  if n.isValidChar then some (Char.ofNat n) else none

/-- What a letter after a backslash stands for, other than `u` and `U`. -/
def escaped? (c : Char) : Option Char :=
  if c = 'b' then some '\x08'
  else if c = 't' then some '\t'
  else if c = 'n' then some '\n'
  else if c = 'f' then some '\x0c'
  else if c = 'r' then some '\r'
  else if c = '"' then some '"'
  else if c = '\\' then some '\\'
  else none

def prepend (c : Char) : List Char × List Char → List Char × List Char
  | (cs, rest) => (c :: cs, rest)

/-- A string up to its closing quotation mark, the opening one being read. -/
def basicString : List Char → Option (List Char × List Char)
  | [] => none
  | '"' :: rest => some ([], rest)
  | '\\' :: 'u' :: a :: b :: c :: d :: rest => do
    let x ← hexChar? [a, b, c, d]
    let more ← basicString rest
    pure (prepend x more)
  | '\\' :: 'U' :: a :: b :: c :: d :: e :: f :: g :: h :: rest => do
    let x ← hexChar? [a, b, c, d, e, f, g, h]
    let more ← basicString rest
    pure (prepend x more)
  | '\\' :: e :: rest => do
    let x ← escaped? e
    let more ← basicString rest
    pure (prepend x more)
  | c :: rest =>
    if c = '\\' || isControl c then none else (basicString rest).map (prepend c)

/-- Where a reader of a string of several lines stands: in its text, after a backslash with a gap,
where only a line end may follow, or after such a line end, where gaps and line ends do not count. -/
inductive LineMode where
  | text
  | seekingLineEnd
  | trimming
  deriving DecidableEq

/-- A string of several lines up to its three closing quotation marks. -/
def basicLines : LineMode → List Char → Option (List Char × List Char)
  | _, [] => none
  | .seekingLineEnd, c :: rest =>
    if c = '\n' then basicLines .trimming rest
    else if isGap c then basicLines .seekingLineEnd rest
    else none
  | .trimming, c :: rest =>
    if isGapOrLineEnd c then basicLines .trimming rest else read c rest
  | .text, c :: rest => read c rest
where
  /-- The reader at a character of the text. -/
  read : Char → List Char → Option (List Char × List Char)
    | '"', '"' :: '"' :: rest => some ([], rest)
    | '\\', 'u' :: a :: b :: c :: d :: rest => do
      let x ← hexChar? [a, b, c, d]
      let more ← basicLines .text rest
      pure (prepend x more)
    | '\\', 'U' :: a :: b :: c :: d :: e :: f :: g :: h :: rest => do
      let x ← hexChar? [a, b, c, d, e, f, g, h]
      let more ← basicLines .text rest
      pure (prepend x more)
    | '\\', e :: rest =>
      if e = '\n' then basicLines .trimming rest
      else if isGap e then basicLines .seekingLineEnd rest
      else do
        let x ← escaped? e
        let more ← basicLines .text rest
        pure (prepend x more)
    | c, rest =>
      if c = '\\' || (isControl c && c ≠ '\n') then none
      else (basicLines .text rest).map (prepend c)

def literalString (cs : List Char) : Option (List Char × List Char) :=
  let content := cs.takeWhile (· ≠ '\x27')
  match cs.drop content.length with
  | [] => none
  | _ :: rest => if content.any isControl then none else some (content, rest)

/-- A string without escapes up to its three closing apostrophes. -/
def literalLines : List Char → Option (List Char × List Char)
  | [] => none
  | '\x27' :: '\x27' :: '\x27' :: rest => some ([], rest)
  | c :: rest => if isControl c && c ≠ '\n' then none else (literalLines rest).map (prepend c)

/-- Up to two quotes more that stand right after the closing ones belong to the string. -/
def trailingQuotes (quote : Char) : List Char × List Char → List Char × List Char
  | (content, rest) =>
    let extra := min 2 (rest.takeWhile (· = quote)).length
    (content ++ List.replicate extra quote, rest.drop extra)

def skipFirstLineEnd : List Char → List Char
  | '\n' :: rest => rest
  | cs => cs

/-- A string of any of the four kinds; the text starts with its quote. -/
def string (cs : List Char) : Option (List Char × List Char) :=
  match cs with
  | '"' :: '"' :: '"' :: rest =>
    (basicLines .text (skipFirstLineEnd rest)).map (trailingQuotes '"')
  | '"' :: rest => basicString rest
  | '\x27' :: '\x27' :: '\x27' :: rest =>
    (literalLines (skipFirstLineEnd rest)).map (trailingQuotes '\x27')
  | '\x27' :: rest => literalString rest
  | _ => none

/-- Characters of a class with single underscores between them; the first one must be of the class.
Gives the characters without the underscores. -/
def grouped (isMember : Char → Bool) : List Char → List Char × List Char
  | [] => ([], [])
  | c :: '_' :: d :: rest =>
    if isMember c then
      if isMember d then prepend c (grouped isMember (d :: rest)) else ([c], '_' :: d :: rest)
    else ([], c :: '_' :: d :: rest)
  | c :: rest => if isMember c then prepend c (grouped isMember rest) else ([], c :: rest)

def isDecimal (c : Char) : Bool := '0' ≤ c && c ≤ '9'

def ofDigits (base : Nat) (digits : List Char) : Nat :=
  Numeral.ofDigits base (digits.map fun c => (hexValue? c).getD 0)

def exponent? (cs : List Char) : Option (Int × List Char) :=
  match cs with
  | e :: rest =>
    if e = 'e' ∨ e = 'E' then
      let (negative, unsigned) := match rest with
        | '+' :: r => (false, r)
        | '-' :: r => (true, r)
        | r => (false, r)
      match grouped isDecimal unsigned with
      | ([], _) => none
      | (digits, left) =>
        let n := ofDigits 10 digits
        some (if negative then -n else n, left)
    else none
  | [] => none

def fraction? (cs : List Char) : Option (List Char × List Char) :=
  match cs with
  | '.' :: rest =>
    match grouped isDecimal rest with
    | ([], _) => none
    | (digits, left) => some (digits, left)
  | _ => none

def unsignedNumber (negative : Bool) (cs : List Char) : Option (Except Error (Value × List Char)) :=
  let whole := match cs with
    | '0' :: rest => (['0'], rest)
    | _ => grouped isDecimal cs
  match whole with
  | ([], _) => none
  | (digits, rest) =>
    match fraction? rest, exponent? rest with
    | some (places, rest), _ =>
      let mantissa := ofDigits 10 (digits ++ places)
      match exponent? rest with
      | some (e, rest) =>
        some (.ok (.decimal (.finite negative mantissa (e - places.length)), rest))
      | none => some (.ok (.decimal (.finite negative mantissa (-places.length)), rest))
    | none, some (e, rest) => some (.ok (.decimal (.finite negative (ofDigits 10 digits) e), rest))
    | none, none =>
      if Numeral.maxDigits < digits.length then some (.error (.tooManyDigits digits.length))
      else
        let n := ofDigits 10 digits
        some (.ok (.integer (if negative then -n else n), rest))

def radixNumber? (cs : List Char) : Option (Value × List Char) :=
  let digits (base : Nat) (isMember : Char → Bool) (rest : List Char) :=
    match grouped isMember rest with
    | ([], _) => none
    | (digits, left) => some (Value.integer (ofDigits base digits), left)
  match cs with
  | '0' :: 'x' :: rest => digits 16 (fun c => (hexValue? c).isSome) rest
  | '0' :: 'b' :: rest => digits 2 (fun c => c = '0' || c = '1') rest
  | '0' :: 'o' :: rest => digits 8 (fun c => '0' ≤ c && c ≤ '7') rest
  | _ => none

/-- A number that is written with digits, if one is written here. -/
def number (cs : List Char) : Option (Except Error (Value × List Char)) :=
  match radixNumber? cs with
  | some reading => some (.ok reading)
  | none =>
    match cs with
    | '+' :: rest => unsignedNumber false rest
    | '-' :: rest => unsignedNumber true rest
    | _ => unsignedNumber false cs

def digits? (count : Nat) (cs : List Char) : Option (Nat × List Char) :=
  let ds := cs.take count
  if ds.length = count ∧ ds.all isDecimal then some (ofDigits 10 ds, cs.drop count) else none

def expect? (c : Char) : List Char → Option (List Char)
  | [] => none
  | d :: rest => if c = d then some rest else none

def time? (cs : List Char) : Option (List Char) := do
  let (hour, cs) ← digits? 2 cs
  let (minute, cs) ← digits? 2 (← expect? ':' cs)
  let (second, cs) ← digits? 2 (← expect? ':' cs)
  if hour < 24 ∧ minute < 60 ∧ second < 60 then
    match cs with
    | '.' :: rest =>
      match rest.takeWhile isDecimal with
      | [] => some cs
      | places => some (rest.drop places.length)
    | _ => some cs
  else none

def offset? (cs : List Char) : Option (List Char) :=
  match cs with
  | [] => none
  | c :: rest =>
    if c = 'Z' ∨ c = 'z' then some rest
    else if c = '+' ∨ c = '-' then do
      let (hour, rest) ← digits? 2 rest
      let (minute, rest) ← digits? 2 (← expect? ':' rest)
      if hour < 24 ∧ minute < 60 then some rest else none
    else none

def daysIn (year month : Nat) : Nat :=
  if month = 2 then
    if year % 4 = 0 ∧ (year % 100 ≠ 0 ∨ year % 400 = 0) then 29 else 28
  else if month = 4 ∨ month = 6 ∨ month = 9 ∨ month = 11 then 30
  else 31

/-- A date, if one is written here, perhaps with a time of day. A day that its month does not have,
and the year zero, make the text malformed. -/
def date (cs : List Char) : Option (Except Error (List Char)) := do
  let (year, cs) ← digits? 4 cs
  let (month, cs) ← digits? 2 (← expect? '-' cs)
  let (day, cs) ← digits? 2 (← expect? '-' cs)
  if 1 ≤ month ∧ month ≤ 12 ∧ 1 ≤ day ∧ day ≤ 31 then
    if year = 0 ∨ daysIn year month < day then some (.error .malformed)
    else
      match cs with
      | c :: rest =>
        if c = 'T' ∨ c = 't' ∨ c = ' ' then
          match time? rest with
          | some rest => some (.ok ((offset? rest).getD rest))
          | none => some (.ok cs)
        else some (.ok cs)
      | [] => some (.ok cs)
  else none

def special? (cs : List Char) : Option (Value × List Char) :=
  let unsigned := match cs with
    | '+' :: rest => rest
    | '-' :: rest => rest
    | _ => cs
  match unsigned with
  | 'i' :: 'n' :: 'f' :: rest => some (.decimal .infinite, rest)
  | 'n' :: 'a' :: 'n' :: rest => some (.decimal .notNumber, rest)
  | _ => none

/-- A date, a time or a number. -/
def scalar (cs : List Char) : Except Error (Value × List Char) :=
  match date cs with
  | some rest => rest.map fun rest => (.moment, rest)
  | none =>
    match time? cs with
    | some rest => .ok (.moment, rest)
    | none =>
      match number cs with
      | some reading => reading
      | none =>
        match special? cs with
        | some reading => .ok reading
        | none => .error .malformed

end Lexeme

end SbtWorkspace.Toml
