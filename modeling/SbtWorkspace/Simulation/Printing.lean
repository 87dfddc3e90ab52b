import SbtWorkspace.Simulation.Binary
import SbtWorkspace.Text.Octet

/-! What `echo` and `printf` print. In both, a back slash and what follows it can stand for another
character; a format is used again as long as arguments are left. -/

namespace SbtWorkspace.Simulation.Printing

def escaped? (c : Char) : Option Char :=
  match c with
  | 'a' => some '\x07'
  | 'b' => some '\x08'
  | 'e' => some '\x1b'
  | 'f' => some '\x0c'
  | 'n' => some '\n'
  | 'r' => some '\r'
  | 't' => some '\t'
  | 'v' => some '\x0b'
  | '\\' => some '\\'
  | _ => none

def isOctal (c : Char) : Bool := '0' ≤ c && c ≤ '7'

def octal (cs : List Char) : Nat := cs.foldl (fun n c => n * 8 + (c.toNat - 48)) 0

def octalDigits (cs : List Char) : List Char × List Char :=
  let digits := (cs.take 3).takeWhile isOctal
  (digits, cs.drop digits.length)

/-- The octets of a text. -/
def octets (cs : List Char) : Bytes := Utf8.encode (String.ofList cs)

/-- A text with its escapes resolved, and whether an escape ends all output there. Octal digits stand for
an octet where a zero is before them. -/
def unescape : (fuel : Nat) → List Char → Bytes × Bool
  | 0, _ => ([], false)
  | _, [] => ([], false)
  | fuel + 1, '\\' :: c :: rest =>
    let add (bytes : Bytes) (rest : List Char) : Bytes × Bool :=
      let (more, ends) := unescape fuel rest
      (bytes ++ more, ends)
    if c = 'c' then ([], true)
    else if c = '0' then
      let (digits, rest) := octalDigits rest
      add [UInt8.ofNat (octal digits)] rest
    else match escaped? c with
      | some d => add (octets [d]) rest
      | none => add (octets ['\\', c]) rest
  | fuel + 1, c :: rest =>
    let (more, ends) := unescape fuel rest
    (octets [c] ++ more, ends)

/-- The output of `echo`. -/
def echo (escapes : Bool) (args : List String) : Bytes :=
  let (newline, args) := match args with
    | "-n" :: rest => (false, rest)
    | _ => (true, args)
  let cs := (" ".intercalate args).toList
  let (bytes, ends) := if escapes then unescape (cs.length + 1) cs else (octets cs, false)
  if newline && !ends then bytes ++ [0x0a] else bytes

/-- The output of the `echo` that is no command of a shell: letters before the texts say whether escapes
are resolved. -/
def echoFlagged (newline escapes : Bool) : List String → Bytes
  | [] => if newline then [0x0a] else []
  | arg :: rest =>
    match arg.toList with
    | '-' :: letters =>
      if letters ≠ [] ∧ letters.all "neE".toList.contains then
        let last := (letters.filter (· ≠ 'n')).getLast?
        echoFlagged (newline && !letters.contains 'n') ((last.map (· == 'e')).getD escapes) rest
      else echo escapes ((if newline then [] else ["-n"]) ++ arg :: rest)
    | _ => echo escapes ((if newline then [] else ["-n"]) ++ arg :: rest)

structure Field where
  left : Bool := false
  zeros : Bool := false
  sign : List Char := []
  alternative : Bool := false
  width : Nat := 0
  precision : Option Nat := none

def Field.fill (f : Field) (cs : List Char) : List Char :=
  let blanks := List.replicate (f.width - cs.length) ' '
  if f.left then cs ++ blanks else blanks ++ cs

/-- The text of a natural number in a base. -/
def Field.digits (f : Field) (base n : Nat) : List Char :=
  let ds := if n = 0 ∧ f.precision = some 0 then [] else Nat.toDigits base n
  List.replicate (f.precision.getD 0 - ds.length) '0' ++ ds

/-- A number in its field, with what stands before its digits. -/
def Field.number (f : Field) (before digits : List Char) : List Char :=
  if f.zeros ∧ !f.left ∧ f.precision.isNone then
    before ++ List.replicate (f.width - before.length - digits.length) '0' ++ digits
  else f.fill (before ++ digits)

/-- The number that an argument is written as, and whether the whole of it is one. A quote before a
character stands for the number of the character. -/
def integer (arg : String) : Int × Bool :=
  let digits (cs : List Char) : Int × Bool :=
    let read (base : Nat) (cs : List Char) : Int × Bool :=
      let value (c : Char) : Nat :=
        if c.isDigit then c.toNat - 48 else if c.isAlpha then c.toLower.toNat - 87 else base
      let run := cs.takeWhile fun c => value c < base
      ((run.foldl (fun n c => n * base + value c) 0 : Nat), run ≠ [] && run.length = cs.length)
    match cs with
    | '0' :: 'x' :: rest | '0' :: 'X' :: rest => read 16 rest
    | '0' :: rest => if rest = [] then (0, true) else read 8 rest
    | _ => read 10 cs
  let isGap (c : Char) : Bool := c = ' ' || ('\t' ≤ c && c ≤ '\r')
  match arg.toList.dropWhile isGap with
  | [] => (0, arg = "")
  | '\x27' :: c :: _ | '"' :: c :: _ => (c.toNat, true)
  | '-' :: rest => let (n, whole) := digits rest; (-n, whole)
  | '+' :: rest => digits rest
  | cs => digits cs

def flags (f : Field) : List Char → Field × List Char
  | '-' :: rest => flags { f with left := true } rest
  | '0' :: rest => flags { f with zeros := true } rest
  | '+' :: rest => flags { f with sign := ['+'] } rest
  | ' ' :: rest => flags { f with sign := if f.sign = [] then [' '] else f.sign } rest
  | '#' :: rest => flags { f with alternative := true } rest
  | cs => (f, cs)

/-- A count in a format, which may be taken from the arguments; what is left of both. -/
def count (cs : List Char) (args : List String) : Int × List Char × List String :=
  match cs with
  | '*' :: rest => ((integer (args.headD "0")).1, rest, args.tail)
  | _ =>
    let digits := cs.takeWhile Char.isDigit
    ((digits.foldl (fun n c => n * 10 + (c.toNat - 48)) 0 : Nat), cs.drop digits.length, args)

/-- The dialects of `printf`: the one of a plain shell, the one of a rich shell, and the one of the program. -/
inductive Dialect where
  | plain
  | rich
  | system
  deriving DecidableEq, Repr

def Dialect.misuse : Dialect → Nat
  | plain => 2
  | rich | system => 1

/-- What is wrong with a format or an argument: there is no number, or more than a number, or a number that is too
great, no character for a conversion, or one for no conversion. -/
inductive PrintFault where
  | noNumber (arg : String)
  | partNumber (arg : String)
  | greatNumber (arg : String)
  | noConversion (conversion : String)
  | notConversion (conversion : String)
  deriving DecidableEq, Repr

/-- How a fault is told. -/
def Dialect.message (d : Dialect) : PrintFault → String
  | .noNumber arg =>
    match d with
    | plain => arg ++ ": expected numeric value"
    | rich => arg ++ ": invalid number"
    | system => "\x27" ++ arg ++ "\x27: expected a numeric value"
  | .partNumber arg =>
    match d with
    | plain => arg ++ ": not completely converted"
    | rich =>
      let isOctalText := arg.toList.head? = some '0' && (arg.toList[1]?).any Char.isDigit
      arg ++ (if isOctalText then ": invalid octal number" else ": invalid number")
    | system => "\x27" ++ arg ++ "\x27: value not completely converted"
  | .greatNumber arg =>
    match d with
    | plain => arg ++ ": Numerical result out of range"
    | rich => "warning: " ++ arg ++ ": Numerical result out of range"
    | system => "\x27" ++ arg ++ "\x27: Numerical result out of range"
  | .noConversion conversion =>
    match d with
    | plain => "missing format character"
    | rich => "\x60" ++ conversion ++ "\x27: missing format character"
    | system => conversion ++ ": invalid conversion specification"
  | .notConversion conversion =>
    match d with
    | plain => conversion ++ ": invalid directive"
    | rich => "\x60" ++ String.ofList (conversion.toList.drop (conversion.length - 1)) ++
        "\x27: invalid format character"
    | system => conversion ++ ": invalid conversion specification"

def Dialect.precision : Dialect → Precision
  | plain => .double
  | rich | system => .extended

def hexadecimal? (c : Char) : Option Nat :=
  if c.isDigit then some (c.toNat - 48)
  else if 'a' ≤ c.toLower ∧ c.toLower ≤ 'f' then some (c.toLower.toNat - 87)
  else none

/-- The number that so many hexadecimal digits at most are written for, and the rest; `none` if there is none. -/
def hexadecimalDigits? (most : Nat) (cs : List Char) : Option (Nat × List Char) :=
  let ds := (cs.take most).takeWhile fun c => (hexadecimal? c).isSome
  if ds = [] then none else some (ds.foldl (fun n c => n * 16 + (hexadecimal? c).getD 0) 0, cs.drop ds.length)

/-- The character of a number as it is written where only ASCII is known. -/
def universal (n : Nat) : Bytes :=
  if n < 128 then [UInt8.ofNat n]
  else
    let ds := (Nat.toDigits 16 n).map Char.toUpper
    let (mark, width) := if n < 65536 then ('u', 4) else ('U', 8)
    octets ('\\' :: mark :: List.replicate (width - ds.length) '0' ++ ds)

/-- The octets that an escape in a format stands for, and the rest; `none` where it ends all output. In a text
that is an argument, a zero may stand before octal digits. -/
def escape (d : Dialect) (isArgument : Bool) (c : Char) (rest : List Char) : Option (Bytes × List Char) :=
  let kept : Option (Bytes × List Char) := some (octets ['\\', c], rest)
  if c = 'c' ∧ (isArgument ∨ d = .system) then none
  else if isArgument ∧ c = '0' then
    let (ds, rest) := octalDigits rest
    some ([UInt8.ofNat (octal ds)], rest)
  else if isOctal c then
    let (ds, rest) := octalDigits (c :: rest)
    some ([UInt8.ofNat (octal ds)], rest)
  else if d ≠ .plain ∧ c = 'x' then
    match hexadecimalDigits? 2 rest with
    | some (n, rest) => some ([UInt8.ofNat n], rest)
    | none => kept
  else if d ≠ .plain ∧ (c = 'u' ∨ c = 'U') then
    match hexadecimalDigits? (if c = 'u' then 4 else 8) rest with
    | some (n, rest) => some (universal n, rest)
    | none => kept
  else if d ≠ .plain ∧ c = '"' then some ([0x22], rest)
  else if d = .rich ∧ (c = '?' ∨ c = '\x27') then some (octets [c], rest)
  else
    match escaped? c with
    | some e => some (octets [e], rest)
    | none => kept

/-- A text with its escapes resolved, and whether an escape ends all output there. -/
def resolved (d : Dialect) : (fuel : Nat) → List Char → Bytes × Bool
  | 0, _ => ([], false)
  | _, [] => ([], false)
  | fuel + 1, '\\' :: c :: rest =>
    match escape d true c rest with
    | none => ([], true)
    | some (bytes, rest) =>
      let (more, ends) := resolved d fuel rest
      (bytes ++ more, ends)
  | fuel + 1, c :: rest =>
    let (more, ends) := resolved d fuel rest
    (octets [c] ++ more, ends)

def isSafe (c : Char) : Bool := c.isAlphanum || "%+-./:=@_".toList.contains c

def isHidden (c : Char) : Bool := c < ' ' || '\x7f' ≤ c

/-- A text as a rich shell writes it so that it can be read again. -/
def quotedRich (text : List Char) : List Char :=
  let cs := Octets.ofString (String.ofList text)
  if cs = [] then ['\x27', '\x27']
  else if cs.any isHidden then
    let part (c : Char) : List Char :=
      match "\x07\x08\x1b\x0c\n\r\t\x0b".toList.zip "abEfnrtv".toList |>.find? fun e => e.1 = c with
      | some (_, letter) => ['\\', letter]
      | none =>
        if c = '\\' ∨ c = '\x27' then ['\\', c]
        else if isHidden c then
          let ds := Nat.toDigits 8 c.toNat
          '\\' :: List.replicate (3 - ds.length) '0' ++ ds
        else [c]
    '$' :: '\x27' :: cs.flatMap part ++ ['\x27']
  else
    let part (isFirst : Bool) (c : Char) : List Char :=
      let isPlain := isSafe c || (!isFirst && (c = '#' || c = '~'))
      if isPlain then [c] else ['\\', c]
    (cs.take 1).flatMap (part true) ++ (cs.drop 1).flatMap (part false)

/-- A text as the program writes it so that a shell can read it again. -/
def quotedPlain (cs : List Char) : List Char :=
  let isControl (c : Char) : Bool := c < ' ' || c = '\x7f'
  let isPlain (c : Char) : Bool := c.isAlphanum || "%+-./:@_,\x7b\x7d]".toList.contains c
  if cs ≠ [] ∧ cs.all isPlain ∧ cs ≠ ['\x7b'] ∧ cs ≠ ['\x7d'] then cs
  else if cs.contains '\x27' ∧ !cs.any (fun c => isControl c || "\"\\$\x60!".toList.contains c) then
    '"' :: cs ++ ['"']
  else
    let part (c : Char) : List Char :=
      let dollar (shown : List Char) : List Char :=
        ['\x27', '$', '\x27'] ++ shown ++ ['\x27', '\x27']
      if c = '\x27' then ['\x27', '\\', '\x27', '\x27']
      else if c = '\n' then dollar ['\\', 'n']
      else if c = '\t' then dollar ['\\', 't']
      else if c = '\r' then dollar ['\\', 'r']
      else if isControl c then
        let ds := Nat.toDigits 8 c.toNat
        dollar ('\\' :: List.replicate (3 - ds.length) '0' ++ ds)
      else [c]
    '\x27' :: cs.flatMap part ++ ['\x27']

/-- A number in its field that was written with a point. -/
def Field.real (f : Field) (negative isNumber : Bool) (shown : List Char) : List Char :=
  let before := if negative then ['-'] else f.sign
  if isNumber then { f with precision := none }.number before shown else f.fill (before ++ shown)

def Field.binary (f : Field) (conversion : Char) (b : Binary) : List Char :=
  let raise (cs : List Char) : List Char := if conversion.isUpper then cs.map Char.toUpper else cs
  match b with
  | .undefined => f.real false false (raise "nan".toList)
  | .infinite negative => f.real negative false (raise "inf".toList)
  | .finite negative mantissa exponent =>
    let (n, d) := Binary.ratio mantissa exponent
    let places := f.precision.getD 6
    f.real negative true (match conversion.toLower with
      | 'e' => Binary.scientific f.alternative (if conversion.isUpper then 'E' else 'e') n d places
      | 'g' => Binary.general f.alternative (if conversion.isUpper then 'E' else 'e') n d places
      | _ => Binary.fixed f.alternative n d places)

/-- The number with a point that an argument is written as, and whether the whole of it is one. -/
def real (p : Precision) (arg : String) : Binary × Bool :=
  let isGap (c : Char) : Bool := c = ' ' || ('\t' ≤ c && c ≤ '\r')
  let cs := arg.toList.dropWhile isGap
  let (negative, unsigned) : Bool × List Char := match cs with
    | '-' :: rest => (true, rest)
    | '+' :: rest => (false, rest)
    | _ => (false, cs)
  let word := unsigned.map Char.toLower
  if word = "inf".toList ∨ word = "infinity".toList then (.infinite negative, true)
  else if word = "nan".toList then (.undefined, true)
  else
    match arg.toList with
    | '\x27' :: c :: _ | '"' :: c :: _ => (.ofDecimal p false c.toNat 0, true)
    | [] => (.finite false 0 0, true)
    | _ =>
      match unsigned with
      | '0' :: x :: rest =>
        match if x = 'x' ∨ x = 'X' then hexadecimalDigits? rest.length rest else none with
        | some (n, rest) => (.ofDecimal p negative n 0, rest = [])
        | none => decimal cs
      | _ => decimal cs
where
  /-- The number that a text is written as in decimal. -/
  decimal (cs : List Char) : Binary × Bool :=
    match Binary.decimal? cs with
    | some (negative, n, e, rest) => (.ofDecimal p negative n e, rest = [])
    | none => (.finite false 0 0, false)

/-- What a conversion makes of an argument: octets, the status, whether nothing may follow, and what is wrong with the
argument. -/
structure Converted where
  bytes : Bytes
  status : Nat := 0
  ends : Bool := false
  fault : Option PrintFault := none

def numberFault (arg : String) : PrintFault :=
  let cs := (arg.toList.dropWhile fun c => c = ' ' || ('\t' ≤ c && c ≤ '\r'))
  let cs := if cs.head? = some '-' ∨ cs.head? = some '+' then cs.tail else cs
  if cs.head?.any Char.isDigit ∨ (cs.head? = some '.' ∧ (cs[1]?).any Char.isDigit) then .partNumber arg
  else .noNumber arg

def clamp (isSigned : Bool) (n : Int) : Int :=
  let half : Int := Nat.pow 2 63
  max (-half) (min n (if isSigned then half - 1 else 2 * half - 1))

def convert? (d : Dialect) (f : Field) (conversion : Char) (arg : String) : Option Converted :=
  let number (isSigned : Bool) (before : Int → List Char) (base : Nat) (map : List Char → List Char) :
      Option Converted :=
    let (n, whole) := integer arg
    let m := clamp isSigned n
    let digits := f.digits base (if isSigned then m.natAbs else (BitVec.ofInt 64 m).toNat)
    some
      { bytes := octets (f.number (before m) (map digits))
        status := if whole ∧ (m = n ∨ d = .rich) then 0 else 1
        fault := if !whole then some (numberFault arg) else if m ≠ n then some (.greatNumber arg) else none }
  let sign (n : Int) : List Char := if n < 0 then ['-'] else f.sign
  let cut (cs : List Char) : List Char := match f.precision with
    | some n => cs.take n
    | none => cs
  match conversion with
  | 's' => some { bytes := octets (f.fill (cut arg.toList)) }
  | 'b' =>
    if d = .system ∧ (f.width ≠ 0 ∨ f.precision.isSome) then none
    else
      let (bytes, ends) := resolved d (arg.length + 1) arg.toList
      let bytes := match f.precision with
        | some n => bytes.take n
        | none => bytes
      let blanks : Bytes := List.replicate (f.width - bytes.length) 0x20
      some { bytes := if f.left then bytes ++ blanks else blanks ++ bytes, ends }
  | 'c' =>
    if d = .system ∧ f.precision.isSome then none
    else some { bytes := octets (f.fill (if arg = "" then ['\x00'] else arg.toList.take 1)) }
  | 'q' =>
    match d with
    | .plain => none
    | .rich => some { bytes := octets (f.fill (cut (quotedRich arg.toList))) }
    | .system => some { bytes := octets (f.fill (cut (quotedPlain arg.toList))) }
  | 'd' | 'i' => number true sign 10 id
  | 'u' => number false (fun _ => []) 10 id
  | 'o' => number false (fun _ => if f.alternative then ['0'] else []) 8 id
  | 'x' => number false (fun n => if f.alternative ∧ n ≠ 0 then ['0', 'x'] else []) 16 id
  | 'X' => number false (fun n => if f.alternative ∧ n ≠ 0 then ['0', 'X'] else []) 16 (·.map Char.toUpper)
  | 'e' | 'E' | 'f' | 'F' | 'g' | 'G' =>
    let (b, whole) := real d.precision arg
    some
      { bytes := octets (f.binary conversion b), status := if whole then 0 else 1
        fault := if whole then none else some (numberFault arg) }
  | 'n' => if d = .rich then some { bytes := [] } else none
  | _ => none

/-- The field that is described at the beginning of a conversion, and what is left of the format and of the
arguments. -/
def field (d : Dialect) (cs : List Char) (args : List String) : Field × List Char × List String :=
  let (f, rest) := flags {} cs
  let (width, rest, args) := count rest args
  let f := if width < 0 then { f with left := true, width := width.natAbs } else { f with width := width.toNat }
  let (precision, rest, args) : Option Nat × List Char × List String := match rest with
    | '.' :: rest =>
      let (n, rest, args) := count rest args
      (if n < 0 then none else some n.toNat, rest, args)
    | _ => (none, rest, args)
  let rest := if d = .plain then rest else rest.dropWhile fun c => c = 'l' || c = 'h' || c = 'z' || c = 'j'
  ({ f with precision }, rest, args)

/-- What a format printed: octets, the arguments that are left, the status, whether nothing may follow, and what was
wrong, with the number of octets before. -/
structure Printed where
  bytes : Bytes := []
  left : List String := []
  status : Nat := 0
  ended : Bool := false
  faults : List (Nat × PrintFault) := []

/-- Adds octets before what was printed. -/
def Printed.after (p : Printed) (bytes : Bytes) : Printed :=
  { p with bytes := bytes ++ p.bytes, faults := p.faults.map fun f => (f.1 + bytes.length, f.2) }

/-- What one pass over a format prints. -/
def pass (d : Dialect) : (fuel : Nat) → List Char → List String → Printed
  | 0, _, args => { left := args }
  | _, [], args => { left := args }
  | fuel + 1, '%' :: '%' :: rest, args => (pass d fuel rest args).after [0x25]
  | fuel + 1, '%' :: text, args =>
    let (f, rest, args) := field d text args
    let shown (left : List Char) : String := String.ofList ('%' :: text.take (text.length - left.length))
    match rest with
    | [] => { left := args, status := d.misuse, ended := true, faults := [(0, .noConversion (shown []))] }
    | conversion :: rest =>
      match convert? d f conversion (args.headD "") with
      | none => { left := args, status := d.misuse, ended := true, faults := [(0, .notConversion (shown rest))] }
      | some made =>
        let faults : List (Nat × PrintFault) := (made.fault.map fun f => (0, f)).toList
        if made.ends then { bytes := made.bytes, status := made.status, ended := true, faults }
        else
          let printed := (pass d fuel rest args.tail).after made.bytes
          { printed with status := max printed.status made.status, faults := faults ++ printed.faults }
  | fuel + 1, '\\' :: c :: rest, args =>
    match escape d false c rest with
    | some (bytes, rest) => (pass d fuel rest args).after bytes
    | none => { ended := true }
  | fuel + 1, c :: rest, args => (pass d fuel rest args).after (octets [c])

/-- What a format prints that is used again as long as it takes arguments that are left. -/
def format (d : Dialect) (cs : List Char) : (fuel : Nat) → List String → Printed
  | 0, _ => {}
  | fuel + 1, args =>
    let printed := pass d (cs.length + 1) cs args
    if printed.ended ∨ printed.left = [] ∨ printed.left.length = args.length then printed
    else
      let more := (format d cs fuel printed.left).after printed.bytes
      { more with status := max printed.status more.status, faults := printed.faults ++ more.faults }

/-- What `printf` prints; the arguments that are left are those that no conversion takes. -/
def printf (d : Dialect) (args : List String) : Printed :=
  match args with
  | [] => {}
  | cs :: args => format d cs.toList (args.length + 1) args

end SbtWorkspace.Simulation.Printing
