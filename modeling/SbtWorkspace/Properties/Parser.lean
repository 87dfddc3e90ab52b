import SbtWorkspace.Text.Line
import SbtWorkspace.Text.Quoted

/-! Properties files: lines joined over trailing backslashes, keys and values apart, escapes
resolved. A line is continued if it ends in an odd run of backslashes. Of entries with one key the
last one counts (`valueOf_append`). -/

namespace SbtWorkspace.Properties

/-- Why a text has no properties: an escape without its four hexadecimal digits, in this key or value. -/
inductive Error where
  | malformedEscape (text : Text)
  deriving DecidableEq

/-- The wording of a refusal. -/
def Error.message : Error → String
  | malformedEscape text => "Malformed \\uxxxx encoding in " ++ text.quoted

/-- Space, tab and form feed; no other white space counts in a properties file. -/
def isGap (c : CodePoint) : Bool := c = ' ' || c = '\t' || c = '\x0c'

def isSeparator (c : CodePoint) : Bool := c = '=' || c = ':'

/-- Whether a line starts a comment or, having no code point, is blank. -/
def isIgnored : Text → Bool
  | [] => true
  | c :: _ => c = '#' || c = '!'

/-- Whether a line ends in an odd run of backslashes. -/
def endsOpen (line : Text) : Bool :=
  (line.reverse.takeWhile (· = .scalar '\\')).length % 2 = 1

/-- The logical lines of natural ones. `pending` is what a continued line has gathered so far. -/
def joinLines : (pending : Option Text) → List Text → List Text
  | none, [] => []
  | some [], [] => []
  | some gathered, [] => [gathered]
  | pending, raw :: rest =>
    let line := raw.dropWhile isGap
    if pending.isNone && isIgnored line then joinLines none rest
    else
      let gathered := pending.getD [] ++ line
      if endsOpen gathered then joinLines (some gathered.dropLast) rest
      else gathered :: joinLines none rest

/-- The logical lines of a text: continued lines joined, comments and blank lines left out. -/
def logicalLines (text : Text) : List Text :=
  joinLines none (Line.lines (.scalar '\n') (.scalar '\r') text)

def unescapeLetter (c : CodePoint) : CodePoint :=
  if c = 't' then '\t'
  else if c = 'n' then '\n'
  else if c = 'r' then '\r'
  else if c = 'f' then '\x0c'
  else c

def hexValue? : CodePoint → Option Nat
  | .surrogate _ => none
  | .scalar c =>
    if '0' ≤ c ∧ c ≤ '9' then some (c.toNat - '0'.toNat)
    else if 'a' ≤ c ∧ c ≤ 'f' then some (c.toNat - 'a'.toNat + 10)
    else if 'A' ≤ c ∧ c ≤ 'F' then some (c.toNat - 'A'.toNat + 10)
    else none

def hexUnit? (a b c d : CodePoint) : Option CodePoint := do
  let a ← hexValue? a
  let b ← hexValue? b
  let c ← hexValue? c
  let d ← hexValue? d
  pure (.ofNat (((a * 16 + b) * 16 + c) * 16 + d))

/-- The text with its escapes resolved, unless one is malformed. A backslash at the end stands for
nothing. -/
def unescape? : Text → Option Text
  | [] => some []
  | c :: rest =>
    if c = '\\' then
      match rest with
      | [] => some []
      | e :: rest =>
        if e = 'u' then
          match rest with
          | a :: b :: c :: d :: rest => do
            let unit ← hexUnit? a b c d
            let more ← unescape? rest
            pure (unit :: more)
          | _ => none
        else (unescape? rest).map (unescapeLetter e :: ·)
    else (unescape? rest).map (c :: ·)

def unescape (t : Text) : Except Error Text :=
  match unescape? t with
  | some t => .ok t
  | none => .error (.malformedEscape t)

/-- The key of a logical line as written, and what follows it. A backslash takes the next code
point into the key, whatever it is. -/
def splitKey : Text → Text × Text
  | [] => ([], [])
  | c :: rest =>
    if c = '\\' then
      match rest with
      | [] => ([c], [])
      | e :: rest =>
        let (key, value) := splitKey rest
        (c :: e :: key, value)
    else if isSeparator c || isGap c then ([], c :: rest)
    else
      let (key, value) := splitKey rest
      (c :: key, value)

/-- What follows a key without the gaps and the one separator before the value. -/
def dropSeparator (rest : Text) : Text :=
  match rest.dropWhile isGap with
  | [] => []
  | c :: value => if isSeparator c then value.dropWhile isGap else c :: value

/-- The key and the value of a logical line as they are written. -/
def splitEntry (line : Text) : Text × Text :=
  let (key, rest) := splitKey line
  (key, dropSeparator rest)

def parseEntry (line : Text) : Except Error (Text × Text) := do
  let (key, value) := splitEntry line
  let key ← unescape key
  let value ← unescape value
  pure (key, value)

/-- The entries of a text in order, a key as often as it is written. -/
def entries (text : Text) : Except Error (List (Text × Text)) :=
  (logicalLines text).mapM parseEntry

def valueOf (entries : List (Text × Text)) (key : Text) : Option Text :=
  (entries.reverse.find? fun e => e.1 = key).map (·.2)

/-- The value of a key in a text. -/
def find (text key : Text) : Except Error (Option Text) := (entries text).map (valueOf · key)

/-- The entries that count: of those of one key the last. -/
def effective (entries : List (Text × Text)) : List (Text × Text) :=
  entries.foldr (fun e later => if later.any fun l => l.1 = e.1 then later else e :: later) []

/-- The entries that count, each key once, in the order of the keys. -/
def table (entries : List (Text × Text)) : List (Text × Text) :=
  (effective entries).mergeSort fun a b => !b.1.precedes a.1

@[simp] theorem valueOf_nil (key : Text) : valueOf [] key = none := rfl

/-- A later entry wins. -/
theorem valueOf_append (first second : List (Text × Text)) (key : Text) :
    valueOf (first ++ second) key = (valueOf second key).or (valueOf first key) := by
  simp only [valueOf, List.reverse_append, List.find?_append]
  cases second.reverse.find? fun e => e.1 = key <;> simp

end SbtWorkspace.Properties
