/-! Options of a program. Letters may be written together after one hyphen, and options may stand after
operands, up to two hyphens that end them. A long name may be cut short as long as it is still one name's
beginning alone. -/

namespace SbtWorkspace.Simulation

/-- The options of a program: their letters, which of them take a value, and their long names. `optional` are the
letters whose long names take a value only after an equals sign; `digits` is the letter that a number after a hyphen
stands for; `isFirst` says that no option stands after an operand. -/
structure Options where
  letters : String
  valued : String := ""
  optional : String := ""
  long : List (String × Char) := []
  digits : Option Char := none
  isFirst : Bool := false

structure Arguments where
  options : List (Char × String) := []
  operands : List String := []

/-- Whether an option is given. -/
def Arguments.has (a : Arguments) (letter : Char) : Bool := a.options.any fun o => o.1 = letter

def Arguments.value? (a : Arguments) (letter : Char) : Option String :=
  (a.options.reverse.find? fun o => o.1 = letter).map (·.2)

/-- The values of an option. -/
def Arguments.values (a : Arguments) (letter : Char) : List String :=
  (a.options.filter fun o => o.1 = letter).map (·.2)

def Arguments.last? (a : Arguments) (letters : String) : Option Char :=
  (a.options.reverse.find? fun o => letters.toList.contains o.1).map (·.1)

/-- Why arguments cannot be read by some options. -/
inductive OptionFault where
  | unknownLetter (letter : Char)
  | missingValue (letter : Char)
  | unknownName (text : String)
  | ambiguousName (text : String) (names : List String)
  | missingNamedValue (name : String)
  | unwantedValue (name : String)
  deriving DecidableEq, Repr

/-- What is told of arguments that cannot be read. -/
def OptionFault.message : OptionFault → String
  | unknownLetter c => "invalid option -- '" ++ String.ofList [c] ++ "'"
  | missingValue c => "option requires an argument -- '" ++ String.ofList [c] ++ "'"
  | unknownName text => "unrecognized option '--" ++ text ++ "'"
  | ambiguousName text names =>
    "option '--" ++ text ++ "' is ambiguous; possibilities:" ++ String.join (names.map fun n => " '--" ++ n ++ "'")
  | missingNamedValue name => "option '--" ++ name ++ "' requires an argument"
  | unwantedValue name => "option '--" ++ name ++ "' doesn't allow an argument"

/-- Options that have been read, and the fault of the last one where its value is still to come. -/
abbrev OptionsRead := List (Char × String) × Option (Char × OptionFault)

def Options.readLetters (o : Options) : List Char → Except OptionFault OptionsRead
  | [] => .ok ([], none)
  | c :: rest =>
    if o.valued.toList.contains c then
      if rest = [] then .ok ([], some (c, .missingValue c)) else .ok ([(c, String.ofList rest)], none)
    else if o.letters.toList.contains c then
      (o.readLetters rest).map fun r => ((c, "") :: r.1, r.2)
    else .error (.unknownLetter c)

def Options.longOption (o : Options) (text : List Char) (name : List Char) : Except OptionFault (String × Char) :=
  match o.long.find? fun l => l.1.toList = name with
  | some l => .ok l
  | none =>
    let found := o.long.filter fun l => name.isPrefixOf l.1.toList
    match found, (found.map (·.2)).eraseDups with
    | l :: _, [_] => .ok l
    | [], _ => .error (.unknownName (String.ofList text))
    | _, _ => .error (.ambiguousName (String.ofList text) (found.map (·.1)))

def Options.readLong (o : Options) (text : List Char) : Except OptionFault OptionsRead := do
  let name := text.takeWhile (· ≠ '=')
  let (full, c) ← o.longOption text name
  let value := text.drop (name.length + 1)
  if name.length < text.length then
    if o.valued.toList.contains c || o.optional.toList.contains c then
      pure ([(c, String.ofList value)], none)
    else throw (.unwantedValue full)
  else if o.valued.toList.contains c then pure ([], some (c, .missingNamedValue full))
  else pure ([(c, "")], none)

def Options.readAfter (o : Options) :
    (pending : Option (Char × OptionFault)) → List String → Except OptionFault Arguments
  | none, [] => .ok {}
  | some (_, fault), [] => .error fault
  | some (c, _), value :: rest =>
    (o.readAfter none rest).map fun a => { a with options := (c, value) :: a.options }
  | none, arg :: rest =>
    let go (found : OptionsRead) : Except OptionFault Arguments :=
      (o.readAfter found.2 rest).map fun a => { a with options := found.1 ++ a.options }
    match arg.toList with
    | ['-', '-'] => .ok { operands := rest }
    | '-' :: '-' :: text => (o.readLong text).bind go
    | '-' :: c :: letters =>
      match o.digits with
      | some d =>
        if (c :: letters).all Char.isDigit then go ([(d, String.ofList (c :: letters))], none)
        else (o.readLetters (c :: letters)).bind go
      | none => (o.readLetters (c :: letters)).bind go
    | _ =>
      if o.isFirst then .ok { operands := arg :: rest }
      else (o.readAfter none rest).map fun a => { a with operands := arg :: a.operands }

/-- Reads arguments. -/
def Options.read (o : Options) (args : List String) : Except OptionFault Arguments := o.readAfter none args

theorem Options.read_operands (o : Options) (operands : List String) :
    o.read ("--" :: operands) = .ok { operands } := by
  simp [Options.read, Options.readAfter]

end SbtWorkspace.Simulation
