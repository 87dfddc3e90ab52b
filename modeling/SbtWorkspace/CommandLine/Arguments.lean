/-! Reading arguments. An option is long and starts with two dashes, or is a letter after one dash, which
letters can share. An option that takes a value has it after an equals sign, after its letter or as
the next argument. Two dashes alone end the options. -/

namespace SbtWorkspace.CommandLine

/-- An option of a command: its long name, its letter, and whether it takes a value. -/
structure OptionSpec where
  long : String
  letter : Option Char := none
  takesValue : Bool := false
  deriving DecidableEq

abbrev Given := String × Option String

/-- Arguments that are read: the options in their order, and what is left. -/
structure Parsed where
  options : List Given
  rest : List String
  deriving DecidableEq

namespace Arguments

/-- Reads the letters after a dash. The next argument is at hand for an option that takes a value. Gives
the options, and whether the next argument is used; `none` is a usage error. -/
def letters (specs : List OptionSpec) (next : Option String) :
    List Char → Option (List Given × Bool)
  | [] => some ([], false)
  | c :: more =>
    match specs.find? fun s => s.letter = some c with
    | none => none
    | some spec =>
      if spec.takesValue then
        match more, next with
        | [], none => none
        | [], some value => some ([(spec.long, some value)], true)
        | _, _ => some ([(spec.long, some (String.ofList more))], false)
      else (letters specs next more).map fun r => ((spec.long, none) :: r.1, r.2)

/-- Reads an argument that starts with a dash, as `letters` does. -/
def option (specs : List OptionSpec) (next : Option String) (arg : String) :
    Option (List Given × Bool) :=
  let cs := arg.toList
  match cs with
  | '-' :: '-' :: _ =>
    let name := cs.takeWhile (· ≠ '=')
    let value := if name.length = cs.length then none else some (String.ofList (cs.drop (name.length + 1)))
    match specs.find? fun s => s.long = String.ofList name with
    | none => none
    | some spec =>
      match spec.takesValue, value, next with
      | false, none, _ => some ([(spec.long, none)], false)
      | false, some _, _ => none
      | true, some value, _ => some ([(spec.long, some value)], false)
      | true, none, some value => some ([(spec.long, some value)], true)
      | true, none, none => none
  | _ => letters specs next (cs.drop 1)

def isOption (arg : String) : Bool :=
  match arg.toList with
  | '-' :: _ :: _ => true
  | _ => false

/-- Reads arguments. Where options may not stand between other arguments, all is left from the first of
those on. -/
def parseFrom (specs : List OptionSpec) (interspersed : Bool) :
    (skipped : Bool) → List String → Option Parsed
  | _, [] => some ⟨[], []⟩
  | true, _ :: args => parseFrom specs interspersed false args
  | false, arg :: args =>
    if arg = "--" then some ⟨[], args⟩
    else if isOption arg then do
      let (given, usesNext) ← option specs args.head? arg
      let parsed ← parseFrom specs interspersed usesNext args
      pure { parsed with options := given ++ parsed.options }
    else if interspersed then do
      let parsed ← parseFrom specs interspersed false args
      pure { parsed with rest := arg :: parsed.rest }
    else some ⟨[], arg :: args⟩

/-- Reads arguments; `none` is a usage error. -/
def parse (specs : List OptionSpec) (interspersed : Bool) (args : List String) : Option Parsed :=
  parseFrom specs interspersed false args

end Arguments

namespace Parsed

/-- Whether an option is given. -/
def has (p : Parsed) (long : String) : Bool := p.options.any fun g => g.1 = long

def value? (p : Parsed) (long : String) : Option String :=
  (p.options.reverse.find? fun g => g.1 = long).bind (·.2)

end Parsed

end SbtWorkspace.CommandLine
