import SbtWorkspace.Config.Basic
import SbtWorkspace.Rounding
import SbtWorkspace.Toml.Value

/-! Settings from untyped values. Every field is checked on its own, so that all that is wrong is
reported at once: the fields in their order, then the keys that name no field. -/

namespace SbtWorkspace.Config

/-- A value that is given for a field. -/
inductive Setting where
  | null
  | boolean (b : Bool)
  | integer (n : Int)
  | decimal (d : Toml.Decimal)
  | string (s : String)
  | other

def Setting.ofToml : Toml.Value → Setting
  | .string s => .string s
  | .boolean b => .boolean b
  | .integer n => .integer n
  | .decimal d => .decimal d
  | .moment | .array _ | .table _ => .other

/-- What can be wrong with a value. -/
inductive Defect where
  | booleanText
  | notBoolean
  | unknownKey
  | notPath
  | tooShort
  | notString
  deriving DecidableEq, Repr

/-- The name of a kind of defect. -/
def Defect.kind : Defect → String
  | booleanText => "bool_parsing"
  | notBoolean => "bool_type"
  | unknownKey => "extra_forbidden"
  | notPath => "path_type"
  | tooShort => "string_too_short"
  | notString => "string_type"

/-- The wording of a defect. -/
def Defect.message : Defect → String
  | booleanText => "Input should be a valid boolean, unable to interpret input"
  | notBoolean => "Input should be a valid boolean"
  | unknownKey => "Extra inputs are not permitted"
  | notPath => "Input is not a valid path for <class 'pathlib.Path'>"
  | tooShort => "String should have at least 1 character"
  | notString => "Input should be a valid string"

/-- A defect of the value of a key. -/
structure Invalid where
  key : String
  defect : Defect
  deriving DecidableEq, Repr

def nearestDouble? (n d : Nat) : Option Nat :=
  if n * Nat.pow 2 1075 ≤ d then some 0
  else
    let guess : Int := n.log2 - d.log2
    let below := if guess < 0 then n * Nat.pow 2 (-guess).toNat < d else n < d * Nat.pow 2 guess.toNat
    let places : Int := 52 - (if below then guess - 1 else guess)
    if places ≤ 0 then
      some (roundHalfEven n (d * Nat.pow 2 (-places).toNat) * Nat.pow 2 (-places).toNat)
    else
      let q := roundHalfEven (n * Nat.pow 2 places.toNat) d
      if q % Nat.pow 2 places.toNat = 0 then some (q / Nat.pow 2 places.toNat) else none

/-- The integer of at most 64 bits that a floating-point number is, if it is one. -/
def wholeNumber? : Toml.Decimal → Option Int
  | .infinite | .notNumber => none
  | .finite negative mantissa exponent =>
    let size : Int := (Nat.toDigits 10 mantissa).length + exponent
    if mantissa = 0 ∨ size < -400 then some 0
    else if 20 < size then none
    else
      let n := if 0 ≤ exponent then mantissa * Nat.pow 10 exponent.toNat else mantissa
      let d := if 0 ≤ exponent then 1 else Nat.pow 10 (-exponent).toNat
      match nearestDouble? n d with
      | some n => if n < Nat.pow 2 63 then some (if negative then -n else n) else none
      | none => none

def booleanOfInt (n : Int) : Except Defect Bool :=
  if n = 0 then .ok false else if n = 1 then .ok true else .error .booleanText

def falseWords : List String := ["0", "off", "f", "false", "n", "no"]

def trueWords : List String := ["1", "on", "t", "true", "y", "yes"]

/-- A truth value; numbers and words can stand for one. -/
def boolean : Setting → Except Defect Bool
  | .boolean b => .ok b
  | .string s =>
    let word := String.ofList (s.toList.map Char.toLower)
    if falseWords.contains word then .ok false
    else if trueWords.contains word then .ok true
    else .error .booleanText
  | .integer n => if -(Nat.pow 2 63 : Int) ≤ n ∧ n < Nat.pow 2 63 then booleanOfInt n else .error .notBoolean
  | .decimal d =>
    match wholeNumber? d with
    | some n => booleanOfInt n
    | none => .error .notBoolean
  | .null | .other => .error .notBoolean

def optionalPath : Setting → Except Defect (Option Path)
  | .null => .ok none
  | .string s => .ok (some (.parse s))
  | _ => .error .notPath

def optionalString : Setting → Except Defect (Option String)
  | .null => .ok none
  | .string s => .ok (some s)
  | _ => .error .notString

def nonemptyString : Setting → Except Defect { s : String // s ≠ "" }
  | .string s => if h : s ≠ "" then .ok ⟨s, h⟩ else .error .tooShort
  | _ => .error .notString

def fieldNames : List String :=
  ["sbt_script", "java_home", "launcher_path", "bloop_version", "bloop_sbt_already_installed",
    "fallback_sbt_version", "home_dir"]

def readField (settings : List (String × Setting)) (key : String)
    (check : Setting → Except Defect α) (unset : α) : Except Invalid α :=
  match settings.find? fun s => s.1 = key with
  | none => .ok unset
  | some (_, value) =>
    match check value with
    | .ok a => .ok a
    | .error defect => .error ⟨key, defect⟩

def invalidOf : Except Invalid α → List Invalid
  | .ok _ => []
  | .error e => [e]

/-- The settings that values give, or all that is wrong with the values. -/
def validate (settings : List (String × Setting)) : Except (List Invalid) Config :=
  let sbtScript := readField settings "sbt_script" optionalPath none
  let javaHome := readField settings "java_home" optionalPath none
  let launcherPath := readField settings "launcher_path" optionalPath none
  let bloopVersion :=
    readField settings "bloop_version" nonemptyString ⟨default.bloopVersion, default.bloopVersion_ne⟩
  let bloopInstalled := readField settings "bloop_sbt_already_installed" boolean false
  let fallbackVersion := readField settings "fallback_sbt_version" optionalString none
  let homeDir := readField settings "home_dir" optionalPath none
  let unknown := (settings.filter fun s => !fieldNames.contains s.1).map fun s => ⟨s.1, .unknownKey⟩
  match sbtScript, javaHome, launcherPath, bloopVersion, bloopInstalled, fallbackVersion, homeDir,
      unknown with
  | .ok sbtScript, .ok javaHome, .ok launcherPath, .ok ⟨bloopVersion, bloopVersion_ne⟩,
      .ok bloopInstalled, .ok fallbackVersion, .ok homeDir, [] =>
    .ok { sbtScript, javaHome, launcherPath, bloopVersion, bloopInstalled, fallbackVersion, homeDir,
          bloopVersion_ne }
  | _, _, _, _, _, _, _, _ =>
    .error (invalidOf sbtScript ++ invalidOf javaHome ++ invalidOf launcherPath ++
      invalidOf bloopVersion ++ invalidOf bloopInstalled ++ invalidOf fallbackVersion ++
      invalidOf homeDir ++ unknown)

end SbtWorkspace.Config
