import SbtWorkspace.Simulation.Pattern
import SbtWorkspace.Simulation.Printing
import SbtWorkspace.Simulation.Script.Braces
import SbtWorkspace.Simulation.Shell.Basic

/-! What the words of a script stand for. A word becomes a row of atoms, in which parameters, commands and
arithmetic are replaced; what was put in and is not quoted is split into fields, and a field that is a
pattern stands for the paths that match it. -/

namespace SbtWorkspace.Simulation.Shell

/-- A part of an expanded word. -/
inductive Atom where
  | char (c : Char) (quoted splits : Bool)
  /-- A quoted text that is empty, which makes a field of its own. -/
  | nothing
  /-- The end of a parameter before the next one. -/
  | boundary
  deriving DecidableEq, Repr

def atomsOf (quoted : Bool) (text : String) : List Atom :=
  if quoted ∧ text = "" then [.nothing] else text.toList.map (.char · quoted !quoted)

def textOf (atoms : List Atom) : String :=
  String.ofList (atoms.filterMap fun
    | .char c _ _ => some c
    | .nothing => none
    | .boundary => some ' ')

def marksOf (atoms : List Atom) : List Mark :=
  atoms.filterMap fun
    | .char c quoted _ => some (c, quoted)
    | .nothing => none
    | .boundary => some (' ', false)

def separators (s : Shell) : List Char := ((s.values.get? "IFS").getD " \t\n").toList

/-- Whether a separator is one of those that count once however many there are. -/
def isBlank (c : Char) : Bool := c = ' ' || c = '\t' || c = '\n'

/-- Fields under construction: the finished ones, the one that has begun, and whether blanks ended the last
one, after which one separator that is no blank ends nothing. -/
structure Fields where
  finished : List (List Mark) := []
  begun : Option (List Mark) := none
  blankBefore : Bool := false

/-- The fields with one more atom. -/
def Fields.add (separators : List Char) (f : Fields) : Atom → Fields
  | .char c quoted splits =>
    if splits ∧ separators.contains c then
      if isBlank c then
        match f.begun with
        | some field => { finished := f.finished ++ [field], blankBefore := true }
        | none => f
      else if f.blankBefore ∧ f.begun.isNone then { f with blankBefore := false }
      else { finished := f.finished ++ [f.begun.getD []] }
    else { f with begun := some (f.begun.getD [] ++ [(c, quoted)]), blankBefore := false }
  | .nothing => { f with begun := some (f.begun.getD []) }
  | .boundary =>
    match f.begun with
    | some field => { finished := f.finished ++ [field] }
    | none => f

def fieldsOf (separators : List Char) (atoms : List Atom) : List (List Mark) :=
  let f := atoms.foldl (Fields.add separators) {}
  f.finished ++ f.begun.toList

/-- The atoms of parameters that stay apart. -/
def apart (quoted : Bool) (parameters : List String) : List Atom :=
  [Atom.boundary].intercalate (parameters.map (atomsOf quoted))

/-- The part of a text that is left when a pattern is cut off one of its ends. -/
def cutOff (atEnd longest : Bool) (pattern : Pattern) (cs : List Char) : List Char :=
  let kept (t : List Char) : List Char := cs.take (cs.length - t.length)
  let fits := (ends cs).filter fun t => pattern.isMatch (if atEnd then t else kept t)
  match if atEnd = longest then fits.head? else fits.getLast? with
  | some t => if atEnd then kept t else t
  | none => cs

/-- The text that a command writes, without the ends of lines at its end. -/
def outputText (bytes : Bytes) : String :=
  let kept := ((bytes.filter (· ≠ 0)).reverse.dropWhile (· = 0x0a)).reverse
  match Utf8.decode kept with
  | .ok cs => String.ofList cs
  | .error _ => String.ofList (kept.map fun b => Char.ofNat b.toNat)

def homes : List (String × String) :=
  [("root", "/root"), ("daemon", "/usr/sbin"), ("bin", "/bin"), ("nobody", "/nonexistent")]

def tildeDirectory? (s : Shell) (name : String) : Option String :=
  if name = "" then (s.values.get? "HOME").or (if s.rich then some "/root" else none)
  else if s.rich ∧ name = "+" then s.values.get? "PWD"
  else if s.rich ∧ name = "-" then s.values.get? "OLDPWD"
  else (homes.find? fun h => h.1 = name).map (·.2)

def expandTilde (s : Shell) (w : Word) : Word :=
  match w with
  | .literal ['~'] false :: rest =>
    let isPart : Piece → Bool
      | .literal [c] false => c ≠ '/'
      | _ => false
    let name := (rest.takeWhile isPart).flatMap fun
      | .literal cs _ => cs
      | _ => []
    let after := rest.dropWhile isPart
    match after, tildeDirectory? s (String.ofList name) with
    | [], some home | .literal ['/'] false :: _, some home => .literal home.toList true :: after
    | _, _ => w
  | _ => w

/-- Where a pattern matches the longest part of a text that begins at a place. -/
def longestMatch? (pattern : Pattern) (cs : List Char) : Option Nat :=
  ((List.range (cs.length + 1)).reverse).find? fun n => pattern.isMatch (cs.take n)

/-- A text in which the parts that a pattern matches are replaced, once or as often as there are any. -/
def replaceParts (pattern : Pattern) (new : List Char → List Char) (once : Bool) : (fuel : Nat) → List Char → List Char
  | 0, cs => cs
  | _, [] => []
  | fuel + 1, c :: rest =>
    match (longestMatch? pattern (c :: rest)).filter (0 < ·) with
    | some n =>
      let after := (c :: rest).drop n
      new ((c :: rest).take n) ++ (if once then after else replaceParts pattern new once fuel after)
    | none => c :: replaceParts pattern new once fuel rest

def replaceIn (anchor : Anchor) (pattern : Pattern) (new : List Char → List Char) (cs : List Char) : List Char :=
  match anchor with
  | .first | .all => if pattern = [] then cs else replaceParts pattern new (anchor = .first) (cs.length + 1) cs
  | .start =>
    match longestMatch? pattern cs with
    | some n => new (cs.take n) ++ cs.drop n
    | none => cs
  | .finish =>
    match (ends cs).find? pattern.isMatch with
    | some t => cs.take (cs.length - t.length) ++ new t
    | none => cs

/-- A text in which letters that a pattern matches are made great or small, the first one or all. -/
def recased (up whole : Bool) (pattern : Pattern) (cs : List Char) : List Char :=
  let change (c : Char) : Char :=
    if pattern.isMatch [c] then (if up then c.toUpper else c.toLower) else c
  match cs with
  | [] => []
  | c :: rest => change c :: if whole then rest.map change else rest

def transformLetters : List Char := "UuLQEPAKak".toList

def transformed (letter : Char) (cs : List Char) : List Char :=
  match letter with
  | 'U' => cs.map Char.toUpper
  | 'L' => cs.map Char.toLower
  | 'u' => match cs with
    | c :: rest => c.toUpper :: rest
    | [] => []
  | 'Q' =>
    if cs.any Printing.isHidden then Printing.quotedRich (Octets.toString cs).toList
    else ['\x27'] ++ (cs.flatMap fun c => if c = '\x27' then ['\x27', '\\', '\x27', '\x27'] else [c]) ++ ['\x27']
  | 'E' => match Script.escapedQuote (cs.length + 2) (cs ++ ['\x27']) with
    | some (text, _) => text
    | none => cs
  | _ => cs

def calculate (expand : Word → Running (List Atom)) (source : List Char) : Running Int := do
  evaluate (textOf (← expand (Script.wordOf (← get).rich true source))).toList

def keyOf (expand : Word → Running (List Atom)) (name : String) (w : Word) : Running String := do
  keyOfText name (textOf (← expand w))

/-- What a parameter stands for: one value, or a row of values that may be joined where they are quoted. -/
inductive Meaning where
  | one (value : Option String)
  | row (values : List String) (joined : Bool)

def meaning (expand : Word → Running (List Atom)) (p : Parameter) : Running Meaning := do
  let s ← get
  match p.key with
  | none =>
    if p.name = "@" ∨ p.name = "*" then pure (.row s.parameters (p.name = "*"))
    else pure (.one (s.value? p.name))
  | some key =>
    if key = ['@'] ∨ key = ['*'] then pure (.row ((s.items p.name).map (·.2)) (key = ['*']))
    else do
      let k ← keyOf expand p.name (Script.wordOf s.rich false key)
      pure (.one ((((← get).items p.name).find? fun e => e.1 = k).map (·.2)))

def target? (s : Shell) (text : String) : Option Parameter :=
  match Script.parameterHere? s.rich text.toList with
  | some (p, []) => some p
  | _ => none

def belowZero (length : Option (List Char)) : String :=
  String.ofList (length.getD []) ++ ": substring expression < 0"

/-- The atoms of a parameter. `expand` expands the words that its use is written with. -/
def parameterAtoms (expand : Word → Running (List Atom)) (p : Parameter) (use : Use) (quoted : Bool) :
    Running (List Atom) := do
  if let .bad text := use then
    discard "Bad substitution" (String.ofList text ++ ": bad substitution")
  let s ← get
  let p ← if p.isIndirect then do
      match ← meaning expand { p with isIndirect := false } with
      | .one (some text) =>
        match target? s text with
        | some q => pure q
        | none => discard "" (text ++ ": invalid variable name")
      | _ =>
        let reason := p.name ++ ": invalid indirect expansion"
        if s.options.contains 'u' then failUnset "" reason else discard "" reason
    else pure p
  let between : String := match (s.values.get? "IFS").map String.toList with
    | none => " "
    | some cs => String.ofList (cs.take 1)
  let atomsOfRow (values : List String) (joined : Bool) : List Atom :=
    if joined ∧ quoted then atomsOf quoted (between.intercalate values) else apart quoted values
  match use with
  | .keys =>
    let keys := (s.items p.name).map (·.1)
    pure (atomsOfRow keys (p.key = some ['*']))
  | .names =>
    let names := ((s.values.bindings.map fun v => ((v.1.splitOn "[").headD "")).filter p.name.isPrefixOf).eraseDups
    pure (atomsOfRow (names.mergeSort (· ≤ ·)) false)
  | _ => do
    let found ← meaning expand p
    let (isThere, text) : Bool × String := match found with
      | .one value => (value.isSome, value.getD "")
      | .row values _ => (values ≠ [], " ".intercalate values)
    let plain : List Atom := match found with
      | .one value => atomsOf quoted (value.getD "")
      | .row values joined => atomsOfRow values joined
    let isSet (orEmpty : Bool) : Bool := if orEmpty then text ≠ "" else isThere
    let word (cs : List Char) : Running (List Atom) := do
      let atoms ← expand (Script.wordOf s.rich quoted cs)
      pure (atoms.map fun
        | .char c q _ => .char c q !q
        | a => a)
    let demand : Running Unit := do
      match found with
      | .one none =>
        if s.options.contains 'u' then
          let shown := if p.name.toList.all Char.isDigit then "$" ++ p.name else p.name
          failUnset (p.name ++ ": parameter not set") (shown ++ ": unbound variable")
      | _ => pure ()
    let patternOf (cs : List Char) : Running Pattern := do
      pure (Pattern.ofOctets (marksOf (← expand (Script.wordOf s.rich false cs))))
    /- Each value as a change of its characters leaves it. -/
    let changed (f : List Char → List Char) : Running (List Atom) := do
      let change (t : String) : String := Octets.toString (f (Octets.ofString t))
      pure (match found with
        | .one value => atomsOf quoted (change (value.getD ""))
        | .row values joined => atomsOfRow (values.map change) joined)
    match use with
    | .value => do
      demand
      pure plain
    | .length => do
      demand
      let n := match found with
        | .one _ => text.utf8ByteSize
        | .row values _ => if s.rich then values.length else text.utf8ByteSize
      pure (atomsOf quoted (toString n))
    | .orElse orEmpty cs => if isSet orEmpty then pure plain else word cs
    | .orAssign orEmpty cs =>
      if isSet orEmpty then pure plain
      else do
        let text := textOf (← word cs)
        match p.key with
        | none => assign p.name text
        | some key => do assignElement p.name (← keyOf expand p.name (Script.wordOf s.rich false key)) text
        pure (atomsOf quoted text)
    | .orFail orEmpty cs =>
      if isSet orEmpty then pure plain
      else do
        let own := textOf (← word cs)
        let told (default : String) : String := p.name ++ ": " ++ (if cs = [] then default else own)
        failUnset (told ("parameter not set" ++ if orEmpty then " or null" else ""))
          (told (if orEmpty then "parameter null or not set" else "parameter not set"))
    | .ifSet orEmpty cs => if isSet orEmpty then word cs else pure (if quoted then [.nothing] else [])
    | .cut atEnd longest cs => do
      demand
      let pattern ← patternOf cs
      changed (cutOff atEnd longest pattern)
    | .replace anchor cs new => do
      demand
      let pattern ← patternOf cs
      let marks := marksOf (← expand (Script.wordOf s.rich false new))
      let put (found : List Char) : List Char :=
        marks.flatMap fun m => if m.1 = '&' ∧ !m.2 then found else Octets.ofString (String.ofList [m.1])
      changed (replaceIn anchor pattern put)
    | .recase up whole cs => do
      demand
      let pattern ← if cs = [] then pure [PatternPart.any] else patternOf cs
      changed (recased up whole pattern)
    | .transform letter => do
      demand
      if !transformLetters.contains letter then
        failUnset "" (String.ofList ("$\x7b".toList ++ p.name.toList ++ ['@', letter, '\x7d']) ++ ": bad substitution")
      else if isThere then changed (transformed letter) else pure plain
    | .slice start length => do
      demand
      let first ← calculate expand start
      let count ← match length with
        | none => pure none
        | some cs => some <$> calculate expand cs
      /- The bounds of a slice of so many items. -/
      let bounds (size : Nat) (isText : Bool) : Option (Nat × Nat) :=
        let a := if first < 0 then (size : Int) + first else first
        if a < 0 ∨ (size : Int) < a then some (0, 0)
        else
          match count with
          | none => some (a.toNat, size)
          | some n =>
            if 0 ≤ n then some (a.toNat, min size (a + n).toNat)
            else if isText ∧ a ≤ (size : Int) + n then some (a.toNat, ((size : Int) + n).toNat)
            else none
      match found with
      | .one value =>
        let cs := Octets.ofString (value.getD "")
        match bounds cs.length true with
        | some (a, b) => pure (atomsOf quoted (Octets.toString ((cs.take b).drop a)))
        | none => discard "" (belowZero length)
      | .row values joined =>
        let values := if p.key.isNone then s.name :: values else values
        match bounds values.length false with
        | some (a, b) =>
          let a := if p.key.isNone ∧ first = 0 ∧ count.isNone then 0 else a
          pure (atomsOfRow ((values.take b).drop a) joined)
        | none => discard "" (belowZero length)
    | _ => giveUp

def processFile (bytes : Bytes) : Running String := do
  let s ← get
  let name := toString (63 - s.processes)
  let files := if (s.world.files.lookup ["fd", "dev"]).isSome then s.world.files
    else s.world.files.place ["dev"] "fd" .directory
  set
    { s with
      processes := s.processes + 1
      world := { s.world with files := files.place ["fd", "dev"] name (.file bytes false) } }
  pure ("/dev/fd/" ++ name)

def pieceAtoms (substitute : List Char → Running Bytes) (expand : Word → Running (List Atom)) :
    Piece → Running (List Atom)
  | .literal [] _ => pure [.nothing]
  | .literal cs quoted => pure (cs.map (.char · quoted false))
  | .parameter p use quoted => parameterAtoms expand p use quoted
  | .command source quoted => do pure (atomsOf quoted (outputText (← substitute source)))
  | .process source => do
    let status := (← get).substituted
    let bytes ← substitute source
    modify fun s => { s with substituted := status }
    pure (atomsOf true (← processFile bytes))
  | .arithmetic source quoted => do
    let n ← calculate expand source
    pure (atomsOf quoted (toString n))

def maxWordDepth : Nat := 50

/-- The atoms of a word in which words are nested no deeper than the fuel allows. -/
def atoms (substitute : List Char → Running Bytes) : (fuel : Nat) → Word → Running (List Atom)
  | 0, _ => pure []
  | fuel + 1, w => do
    let parts ← w.mapM (pieceAtoms substitute (atoms substitute fuel))
    pure parts.flatten

def expandWord (substitute : List Char → Running Bytes) (w : Word) : Running (List Atom) := do
  atoms substitute maxWordDepth (expandTilde (← get) w)

def wordText (substitute : List Char → Running Bytes) (w : Word) : Running String :=
  textOf <$> expandWord substitute w

def wordPattern (substitute : List Char → Running Bytes) (w : Word) : Running Pattern :=
  (fun atoms => Pattern.ofOctets (marksOf atoms)) <$> expandWord substitute w

def openedFields (substitute : List Char → Running Bytes) (w : Word) : Running (List String) := do
  let found ← expandWord substitute w
  let s ← get
  let fields := fieldsOf (separators s) found
  pure (if s.options.contains 'f' then fields.map unmarked
    else fields.flatMap fun ms =>
      let globbing : Pattern.Globbing :=
        { dots := s.named.contains "dotglob", hasSelf := !s.rich, deep := s.named.contains "globstar"
          folds := s.named.contains "nocaseglob" }
      let paths := expandPath s.world.files s.cwd globbing ms
      if s.named.contains "nullglob" ∧ paths = [unmarked ms] ∧ !(Pattern.read ms).isPlain ∧
          (s.world.files.resolve s.cwd .kept (.ofString (unmarked ms))).toOption.all (fun
            | .found _ _ => false
            | .missing _ _ => true) then []
      else paths)

def wordFields (substitute : List Char → Running Bytes) (w : Word) : Running (List String) := do
  if (← get).rich then pure (← (Script.openBraces w).mapM (openedFields substitute)).flatten
  else openedFields substitute w

def wordKey (substitute : List Char → Running Bytes) (name : String) (w : Word) : Running String :=
  keyOf (expandWord substitute) name w

def wordNumber (substitute : List Char → Running Bytes) (source : List Char) : Running Int :=
  calculate (expandWord substitute) source

end SbtWorkspace.Simulation.Shell
