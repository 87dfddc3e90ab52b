import SbtWorkspace.Simulation.Pattern
import SbtWorkspace.Simulation.Printing
import SbtWorkspace.Simulation.Utility.Lines
import SbtWorkspace.Total

/-! Programs that exchange characters, and that count what a text is made of. -/

namespace SbtWorkspace.Simulation.Utility

/-- A part of a set of characters: characters in a row, those of a class, which may be one of letters in a case, the
ones that count as equal to one, or one that is repeated, as often as is needed if there is no count. -/
inductive SetPart where
  | row (cs : List Char)
  | members (isCase : Bool) (cs : List Char)
  | equals (c : Char)
  | copies (c : Char) (count : Option Nat)

def rangeOf (a b : Char) : List Char :=
  (List.range (b.toNat + 1 - a.toNat)).map fun i => Char.ofNat (a.toNat + i)

/-- A character of a set, which may be written as an escape, and the rest. -/
def setElement? : List Char → Option (Char × List Char)
  | '\\' :: c :: rest =>
    if Printing.isOctal c then
      let (digits, rest) := Printing.octalDigits (c :: rest)
      some (Char.ofNat (Printing.octal digits % 256), rest)
    else some ((if c = 'e' then none else Printing.escaped? c).getD c, rest)
  | c :: rest => some (c, rest)
  | [] => none

def setParts : (fuel : Nat) → List Char → Except String (List SetPart)
  | 0, _ => .error ""
  | _, [] => .ok []
  | fuel + 1, cs =>
    let add (part : SetPart) (rest : List Char) : Except String (List SetPart) := (setParts fuel rest).map (part :: ·)
    let shown (cs : List Char) : String := named (Octets.toString cs)
    let single : Except String (List SetPart) :=
      match setElement? cs with
      | none => .ok []
      | some (a, rest) =>
        match rest with
        | '-' :: below@(_ :: _) =>
          match setElement? below with
          | some (b, rest) =>
            if a ≤ b then add (.row (rangeOf a b)) rest
            else .error ("range-endpoints of " ++ shown (cs.take (cs.length - rest.length)) ++
              " are in reverse collating sequence order")
          | none => .ok []
        | _ => add (.row [a]) rest
    match cs with
    | '[' :: ':' :: rest =>
      let name := rest.takeWhile (· ≠ ':')
      match rest.drop name.length with
      | ':' :: ']' :: rest =>
        match Pattern.classes.find? fun k => k.1.toList = name with
        | some (name, ranges) =>
          let found := (ranges.flatMap fun r => rangeOf r.1 r.2).mergeSort
          add (.members (name = "upper" || name = "lower") found) rest
        | none => .error ("invalid character class " ++ shown name)
      | _ => single
    | '[' :: '=' :: c :: '=' :: ']' :: rest => add (.equals c) rest
    | '[' :: '=' :: '=' :: ']' :: _ => .error "missing equivalence class character '[==]'"
    | '[' :: rest =>
      match setElement? rest with
      | some (c, '*' :: below) =>
        let text := below.takeWhile (· ≠ ']')
        match below.drop text.length with
        | ']' :: rest =>
          if !text.all Char.isDigit then
            .error ("invalid repeat count " ++ shown text ++ " in [c*n] construct")
          else
            let count := if text.head? = some '0' then Printing.octal text else (natural? text).getD 0
            add (.copies c (if count = 0 then none else some count)) rest
        | _ => single
      | _ => single
    | _ => single

/-- How many characters a part has, as far as it is known. -/
def SetPart.count : SetPart → Nat
  | row cs | members _ cs => cs.length
  | equals _ => 1
  | copies _ count => count.getD 0

def setCharacters (wanted : Nat) (parts : List SetPart) : List Char :=
  let known := total SetPart.count parts
  parts.flatMap fun
    | .row cs | .members _ cs => cs
    | .equals c => [c]
    | .copies c count => List.replicate (count.getD (wanted - known)) c

def casePlaces : (place : Nat) → List SetPart → List Nat
  | _, [] => []
  | place, part :: rest =>
    let more := casePlaces (place + part.count) rest
    match part with
    | .members true _ => place :: more
    | _ => more

def squeezedIn (isIn : Char → Bool) (cs : List Char) : List Char :=
  cs.foldr (fun c done => if isIn c ∧ done.head? = some c then done else c :: done) []

def exchange (isComplement cuts : Bool) (one two : List SetPart) (set : List Char) :
    Except String (List Char × List Char) :=
  let goal := setCharacters set.length two
  let isRestricted := two.any fun
    | .members isCase _ => !isCase
    | _ => false
  let hasEquals := two.any fun
    | .equals _ => true
    | _ => false
  let isOpen := two.any fun
    | .copies _ none => true
    | _ => false
  let endsInClass : Bool := match two.getLast? with
    | some (.members _ _) => true
    | _ => false
  let hasClass := one.any fun
    | .members _ _ => true
    | _ => false
  let isShort : Bool := goal.length < set.length && !cuts && !isOpen
  let isMisaligned := !isComplement && !(casePlaces 0 two).all (casePlaces 0 one).contains
  if hasEquals then .error "[=c=] expressions may not appear in string2 when translating"
  else if isRestricted then
    .error "when translating, the only character classes that may appear in\nstring2 are 'upper' and 'lower'"
  else if isMisaligned then .error "misaligned [:upper:] and/or [:lower:] construct"
  else if isShort && goal = [] then .error "when not truncating set1, string2 must be non-empty"
  else if isShort && endsInClass then
    .error ("when translating with string1 longer than string2,\n" ++
      "the latter string must not end with a character class")
  else if isComplement && hasClass && !(goal.eraseDups.length ≤ 1) then
    .error ("when translating with complemented character classes,\n" ++
      "string2 must map all characters in the domain to one")
  else .ok (if cuts then set.take goal.length else set, goal)

/-- What becomes of characters by the sets that are given, or what is wrong with the sets. -/
def translate (a : Arguments) (cs : List Char) : Except String (List Char) := do
  let isComplement := a.has 'c' || a.has 'C'
  let sets ← a.operands.mapM fun s => setParts (2 * s.utf8ByteSize + 1) (Octets.ofString s)
  let first (parts : List SetPart) : List Char :=
    let cs := setCharacters 0 parts
    if isComplement then ((List.range 256).map Char.ofNat).filter fun c => !cs.contains c else cs
  let openParts (parts : List SetPart) : Nat := parts.countP fun
    | .copies _ none => true
    | _ => false
  match sets with
  | [] => pure cs
  | one :: more =>
    let set := first one
    let two := more.headD []
    if openParts one ≠ 0 then throw "the [c*] repeat construct may not appear in string1"
    else if 1 < openParts two then throw "only one [c*] repeat construct may appear in string2"
    else if (a.has 'd' ∨ more = []) ∧ openParts two ≠ 0 then
      throw "the [c*] construct may appear in string2 only when translating"
    else if a.has 'd' then
      let kept := cs.filter fun c => !set.contains c
      pure (if a.has 's' then squeezedIn (setCharacters 0 two).contains kept else kept)
    else if more.isEmpty then pure (squeezedIn set.contains cs)
    else
      let (set, goal) ← exchange isComplement (a.has 't') one two set
      let exchanged := cs.map fun c =>
        match set.reverse.idxOf? c with
        | some i => ((goal[set.length - 1 - i]?).or goal.getLast?).getD c
        | none => c
      pure (if a.has 's' then squeezedIn goal.contains exchanged else exchanged)

def setsFault? (a : Arguments) : Option String :=
  let least := if a.has 'd' = a.has 's' then 2 else 1
  let most := if a.has 'd' ∧ !a.has 's' then 1 else 2
  match a.operands with
  | [] => some "missing operand"
  | [one] =>
    if least = 1 then none
    else some ("missing operand after " ++ named one ++ "\n" ++
      (if a.has 'd' then "Two strings must be given when both deleting and squeezing repeats."
       else "Two strings must be given when translating."))
  | _ :: two :: more =>
    match more with
    | three :: _ => some ("extra operand " ++ named (if most = 1 then two else three))
    | [] =>
      if most = 1 then
        some ("extra operand " ++ named two ++
          "\nOnly one string may be given when deleting without squeezing repeats.")
      else none

/-- Exchanges characters of the input, or drops them. -/
def tr : Work :=
  reading
    { letters := "cCdst", isFirst := true
      long := [("complement", 'c'), ("delete", 'd'), ("squeeze-repeats", 's'), ("truncate-set1", 't')] } 1
    fun c w a =>
    match setsFault? a, translate a (Octets.toChars w.input) with
    | some text, _ => misused c w 1 text
    | none, .ok cs => { world := { w with input := [] }, output := Octets.ofChars cs }
    | none, .error text => refused c w 1 text

/-- What a text is made of: how many lines, words, characters, octets, and the width of its widest line. -/
def tally (text : Bytes) : List (Char × Nat) :=
  let isGap (b : UInt8) : Bool := b = 0x20 || (0x09 ≤ b && b ≤ 0x0d)
  let words := (text.splitOnP isGap).countP (· ≠ [])
  let width (line : Bytes) : Nat :=
    (Octets.toChars line).foldl
      (fun column c =>
        if c = '\t' then (column / 8 + 1) * 8 else if ' ' ≤ c ∧ c < '\x7f' then column + 1 else column) 0
  [('l', text.count 0x0a), ('w', words), ('m', text.length), ('c', text.length),
    ('L', ((lines text).map fun l => width (bare l)).foldl max 0)]

def wc : Work :=
  reading
    { letters := "clmwL"
      long := [("bytes", 'c'), ("chars", 'm'), ("lines", 'l'), ("words", 'w'), ("max-line-length", 'L')] } 1
    fun c w a =>
    let (world, found) := contents c w a.operands
    let isShown (letter : Char) : Bool := if a.options = [] then "lwc".toList.contains letter else a.has letter
    let paths := if a.operands = [] then ["-"] else a.operands
    let shownCount := ("lwmcL".toList.filter isShown).length
    let isBlocked (t : Except Fault Bytes) : Bool := match t with
      | .error .isDirectory => true
      | _ => false
    let size := total (fun t => (t.toOption.getD []).length) found
    let width := if paths.length = 1 ∧ shownCount = 1 then 1
      else if (paths.contains "-" ∧ w.origin ≠ .file) ∨ found.any isBlocked then max 7 (Nat.toDigits 10 size).length
      else (Nat.toDigits 10 size).length
    let row (counts : List (Char × Nat)) (name : String) : List Char :=
      let numbers := (counts.filter fun k => isShown k.1).map fun k => padded width k.2
      [' '].intercalate (numbers ++ if name = "" then [] else [Octets.ofString name])
    let counted := (paths.zip found).filterMap fun (path, text) =>
      match text with
      | .ok t => some (path, tally t)
      | .error .isDirectory => some (path, tally [])
      | .error _ => none
    let total := "lwmcL".toList.map fun letter =>
      let ns := counted.map fun k => ((k.2.find? fun e => e.1 = letter).map (·.2)).getD 0
      (letter, if letter = 'L' then ns.foldl max 0 else total id ns)
    let line (counts : List (Char × Nat)) (path : String) : Bytes :=
      ofRows [row counts (if a.operands = [] then "" else path)]
    let each := inTurn world ((paths.zip found).map fun (path, text) => fun w =>
      match text with
      | .ok t => { world := w, output := line (tally t) path }
      | .error fault =>
        { refused c w 1 (unreadable path fault) with
          output := if fault = .isDirectory then line (tally []) path else [] })
    each.andThen fun w => { world := w, output := if 1 < paths.length then ofRows [row total "total"] else [] }

end SbtWorkspace.Simulation.Utility
