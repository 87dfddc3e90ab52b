import SbtWorkspace.Simulation.Regex.Reader
import SbtWorkspace.Simulation.Utility.Outcome

/-! Programs that write the lines of their input again: all of them, the first or the last ones, in another order,
or with numbers. -/

namespace SbtWorkspace.Simulation.Utility

/-- A number at the right of a field. -/
def padded (width : Nat) (n : Nat) : List Char :=
  let ds := Nat.toDigits 10 n
  List.replicate (width - ds.length) ' ' ++ ds

def visible (b : UInt8) : List Char :=
  let low (n : Nat) : List Char :=
    if n < 32 then ['^', Char.ofNat (n + 64)] else if n = 127 then ['^', '?'] else [Char.ofNat n]
  if b.toNat < 128 then low b.toNat else 'M' :: '-' :: low (b.toNat - 128)

/-- Empty lines after other empty ones, left out. -/
def squeezed : (isAfterEmpty : Bool) → List Bytes → List Bytes
  | _, [] => []
  | isAfterEmpty, line :: rest =>
    let isEmpty := line = [0x0a]
    if isEmpty && isAfterEmpty then squeezed true rest else line :: squeezed isEmpty rest

def numbered (skipsEmpty : Bool) : (n : Nat) → List Bytes → List Bytes
  | _, [] => []
  | n, line :: rest =>
    if skipsEmpty ∧ line = [0x0a] then line :: numbered skipsEmpty n rest
    else (Octets.ofChars (padded 6 n ++ ['\t']) ++ line) :: numbered skipsEmpty (n + 1) rest

/-- Writes files again. -/
def cat : Work :=
  reading
    { letters := "AbeEnstTuv"
      long := [("show-all", 'A'), ("number-nonblank", 'b'), ("show-ends", 'E'), ("number", 'n'),
        ("squeeze-blank", 's'), ("show-tabs", 'T'), ("show-nonprinting", 'v')] } 1 fun c w a =>
    let has (letters : String) : Bool := letters.toList.any a.has
    let shownTexts (texts : List Bytes) : Bytes :=
      let found := lines texts.flatten
      let found := if has "s" then squeezed false found else found
      let start (line : Bytes) : Bytes := line.flatMap fun b =>
        if b = 0x0a then (if has "AeE" then [0x24, b] else [b])
        else if b = 0x09 then (if has "AtT" then Octets.ofChars ['^', 'I'] else [b])
        else if has "Aetv" then Octets.ofChars (visible b)
        else [b]
      if has "bn" then
        ((numbered (has "b") 1 found).zip found).flatMap fun (shown, line) =>
          shown.take (shown.length - line.length) ++ start line
      else found.flatMap start
    /- Whether a path leads to the file that the output goes to. -/
    let isOutput (path : String) : Bool := match w.files.status c.cwd (.ofString path), c.sink? 1 with
      | .ok (loc, _), some (.file out) => path ≠ "-" && loc = out
      | _, _ => false
    let (world, found) := contents c w a.operands
    let texts := ((if a.operands = [] then ["-"] else a.operands).zip found).foldl
      (fun (done : List (Except String Bytes)) (path, text) =>
        let entry : Except String Bytes := match text with
          | .ok t =>
            if isOutput path ∧ (t ≠ [] ∨ done.any fun d => (d.toOption.getD []) ≠ []) then
              .error (shownName path ++ ": input file is output file")
            else .ok t
          | .error fault => .error (unreadable path fault)
        done ++ [entry]) []
    makingOf c world texts 1 shownTexts

def partsBy (mark : Bytes) : (fuel : Nat) → (part : Bytes) → Bytes → List Bytes
  | 0, part, bytes => [part.reverse ++ bytes]
  | _, part, [] => if part = [] then [] else [part.reverse]
  | fuel + 1, part, b :: rest =>
    if mark.isPrefixOf (b :: rest) then
      (part.reverse ++ mark) :: partsBy mark fuel [] ((b :: rest).drop mark.length)
    else partsBy mark fuel (b :: part) rest

def partsBefore (mark : Bytes) (bytes : Bytes) : List Bytes :=
  let turned := partsBy mark.reverse (bytes.length + 1) [] bytes.reverse
  (turned.map List.reverse).reverse

def tac : Work :=
  reading { letters := "b", valued := "s", long := [("before", 'b'), ("separator", 's')] } 1 fun c w a =>
    let mark := octets ((a.value? 's').getD "\n")
    let reason (path : String) (fault : Fault) : String :=
      if fault = .isDirectory then shownName path ++ ": read error: Invalid argument"
      else "failed to open " ++ named path ++ " for reading: " ++ fault.wording
    eachContent c w a.operands 1 reason fun _ t =>
      if mark = [] then t
      else
        let parts := if a.has 'b' then partsBefore mark t else partsBy mark (t.length + 1) [] t
        parts.reverse.flatten

/-- What is left of a text, counted from its beginning or from its end. -/
inductive Portion where
  | first (n : Nat)
  | last (n : Nat)
  | allButFirst (n : Nat)
  | allButLast (n : Nat)

/-- A portion of a list. -/
def Portion.of : Portion → List α → List α
  | first n, xs => xs.take n
  | last n, xs => xs.drop (xs.length - n)
  | allButFirst n, xs => xs.drop n
  | allButLast n, xs => xs.take (xs.length - n)

def portion? (isTail : Bool) (text : String) : Option Portion :=
  match isTail, text.toList with
  | false, '-' :: rest => (size? (String.ofList rest)).map .allButLast
  | false, '+' :: rest => (size? (String.ofList rest)).map .first
  | false, _ => (size? text).map .first
  | true, '+' :: rest => (size? (String.ofList rest)).map fun n => .allButFirst (n - 1)
  | true, '-' :: rest => (size? (String.ofList rest)).map .last
  | true, _ => (size? text).map .last

/-- The arguments of `tail` with a number after a plus sign, if it is the first one, written as an option. -/
def withPlus (isTail : Bool) : List String → List String
  | arg :: rest =>
    match isTail, arg.toList with
    | true, '+' :: cs =>
      let digits := cs.takeWhile Char.isDigit
      match digits, cs.drop digits.length with
      | _ :: _, [] | _ :: _, ['l'] => "-n" :: ("+" ++ String.ofList digits) :: rest
      | _ :: _, ['c'] => "-c" :: ("+" ++ String.ofList digits) :: rest
      | _, _ => arg :: rest
    | _, _ => arg :: rest
  | [] => []

/-- Writes a portion of files: of their lines, or of their octets. -/
def portion (isTail : Bool) : Work := fun c w args =>
  reading
    { letters := if isTail then "fFqvz" else "qvz", valued := "nc", digits := some 'n'
      long := [("lines", 'n'), ("bytes", 'c'), ("quiet", 'q'), ("silent", 'q'), ("verbose", 'v'),
        ("zero-terminated", 'z')] } 1 (fun c w a =>
    let unit := (a.last? "nc").getD 'n'
    let size := (a.value? unit).getD "10"
    match portion? isTail size with
    | none => refused c w 1 ("invalid number of " ++ (if unit = 'n' then "lines" else "bytes") ++ ": " ++ named size)
    | some p =>
      let (world, found) := contents c w a.operands
      let paths := if a.operands = [] then ["-"] else a.operands
      let isNamed : Bool := match a.last? "qv" with
        | some letter => letter = 'v'
        | none => 1 < a.operands.length
      let header (isFirst : Bool) (path : String) : Bytes :=
        let name := if path = "-" then "standard input" else path
        if isNamed then octets ((if isFirst then "" else "\n") ++ "==> " ++ name ++ " <==\n") else []
      let step (done : Outcome × Bool) (entry : String × Except Fault Bytes) : Outcome × Bool :=
        let (path, text) := entry
        match text with
        | .ok t =>
          let shown := if unit = 'c' then p.of t else (p.of (linesBy (if a.has 'z' then 0 else 0x0a) t)).flatten
          (done.1.andThen fun w => { world := w, output := header done.2 path ++ shown }, false)
        | .error .isDirectory =>
          let complaint := Call.complaint c ("error reading " ++ named path ++ ": Is a directory")
          let shown := header done.2 path
          (done.1.andThen fun w =>
            { world := w, output := shown, complaints := [{ complaint with place := shown.length }], status := 1 },
            done.2 && !isNamed)
        | .error fault =>
          let text := "cannot open " ++ named path ++ " for reading: " ++ fault.wording
          (done.1.andThen fun w => refused c w 1 text, done.2)
      ((paths.zip found).foldl step ({ world }, true)).1) c w (withPlus isTail args)

/-- Writes lines with numbers. -/
def nl : Work :=
  reading
    { letters := "p", valued := "bdfhilnsvw"
      long := [("body-numbering", 'b'), ("line-increment", 'i'), ("number-format", 'n'),
        ("number-separator", 's'), ("starting-line-number", 'v'), ("number-width", 'w')] } 1 fun c w a =>
    let style := ((a.value? 'b').getD "t").toList
    let number (letter : Char) (otherwise : Nat) : Option Nat :=
      match a.value? letter with
      | some text => text.toNat?
      | none => some otherwise
    let wanted : Option (List Char → Bool) := match style with
      | ['a'] => some fun _ => true
      | ['t'] => some (· ≠ [])
      | ['n'] => some fun _ => false
      | 'p' :: pattern => (Regex.read? .basic pattern).map fun r => fun line => r.isIn { text := line.toArray }
      | _ => none
    match wanted, number 'v' 1, number 'i' 1, number 'w' 6 with
    | some wanted, some first, some step, some width =>
      let between := Octets.ofString ((a.value? 's').getD "\t")
      let field (n : Nat) : List Char :=
        let ds := Nat.toDigits 10 n
        match (a.value? 'n').getD "rn" with
        | "ln" => ds ++ List.replicate (width - ds.length) ' '
        | "rz" => List.replicate (width - ds.length) '0' ++ ds
        | _ => padded width n
      filtering c w a.operands 1 fun texts =>
        ofRows ((rows texts.flatten).foldl
          (fun (done : List (List Char) × Nat) line =>
            if wanted line then (done.1 ++ [field done.2 ++ between ++ line], done.2 + step)
            else (done.1 ++ [List.replicate (width + between.length) ' ' ++ line], done.2))
          ([], first)).1
    | none, _, _, _ =>
      misused c w 1 ("invalid body numbering style: " ++ named ((a.value? 'b').getD ""))
    | _, none, _, _ => refused c w 1 ("invalid starting line number: " ++ named ((a.value? 'v').getD ""))
    | _, _, none, _ => refused c w 1 ("invalid line number increment: " ++ named ((a.value? 'i').getD ""))
    | _, _, _, none => refused c w 1 ("invalid line number field width: " ++ named ((a.value? 'w').getD ""))

def tee : Work :=
  reading { letters := "aip", long := [("append", 'a'), ("ignore-interrupts", 'i')] } 1 fun c w a =>
    a.operands.foldl
      (fun (done : Outcome) path =>
        match done.world.openFile c path (!a.has 'a') with
        | .ok (world, sink) => { done with world := world.emit w.input sink }
        | .error fault =>
          { done with complaints := done.complaints ++ [Call.complaint c (unreadable path fault)], status := 1 })
      { world := { w with input := [] }, output := w.input }

end SbtWorkspace.Simulation.Utility
