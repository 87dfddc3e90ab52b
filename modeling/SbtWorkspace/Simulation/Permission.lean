import SbtWorkspace.Simulation.Printing
import SbtWorkspace.Simulation.World

/-! Permissions of what stands in the file system: twelve bits, which are written in octal digits or in letters, and
changed by clauses that name whom they are for. A file may be run where one of the three bits for it is set. -/

namespace SbtWorkspace.Simulation

namespace Permission

/-- The bits of those that letters name; none for all, less what is kept from everyone. -/
def affected (who : List Char) : Nat :=
  let part (c : Char) (bits : Nat) : Nat := if who.contains c ∨ who.contains 'a' then bits else 0
  part 'u' 0o4700 ||| part 'g' 0o2070 ||| part 'o' 0o1007

/-- Bits without others. -/
def without (bits taken : Nat) : Nat := bits - (bits &&& taken)

/-- The bits that new files do not get. -/
def kept : Nat := 0o022

/-- The bits that letters of permissions stand for: those that are named, or those of others. -/
def named (isDirectory : Bool) (old : Nat) (letters : List Char) : Option Nat :=
  let copied (shift : Nat) : Nat :=
    let three := (old >>> shift) &&& 7
    three ||| three <<< 3 ||| three <<< 6
  match letters with
  | ['u'] => some (copied 6)
  | ['g'] => some (copied 3)
  | ['o'] => some (copied 0)
  | _ =>
    letters.foldlM
      (fun bits c =>
        match c with
        | 'r' => some (bits ||| 0o444)
        | 'w' => some (bits ||| 0o222)
        | 'x' => some (bits ||| 0o111)
        | 'X' => some (if isDirectory ∨ old &&& 0o111 ≠ 0 then bits ||| 0o111 else bits)
        | 's' => some (bits ||| 0o6000)
        | 't' => some (bits ||| 0o1000)
        | _ => none) 0

/-- Changes bits by operators with letters after them, for those that are meant. -/
def operations (isDirectory : Bool) (who : List Char) : (fuel : Nat) → List Char → Nat → Option Nat
  | 0, _, _ => none
  | _, [], old => some old
  | fuel + 1, operator :: rest, old =>
    let letters := rest.takeWhile fun c => !"+-=".toList.contains c
    match named isDirectory old letters with
    | none => none
    | some bits =>
      let omitted := if isDirectory then without 0o6000 bits else 0
      let mask := if who = [] then without 0o7777 kept else affected who
      let value := without (bits &&& mask) omitted
      let preserved := (if who = [] then 0 else without 0o7777 mask) ||| omitted
      match operator with
      | '+' => operations isDirectory who fuel (rest.drop letters.length) (old ||| value)
      | '-' => operations isDirectory who fuel (rest.drop letters.length) (without old value)
      | '=' => operations isDirectory who fuel (rest.drop letters.length) (old &&& preserved ||| value)
      | _ => none

/-- Changes bits by a text of digits or clauses; none if it is not well formed. -/
def change? (text : String) (isDirectory : Bool) (old : Nat) : Option Nat :=
  let cs := text.toList
  if cs ≠ [] ∧ cs.all Printing.isOctal then
    let bits := Printing.octal cs
    if 0o7777 < bits then none
    else some (if isDirectory ∧ cs.length < 5 then bits ||| (old &&& 0o6000) else bits)
  else
    (List.splitOn ',' cs).foldlM
      (fun bits clause =>
        let who := clause.takeWhile "ugoa".toList.contains
        let rest := clause.drop who.length
        if rest = [] then none else operations isDirectory who (rest.length + 1) rest bits) old

/-- Whether bits let a file be run. -/
def runs (bits : Nat) : Bool := bits &&& 0o111 ≠ 0

/-- Bits in octal digits, as many as wanted at least. -/
def digits (least bits : Nat) : String :=
  let ds := Nat.toDigits 8 bits
  String.ofList (List.replicate (least - ds.length) '0' ++ ds)

def letters (bits : Nat) : String :=
  let three (shift special : Nat) (mark : Char) : List Char :=
    let n := bits >>> shift
    let last : Char := if bits &&& special ≠ 0 then (if n &&& 1 ≠ 0 then mark else mark.toUpper)
      else if n &&& 1 ≠ 0 then 'x' else '-'
    [if n &&& 4 ≠ 0 then 'r' else '-', if n &&& 2 ≠ 0 then 'w' else '-', last]
  String.ofList (three 6 0o4000 's' ++ three 3 0o2000 's' ++ three 0 0o1000 't')

def usual : Node → Nat
  | .directory | .file _ true => 0o755
  | .file _ false => 0o644
  | .sealed => 0
  | .link _ => 0o777
  | .device _ => 0o666

end Permission

namespace World

def permissions (w : World) (loc : Location) (node : Node) : Nat :=
  let agrees (bits : Nat) : Bool := match node with
    | .file _ executable => Permission.runs bits = executable
    | .directory => true
    | _ => false
  match w.modes.find? fun m => m.1 = loc with
  | some (_, bits) => if agrees bits then bits else Permission.usual node
  | none => Permission.usual node

def withPermissions (w : World) (loc : Location) (bits : Nat) : World :=
  { w with modes := (loc, bits) :: w.modes.filter fun m => m.1 ≠ loc }

/-- The time at which programs begin to run, in billionths of a second. -/
def present : Int := 1770000000000000000

def clock (w : World) : Int := present + (w.time : Int) * 1000000

/-- When what stands at a location was changed, if it is not known to be now. -/
def stamp? (w : World) (loc : Location) : Option Int := (w.stamps.find? fun s => s.1 = loc).map (·.2)

/-- The world in which a location was changed at a time, or now. -/
def withStamp (w : World) (loc : Location) (time : Option Int) : World :=
  let others := w.stamps.filter fun s => s.1 ≠ loc
  { w with stamps := match time with
      | some t => (loc, t) :: others
      | none => others }

/-- The world in which nothing special is known of a location and what is below it. -/
def forget (w : World) (loc : Location) : World :=
  { w with
    modes := w.modes.filter fun m => !loc.isSuffixOf m.1
    stamps := w.stamps.filter fun s => !loc.isSuffixOf s.1 }

/-- The world in which the same is known of a location as of another one; `times` says that this is so for times, too.
-/
def carry (w : World) (times : Bool) (source goal : Location) : World :=
  let moved (loc : Location) : Location := loc.take (loc.length - source.length) ++ goal
  let from_ {α : Type} (own : List (Location × α)) : List (Location × α) :=
    (own.filter fun e => source.isSuffixOf e.1).map fun e => (moved e.1, e.2)
  let modes := from_ w.modes
  let stamps := if times then from_ w.stamps else []
  let w := w.forget goal
  { w with modes := modes ++ w.modes, stamps := stamps ++ w.stamps }

def settled (w : World) : World :=
  { w with
    modes := w.modes.filter fun m => (w.files.lookup m.1).isSome
    stamps := w.stamps.filter fun s => (w.files.lookup s.1).isSome }

end World

end SbtWorkspace.Simulation
