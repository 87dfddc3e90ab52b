import SbtWorkspace.Simulation.Condition
import SbtWorkspace.Program
import SbtWorkspace.Simulation.World
import SbtWorkspace.Simulation.Printing
import SbtWorkspace.Simulation.Utility.Clock
import SbtWorkspace.Total

/-! Programs that tell of what surrounds them: their environment, their directory, their machine and its user, and
the passing of time; and those that only have a status or print their own arguments. -/

namespace SbtWorkspace.Simulation.Utility

def answering (status : Nat) : Work := fun _ w args =>
  { world := w, status := if args = ["--help"] ∨ args = ["--version"] then 0 else status }

def telling (line : String) : Work :=
  reading { letters := "" } 1 fun c w a =>
    match a.operands with
    | extra :: _ => misused c w 1 ("extra operand " ++ named extra)
    | [] => { world := w, output := octets (line ++ "\n") }

/-- Tells that the input is no terminal. -/
def terminal : Work :=
  reading { letters := "s", long := [("silent", 's'), ("quiet", 's')] } 2 fun c w a =>
    match a.operands with
    | extra :: _ => misused c w 2 ("extra operand " ++ named extra)
    | [] => { world := w, output := if a.has 's' then [] else octets "not a tty\n", status := 1 }

/-- Writes its arguments. -/
def echo : Work := fun _ w args => { world := w, output := Printing.echoFlagged true false args }

def printf : Work := fun c w args =>
  let words := if args.head? = some "--" then args.tail else args
  if args = ["--help"] ∨ args = ["--version"] then { world := w }
  else if words = [] then misused c w 1 "missing operand"
  else
    let printed := Printing.printf .system words
    let faults := printed.faults.map fun (place, fault) =>
      { Call.complaint c (Printing.Dialect.message .system fault) with place }
    let extra := match printed.left with
      | first :: _ =>
        if printed.ended then []
        else
          let text := "warning: ignoring excess arguments, starting with " ++ named first
          [{ Call.complaint c text with place := printed.bytes.length }]
      | [] => []
    { world := w, output := printed.bytes, complaints := faults ++ extra, status := printed.status }

def pwd : Work :=
  reading { letters := "LP", long := [("logical", 'L'), ("physical", 'P')] } 1 fun c w a =>
    { world := w, output := octets (c.cwd.render ++ "\n")
      complaints := if a.operands = [] then [] else [Call.complaint c "ignoring non-option arguments"] }

def printenv : Work :=
  reading { letters := "0", long := [("null", '0')], isFirst := true } 2 fun c w a =>
    let found := if a.operands = [] then c.env.bindings.map fun v => some (v.1 ++ "=" ++ v.2)
      else a.operands.map c.env.get?
    let mark := if a.has '0' then "\x00" else "\n"
    { world := w
      output := (found.filterMap id).flatMap fun v => octets (v ++ mark)
      status := if found.all Option.isSome then 0 else 1 }

def conditional (c : Call) (w : World) (words : List String) : Outcome :=
  match Condition.holds true w c.cwd words with
  | .ok holds => { world := w, status := if holds then 0 else 1 }
  | .error fault =>
    refused c w 2 (match fault, words with
      | .number word, _ => "invalid integer " ++ named word
      | .unclosed, _ => named ")" ++ " expected"
      | _, [_, last] => "missing argument after " ++ named last
      | _, [_, operator, _] => named operator ++ ": binary operator expected"
      | .missing operator, _ => "missing argument after " ++ named operator
      | .extra last, _ => "extra argument " ++ named (((words.dropWhile (· ≠ last)).tail).headD ""))

/-- Answers a condition. -/
def test : Work := fun c w args => conditional c w args

def bracketed : Work := fun c w args =>
  match args.reverse with
  | "]" :: rest => conditional c w rest.reverse
  | _ =>
    if args = ["--help"] ∨ args = ["--version"] then { world := w }
    else refused c w 2 ("missing " ++ named "]")

/-- Lets the time pass that its arguments tell, one added to the other. -/
def sleep : Work := fun c w args =>
  let words := if args.head? = some "--" then args.tail else args
  if args = ["--help"] ∨ args = ["--version"] then { world := w }
  else
    match words.mapM duration?, words.find? fun t => (duration? t).isNone with
    | some (time :: more), _ =>
      let (world, isLate) := w.wait (time + total id more)
      { world, status := if isLate then 143 else 0 }
    | none, some bad => misused c w 1 ("invalid time interval " ++ named bad)
    | _, _ => misused c w 1 "missing operand"

/-- How many lines are written by a program that goes on writing as long as they are read. -/
def manyLines : Nat := 4000

def yes : Work := fun _ w args =>
  if args = ["--help"] ∨ args = ["--version"] then { world := w }
  else
    let words := if args.head? = some "--" then args.tail else args
    let line := octets (" ".intercalate (if words = [] then ["y"] else words) ++ "\n")
    { world := w, output := (List.replicate manyLines line).flatten, status := 141 }

def uname : Work :=
  reading
    { letters := "asnrvmpio"
      long := [("all", 'a'), ("kernel-name", 's'), ("nodename", 'n'), ("kernel-release", 'r'),
        ("kernel-version", 'v'), ("machine", 'm'), ("processor", 'p'), ("hardware-platform", 'i'),
        ("operating-system", 'o')] } 1 fun c w a =>
    match a.operands with
    | extra :: _ => misused c w 1 ("extra operand " ++ named extra)
    | [] =>
      let parts := [('s', "Linux"), ('m', "x86_64"), ('p', "unknown"), ('i', "unknown"), ('o', "GNU/Linux")]
      let shown := if a.options = [] then parts.take 1 else parts.filter fun p => a.has p.1 || a.has 'a'
      { world := w, output := octets (" ".intercalate (shown.map (·.2)) ++ "\n") }

def identity : Work :=
  reading
    { letters := "agGnruzZ"
      long := [("group", 'g'), ("groups", 'G'), ("name", 'n'), ("real", 'r'), ("user", 'u'), ("zero", 'z')] } 1
    fun c w a =>
      let chosen := a.options.filter fun o => "gGu".toList.contains o.1
      match a.operands.find? fun name => name ≠ "root" ∧ name ≠ "0" with
      | some name => refused c w 1 (named name ++ ": no such user")
      | none =>
        if 1 < (chosen.map (·.1)).eraseDups.length then refused c w 1 "cannot print \"only\" of more than one choice"
        else if chosen = [] ∧ (a.has 'n' ∨ a.has 'r') then
          refused c w 1 "cannot print only names or real IDs in default format"
        else if chosen = [] ∧ a.has 'z' then refused c w 1 "option --zero not permitted in default format"
        else
          let line := if chosen = [] then "uid=0(root) gid=0(root) groups=0(root)"
            else if a.has 'n' then "root" else "0"
          { world := w, output := octets (line ++ if a.has 'z' then "\x00" else "\n") }

def groups : Work :=
  reading { letters := "" } 1 fun c w a =>
    if a.operands = [] then { world := w, output := octets "root\n" }
    else inTurn w (a.operands.map fun name => fun w =>
      if name = "root" then { world := w, output := octets "root : root\n" }
      else refused c w 1 (named name ++ ": no such user"))

/-- Writes where programs are found. -/
def which : Work :=
  reading { letters := "as" } 2 fun c w a =>
    let found := a.operands.map fun name =>
      let paths := (if Program.isPath name then [name] else
        (Program.directories ((c.env.get? "PATH").getD "")).map (Program.inDirectory · name)).filter
          (Program.isRunnable w.files c.cwd)
      if a.has 'a' then paths else paths.take 1
    { world := w
      output := if a.has 's' then [] else found.flatten.flatMap fun path => octets (path ++ "\n")
      status := if found = [] ∨ found.any (· = []) then 1 else 0 }

end SbtWorkspace.Simulation.Utility
