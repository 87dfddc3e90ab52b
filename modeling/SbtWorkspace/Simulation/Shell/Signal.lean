/-! Signals that end a program, by name and number. -/

namespace SbtWorkspace.Simulation.Signal

/-- The signals, and whether one ends a program that does not expect it. -/
def all : List (String × Nat × Bool) :=
  [("EXIT", 0, false), ("HUP", 1, true), ("INT", 2, true), ("QUIT", 3, true), ("ILL", 4, true),
    ("TRAP", 5, true), ("ABRT", 6, true), ("BUS", 7, true), ("FPE", 8, true), ("KILL", 9, true),
    ("USR1", 10, true), ("SEGV", 11, true), ("USR2", 12, true), ("PIPE", 13, true), ("ALRM", 14, true),
    ("TERM", 15, true), ("STKFLT", 16, true), ("CHLD", 17, false), ("CONT", 18, false),
    ("STOP", 19, false), ("TSTP", 20, false), ("TTIN", 21, false), ("TTOU", 22, false),
    ("URG", 23, false), ("XCPU", 24, true), ("XFSZ", 25, true), ("VTALRM", 26, true), ("PROF", 27, true),
    ("WINCH", 28, false), ("IO", 29, true), ("PWR", 30, true), ("SYS", 31, true)]

def ofWord? (word : String) : Option (String × Nat × Bool) :=
  let cs := word.toList
  let name := (if "SIG".toList.isPrefixOf cs then cs.drop 3 else cs).map Char.toUpper
  all.find? fun s => s.1.toList = name || (cs.all Char.isDigit && word.toNat? = some s.2.1)

def isFinal (number : Nat) : Bool := number = 9 || number = 19

/-- The names of the signals in their order, of which some have none. -/
def names : List (Option String) :=
  (List.range 65).map fun n =>
    if n = 0 then none
    else
      match all.find? fun s => s.2.1 = n with
      | some s => some s.1
      | none =>
        if n = 34 then some "RTMIN"
        else if n = 64 then some "RTMAX"
        else if 34 < n ∧ n ≤ 49 then some ("RTMIN+" ++ toString (n - 34))
        else if 49 < n then some ("RTMAX-" ++ toString (64 - n))
        else none

/-- The list of the signals as a plain shell writes it: a name or a number in each line. -/
def plainList : String :=
  let line (e : Option String × Nat) : String :=
    (if e.2 = 16 then "16" else e.1.getD (toString e.2)) ++ "\n"
  String.join (names.zipIdx.map line)

/-- The list of the signals as a rich shell writes it: five in each line with their numbers. -/
def richList : String :=
  let found := names.zipIdx.filterMap fun e => e.1.map fun n => (n, e.2)
  let shown (e : (String × Nat) × Nat) : String :=
    let gap := if e.1.2 < 10 then " " else ""
    gap ++ toString e.1.2 ++ ") SIG" ++ e.1.1 ++ (if e.2 % 5 = 4 then "\n" else "\t")
  String.join (found.zipIdx.map shown) ++ "\n"

end SbtWorkspace.Simulation.Signal
