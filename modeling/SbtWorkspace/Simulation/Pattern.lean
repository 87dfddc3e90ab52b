import SbtWorkspace.FileSystem.Calls
import SbtWorkspace.Text.Octet

/-! Patterns of a shell. A star stands for any text, a question mark for any character, and a list in
brackets for one of its characters; all of them stand for themselves where they are quoted. A pattern that
is a path stands for the paths that match it name by name. Main statement: a pattern of characters matches
their text alone (`isMatch_map_char`). -/

namespace SbtWorkspace.Simulation

inductive PatternPart where
  | char (c : Char)
  | any
  | star
  | oneOf (negated : Bool) (ranges : List (Char × Char))
  deriving DecidableEq

abbrev Pattern := List PatternPart

/-- A character, and whether it is quoted. -/
abbrev Mark := Char × Bool

namespace PatternPart

/-- Whether a part stands for a character. -/
def accepts : PatternPart → Char → Bool
  | char d, c => c = d
  | any, _ | star, _ => true
  | oneOf negated ranges, c => (ranges.any fun r => r.1 ≤ c && c ≤ r.2) != negated

end PatternPart

/-- The ends of a text, from the whole of it to the empty one. -/
def ends : List α → List (List α)
  | [] => [[]]
  | a :: rest => (a :: rest) :: ends rest

theorem mem_ends {s t : List α} : t ∈ ends s ↔ t <:+ s := by
  induction s with
  | nil => simp [ends]
  | cons a s ih => simp [ends, ih, List.suffix_cons_iff]

namespace Pattern

def isMatch : Pattern → List Char → Bool
  | [], cs => cs.isEmpty
  | .star :: rest, cs => (ends cs).any (isMatch rest)
  | part :: rest, c :: cs => part.accepts c && isMatch rest cs
  | _ :: _, [] => false

theorem isMatch_map_char (s cs : List Char) : isMatch (s.map .char) cs = true ↔ cs = s := by
  induction s generalizing cs with
  | nil => simp [isMatch]
  | cons c s ih =>
    cases cs with
    | nil => simp [isMatch]
    | cons d cs => simp [isMatch, PatternPart.accepts, ih]

theorem isMatch_star (rest : Pattern) (cs : List Char) :
    isMatch (.star :: rest) cs = true ↔ ∃ t, t <:+ cs ∧ isMatch rest t = true := by
  simp [isMatch, mem_ends]

def classes : List (String × List (Char × Char)) :=
  [("alpha", [('a', 'z'), ('A', 'Z')]), ("digit", [('0', '9')]),
    ("alnum", [('a', 'z'), ('A', 'Z'), ('0', '9')]), ("lower", [('a', 'z')]), ("upper", [('A', 'Z')]),
    ("space", [(' ', ' '), ('\t', '\r')]), ("blank", [(' ', ' '), ('\t', '\t')]),
    ("xdigit", [('a', 'f'), ('A', 'F'), ('0', '9')]), ("punct", [('!', '/'), (':', '@'), ('[', '\x60'),
      ('\x7b', '~')]), ("print", [(' ', '~')]), ("graph", [('!', '~')]), ("cntrl", [('\x00', '\x1f')])]

def namedClass? (ms : List Mark) : Option (List (Char × Char) × List Mark) :=
  match ms with
  | ('[', _) :: (':', _) :: rest =>
    let name := (rest.map (·.1)).takeWhile (· ≠ ':')
    match rest.drop name.length with
    | (':', _) :: (']', _) :: rest =>
      (classes.find? fun c => c.1.toList = name).map fun c => (c.2, rest)
    | _ => none
  | _ => none

/-- The ranges of a list in brackets up to the bracket that closes it, and the rest. -/
def ranges (isFirst : Bool) : (fuel : Nat) → List Mark → Option (List (Char × Char) × List Mark)
  | 0, _ => none
  | fuel + 1, ms =>
    match namedClass? ms with
    | some (found, rest) => (ranges false fuel rest).map fun r => (found ++ r.1, r.2)
    | none =>
      match ms with
      | [] => none
      | (c, quoted) :: rest =>
        if c = ']' ∧ !quoted ∧ !isFirst then some ([], rest)
        else
          match rest with
          | ('-', false) :: (d, q) :: below =>
            if d = ']' ∧ !q then (ranges false fuel rest).map fun r => ((c, c) :: r.1, r.2)
            else (ranges false fuel below).map fun r => ((c, d) :: r.1, r.2)
          | _ => (ranges false fuel rest).map fun r => ((c, c) :: r.1, r.2)

def ofMarks : (fuel : Nat) → List Mark → Pattern
  | 0, _ => []
  | _, [] => []
  | fuel + 1, (c, quoted) :: rest =>
    if quoted then .char c :: ofMarks fuel rest
    else if c = '*' then .star :: ofMarks fuel rest
    else if c = '?' then .any :: ofMarks fuel rest
    else if c = '[' then
      let negated := rest.head?.any fun m => m = ('!', false) || m = ('^', false)
      match ranges true (rest.length + 1) (if negated then rest.drop 1 else rest) with
      | some (found, rest) => .oneOf negated found :: ofMarks fuel rest
      | none => .char c :: ofMarks fuel rest
    else .char c :: ofMarks fuel rest

/-- The pattern that is written with some marks. -/
def read (ms : List Mark) : Pattern := ofMarks (ms.length + 1) ms

def ofOctets (ms : List Mark) : Pattern :=
  read (ms.flatMap fun m => (Octets.ofString (String.ofList [m.1])).map (·, m.2))

/-- The pattern that is written with some characters, in which a back slash quotes the next one. -/
def ofText (cs : List Char) : Pattern :=
  let rec marks : List Char → List Mark
    | '\\' :: c :: rest => (c, true) :: marks rest
    | c :: rest => (c, false) :: marks rest
    | [] => []
  read (marks cs)

/-- Whether a pattern stands for nothing but its own characters. -/
def isPlain (p : Pattern) : Bool := p.all fun
  | .char _ => true
  | _ => false

/-- How patterns stand for paths: whether a point at the beginning of a name need not be written, whether a directory
and the one above it have names in it, whether two stars stand for directories as deep as there are any, and whether
small and great letters are the same. -/
structure Globbing where
  dots : Bool := false
  hasSelf : Bool := true
  deep : Bool := false
  folds : Bool := false

/-- Whether a pattern stands for a file name. A point at the beginning has to be written. -/
def isNameMatch (g : Globbing) (p : Pattern) (name : String) : Bool :=
  let cs := if g.folds then (Octets.ofString name).map Char.toLower else Octets.ofString name
  p.isMatch cs && (cs.head? ≠ some '.' || p.head? = some (.char '.') || g.dots)

end Pattern

def unmarked (ms : List Mark) : String := String.ofList (ms.map (·.1))

def pathsBelow (fs : FileSystem) (g : Pattern.Globbing) : (depth : Nat) → Location → String → List (String × Bool)
  | 0, _, _ => []
  | depth + 1, loc, path =>
    let names := (fs.names loc).filter fun n => g.dots || n.toList.head? ≠ some '.'
    names.flatMap fun name =>
      let here := path ++ name
      match fs.lookup (name :: loc) with
      | some .directory => (here, true) :: pathsBelow fs g depth (name :: loc) (here ++ "/")
      | some (.link _) =>
        [(here, match fs.status loc (.ofString name) with
          | .ok (_, .directory) => true
          | _ => false)]
      | _ => [(here, false)]

def maxPathDepth : Nat := 100

def matchingPaths (fs : FileSystem) (cwd : Location) (g : Pattern.Globbing) (begun : List String) :
    List (List Mark) → List String
  | [] => begun
  | ms :: rest =>
    let slash := if rest = [] then "" else "/"
    let pattern := Pattern.ofOctets (if g.folds then ms.map fun m => (m.1.toLower, m.2) else ms)
    let own := if g.hasSelf then [".", ".."] else []
    let next :=
      if pattern.isPlain then begun.map (· ++ unmarked ms ++ slash)
      else begun.flatMap fun path =>
        match fs.status cwd (.ofString (if path = "" then "." else path)) with
        | .ok (loc, .directory) =>
          if g.deep ∧ ms = [('*', false), ('*', false)] then
            let below := pathsBelow fs g maxPathDepth loc path
            path :: (if rest = [] then below.map (·.1) else (below.filter (·.2)).map (·.1 ++ "/"))
          else ((own ++ fs.names loc).filter (pattern.isNameMatch g)).map (path ++ · ++ slash)
        | _ => []
    matchingPaths fs cwd g next rest

/-- The paths that a field stands for, in order; the text of the field if there are none. -/
def expandPath (fs : FileSystem) (cwd : Location) (g : Pattern.Globbing) (ms : List Mark) : List String :=
  if (Pattern.read ms).isPlain then [unmarked ms]
  else
    let names := List.splitOn '/' (ms.map (·.1))
    let parts := names.foldl
      (fun (done : List (List Mark) × List Mark) name =>
        (done.1 ++ [done.2.take name.length], done.2.drop (name.length + 1))) ([], ms)
    let found := (matchingPaths fs cwd g [""] parts.1).filter fun path =>
      path ≠ "" && (fs.resolve cwd .kept (.ofString path)).toOption.any fun
        | .found _ _ => true
        | .missing _ _ => false
    if found = [] then [unmarked ms] else found.eraseDups.mergeSort (· ≤ ·)

end SbtWorkspace.Simulation
