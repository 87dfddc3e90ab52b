import SbtWorkspace.Simulation.Printing
import SbtWorkspace.Simulation.Regex.Reader
import SbtWorkspace.Simulation.Utility.Changes
import SbtWorkspace.Simulation.Utility.Pathname

/-! The program that goes through a tree of directories and does what an expression of tests and actions says for each
path. An expression without an action writes the paths for which it holds. -/

namespace SbtWorkspace.Simulation.Utility.Tree

inductive Comparison where
  | exactly (n : Nat)
  | more (n : Nat)
  | less (n : Nat)
  deriving DecidableEq, Repr

/-- Whether a number is one that is meant. -/
def Comparison.holds : Comparison → Nat → Bool
  | exactly n, m => m = n
  | more n, m => n < m
  | less n, m => m < n

inductive Target where
  | output
  | file (path : String)

inductive Primary where
  | yes (answer : Bool)
  | name (pattern : Pattern) (folds : Bool)
  | path (pattern : Pattern) (folds : Bool)
  | target (pattern : Pattern) (folds : Bool)
  | regex (r : Regex) (folds : Bool)
  | kind (letters : List Char) (follows : Bool)
  | size (c : Comparison) (unit : Nat)
  | age (c : Comparison) (unit : Nat)
  | newer (path : String)
  | links (c : Comparison)
  | mode (sign : Char) (bits : Nat)
  | empty
  | executable
  | same (path : String)
  | prune
  | quit
  | delete
  | print (target : Target) (ending : UInt8)
  | printForm (target : Target) (form : List Char)
  | run (asks inPlace : Bool) (words : List String)
  | runAll (inPlace : Bool) (number : Nat) (words : List String)

inductive Expression where
  | primary (p : Primary)
  | negation (e : Expression)
  | both (a b : Expression)
  | either (a b : Expression)
  | last (a b : Expression)

structure Settings where
  least : Nat := 0
  most : Nat := 1000
  depthFirst : Bool := false
  extended : Bool := false
  basic : Bool := false
  acts : Bool := false
  batches : Nat := 0

def comparison? (text : String) : Option (Comparison × List Char) :=
  let cs := text.toList
  let (sign, digits) : Option Char × List Char := match cs with
    | '+' :: rest => (some '+', rest)
    | '-' :: rest => (some '-', rest)
    | _ => (none, cs)
  let ds := digits.takeWhile Char.isDigit
  (natural? ds).map fun n =>
    (match sign with
      | some '+' => .more n
      | some _ => .less n
      | none => .exactly n, digits.drop ds.length)

def patternOf (folds : Bool) (text : String) : Pattern :=
  Pattern.ofText (if folds then (Octets.ofString text).map Char.toLower else Octets.ofString text)

/-- An expression in the form in which signs of counts have no back slash, in the basic form. -/
def plainForm : List Char → List Char
  | '\\' :: '+' :: rest => '+' :: plainForm rest
  | '\\' :: '?' :: rest => '?' :: plainForm rest
  | '\\' :: c :: rest => '\\' :: c :: plainForm rest
  | '+' :: rest => '\\' :: '+' :: plainForm rest
  | '?' :: rest => '\\' :: '?' :: plainForm rest
  | c :: rest => c :: plainForm rest
  | [] => []

def withoutArgument (word : String) : String := "missing argument to \x60" ++ word ++ "\x27"

/-- The words of a command up to its end, whether it is run for many paths at once, and the rest. -/
def commandWords : List String → Option (List String × Bool × List String)
  | [] => none
  | ";" :: rest => some ([], false, rest)
  | "\x7b\x7d" :: "+" :: rest => some ([], true, rest)
  | word :: rest => (commandWords rest).map fun r => (word :: r.1, r.2)

def kindsOf (word : String) (follows : Bool) (text : String) : Except String Primary :=
  let parts := List.splitOn ',' text.toList
  match parts.find? fun p => p.length ≠ 1 || !p.all "bcdpflsD".toList.contains with
  | some [] => .error ("Last file type in list argument to " ++ word ++ " is missing, i.e., list is ending on: ','")
  | some (_ :: _ :: _) =>
    .error ("Must separate multiple arguments to " ++ word ++ " using: ','")
  | some [c] => .error ("Unknown argument to " ++ word ++ ": " ++ String.ofList [c])
  | none => .ok (.kind parts.flatten follows)

def sizeOf (text : String) : Except String Primary :=
  let unit? (cs : List Char) : Option Nat := match cs with
    | [] | ['b'] => some 512
    | ['c'] => some 1
    | ['w'] => some 2
    | ['k'] => some 1024
    | ['M'] => some (1024 * 1024)
    | ['G'] => some (1024 * 1024 * 1024)
    | _ => none
  let last := "invalid -size type \x60" ++ String.ofList (text.toList.getLast?.toList) ++ "\x27"
  match comparison? text with
  | some (c, unit) =>
    match unit? unit with
    | some n => .ok (.size c n)
    | none => .error last
  | none =>
    if (text.toList.getLast?).any Char.isDigit ∨ (text.toList.getLast?).any "bcwkMG".toList.contains then
      .error ("Invalid argument \x60" ++ text ++ "\x27 to -size")
    else .error last

def expressionKinds : List String :=
  ["findutils-default", "ed", "emacs", "gnu-awk", "grep", "posix-awk", "awk", "posix-basic", "posix-egrep", "egrep",
    "posix-extended", "posix-minimal-basic", "sed"]

/-- Reads a test or an action at the beginning of some words, and gives the settings with it and the rest. -/
def readPrimary (s : Settings) : List String → Except String (Primary × Settings × List String)
  | [] => .error ""
  | word :: rest =>
    let alone (p : Primary) : Except String (Primary × Settings × List String) := .ok (p, s, rest)
    let act (p : Primary) (rest : List String) : Except String (Primary × Settings × List String) :=
      .ok (p, { s with acts := true }, rest)
    let withText (f : String → Except String Primary) : Except String (Primary × Settings × List String) :=
      match rest with
      | text :: rest => (f text).map fun p => (p, s, rest)
      | [] => .error (withoutArgument word)
    let compared (f : Comparison → Primary) : Except String (Primary × Settings × List String) :=
      withText fun text => match comparison? text with
        | some (c, []) => .ok (f c)
        | _ => .error ("invalid argument \x60" ++ text ++ "\x27 to \x60" ++ word ++ "\x27")
    let depth (f : Nat → Settings) : Except String (Primary × Settings × List String) :=
      match rest with
      | text :: rest =>
        match natural? text.toList with
        | some n => .ok (.yes true, f n, rest)
        | none =>
          .error ("Expected a positive decimal integer argument to " ++ word ++ ", but got " ++ named text)
      | [] => .error (withoutArgument word)
    match word with
    | "-true" | "-daystart" | "-follow" | "-mount" | "-xdev" | "-noleaf" | "-ignore_readdir_race"
    | "-noignore_readdir_race" | "-warn" | "-nowarn" | "-readable" | "-writable" => alone (.yes true)
    | "-false" | "-nouser" | "-nogroup" => alone (.yes false)
    | "-name" => withText fun t => .ok (.name (patternOf false t) false)
    | "-iname" => withText fun t => .ok (.name (patternOf true t) true)
    | "-path" | "-wholename" => withText fun t => .ok (.path (patternOf false t) false)
    | "-ipath" | "-iwholename" => withText fun t => .ok (.path (patternOf true t) true)
    | "-lname" => withText fun t => .ok (.target (patternOf false t) false)
    | "-ilname" => withText fun t => .ok (.target (patternOf true t) true)
    | "-regex" | "-iregex" => withText fun t =>
      let (form, cs) := if s.extended then (Regex.Form.extended, Octets.ofString t)
        else if s.basic then (.basic, Octets.ofString t)
        else (.basic, plainForm (Octets.ofString t))
      match Regex.read? form cs with
      | some r => .ok (.regex r (word = "-iregex"))
      | none => .error ("failed to compile regular expression " ++ named t ++ ": " ++ Regex.fault form cs)
    | "-regextype" =>
      match rest with
      | kind :: rest =>
        if ["posix-extended", "egrep", "posix-egrep", "awk", "posix-awk", "gnu-awk"].contains kind then
          .ok (.yes true, { s with extended := true, basic := false }, rest)
        else if ["posix-basic", "grep", "sed", "ed", "posix-minimal-basic"].contains kind then
          .ok (.yes true, { s with extended := false, basic := true }, rest)
        else if ["emacs", "findutils-default"].contains kind then
          .ok (.yes true, { s with extended := false, basic := false }, rest)
        else
          .error ("Unknown regular expression type " ++ named kind ++ "; valid types are " ++
            ", ".intercalate (expressionKinds.map named) ++ ".")
      | [] => .error (withoutArgument word)
    | "-type" => withText (kindsOf word false)
    | "-xtype" => withText (kindsOf word true)
    | "-size" => withText sizeOf
    | "-mtime" | "-atime" | "-ctime" => compared (.age · 86400)
    | "-mmin" | "-amin" | "-cmin" => compared (.age · 60)
    | "-used" | "-inum" => compared fun _ => .yes false
    | "-uid" | "-gid" => compared fun c => .yes (c.holds 0)
    | "-links" => compared .links
    | "-user" | "-group" => withText fun t =>
      if t = "root" ∨ t = "0" then .ok (.yes true)
      else if (natural? t.toList).isSome then .ok (.yes false)
      else
        .error (named t ++ " is not the name of a" ++ (if word = "-user" then " known user" else "n existing group"))
    | "-fstype" => withText fun _ => .ok (.yes true)
    | "-newer" | "-anewer" | "-cnewer" => withText fun t => .ok (.newer t)
    | "-samefile" => withText fun t => .ok (.same t)
    | "-perm" => withText fun t =>
      let (sign, mode) : Char × List Char := match t.toList with
        | '-' :: mode => ('-', mode)
        | '/' :: mode => ('/', mode)
        | mode => ('=', mode)
      match Permission.change? (String.ofList mode) false 0 with
      | some bits => .ok (.mode sign bits)
      | none => .error ("invalid mode " ++ named t)
    | "-empty" => alone .empty
    | "-executable" => alone .executable
    | "-prune" => alone .prune
    | "-quit" => alone .quit
    | "-depth" | "-d" => .ok (.yes true, { s with depthFirst := true }, rest)
    | "-maxdepth" => depth fun n => { s with most := n }
    | "-mindepth" => depth fun n => { s with least := n }
    | "-delete" => .ok (.delete, { s with acts := true, depthFirst := true }, rest)
    | "-print" => act (.print .output 0x0a) rest
    | "-print0" => act (.print .output 0) rest
    | "-ls" => act (.printForm .output "%9i %6k %M %3n %-8u %-8g %8s %Tb %Te %TH:%TM %p\\n".toList) rest
    | "-printf" =>
      match rest with
      | form :: rest => act (.printForm .output form.toList) rest
      | [] => .error (withoutArgument word)
    | "-fprint" | "-fprint0" =>
      match rest with
      | file :: rest => act (.print (.file file) (if word = "-fprint0" then 0 else 0x0a)) rest
      | [] => .error (withoutArgument word)
    | "-fprintf" =>
      match rest with
      | file :: form :: rest => act (.printForm (.file file) form.toList) rest
      | _ => .error (withoutArgument word)
    | "-exec" | "-execdir" | "-ok" | "-okdir" =>
      let inPlace := word = "-execdir" || word = "-okdir"
      let asks := word = "-ok" || word = "-okdir"
      match commandWords rest with
      | none => .error (withoutArgument word)
      | some (words, many, rest) =>
        if words = [] ∧ !many then .error (withoutArgument word)
        else if many ∧ asks then .error (withoutArgument word)
        else if !many then act (.run asks inPlace words) rest
        else if words.contains "\x7b\x7d" then
          .error ("Only one instance of \x7b\x7d is supported with " ++ word ++ " ... +")
        else .ok (.runAll inPlace s.batches words, { s with acts := true, batches := s.batches + 1 }, rest)
    | _ =>
      if word.toList.head? = some '-' then .error ("unknown predicate \x60" ++ word ++ "\x27")
      else .error ("paths must precede expression: \x60" ++ word ++ "\x27")

/-- How tightly parts of an expression are bound. -/
inductive Level where
  | list
  | disjunction
  | conjunction
  | single

def withoutLeft (word : String) : String :=
  "invalid expression; you have used a binary operator " ++ named word ++ " with nothing before it."

def withoutRight (word : String) : String := "expected an expression after " ++ named word

/-- Reads the expression at the beginning of some words, after a word, and gives the settings with it and the rest. -/
def parse : (fuel : Nat) → Level → (before : String) → Settings → List String →
    Except String (Expression × Settings × List String)
  | 0, _, _, _, _ => .error ""
  | fuel + 1, .list, before, s, words => do
    let (a, s, rest) ← parse fuel .disjunction before s words
    match rest with
    | "," :: rest => do
      let (b, s, rest) ← parse fuel .list "," s rest
      pure (.last a b, s, rest)
    | _ => pure (a, s, rest)
  | fuel + 1, .disjunction, before, s, words => do
    let (a, s, rest) ← parse fuel .conjunction before s words
    match rest with
    | "-o" :: more | "-or" :: more => do
      let (b, s, rest) ← parse fuel .disjunction (rest.headD "") s more
      pure (.either a b, s, rest)
    | _ => pure (a, s, rest)
  | fuel + 1, .conjunction, before, s, words => do
    let (a, s, rest) ← parse fuel .single before s words
    let next := match rest with
      | "-a" :: more | "-and" :: more => some (rest.headD "", more)
      | [] | "," :: _ | "-o" :: _ | "-or" :: _ | ")" :: _ => none
      | more => some ("", more)
    match next with
    | some (operator, more) => do
      let (b, s, rest) ← parse fuel .conjunction operator s more
      pure (.both a b, s, rest)
    | none => pure (a, s, rest)
  | fuel + 1, .single, before, s, words =>
    match words with
    | [] => .error (withoutRight before)
    | "!" :: rest | "-not" :: rest => do
      let (e, s, rest) ← parse fuel .single (words.headD "") s rest
      pure (.negation e, s, rest)
    | ["("] =>
      .error
        "invalid expression; expected to find a ')' but didn't see one. Perhaps you need an extra predicate after '('"
    | "(" :: ")" :: _ => .error "invalid expression; empty parentheses are not allowed."
    | "(" :: rest => do
      match ← parse fuel .list "(" s rest with
      | (e, s, ")" :: rest) => pure (e, s, rest)
      | _ => throw "invalid expression; I was expecting to find a ')' somewhere but did not see one."
    | ")" :: _ => .error "invalid expression; you have too many ')'"
    | "-a" :: _ | "-and" :: _ | "-o" :: _ | "-or" :: _ | "," :: _ => .error (withoutLeft (words.headD ""))
    | words => do
      let (p, s, rest) ← readPrimary s words
      pure (.primary p, s, rest)

/-- A path that is being visited: how it is written, where it leads, what stands there, where it started, and how
deep it is. -/
structure Visit where
  path : String
  loc : Location
  node : Node
  start : String
  depth : Nat

/-- The state of a walk: the world, the status, the paths that are kept for commands, and what the walk is told. -/
structure Walk where
  world : World
  status : Nat := 0
  batches : List (Nat × String × List String) := []
  isPruned : Bool := false
  isDone : Bool := false
  opened : List (String × Sink) := []

/-- Writes to the output or to a file. -/
def Walk.emit (k : Walk) (c : Call) (target : Target) (bytes : Bytes) : Walk :=
  match target with
  | .output => { k with world := k.world.emit bytes ((c.sink? 1).getD .lost) }
  | .file path =>
    match k.opened.find? fun o => o.1 = path with
    | some (_, sink) => { k with world := k.world.emit bytes sink }
    | none => k

def typeLetter (node : Node) : Char :=
  match node with
  | .file _ _ | .sealed => 'f'
  | _ => kindLetter node

def belowStart (v : Visit) : String :=
  let cs := v.path.toList.drop v.start.length
  String.ofList (if cs.head? = some '/' then cs.tail else cs)

def above (path : String) : String :=
  let cs := path.toList
  if cs.contains '/' then String.ofList ((cs.reverse.dropWhile (· ≠ '/')).drop 1).reverse else "."

/-- When what is visited was changed. -/
def Visit.time (v : Visit) (w : World) : Int := (w.stamp? v.loc).getD w.clock

/-- The age of what is visited, in units of seconds, of which only whole ones count. -/
def Visit.age (v : Visit) (w : World) (unit : Nat) : Nat :=
  ((w.clock - v.time w) / (unit * Clock.second)).toNat

def timeText (t : Int) (letter : Char) : String :=
  let form := match letter with
    | '@' => "%s.%N0"
    | 'S' => "%S.%N0"
    | 'T' => "%T.%N0"
    | '+' => "%F+%T.%N0"
    | c => String.ofList ['%', c]
  String.ofList (Clock.render t 100 form.toList)

/-- A form with the facts about a path put in, and whether nothing may follow. -/
def formText (w : World) (v : Visit) : (fuel : Nat) → List Char → Bytes
  | 0, _ | _, [] => []
  | fuel + 1, '\\' :: c :: rest =>
    let go (bytes : Bytes) (rest : List Char) : Bytes := bytes ++ formText w v fuel rest
    match c with
    | 'a' => go [7] rest
    | 'b' => go [8] rest
    | 'c' => []
    | 'f' => go [12] rest
    | 'n' => go [10] rest
    | 'r' => go [13] rest
    | 't' => go [9] rest
    | 'v' => go [11] rest
    | '\\' => go [92] rest
    | c =>
      if Printing.isOctal c then
        let ds := ((c :: rest).take 3).takeWhile Printing.isOctal
        go [UInt8.ofNat (Printing.octal ds)] ((c :: rest).drop ds.length)
      else go (octets (String.ofList ['\\', c])) rest
  | fuel + 1, '%' :: rest =>
    let flags := rest.takeWhile fun c => c = '-' || c = '0' || c = ' ' || c = '+' || c = '#'
    let after := rest.drop flags.length
    let digits := after.takeWhile Char.isDigit
    let after := after.drop digits.length
    let (precision, after) : Option Nat × List Char := match after with
      | '.' :: more =>
        let ds := more.takeWhile Char.isDigit
        (some ((natural? ds).getD 0), more.drop ds.length)
      | _ => (none, after)
    let width := (natural? digits).getD 0
    let shown (s : String) (rest : List Char) : Bytes :=
      let cs := match precision with
        | some n => s.toList.take n
        | none => s.toList
      let gap := List.replicate (width - cs.length) ' '
      octets (String.ofList (if flags.contains '-' then cs ++ gap else gap ++ cs)) ++ formText w v fuel rest
    match after with
    | [] => octets "%"
    | '%' :: rest => octets "%" ++ formText w v fuel rest
    | c :: rest =>
      match c with
      | 'p' => shown v.path rest
      | 'f' => shown (if v.depth = 0 ∧ v.path.toList.all (· = '/') then v.path else FileChange.baseName v.path) rest
      | 'h' => shown (above v.path) rest
      | 'P' => shown (belowStart v) rest
      | 'H' => shown v.start rest
      | 'd' => shown (toString v.depth) rest
      | 's' => shown (toString (nodeSize v.node)) rest
      | 'k' => shown (toString (nodeBlocks v.node)) rest
      | 'b' => shown (toString (nodeBlocks v.node * 2)) rest
      | 'y' | 'Y' => shown (String.ofList [typeLetter v.node]) rest
      | 'l' => shown (match v.node with
        | .link target => target
        | _ => "") rest
      | 'm' => shown (Permission.digits 1 (w.permissions v.loc v.node)) rest
      | 'M' => shown (nodeLetters w v.loc v.node) rest
      | 'n' => shown (toString (nodeLinks w.files v.loc v.node)) rest
      | 'u' | 'g' => shown "root" rest
      | 'i' => shown (toString (nodeNumber w.files v.loc)) rest
      | 'U' | 'G' | 'D' => shown "0" rest
      | 'T' | 'A' | 'C' => shown (timeText (v.time w) (rest.headD '@')) (rest.drop 1)
      | 't' | 'a' | 'c' =>
        shown (String.ofList (Clock.render (v.time w) 100 "%a %b %e %H:%M:%S.%N0 %Y".toList)) rest
      | c => octets (String.ofList ['%', c]) ++ formText w v fuel rest
  | fuel + 1, c :: rest => octets (String.ofList [c]) ++ formText w v fuel rest

def filled (path : String) : List Char → List Char
  | '\x7b' :: '\x7d' :: rest => path.toList ++ filled path rest
  | c :: rest => c :: filled path rest
  | [] => []

def commandPlace (c : Call) (v : Visit) (inPlace : Bool) : Call × String :=
  if inPlace then
    let parent : Location := match v.loc with
      | _ :: parent => parent
      | [] => []
    ({ c with cwd := if v.depth = 0 ∧ v.node = .directory ∧ FileChange.baseName v.path = "." then c.cwd else parent },
      if v.path = "." then "." else "./" ++ FileChange.baseName v.path)
  else (c, v.path)

/-- The node of a path where links are followed, if they lead somewhere. -/
def followed (fs : FileSystem) (c : Call) (v : Visit) : Node :=
  match fs.status c.cwd (.ofString v.path) with
  | .ok (_, node) => node
  | .error _ => v.node

def primaryAnswer (launch : Launching) (c : Call) (v : Visit) (k : Walk) : Primary → Bool × Walk
  | .yes answer => (answer, k)
  | .name pattern folds =>
    let name := Octets.ofString (FileChange.baseName v.path)
    (pattern.isMatch (if folds then name.map Char.toLower else name), k)
  | .path pattern folds =>
    let path := Octets.ofString v.path
    (pattern.isMatch (if folds then path.map Char.toLower else path), k)
  | .target pattern folds =>
    match v.node with
    | .link target =>
      let cs := Octets.ofString target
      (pattern.isMatch (if folds then cs.map Char.toLower else cs), k)
    | _ => (false, k)
  | .regex r folds =>
    let text := (Octets.ofString v.path).toArray
    ((r.ends { text, folds } r.hasAgain (0, [])).any fun e => e.1 = text.size, k)
  | .kind letters follows => (letters.contains (typeLetter (if follows then followed k.world.files c v else v.node)), k)
  | .size comparison unit => (comparison.holds ((nodeSize v.node + unit - 1) / unit), k)
  | .age comparison unit => (comparison.holds (v.age k.world unit), k)
  | .newer path =>
    (match k.world.files.status c.cwd (.ofString path) with
      | .ok (loc, _) => (k.world.stamp? loc).getD k.world.clock < v.time k.world
      | .error _ => false, k)
  | .links comparison => (comparison.holds (nodeLinks k.world.files v.loc v.node), k)
  | .mode sign bits =>
    let mode := k.world.permissions v.loc v.node
    (match sign with
      | '-' => mode &&& bits = bits
      | '/' => bits = 0 || mode &&& bits ≠ 0
      | _ => mode = bits, k)
  | .empty =>
    (match v.node with
      | .file bytes _ => bytes.isEmpty
      | .directory => (k.world.files.names v.loc).isEmpty
      | _ => false, k)
  | .executable =>
    (match followed k.world.files c v with
      | .file _ executable => executable
      | .directory => true
      | _ => false, k)
  | .same path =>
    (match k.world.files.status c.cwd (.ofString path) with
      | .ok (loc, _) => loc = v.loc
      | .error _ => false, k)
  | .prune => (true, { k with isPruned := true })
  | .quit => (true, { k with isDone := true })
  | .delete =>
    if FileChange.baseName v.path = "." then (true, k)
    else
      let path := FileChange.withoutSlashes v.path
      let change := if v.node = .directory then FileChange.removeDirectory c.cwd path
        else FileChange.remove c.cwd false false false path
      match change k.world.files with
      | some files => (true, { k with world := { k.world with files } })
      | none =>
        let reason := if v.node = .directory then "Directory not empty" else "No such file or directory"
        let world := Call.complain c k.world ("cannot delete " ++ named v.path ++ ": " ++ reason)
        (false, { k with world, status := 1 })
  | .print target ending => (true, k.emit c target (octets v.path ++ [ending]))
  | .printForm target form => (true, k.emit c target (formText k.world v (form.length + 1) form))
  | .run asks inPlace words =>
    let (place, path) := commandPlace c v inPlace
    let (world, agreed) := if asks then agrees k.world else (k.world, true)
    if !agreed then (false, { k with world })
    else
      let args := words.map fun w => String.ofList (filled path w.toList)
      match launch place world args with
      | .ok (world, ending) => (ending.status = 0, { k with world })
      | .error fault =>
        (false, { k with world := Call.complain c world (named (args.headD "") ++ ": " ++ fault.wording) })
  | .runAll inPlace number _ =>
    let (_, path) := commandPlace c v inPlace
    (true, { k with batches := k.batches ++ [(number, if inPlace then above v.path else "", [path])] })

/-- The answer of an expression for a path. -/
def Expression.answer (launch : Launching) (c : Call) (v : Visit) : Expression → Walk → Bool × Walk
  | .primary p, k => if k.isDone then (false, k) else primaryAnswer launch c v k p
  | .negation e, k => let (b, k) := e.answer launch c v k; (!b, k)
  | .both a b, k =>
    let (first, k) := a.answer launch c v k
    if first then b.answer launch c v k else (false, k)
  | .either a b, k =>
    let (first, k) := a.answer launch c v k
    if first then (true, k) else b.answer launch c v k
  | .last a b, k =>
    let (_, k) := a.answer launch c v k
    b.answer launch c v k

/-- The commands of an expression that are run for many paths at once, by their numbers. -/
def Expression.batchCommands : Expression → List (Nat × Bool × List String)
  | .primary (.runAll inPlace number words) => [(number, inPlace, words)]
  | .primary _ => []
  | .negation e => e.batchCommands
  | .both a b | .either a b | .last a b => a.batchCommands ++ b.batchCommands

/-- The files that an expression writes to. -/
def Expression.files : Expression → List String
  | .primary (.print (.file path) _) | .primary (.printForm (.file path) _) => [path]
  | .primary _ => []
  | .negation e => e.files
  | .both a b | .either a b | .last a b => a.files ++ b.files

def Expression.references : Expression → List String
  | .primary (.newer path) | .primary (.same path) => [path]
  | .primary _ => []
  | .negation e => e.references
  | .both a b | .either a b | .last a b => a.references ++ b.references

/-- Which links are followed: those that are given, or all. -/
structure Following where
  given : Bool := false
  all : Bool := false

def visit? (fs : FileSystem) (c : Call) (follows : Bool) (path start : String) (depth : Nat) : Option Visit :=
  let kept := standing? fs c.cwd path
  match if follows then (fs.status c.cwd (.ofString path)).toOption else none, kept with
  | some (loc, node), _ => some ⟨path, loc, node, start, depth⟩
  | none, some (loc, node) => some ⟨path, loc, node, start, depth⟩
  | none, none => none

/-- Visits a path and what stands below it. -/
def walk (launch : Launching) (c : Call) (s : Settings) (f : Following) (e : Expression) :
    (fuel : Nat) → Visit → Walk → Walk
  | 0, _, k => k
  | fuel + 1, v, k =>
    let evaluate (k : Walk) : Walk :=
      if k.isDone ∨ v.depth < s.least then k else (e.answer launch c v k).2
    let descend (k : Walk) : Walk :=
      if k.isDone ∨ v.node ≠ .directory ∨ s.most ≤ v.depth then k
      else
        (k.world.files.names v.loc).foldl
          (fun (k : Walk) name =>
            if k.isDone then k
            else
              match visit? k.world.files c f.all (FileChange.inside v.path name) v.start (v.depth + 1) with
              | some below => walk launch c s f e fuel below k
              | none =>
                let path := FileChange.inside v.path name
                { k with
                  world := Call.complain c k.world (named path ++ ": No such file or directory"), status := 1 }) k
    if s.depthFirst then evaluate (descend k)
    else
      let k := evaluate { k with isPruned := false }
      if k.isPruned then { k with isPruned := false } else descend k

/-- Runs the commands for the paths that were kept for them. -/
def runBatches (launch : Launching) (c : Call) (commands : List (Nat × Bool × List String)) (k : Walk) : Walk :=
  commands.foldl
    (fun (k : Walk) (number, _, words) =>
      let own := k.batches.filter fun b => b.1 = number
      let places := (own.map fun b => b.2.1).eraseDups
      places.foldl
        (fun (k : Walk) place =>
          let paths := (own.filter fun b => b.2.1 = place).flatMap fun b => b.2.2
          let cwd := if place = "" then c.cwd
            else match k.world.files.status c.cwd (.ofString place) with
              | .ok (loc, _) => loc
              | .error _ => c.cwd
          match launch { c with cwd } k.world (words ++ paths) with
          | .ok (world, ending) => { k with world, status := if ending.status = 0 then k.status else 1 }
          | .error fault =>
            let name := (words ++ paths).headD ""
            { k with world := Call.complain c k.world (named name ++ ": " ++ fault.wording), status := 1 }) k) k

def leading (f : Following) : List String → Following × List String
  | "-P" :: rest => leading {} rest
  | "-L" :: rest => leading { given := true, all := true } rest
  | "-H" :: rest => leading { given := true } rest
  | "-O0" :: rest | "-O1" :: rest | "-O2" :: rest | "-O3" :: rest => leading f rest
  | "-D" :: _ :: rest => leading f rest
  | "--" :: rest => (f, rest)
  | rest => (f, rest)

end SbtWorkspace.Simulation.Utility.Tree

namespace SbtWorkspace.Simulation.Utility

open SbtWorkspace.Simulation.Utility.Tree

def beginsExpression (word : String) : Bool :=
  word = "!" || word = "(" || (word.toList.head? = some '-' && 1 < word.length)

def readExpression (words : List String) : Except String (Expression × Settings) := do
  let faulty (s : Settings) (word : String) : String :=
    match readPrimary s [word] with
    | .error text => text
    | .ok _ => ""
  match ← parse (4 * words.length + 4) .list "" {} words with
  | (e, s, []) => pure (e, s)
  | (_, _, ")" :: _) => throw "you have too many ')'"
  | (_, s, rest) => throw (faulty s (rest.headD ""))

/-- What is told besides of a word that is no test: the test before it, if there is a file of that name. -/
def remark? (fs : FileSystem) (cwd : Location) (words : List String) (reason : String) : Option String :=
  let start := "paths must precede expression: \x60"
  let word := String.ofList ((reason.toList.drop start.length).dropLast)
  let before := words.takeWhile (· ≠ word)
  match start.toList.isPrefixOf reason.toList, standingAt fs cwd true word, before.reverse.find? beginsExpression with
  | false, _, _ | true, .nothing _, _ | true, _, none => none
  | true, _, some test => some ("possible unquoted pattern after predicate \x60" ++ test ++ "\x27?")

/-- Goes through trees of directories. -/
def find (launch : Launching) : Work := fun c w args =>
  let (follows, rest) := leading {} args
  let starts := rest.takeWhile fun a => !beginsExpression a
  let words := rest.drop starts.length
  let read : Except String (Option Expression × Settings) :=
    if words = [] then .ok (none, {}) else (readExpression words).map fun r => (some r.1, r.2)
  if args = ["--help"] ∨ args = ["--version"] ∨ args = ["-help"] ∨ args = ["-version"] then { world := w }
  else
    match read with
    | .error reason =>
      let texts := reason :: (remark? w.files c.cwd words reason).toList
      { world := w, complaints := texts.map (Call.complaint c), status := 1 }
    | .ok (given, s) =>
      let print : Expression := .primary (.print .output 0x0a)
      let e := match given with
        | none => print
        | some e => if s.acts then e else .both e print
      let references := e.references.filterMap fun path => match standingAt w.files c.cwd true path with
        | .nothing fault => some (path, fault)
        | _ => none
      let opened : Except (String × Fault) (World × List (String × Sink)) := e.files.eraseDups.foldlM
        (fun (done : World × List (String × Sink)) path =>
          match done.1.openFile c path true with
          | .ok (w, sink) => .ok (w, done.2 ++ [(path, sink)])
          | .error fault => .error (path, fault)) (w, [])
      match references, opened with
      | (path, fault) :: _, _ | [], .error (path, fault) => refused c w 1 (named path ++ ": " ++ fault.wording)
      | [], .ok (w, opened) =>
        let k := (if starts = [] then ["."] else starts).foldl
          (fun (k : Walk) start =>
            if k.isDone then k
            else
              match visit? k.world.files c (follows.given || follows.all) start start 0 with
              | some v => walk launch c s follows e 200 v k
              | none =>
                let fault := match standingAt k.world.files c.cwd false start with
                  | .nothing fault => fault
                  | _ => .noEntry
                { k with world := Call.complain c k.world (named start ++ ": " ++ fault.wording), status := 1 })
          { world := w, opened : Walk }
        let k := runBatches launch c e.batchCommands k
        { world := k.world, status := k.status }

end SbtWorkspace.Simulation.Utility
