import SbtWorkspace.Simulation.Pattern
import SbtWorkspace.Simulation.Utility.Clock
import SbtWorkspace.Simulation.Utility.Pathname
import SbtWorkspace.Total

/-! The program that lists files and directories: their names alone, in columns, or each in a line with what is known
of it. -/

namespace SbtWorkspace.Simulation.Utility.Listing

/-- Something that is listed: its name, where it stands, and what stands there. -/
structure Item where
  name : String
  loc : Location
  node : Node

structure Form where
  arguments : Arguments
  world : World
  cwd : Location
  width : Nat

namespace Form

/-- Whether an option is given. -/
def has (f : Form) (letter : Char) : Bool := f.arguments.has letter

def isLong (f : Form) : Bool :=
  (f.arguments.last? "lngo1CxmZ").any "lngo".toList.contains || f.has '\x03'

/-- When an item was changed. -/
def time (f : Form) (i : Item) : Int := (f.world.stamp? i.loc).getD f.world.clock

def human (base n : Nat) : String :=
  let units := if base = 1024 then ["", "K", "M", "G", "T"] else ["", "k", "M", "G", "T"]
  let power := ((List.range 5).reverse.find? fun k => Nat.pow base k ≤ n).getD 0
  let unit := Nat.pow base power
  if power = 0 then toString n
  else
    let tenths := (n * 10 + unit - 1) / unit
    if tenths < 100 then toString (tenths / 10) ++ "." ++ toString (tenths % 10) ++ (units[power]?).getD ""
    else toString ((n + unit - 1) / unit) ++ (units[power]?).getD ""

def sizeText (f : Form) (n : Nat) : String :=
  if f.has 'h' then human 1024 n else if f.has '\x08' then human 1000 n else toString n

def blocksText (f : Form) (n : Nat) : String :=
  if f.has 'h' then human 1024 (n * 1024) else if f.has '\x08' then human 1000 (n * 1024) else toString n

def timeText (f : Form) (t : Int) : String :=
  let now := f.world.clock
  let isRecent := t ≤ now && now - t < 15778476 * Clock.second
  let form := match if f.has '\x03' then some "full-iso" else f.arguments.value? '\x05' with
    | some "full-iso" => "%Y-%m-%d %H:%M:%S.%N %z"
    | some "long-iso" => "%Y-%m-%d %H:%M"
    | some "iso" => if isRecent then "%m-%d %H:%M" else "%Y-%m-%d "
    | some style =>
      match style.toList with
      | '+' :: rest => String.ofList rest
      | _ => if isRecent then "%b %e %H:%M" else "%b %e  %Y"
    | none => if isRecent then "%b %e %H:%M" else "%b %e  %Y"
  String.ofList (Clock.render t (4 * form.length + 40) form.toList)

def shownName (f : Form) (name : String) : String :=
  if f.has 'Q' then
    "\"" ++ String.join (name.toList.map fun c => if c = '"' ∨ c = '\\' then "\\" ++ c.toString else c.toString) ++ "\""
  else name

def marked (f : Form) (i : Item) : String :=
  let mark := if f.has 'F' then nodeMark false i.node else if f.has 'p' then nodeMark true i.node else ""
  match i.node with
  | .link target =>
    if f.isLong then f.shownName i.name ++ " -> " ++ f.shownName target else f.shownName i.name ++ mark
  | _ => f.shownName i.name ++ mark

def flushed (width : Nat) (s : String) : String := String.ofList (List.replicate (width - s.length) ' ') ++ s

def widest (texts : List String) : Nat := (texts.map String.length).foldl max 0

def beginning (f : Form) (all : List Item) (i : Item) : String :=
  let inode (i : Item) : String := toString (nodeNumber f.world.files i.loc)
  let inodes := if f.has 'i' then flushed (widest (all.map inode)) (inode i) ++ " " else ""
  let size (i : Item) : String := f.blocksText (nodeBlocks i.node)
  let sizes := if f.has 's' then flushed (widest (all.map size)) (size i) ++ " " else ""
  inodes ++ sizes

def longLines (f : Form) (items : List Item) : List String :=
  let links (i : Item) : String := toString (nodeLinks f.world.files i.loc i.node)
  let sizes := items.map fun i => f.sizeText (nodeSize i.node)
  let owner := if f.has 'n' then "0" else "root"
  let owners := (if f.has 'g' then "" else owner ++ " ") ++ (if f.has 'o' ∨ f.has 'G' then "" else owner ++ " ")
  items.map fun i =>
    f.beginning items i ++ nodeLetters f.world i.loc i.node ++ " " ++
      flushed (widest (items.map links)) (links i) ++ " " ++ owners ++
      flushed (widest sizes) (f.sizeText (nodeSize i.node)) ++ " " ++ f.timeText (f.time i) ++ " " ++ f.marked i

/-- Names one after the other, with commas between them, in lines that are not too long. -/
def commaLines (width : Nat) : (line : String) → List String → List String
  | line, [] => if line = "" then [] else [line]
  | line, [name] =>
    if line ≠ "" ∧ width < line.length + name.length + 2 then
      [String.ofList line.toList.dropLast, name]
    else [line ++ name]
  | line, name :: rest =>
    if line ≠ "" ∧ width < line.length + name.length + 2 then
      String.ofList line.toList.dropLast :: commaLines width (name ++ ", ") rest
    else commaLines width (line ++ name ++ ", ") rest

/-- The gap from one column to another one, with tabs where they fit. -/
def gap : (fuel : Nat) → (from_ goal : Nat) → String
  | 0, _, _ => ""
  | fuel + 1, from_, goal =>
    if goal ≤ from_ then ""
    else if (from_ + 1) / 8 < goal / 8 then "\t" ++ gap fuel (from_ / 8 * 8 + 8) goal
    else " " ++ gap fuel (from_ + 1) goal

def rowText : (at_ : Nat) → (start : Nat) → List (String × Nat) → String
  | _, _, [] => ""
  | _, _, [(cell, _)] => cell
  | at_, start, (cell, width) :: rest =>
    let stop := at_ + cell.length
    cell ++ gap (width + 1) stop (start + width) ++ rowText (start + width) (start + width) rest

def columnLines (width : Nat) (across : Bool) (names : List String) : List String :=
  let n := names.length
  let layout (columns : Nat) : List (List String) × List Nat :=
    let rows := (n + columns - 1) / columns
    let cell (r c : Nat) : Option String := names[if across then r * columns + c else c * rows + r]?
    let table := (List.range rows).map fun r => (List.range columns).filterMap fun c => cell r c
    let widths := (List.range columns).map fun c =>
      let longest := widest ((List.range rows).filterMap fun r => cell r c)
      if c + 1 = columns then longest else longest + 2
    (table, widths)
  let fits (columns : Nat) : Bool :=
    let (_, widths) := layout columns
    total id widths ≤ width - 1 && ((columns - 1) * (if across then 1 else (n + columns - 1) / columns) < n)
  let best := ((List.range (min n (width / 3 + 1))).reverse.map (· + 1)).find? fits
  let (table, widths) := layout (best.getD 1)
  table.map fun row => rowText 0 0 (row.zip widths)

/-- The lines that list items. -/
def lines (f : Form) (items : List Item) : List String :=
  if f.isLong then f.longLines items
  else
    let names := items.map fun i => f.beginning items i ++ f.marked i
    match f.arguments.last? "1Cxm" with
    | some 'm' => commaLines f.width "" names
    | some 'C' => columnLines f.width false names
    | some 'x' => columnLines f.width true names
    | _ => names

end Form

def extension (name : String) : String :=
  let cs := name.toList
  if cs.contains '.' then String.ofList ('.' :: (cs.reverse.takeWhile (· ≠ '.')).reverse) else ""

def ordered (f : Form) (items : List Item) : List Item :=
  if f.has 'U' ∨ f.has 'f' then items
  else
    let items := items.mergeSort fun a b => a.name ≤ b.name
    let order := match f.arguments.value? '\x04' with
      | some "size" => some 'S'
      | some "time" => some 't'
      | some "extension" => some 'X'
      | some "version" => some 'v'
      | some "none" => some 'U'
      | some "width" => some 'w'
      | _ => f.arguments.last? "StXv"
    let items := match order with
      | some 'S' => items.mergeSort fun a b => nodeSize b.node ≤ nodeSize a.node
      | some 't' => items.mergeSort fun a b => f.time b ≤ f.time a
      | some 'X' => items.mergeSort fun a b => extension a.name ≤ extension b.name
      | some 'w' => items.mergeSort fun a b => a.name.length ≤ b.name.length
      | _ => items
    let items := if f.has 'r' then items.reverse else items
    if f.has '\x07' then
      (items.filter fun i => i.node = .directory) ++ items.filter fun i => i.node ≠ .directory
    else items

/-- What stands in a directory and is listed. -/
def inside (f : Form) (loc : Location) : List Item :=
  let isShown (name : String) : Bool :=
    (f.has 'a' || f.has 'A' || f.has 'f' || name.toList.head? ≠ some '.') &&
      !(f.has 'B' && name.toList.getLast? = some '~') &&
      !((f.arguments.values 'I').any fun p =>
        (Pattern.ofOctets (p.toList.map (·, false))).isMatch (Octets.ofString name))
  let item (name : String) : Item :=
    let here := name :: loc
    let node := (f.world.files.lookup here).getD .directory
    match if f.has 'L' then (f.world.files.status loc (.ofString name)).toOption else none with
    | some (found, node) => ⟨name, found, node⟩
    | none => ⟨name, here, node⟩
  let own : List Item := if f.has 'a' ∨ f.has 'f' then
    [⟨".", loc, .directory⟩, ⟨"..", loc.drop 1, .directory⟩] else []
  ordered f (own ++ ((f.world.files.names loc).filter isShown).map item)

/-- The blocks that list a directory, and with the option for it those below. -/
def blocks (f : Form) : (depth : Nat) → String → Location → List (String × List String)
  | 0, _, _ => []
  | depth + 1, path, loc =>
    let items := inside f loc
    let total := "total " ++ f.blocksText (total (fun i => nodeBlocks i.node) items)
    (path, (if f.isLong ∨ f.has 's' then [total] else []) ++ f.lines items) ::
      if f.has 'R' then
        items.flatMap fun i =>
          if i.name = "." ∨ i.name = ".." then []
          else
            match f.world.files.lookup (i.name :: loc) with
            | some .directory => blocks f depth (FileChange.inside path i.name) (i.name :: loc)
            | _ => []
      else []

def maxDepth : Nat := 100

/-- The words that an option with a choice takes, those of one meaning together. -/
def choices : List (Char × String × List (List String)) :=
  [('\x04', "--sort", [["none"], ["time"], ["size"], ["extension"], ["version"], ["width"]]),
    ('\x06', "--time",
      [["atime", "access", "use"], ["ctime", "status"], ["mtime", "modification"], ["birth", "creation"]]),
    ('\x0e', "--format",
      [["verbose", "long"], ["commas"], ["horizontal", "across"], ["vertical"], ["single-column"]]),
    ('\x0f', "--indicator-style", [["none"], ["slash"], ["file-type"], ["classify"]])]

def choiceLetter (option : Char × String) : Char × String :=
  match option with
  | ('\x0e', "verbose") | ('\x0e', "long") => ('l', "")
  | ('\x0e', "commas") => ('m', "")
  | ('\x0e', "horizontal") | ('\x0e', "across") => ('x', "")
  | ('\x0e', "vertical") => ('C', "")
  | ('\x0e', "single-column") => ('1', "")
  | ('\x0f', "slash") | ('\x0f', "file-type") => ('p', "")
  | ('\x0f', "classify") => ('F', "")
  | option => option

def choiceFault? (options : List (Char × String)) : Option String :=
  options.findSome? fun (letter, value) =>
    (choices.find? fun c => c.1 = letter).bind fun (_, name, words) =>
      if words.flatten.contains value then none
      else
        let lines := words.map fun ws => "\n  - " ++ ", ".intercalate (ws.map fun s => "'" ++ s ++ "'")
        some ("invalid argument " ++ named value ++ " for '" ++ name ++ "'\nValid arguments are:" ++ String.join lines)

end SbtWorkspace.Simulation.Utility.Listing

namespace SbtWorkspace.Simulation.Utility

open Listing

/-- Lists files and directories. `preset` are options that are given first. -/
def ls (preset : String) : Work :=
  reading
    { letters := "1aAbBcCdDfFgGhHiklLmnNopqQrRsStuUvxXZ", valued := "ITw\x04\x05\x06\x0e\x0f", optional := "\x01"
      long := [("all", 'a'), ("almost-all", 'A'), ("directory", 'd'), ("classify", 'F'), ("recursive", 'R'),
        ("reverse", 'r'), ("ignore", 'I'), ("ignore-backups", 'B'), ("quote-name", 'Q'), ("color", '\x01'),
        ("group-directories-first", '\x07'), ("full-time", '\x03'), ("size", 's'), ("inode", 'i'), ("sort", '\x04'),
        ("format", '\x0e'), ("indicator-style", '\x0f'), ("time-style", '\x05'), ("time", '\x06'),
        ("width", 'w'), ("human-readable", 'h'), ("si", '\x08'),
        ("numeric-uid-gid", 'n'), ("no-group", 'G'), ("dereference", 'L'), ("literal", 'N'), ("escape", 'b'),
        ("kibibytes", 'k'), ("file-type", 'p'), ("hide-control-chars", 'q'), ("show-control-chars", '\x01'),
        ("dereference-command-line", 'H'), ("author", '\x01')] } 2 fun c w given =>
    let a : Arguments := { given with options := (preset.toList.map (·, "")) ++ given.options.map choiceLetter }
    let width := ((a.value? 'w').or (c.env.get? "COLUMNS")).bind fun t => natural? t.toList
    let f : Form := { arguments := a, world := w, cwd := c.cwd, width := (width.filter (0 < ·)).getD 80 }
    let paths := if a.operands = [] then ["."] else a.operands
    let find (path : String) : Option Item :=
      let kept := standing? w.files c.cwd path
      let followsLinks := a.has 'L' || a.has 'H' || !(a.has 'd' || a.has 'F' || f.isLong)
      match w.files.status c.cwd (.ofString path), kept with
      | .ok (loc, node), some (own, link) =>
        if followsLinks then some ⟨path, loc, node⟩ else some ⟨path, own, link⟩
      | .ok (loc, node), none => some ⟨path, loc, node⟩
      | .error _, some (loc, node) => if a.has 'L' then none else some ⟨path, loc, node⟩
      | .error _, none => none
    let found := paths.map find
    let all := ordered f (found.filterMap id)
    let isBlock (i : Item) : Bool := i.node = .directory && !a.has 'd'
    let files := all.filter fun i => !isBlock i
    let shown := (all.filter isBlock).flatMap fun i => blocks f maxDepth i.name i.loc
    let isNamed := 1 < paths.length || a.has 'R'
    let shownBlocks := shown.map fun (path, lines) => (if isNamed then [path ++ ":"] else []) ++ lines
    let parts := (if files.isEmpty then [] else [f.lines files]) ++ shownBlocks
    let isNumber (letter : Char) : Bool := (a.value? letter).all fun t => (natural? t.toList).isSome
    let complaints := paths.filterMap fun path =>
      match find path, standingAt w.files c.cwd true path with
      | none, .nothing fault => some (Call.complaint c ("cannot access " ++ named path ++ ": " ++ fault.wording))
      | _, _ => none
    match choiceFault? given.options with
    | some reason => misused c w 1 reason
    | none =>
      if !isNumber 'w' then refused c w 2 ("invalid line width: " ++ named ((a.value? 'w').getD ""))
      else if !isNumber 'T' then refused c w 2 ("invalid tab size: " ++ named ((a.value? 'T').getD ""))
      else
        { world := w, output := ofTexts false ([""].intercalate parts), complaints
          status := if found.all Option.isSome then 0 else 2 }

end SbtWorkspace.Simulation.Utility
