import SbtWorkspace.Toml.Lexeme

/-! TOML documents. A statement adds a value or opens a table. Which keys are closed by then is kept
beside the tables: a key that was opened as a table is not opened again, and nothing is added below a
value that was written in one piece. -/

namespace SbtWorkspace.Toml

open Lexeme

namespace Key

def parsePart (cs : List Char) : Except Error (String × List Char) :=
  match cs with
  | [] => .error .malformed
  | c :: rest =>
    if isBare c then .ok (String.ofList (cs.takeWhile isBare), cs.dropWhile isBare)
    else
      let reading := if c = '"' then basicString rest else if c = '\x27' then literalString rest else none
      match reading with
      | some (name, left) => .ok (String.ofList name, left)
      | none => .error .malformed

def parseNames : (fuel : Nat) → List Char → Except Error (Key × List Char)
  | 0, _ => .error .malformed
  | fuel + 1, cs => do
    let (name, rest) ← parsePart cs
    match skipGaps rest with
    | '.' :: rest =>
      let (names, rest) ← parseNames fuel (skipGaps rest)
      pure (name :: names, rest)
    | rest => pure ([name], rest)

/-- A key with points between its names. Every name takes a character, so the fuel suffices. -/
def parse (cs : List Char) : Except Error (Key × List Char) := parseNames (cs.length + 1) cs

end Key

/-- Changes the table that a key leads to, which is made if it is missing. Where an array stands on the
way, its last item is meant if `throughArrays` says so. -/
def Table.change (throughArrays : Bool) :
    Key → (Table → Except Error Table) → Table → Except Error Table
  | [], f, t => f t
  | name :: names, f, t =>
    match t.get? name with
    | none => do pure (t.set name (.table (← change throughArrays names f [])))
    | some (.table inner) => do pure (t.set name (.table (← change throughArrays names f inner)))
    | some (.array items) =>
      match throughArrays, items.getLast? with
      | true, some (.table inner) => do
        pure (t.set name (.array (items.dropLast ++ [.table (← change throughArrays names f inner)])))
      | _, _ => .error .malformed
    | some _ => .error .malformed

def Table.insertNew (name : String) (value : Value) (t : Table) : Except Error Table :=
  if (t.get? name).isSome then .error .malformed else .ok (t ++ [(name, value)])

/-- Whether a value is a table or an array, below which nothing may be added later. -/
def Value.isCompound : Value → Bool
  | .array _ | .table _ => true
  | _ => false

def Table.insertAt (throughArrays : Bool) (key : Key) (value : Value) (t : Table) :
    Except Error Table :=
  t.change throughArrays key.dropLast (insertNew (key.getLast?.getD "") value)

/-! Arrays and tables that are nested in one another take levels, of which a reader has so many. -/

def arrayLevels : Nat := 2

def tableLevels : Nat := 3

mutual

/-- A value of at most `fuel` characters, whose arrays and inline tables take no more than a number of
levels. -/
def parseValue (levels : Nat) : (fuel : Nat) → List Char → Except Error (Value × List Char)
  | 0, _ => .error .malformed
  | fuel + 1, cs =>
    match cs with
    | [] => .error .malformed
    | c :: rest =>
      if c = '"' ∨ c = '\x27' then
        match Lexeme.string cs with
        | some (s, rest) => .ok (.string (String.ofList s), rest)
        | none => .error .malformed
      else if ['t', 'r', 'u', 'e'].isPrefixOf cs then .ok (.boolean true, cs.drop 4)
      else if ['f', 'a', 'l', 's', 'e'].isPrefixOf cs then .ok (.boolean false, cs.drop 5)
      else if c = '[' then do
        if levels < arrayLevels then throw .tooDeep
        let rest ← skipIgnored rest.length rest
        match rest with
        | ']' :: rest => pure (.array [], rest)
        | _ =>
          let (items, rest) ← parseItems (levels - arrayLevels) fuel rest
          pure (.array items, rest)
      else if c = '\x7b' then do
        if levels < tableLevels then throw .tooDeep
        match skipGaps rest with
        | '\x7d' :: rest => pure (.table [], rest)
        | rest => do
          let (entries, rest) ← parseEntries (levels - tableLevels) fuel [] [] rest
          pure (.table entries, rest)
      else scalar cs

def parseItems (levels : Nat) : (fuel : Nat) → List Char → Except Error (List Value × List Char)
  | 0, _ => .error .malformed
  | fuel + 1, cs => do
    let (item, rest) ← parseValue levels fuel cs
    match ← skipIgnored rest.length rest with
    | ']' :: rest => pure ([item], rest)
    | ',' :: rest =>
      match ← skipIgnored rest.length rest with
      | ']' :: rest => pure ([item], rest)
      | rest =>
        let (items, rest) ← parseItems levels fuel rest
        pure (item :: items, rest)
    | _ => throw .malformed

/-- The entries of an inline table up to its closing brace. Nothing is added below a `closed` key. -/
def parseEntries (levels : Nat) :
    (fuel : Nat) → (closed : List Key) → Table → List Char → Except Error (Table × List Char)
  | 0, _, _, _ => .error .malformed
  | fuel + 1, closed, table, cs => do
    let (key, rest) ← Key.parse cs
    match rest with
    | '=' :: rest =>
      let (value, rest) ← parseValue levels fuel (skipGaps rest)
      if closed.any fun k => k.isPrefixOf key then throw .malformed
      let table ← table.insertAt false key value
      match skipGaps rest with
      | '\x7d' :: rest => pure (table, rest)
      | ',' :: rest =>
        parseEntries levels fuel (if value.isCompound then key :: closed else closed) table (skipGaps rest)
      | _ => throw .malformed
    | _ => throw .malformed

end

/-- A document that is being read: its tables, the table that a header opened last, the keys that no
header and no dotted key opens again, those that join them at the next header, and the keys below
which nothing is added. -/
structure Draft where
  root : Table
  header : Key
  opened : List Key
  pending : List Key
  closed : List Key

namespace Draft

/-- The document that nothing has been read of. -/
def empty : Draft := ⟨[], [], [], [], []⟩

def isClosed (d : Draft) (key : Key) : Bool := d.closed.any fun k => k.isPrefixOf key

def openTable (d : Draft) (key : Key) : Except Error Draft := do
  if d.opened.contains key || d.isClosed key then throw .malformed
  let root ← d.root.change true key .ok
  pure { d with root, header := key, opened := key :: d.opened }

def appendItem (name : String) (t : Table) : Except Error Table :=
  match t.get? name with
  | none => .ok (t ++ [(name, .array [.table []])])
  | some (.array items) => .ok (t.set name (.array (items ++ [.table []])))
  | some _ => .error .malformed

/-- Opens a further table of an array of tables. What was opened or closed below the key before
belonged to the table before. -/
def openItem (d : Draft) (key : Key) : Except Error Draft := do
  if d.isClosed key then throw .malformed
  let below (keys : List Key) := keys.filter fun k => !key.isPrefixOf k
  let root ← d.root.change true key.dropLast (appendItem (key.getLast?.getD ""))
  pure { d with root, header := key, opened := key :: below d.opened, closed := below d.closed }

/-- The document at a header, where the keys that were pending count as opened. -/
def atHeader (d : Draft) : Draft := { d with opened := d.pending ++ d.opened, pending := [] }

/-- Adds the value of a key to the open table. -/
def add (d : Draft) (key : Key) (value : Value) : Except Error Draft := do
  let above := (List.range (key.length - 1)).map fun i => d.header ++ key.take (i + 1)
  if above.any d.opened.contains then throw .malformed
  if d.isClosed (d.header ++ key.dropLast) then throw .malformed
  let root ← d.root.insertAt true (d.header ++ key) value
  pure { d with
    root
    pending := above ++ d.pending
    closed := if value.isCompound then (d.header ++ key) :: d.closed else d.closed }

/-- Reads one statement that is neither blank nor only a comment. -/
def statement (levels : Nat) (d : Draft) (cs : List Char) : Except Error (Draft × List Char) := do
  match cs with
  | '[' :: '[' :: rest =>
    let (key, rest) ← Key.parse (skipGaps rest)
    let d ← d.atHeader.openItem key
    match rest with
    | ']' :: ']' :: rest => pure (d, rest)
    | _ => throw .malformed
  | '[' :: rest =>
    let (key, rest) ← Key.parse (skipGaps rest)
    let d ← d.atHeader.openTable key
    match rest with
    | ']' :: rest => pure (d, rest)
    | _ => throw .malformed
  | _ =>
    let (key, rest) ← Key.parse cs
    match rest with
    | '=' :: rest =>
      let rest := skipGaps rest
      let (value, rest) ← parseValue levels (rest.length + 1) rest
      pure (← d.add key value, rest)
    | _ => throw .malformed

/-- Reads the lines of a document, of which there are less than `fuel`. -/
def lines (levels : Nat) : (fuel : Nat) → Draft → List Char → Except Error Draft
  | 0, _, _ => .error .malformed
  | fuel + 1, d, cs =>
    match skipGaps cs with
    | [] => .ok d
    | '\n' :: rest => lines levels fuel d rest
    | c :: rest => do
      let (d, rest) ← if c = '#' then pure (d, c :: rest) else d.statement levels (c :: rest)
      match ← skipComment (skipGaps rest) with
      | [] => pure d
      | '\n' :: rest => lines levels fuel d rest
      | _ => throw .malformed

end Draft

/-- The text with each carriage return left out that stands before a line feed. -/
def unifyLineEnds : List Char → List Char
  | '\r' :: '\n' :: rest => '\n' :: unifyLineEnds rest
  | c :: rest => c :: unifyLineEnds rest
  | [] => []

/-- Reads a document whose values take no more than a number of levels. Every line but the last takes a
character, so the fuel suffices. -/
def parse (levels : Nat) (text : List Char) : Except Error Table :=
  let cs := unifyLineEnds text
  (Draft.lines levels (cs.length + 1) .empty cs).map (·.root)

end SbtWorkspace.Toml
