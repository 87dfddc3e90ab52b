import SbtWorkspace.Action
import SbtWorkspace.Layout
import SbtWorkspace.Text.Blank

/-! Options for the launcher that a workspace keeps in files, one on a line. -/

namespace SbtWorkspace.Options

/-- The options in a text: its lines without the blanks around them, where something is left. -/
def ofText (text : List Char) : List String :=
  let isBlank (c : Char) : Bool := Blank.covers c.toNat
  (((Line.lines '\n' '\r' text).map (trimWhile isBlank)).filter (· ≠ [])).map String.ofList

/-- The options in a file; none if there is no file. -/
def ofFile (path : Path) : Action (List String) := do
  if ← Action.isFile path then
    let bytes ← Action.readFile path
    let options := ofText (← Action.ofExcept .notText (Utf8.decodeStream bytes))
    Action.report (.optionsRead options.length path)
    pure options
  else pure []

def readAll : List Path → Action (List String)
  | [] => pure []
  | path :: rest => do
    let options ← ofFile path
    let more ← readAll rest
    pure (options ++ more)

/-- The options of a workspace. -/
def ofWorkspace (workspace : Path) : Action (List String) := readAll (Layout.optionFiles workspace)

end SbtWorkspace.Options
