import SbtWorkspace.Action
import SbtWorkspace.Terminal.Escape
import SbtWorkspace.Terminal.Table

/-! What commands print. A message or a table is marked-up text and is laid out for the width of the
terminal; one that cannot be shown fails and prints nothing. -/

namespace SbtWorkspace.CommandLine

/-- Whether variables say that output goes to a terminal, wherever it goes. -/
def isForcedTerminal (env : Environment) : Bool :=
  match env.get? "TTY_COMPATIBLE" with
  | some "0" => false
  | some "1" => true
  | _ => (env.nonempty? "FORCE_COLOR").isSome

/-- Whether the terminal can do no more than print, as far as its name says. -/
def isPlainTerminal (env : Environment) : Bool :=
  (env.get? "TERM").any fun name => ["dumb", "unknown"].contains (name.map Char.toLower)

def plainWidth : Nat := 80

def effectiveWidth (env : Environment) (width : Nat) : Nat :=
  if isForcedTerminal env && isPlainTerminal env then plainWidth else width

def layOut (width : Nat) (message : Text) : Action Text := do
  let width := effectiveWidth (← Action.context).env width
  let lines ← Action.ofExcept .markup (Terminal.messageLines width message)
  pure (Terminal.joinLines lines)

def styled (style : String) (message : Text) : Text :=
  Text.ofString ("[" ++ style ++ "]") ++ message ++ Text.ofString "[/]"

def printInfo (width : Nat) (message : String) : Action Unit := do
  Action.print (← layOut width (styled "info" (Text.ofString message)))

def printSuccess (width : Nat) (message : String) : Action Unit := do
  Action.print (← layOut width (styled "success" (Text.ofString message)))

def printWarning (width : Nat) (message : Text) : Action Unit := do
  Action.printError
    (← layOut width (styled "warning" (Text.ofString "Warning:") ++ Text.ofString " " ++ message))

def printFailure (width : Nat) (message : Text) : Action Unit := do
  Action.printError
    (← layOut width (styled "error" (Text.ofString "Error:") ++ Text.ofString " " ++ message))

def printTable (width : Nat) (title : String) (rows : List (String × Text)) : Action Unit := do
  let table : Terminal.Table :=
    { title := Text.ofString title
      heads := (Text.ofString "Property", Text.ofString "Value")
      rows := rows.map fun r => (Text.ofString r.1, r.2) }
  let width := effectiveWidth (← Action.context).env width
  Action.print (Terminal.joinLines (← Action.ofExcept .markup (table.lines width)))

/-- Prints a line as it is but for control sequences, which are not for a reader that is no terminal. -/
def printLine (line : String) : Action Unit :=
  Action.print (Terminal.dropSequences (Text.ofString (line ++ "\n")))

end SbtWorkspace.CommandLine
