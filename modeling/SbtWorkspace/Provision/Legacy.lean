import SbtWorkspace.Action
import SbtWorkspace.Layout

/-! The global plugin descriptor of former releases, which put sbt-bloop into every build of a user. -/

namespace SbtWorkspace.Legacy

/-- The global descriptor for the line of a version. -/
def descriptor (version : Text) (home : Path) : Path :=
  Layout.descriptor (Layout.globalPlugins version home)

/-- Removes the global descriptor; gives whether there was one. A file that cannot be removed is
reported and left. -/
def remove (version : Text) (home : Path) : Action Bool := do
  let file := descriptor version home
  let removed ← tryCatch (do Action.unlink file; pure true) fun
    | .system e => do
      if e.fault = .nullByte then throw (.system e)
      if e.fault ≠ .noEntry then Action.report (.legacyKept file e)
      pure false
    | e => throw e
  if removed then Action.report (.legacyRemoved file)
  pure removed

end SbtWorkspace.Legacy
