import SbtWorkspace.Action
import SbtWorkspace.Layout
import SbtWorkspace.Text.Blank

/-! The sbt version that a workspace pins in its build properties. Such a file is Latin-1, so every
octet is a code point. Main statement: a pinned version is not empty (`pinnedIn_ne_nil`). -/

namespace SbtWorkspace.PinnedVersion

def propertyName : Text := Text.ofString "sbt.version"

/-- The text of Latin-1 octets. -/
def latin1 (bytes : Bytes) : Text := bytes.map fun b => .scalar (Char.ofNat b.toNat)

/-- The version that the text of a properties file pins: the value of its property without blanks
around it, unless nothing is left. -/
def pinnedIn (text : Text) : Except Properties.Error (Option Text) := do
  let value := (← Properties.find text propertyName).getD []
  pure (if value.trim = [] then none else some value.trim)

theorem pinnedIn_ne_nil {text v : Text} (h : pinnedIn text = .ok (some v)) : v ≠ [] := by
  unfold pinnedIn at h
  cases hf : Properties.find text propertyName with
  | error e => simp [hf, bind, Except.bind] at h
  | ok value =>
    simp only [hf, bind, Except.bind, pure, Except.pure, Except.ok.injEq] at h
    split at h
    · exact nomatch h
    · rename_i hne
      injection h with h
      exact h ▸ hne

/-- The version that a workspace pins. It is read anew every time. -/
def load (workspace : Path) : Action (Option Text) := do
  let path := Layout.buildProperties workspace
  if ← Action.isFile path then
    let bytes ← tryCatch (Action.readFile path) fun
      | .system e => throw (.unreadableProperties path e)
      | e => throw e
    match ← Action.ofExcept .properties (pinnedIn (latin1 bytes)) with
    | some version => pure (some version)
    | none => do
      Action.report (.noVersion path)
      pure none
  else do
    Action.report (.noProperties path)
    pure none

end SbtWorkspace.PinnedVersion
