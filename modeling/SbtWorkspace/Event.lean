import SbtWorkspace.FileSystem.Error
import SbtWorkspace.Path.Basic

/-! What operations report while they run. -/

namespace SbtWorkspace

/-- How much a report matters. -/
inductive Level where
  | debug
  | info
  | warning
  deriving DecidableEq, Repr

/-- The name of a level. -/
def Level.name : Level → String
  | debug => "DEBUG"
  | info => "INFO"
  | warning => "WARNING"

def Level.rank : Level → Nat
  | debug => 0
  | info => 1
  | warning => 2

def firstVersionWithBsp : String := "1.4.1"

inductive Event where
  | noProperties (path : Path)
  | noVersion (path : Path)
  | optionsRead (count : Nat) (path : Path)
  | descriptorCurrent (path : Path)
  | descriptorWritten (path : Path)
  | descriptorsManaged
  | bridgePresent (path : Path)
  | bridgeInstalled (path : Path)
  | legacyRemoved (path : Path)
  | legacyKept (path : Path) (cause : SystemError)
  | configDefaulted
  | versionMissing (workspace : Path)
  | versionFound (version : Text)
  | versionUnrecognized (version : Text) (workspace : Path)
  | bspUnsupported (version : Text)
  deriving DecidableEq

namespace Event

/-- How much a report matters. -/
def level : Event → Level
  | noProperties _ | noVersion _ | optionsRead _ _ | descriptorCurrent _ | descriptorsManaged
  | configDefaulted => .debug
  | descriptorWritten _ | bridgePresent _ | bridgeInstalled _ | legacyRemoved _ | versionFound _ =>
    .info
  | legacyKept _ _ | versionMissing _ | versionUnrecognized _ _ | bspUnsupported _ => .warning

/-- The wording of a report. -/
def message : Event → Text
  | noProperties path => Text.ofString ("No build.properties at " ++ path.render)
  | noVersion path => Text.ofString (path.render ++ " does not set sbt.version")
  | optionsRead count path => Text.ofString (s!"Read {count} option(s) from " ++ path.render)
  | descriptorCurrent path => Text.ofString ("Plugin file " ++ path.render ++ " is up to date")
  | descriptorWritten path => Text.ofString ("Wrote plugin file " ++ path.render)
  | descriptorsManaged => Text.ofString "sbt-bloop is managed by the user, skipping plugin files"
  | bridgePresent path => Text.ofString ("Skipping BSP plugin, " ++ path.render ++ " already exists")
  | bridgeInstalled path => Text.ofString ("Installed BSP plugin to " ++ path.render)
  | legacyRemoved path => Text.ofString ("Removed legacy global plugin " ++ path.render)
  | legacyKept path cause =>
    Text.ofString ("Could not remove legacy global plugin " ++ path.render ++ ": " ++ cause.message)
  | configDefaulted => Text.ofString "No config file found, using defaults"
  | versionMissing workspace =>
    Text.ofString ("No sbt version can be found for sbt workspace " ++ workspace.render)
  | versionFound version =>
    Text.ofString "sbt " ++ version ++ Text.ofString " found for workspace"
  | versionUnrecognized version workspace =>
    Text.ofString ("Unrecognized sbt version " ++ version.quoted ++ " in " ++ workspace.render)
  | bspUnsupported version =>
    Text.ofString "sbt " ++ version
      ++ Text.ofString (" does not support BSP, upgrade to " ++ firstVersionWithBsp ++ " or newer")

end Event

end SbtWorkspace
