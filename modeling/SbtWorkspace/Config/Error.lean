import SbtWorkspace.Config.Validation
import SbtWorkspace.FileSystem.Error

/-! What can go wrong with the configuration file. -/

namespace SbtWorkspace.Config

/-- Why there is no configuration, or why it was not saved. -/
inductive Error where
  | notFound (path : Path)
  | malformed
  | unreadable (cause : SystemError)
  | invalid (found : List Invalid)
  | noDirectory (directory : Path) (cause : SystemError)
  | noScratchName
  | notWritten (cause : SystemError)
  deriving DecidableEq

/-- The wording of an error. -/
def Error.message : Error → String
  | notFound path => "Config not found: " ++ path.render
  | malformed => "Invalid TOML syntax"
  | unreadable cause => "Failed to read config: " ++ cause.message
  | invalid _ => "Invalid config content"
  | noDirectory directory cause =>
    "Cannot create config directory " ++ directory.render ++ ": " ++ cause.message
  | noScratchName => "Failed to write config: [Errno 17] No usable temporary file name found"
  | notWritten cause => "Failed to write config: " ++ cause.message

end SbtWorkspace.Config
