import SbtWorkspace.Config.Error
import SbtWorkspace.Properties.Parser
import SbtWorkspace.Terminal.Markup
import SbtWorkspace.Text.Utf8
import SbtWorkspace.Version.Parser

/-! Why an operation ends without a result. -/

namespace SbtWorkspace

/-- The causes of a failure. -/
inductive Failure where
  | system (error : SystemError)
  | notDirectory (workspace : Path)
  | properties (error : Properties.Error)
  | unreadableProperties (path : Path) (cause : SystemError)
  | notText (error : Utf8.Error)
  | unencodable (error : Utf8.Unencodable)
  | version (error : Version.Error)
  | config (error : Config.Error)
  | invalidConfig (found : List Config.Invalid)
  | tooManyDigits (count : Nat)
  | tooDeep
  | unknownHome
  | missingArgument
  | variableName
  | markup (error : Terminal.Markup.Error)
  | exit (code : Int)
  deriving DecidableEq

namespace Failure

def encodingHint : String := "\n*** You may need to add PYTHONIOENCODING=utf-8 to your environment ***"

/-- The wording of a failure; an exit has none. -/
def message : Failure → Text
  | system error => Text.ofString error.message
  | notDirectory workspace => Text.ofString ("Workspace is not a directory: " ++ workspace.render)
  | properties error => Text.ofString error.message
  | unreadableProperties path cause =>
    Text.ofString ("Failed to read " ++ path.render ++ ": " ++ cause.message)
  | notText error => Text.ofString error.message
  | unencodable error => Text.ofString (error.message ++ encodingHint)
  | version error => Text.ofString error.message
  | config error => Text.ofString error.message
  | invalidConfig _ => Text.ofString "Invalid config content"
  | tooManyDigits count => Text.ofString (Numeral.tooManyDigits count)
  | tooDeep => Text.ofString "maximum recursion depth exceeded"
  | unknownHome => Text.ofString "Could not determine home directory."
  | missingArgument => Text.ofString "list index out of range"
  | variableName => Text.ofString "illegal environment variable name"
  | markup error => error.message
  | exit _ => []

/-- Whether the file system or what stands in it is the cause, so that a command reports the failure.
A null byte in a path is refused before the file system is asked. -/
def isSystem : Failure → Bool
  | system error => error.fault ≠ .nullByte
  | notDirectory _ | properties _ | unreadableProperties _ _ => true
  | _ => false

end Failure

end SbtWorkspace
