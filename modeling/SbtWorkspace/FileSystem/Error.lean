import SbtWorkspace.FileSystem.Resolve
import SbtWorkspace.Text.Quoted

/-! How a refused call is reported: the number and the wording of the fault, and the paths that
the call was given. -/

namespace SbtWorkspace

namespace Fault

/-- The number of a fault. A null byte is refused before the system sees the call and has none. -/
def number : Fault → Nat
  | noEntry => 2
  | execFormat => 8
  | accessDenied => 13
  | busy => 16
  | alreadyExists => 17
  | notDirectory => 20
  | isDirectory => 21
  | nameTooLong => 36
  | linkLoop => 40
  | nullByte => 0

def wording : Fault → String
  | noEntry => "No such file or directory"
  | execFormat => "Exec format error"
  | accessDenied => "Permission denied"
  | busy => "Device or resource busy"
  | alreadyExists => "File exists"
  | notDirectory => "Not a directory"
  | isDirectory => "Is a directory"
  | nameTooLong => "File name too long"
  | linkLoop => "Too many levels of symbolic links"
  | nullByte => "embedded null byte"

end Fault

/-- A refused call: its fault, its path as given, and the second path of a call that takes two. -/
structure SystemError where
  fault : Fault
  path : String
  second : Option String := none
  deriving DecidableEq

/-- The report of a refused call. -/
def SystemError.message (e : SystemError) : String :=
  if e.fault = .nullByte then e.fault.wording
  else
    let first := s!"[Errno {e.fault.number}] {e.fault.wording}: " ++ (Text.ofString e.path).quoted
    match e.second with
    | none => first
    | some path => first ++ " -> " ++ (Text.ofString path).quoted

end SbtWorkspace
