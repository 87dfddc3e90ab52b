import SbtWorkspace.Path.Basic

/-! What a process is started with: environment variables, and the account that it runs under. Names and
values are strings, as are the arguments; octets that are no text are left out. -/

namespace SbtWorkspace

/-- The environment variables, each at most once, and the home directory that the system has on record for
the account, if it has one. -/
structure Environment where
  bindings : List (String × String)
  account : Option String

namespace Environment

def get? (env : Environment) (name : String) : Option String :=
  (env.bindings.find? fun v => v.1 = name).map (·.2)

def nonempty? (env : Environment) (name : String) : Option String :=
  (env.get? name).filter (· ≠ "")

def erase (env : Environment) (name : String) : Environment :=
  { env with bindings := env.bindings.filter fun v => v.1 ≠ name }

/-- The environment with a variable set. -/
def set (env : Environment) (name value : String) : Environment :=
  { env with bindings := (env.erase name).bindings ++ [(name, value)] }

/-- The home directory: the value of `HOME`, or where it is not set the one on record, without slashes at
its end, or the root if nothing is left. A value that begins with a tilde stands for a home directory itself,
so that none is known. -/
def home? (env : Environment) : Option Path :=
  match (env.get? "HOME").or env.account with
  | none => none
  | some value =>
    match (value.toList.reverse.dropWhile (· = '/')).reverse with
    | [] => some (.parse "/")
    | '~' :: _ => none
    | kept => some (.parse (String.ofList kept))

end Environment

end SbtWorkspace
