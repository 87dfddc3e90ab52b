import SbtWorkspace.Simulation.Shell.Basic

/-! The options of a shell, which are switched on and off by letters and by names. Main statement: switching an option
has no effect on another one (`mem_switch`). -/

namespace SbtWorkspace.Simulation.Shell

def letterNames (rich : Bool) : List (String × Char) :=
  if rich then
    [("allexport", 'a'), ("braceexpand", 'B'), ("errexit", 'e'), ("errtrace", 'E'), ("functrace", 'T'),
      ("hashall", 'h'),       ("histexpand", 'H'), ("keyword", 'k'), ("monitor", 'm'), ("noclobber", 'C'), ("noexec", 'n'), ("noglob", 'f'),
      ("notify", 'b'), ("nounset", 'u'), ("onecmd", 't'), ("physical", 'P'), ("privileged", 'p'), ("verbose", 'v'),
      ("xtrace", 'x')]
  else
    [("errexit", 'e'), ("noglob", 'f'), ("ignoreeof", 'I'), ("interactive", 'i'), ("monitor", 'm'), ("noexec", 'n'),
      ("stdin", 's'), ("xtrace", 'x'), ("verbose", 'v'), ("vi", 'V'), ("emacs", 'E'), ("noclobber", 'C'),
      ("allexport", 'a'), ("notify", 'b'), ("nounset", 'u'), ("privileged", 'p'), ("nolog", 'l'), ("debug", 'd')]

def bareNames : List String :=
  ["emacs", "history", "ignoreeof", "interactive-comments", "nolog", "pipefail", "posix", "vi"]

def optionLetters (rich : Bool) : List Char :=
  (if rich then "abefhkmnptuvxBCEHPT" else "abCefhiIlmnpsuvxVE").toList

def habits : List String :=
  ["assoc_expand_once", "autocd", "cdable_vars", "cdspell", "checkhash", "checkjobs", "checkwinsize", "cmdhist",
    "compat31", "compat32", "compat40", "compat41", "compat42", "compat43", "compat44", "complete_fullquote",
    "direxpand", "dirspell", "dotglob", "execfail", "expand_aliases", "extdebug", "extglob", "extquote", "failglob",
    "force_fignore", "globasciiranges", "globskipdots", "globstar", "gnu_errfmt", "histappend", "histreedit",
    "histverify", "hostcomplete", "huponexit", "inherit_errexit", "interactive_comments", "lastpipe", "lithist",
    "localvar_inherit", "localvar_unset", "login_shell", "mailwarn", "no_empty_cmd_completion", "nocaseglob",
    "nocasematch", "noexpand_translation", "nullglob", "patsub_replacement", "progcomp", "progcomp_alias", "promptvars",
    "restricted_shell", "shift_verbose", "sourcepath", "varredir_close", "xpg_echo"]

def standing : List String :=
  ["interactive-comments", "checkwinsize", "cmdhist", "complete_fullquote", "extquote", "force_fignore",
    "globasciiranges", "globskipdots", "hostcomplete", "interactive_comments", "patsub_replacement", "progcomp",
    "promptvars", "sourcepath"]

def switch (on : Bool) (letter : Char) (s : Shell) : Shell :=
  let others := s.options.filter (· ≠ letter)
  { s with options := if on then letter :: others else others }

theorem mem_switch {on : Bool} {letter c : Char} {s : Shell} :
    c ∈ (s.switch on letter).options ↔ if c = letter then on = true else c ∈ s.options := by
  cases on <;> by_cases h : c = letter <;> simp [switch, h]

def switchNamed (on : Bool) (name : String) (s : Shell) : Shell :=
  let others := s.named.filter (· ≠ name)
  { s with named := if on then name :: others else others }

def switchBy? (rich on : Bool) (name : String) : Option (Shell → Shell) :=
  match (letterNames rich).find? fun o => o.1 = name with
  | some (_, letter) => some (switch on letter)
  | none => if rich ∧ bareNames.contains name then some (switchNamed on name) else none

/-- Why options cannot be used. -/
inductive SwitchFault where
  | letter (c : Char)
  | name (text : String)

/-- The change that the options before the operands ask for, and the operands, if there are any or two hyphens stand
before them. -/
def switches (rich : Bool) (letters : List Char) :
    List String → Except SwitchFault ((Shell → Shell) × Option (List String))
  | [] => .ok (id, none)
  | arg :: rest =>
    match arg.toList with
    | ['-', '-'] => .ok (id, some rest)
    | ['-'] => .ok (id, if rest = [] then none else some rest)
    | sign :: names =>
      if (sign = '-' ∨ sign = '+') ∧ names ≠ [] then
        let on := sign = '-'
        let own := names.filter (· ≠ 'o')
        let change (s : Shell) : Shell := own.foldl (fun s c => switch on c s) s
        match own.find? (!letters.contains ·) with
        | some c => .error (.letter c)
        | none =>
          if own.length = names.length then
            (switches rich letters rest).map fun r => (r.1 ∘ change, r.2)
          else
            match rest with
            | [] => .ok (change, none)
            | name :: rest =>
              match switchBy? rich on name with
              | some named => (switches rich letters rest).map fun r => (r.1 ∘ named ∘ change, r.2)
              | none => .error (.name name)
      else .ok (id, some (arg :: rest))
    | [] => .ok (id, some (arg :: rest))

/-- Writes text. -/
def tell (text : String) : Running Nat := put (Utf8.encode text)

/-- How the commands of a rich shell are used, as it tells where one is used in another way. -/
def usages : List (String × String) :=
  [(".", ". filename [arguments]"), ("source", "source filename [arguments]"),
    ("cd", "cd [-L|[-P [-e]] [-@]] [dir]"), ("command", "command [-pVv] command [arg ...]"),
    ("declare", "declare [-aAfFgiIlnrtux] [name[=value] ...] or declare -p [-aAfFilnrtux] [name ...]"),
    ("typeset", "typeset [-aAfFgiIlnrtux] name[=value] ... or typeset -p [-aAfFilnrtux] [name ...]"),
    ("local", "local [option] name[=value] ..."), ("eval", "eval [arg ...]"),
    ("exec", "exec [-cl] [-a name] [command [argument ...]] [redirection ...]"),
    ("export", "export [-fn] [name[=value] ...] or export -p"), ("getopts", "getopts optstring name [arg ...]"),
    ("kill", "kill [-s sigspec | -n signum | -sigspec] pid | jobspec ... or kill -l [sigspec]"),
    ("mapfile",
      "mapfile [-d delim] [-n count] [-O origin] [-s count] [-t] [-u fd] [-C callback] [-c quantum] [array]"),
    ("readarray",
      "readarray [-d delim] [-n count] [-O origin] [-s count] [-t] [-u fd] [-C callback] [-c quantum] [array]"),
    ("printf", "printf [-v var] format [arguments]"), ("pwd", "pwd [-LP]"),
    ("read",
      "read [-ers] [-a array] [-d delim] [-i text] [-n nchars] [-N nchars] [-p prompt] [-t timeout] [-u fd] [name ...]"),
    ("readonly", "readonly [-aAf] [name[=value] ...] or readonly -p"),
    ("set", "set [-abefhkmnptuvxBCEHPT] [-o option-name] [--] [-] [arg ...]"),
    ("shopt", "shopt [-pqsu] [-o] [optname ...]"), ("trap", "trap [-lp] [[arg] signal_spec ...]"),
    ("umask", "umask [-p] [-S] [mode]"), ("unset", "unset [-f] [-v] [-n] [name ...]"),
    ("unalias", "unalias [-a] name [name ...]"), ("wait", "wait [-fn] [-p var] [id ...]")]

def usage : Running String := do
  let topic := (← get).topic
  pure (topic ++ ": usage: " ++ ((usages.find? fun u => u.1 = topic).map (·.2)).getD topic)

/-- Tells of an option that the command which runs does not have, in a rich shell with its usage. -/
def complainOfOption (text : String) : Running Unit := do
  let usage ← usage
  complainAs ("Illegal option " ++ text) (text ++ ": invalid option\n" ++ usage)

/-- An option that is not known: it is a misuse, and where a command is a special one, the end of a plain shell. -/
def badOption (isSpecial : Bool) (text : String) : Running Nat := do
  complainOfOption text
  if isSpecial ∧ !(← get).rich then abandon else pure misuse

/-- The first option of some arguments that is none of those which are known. -/
def badOption? (letters : String) (options : List String) : Option String :=
  (options.flatMap fun a => (a.toList.drop 1).filter (!letters.toList.contains ·)).head?.map fun c =>
    String.ofList ['-', c]

def notName (text : String) : String := "\x60" ++ text ++ "': not a valid identifier"

def listOptions : Running Nat := do
  let s ← get
  let shown (name : String) (on : Bool) : String :=
    let gap := String.ofList (List.replicate ((if s.rich then 15 else 16) - name.length) ' ')
    name ++ gap ++ (if s.rich then "\t" else "") ++ (if on then "on\n" else "off\n")
  let lettered := (letterNames s.rich).map fun o => (o.1, shown o.1 (s.options.contains o.2))
  if s.rich then
    let all := lettered ++ bareNames.map fun n => (n, shown n (s.named.contains n))
    tell (String.join ((all.mergeSort fun a b => a.1 ≤ b.1).map (·.2)))
  else tell ("Current option settings\n" ++ String.join (lettered.map (·.2)))

def setOptions (args : List String) : Running Nat := do
  let s ← get
  if args = ["-o"] ∨ args = ["+o"] then listOptions
  else
    match switches s.rich (optionLetters s.rich) args with
    | .error (.letter c) => badOption true (String.ofList ['-', c])
    | .error (.name name) =>
      refuse misuse ("Illegal option -o " ++ name) (name ++ ": invalid option name")
    | .ok (change, operands) => do
      modify change
      if let some parameters := operands then modify fun s => { s with parameters }
      pure 0

def complainOfUnknown (names : List String) : Running Unit := do
  for name in names do complain (name ++ ": invalid shell option name")

def setHabits (args : List String) : Running Nat := do
  let (letters, names) := args.span fun a => a.toList.head? = some '-'
  let has (c : Char) : Bool := letters.any fun a => a.toList.contains c
  let isKnown (name : String) : Bool :=
    if has 'o' then bareNames.contains name || (letterNames true).any fun o => o.1 = name else habits.contains name
  let isOn (s : Shell) (name : String) : Bool :=
    s.named.contains name || (letterNames true).any fun o => o.1 = name && s.options.contains o.2
  if let some option := badOption? "suqpo" letters then badOption false option
  else if has 's' ∨ has 'u' then
    for name in names.filter isKnown do
      modify (if has 'o' then (switchBy? true (has 's') name).getD id else switchNamed (has 's') name)
    complainOfUnknown (names.filter (!isKnown ·))
    pure (if names.all isKnown then 0 else 1)
  else
    let s ← get
    let shown (name : String) : String :=
      let state := if isOn s name then "on" else "off"
      if has 'p' ∧ has 'o' then "set " ++ (if isOn s name then "-o " else "+o ") ++ name ++ "\n"
      else if has 'p' then "shopt -" ++ (if isOn s name then "s " else "u ") ++ name ++ "\n"
      else name ++ String.ofList (List.replicate (15 - name.length) ' ') ++ "\t" ++ state ++ "\n"
    if !has 'q' then
      let _ ← tell (String.join (((if names = [] then habits else names).filter isKnown).map shown))
    complainOfUnknown (names.filter (!isKnown ·))
    pure (if names.all fun n => isKnown n && isOn s n then 0 else 1)

end SbtWorkspace.Simulation.Shell
