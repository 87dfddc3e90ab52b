import SbtWorkspace.Terminal.Literal.Template
import SbtWorkspace.Text.Letter
import SbtWorkspace.Text.Numeral

/-! Tokens of the expressions that parameters are written as. What belongs to no token ends them with a fault. Such
a fault counts before others, whatever the tokens before it make together. -/

namespace SbtWorkspace.Terminal.Literal

/-- What a token is. A number or a string may have a fault of its own, which counts where reading comes to it. A
text that ends between brackets ends in `unclosed`, with the bracket and its line; one that breaks off ends in
`broken`, with the bracket that is open; and `misread` stands for what belongs to no token. A fault that is found
in what follows it is told in its place where reading comes to it. -/
inductive Kind where
  | name (s : String)
  | number (isImaginary : Bool) (fault : Option Fault)
  | string (isBytes isFormatted : Bool) (refusal : Option Refusal)
  | operator (s : String)
  | newline
  | indent
  | dedent
  | finish
  | unclosed (bracket : Char) (line : Nat)
  | broken (fault : Fault) (opened : Option (Char × Nat)) (later : Option Fault)
  | misread (fault : Fault) (later : Option Fault)
  deriving DecidableEq, Repr

/-- A token, how many brackets are open after it, and the line in which it begins. -/
structure Token where
  kind : Kind
  level : Nat
  line : Nat
  deriving DecidableEq, Repr

def isNameStart (c : Char) : Bool := Letter.isNameStart c.toNat

/-- Whether a character can stand in a name, as far as its looks tell: any that is not ASCII may. -/
def mayBeInName (c : Char) : Bool := c.isAlphanum || c = '_' || 128 ≤ c.toNat

def fourDigits (n : Nat) : String :=
  let digits := (Nat.toDigits 16 n).map Char.toUpper
  String.ofList (List.replicate (4 - digits.length) '0' ++ digits)

def characterFault (c : Char) : Fault :=
  if Printable.covers c.toNat then "invalid character " ++ between c ++ " (U+" ++ fourDigits c.toNat ++ ")"
  else "invalid non-printable character U+" ++ fourDigits c.toNat

def nameFault? (cs : List Char) : Option Fault :=
  match cs with
  | [] => none
  | c :: rest =>
    if !isNameStart c then some (characterFault c)
    else (rest.find? fun c => !Letter.isNamePart c.toNat).map characterFault

/-! ### Numbers -/

/-- Digits with single low lines between them: what is left after them; `none` if a low line is not followed
by a digit. -/
def afterDigits (isDigit : Char → Bool) : List Char → Option (List Char)
  | '_' :: c :: rest => if isDigit c then afterDigits isDigit rest else none
  | ['_'] => none
  | c :: rest => if isDigit c then afterDigits isDigit rest else some (c :: rest)
  | [] => some []

/-- Whether one of the words stands here that may follow a number without a gap. -/
def isAfterNumber (cs : List Char) : Bool :=
  (["and", "else", "for", "or", "not"].any fun w =>
    w.toList.isPrefixOf cs && !((cs.drop w.length).head?.map mayBeInName).getD false) ||
  ["if", "in", "is"].any fun w => w.toList.isPrefixOf cs

def endNumber (sort : String) (rest : List Char) : Except Fault (List Char) :=
  match rest with
  | [] => .ok []
  | c :: _ =>
    if isAfterNumber rest then .ok rest
    else if mayBeInName c then .error s!"invalid {sort} literal"
    else .ok rest

/-- The rest after an exponent, or after a fraction without one, and whether the number is imaginary. -/
def exponent (rest : List Char) : Except Fault (List Char × Bool) :=
  let last (rest : List Char) : Except Fault (List Char × Bool) :=
    match rest with
    | 'j' :: rest | 'J' :: rest => do pure (← endNumber "imaginary" rest, true)
    | _ => do pure (← endNumber "decimal" rest, false)
  let digits (rest : List Char) : Except Fault (List Char × Bool) :=
    match afterDigits Char.isDigit rest with
    | some rest => last rest
    | none => .error "invalid decimal literal"
  match rest with
  | e :: more =>
    if e = 'e' ∨ e = 'E' then
      match more with
      | s :: c :: _ =>
        if s = '+' ∨ s = '-' then
          if c.isDigit then digits (more.drop 1) else .error "invalid decimal literal"
        else if s.isDigit then digits more
        else do pure (← endNumber "decimal" rest, false)
      | [c] =>
        if c.isDigit then digits more
        else if c = '+' ∨ c = '-' then .error "invalid decimal literal"
        else do pure (← endNumber "decimal" rest, false)
      | [] => do pure (← endNumber "decimal" rest, false)
    else last rest
  | [] => last rest

def fraction (rest : List Char) : Except Fault (List Char × Bool) :=
  if (rest.head?.map Char.isDigit).getD false then
    match afterDigits Char.isDigit rest with
    | some rest => exponent rest
    | none => .error "invalid decimal literal"
  else exponent rest

def inBase (sort : String) (isDigit : Char → Bool) (rest : List Char) : Except Fault (List Char) :=
  let wrong (c : Option Char) : Except Fault (List Char) :=
    match c with
    | some c =>
      if c.isDigit ∧ sort ≠ "hexadecimal" then
        .error ("invalid digit " ++ between c ++ " in " ++ sort ++ " literal")
      else .error s!"invalid {sort} literal"
    | none => .error s!"invalid {sort} literal"
  let rec digits : (begun : Bool) → List Char → Except Fault (List Char)
    | false, '_' :: c :: rest => if isDigit c then digits true rest else wrong (some c)
    | true, '_' :: c :: rest => if isDigit c then digits true rest else wrong (some c)
    | false, c :: rest => if isDigit c then digits true rest else wrong (some c)
    | true, c :: rest =>
      if isDigit c then digits true rest
      else if c = '_' then wrong none
      else if c.isDigit ∧ sort ≠ "hexadecimal" then wrong (some c)
      else endNumber sort (c :: rest)
    | false, [] => wrong none
    | true, [] => .ok []
  digits false rest

/-- The rest after a number, and whether the number is imaginary. -/
def number (cs : List Char) : Except Fault (List Char × Bool) :=
  let plain (cs : List Char) : Except Fault (List Char × Bool) := do pure (← inBaseOf cs, false)
  match cs with
  | '0' :: 'x' :: _ | '0' :: 'X' :: _ | '0' :: 'o' :: _ | '0' :: 'O' :: _ | '0' :: 'b' :: _ | '0' :: 'B' :: _ =>
    plain cs
  | '.' :: rest => fraction rest
  | _ =>
    match afterDigits Char.isDigit cs with
    | none => .error "invalid decimal literal"
    | some rest =>
      let digits := (cs.take (cs.length - rest.length)).filter (· ≠ '_')
      match rest with
      | '.' :: rest => fraction rest
      | c :: _ =>
        if "eEjJ".toList.contains c then exponent rest
        else if isOld digits then oldFault
        else do pure (← endNumber "decimal" rest, false)
      | [] => if isOld digits then oldFault else .ok ([], false)
where
  /-- The rest after a number in a base that its second character names. -/
  inBaseOf (cs : List Char) : Except Fault (List Char) :=
    match cs with
    | _ :: c :: rest =>
      if c = 'x' ∨ c = 'X' then
        inBase "hexadecimal" (fun c => c.isDigit || ('a' ≤ c.toLower && c.toLower ≤ 'f')) rest
      else if c = 'o' ∨ c = 'O' then inBase "octal" (fun c => '0' ≤ c && c ≤ '7') rest
      else inBase "binary" (fun c => c = '0' || c = '1') rest
    | _ => .ok []
  /-- Whether digits begin with a zero and are not all zero. -/
  isOld (digits : List Char) : Bool := digits.head? = some '0' && digits.any (· ≠ '0')
  /-- The fault of a number that begins with a zero. -/
  oldFault : Except Fault (List Char × Bool) :=
    .error ("leading zeros in decimal integer literals are not permitted; " ++
      "use an 0o prefix for octal integers")

/-- The fault of a number that is written in too many digits, without the base of another one. -/
def digitsFault? (cs : List Char) : Option Fault :=
  let digits := cs.filter (· ≠ '_')
  if digits.all Char.isDigit ∧ digits.head? ≠ some '0' ∧ Numeral.maxDigits < digits.length then
    some (Numeral.tooManyDigits digits.length ++
      " - Consider hexadecimal for huge integer literals to avoid decimal conversion limits.")
  else none

/-! ### Strings -/

/-- The rest after a string whose opening quotes are read. If it is not closed, how many lines it goes on, and
whether it does so to the end of the text. -/
def afterString (quote : Char) (isTriple : Bool) (lines : Nat) : List Char → Except (Nat × Bool) (List Char)
  | [] => .error (lines, true)
  | '\\' :: c :: rest => afterString quote isTriple (if c = '\n' then lines + 1 else lines) rest
  | c :: rest =>
    if c = quote then
      if !isTriple then .ok rest
      else
        match rest with
        | d :: e :: rest' =>
          if d = quote ∧ e = quote then .ok rest' else afterString quote isTriple lines rest
        | _ => afterString quote isTriple lines rest
    else if c = '\n' then
      if isTriple then afterString quote isTriple (lines + 1) rest else .error (lines, false)
    else afterString quote isTriple lines rest

structure StringSort where
  isBytes : Bool
  isFormatted : Bool
  isRaw : Bool

def stringSort? (letters : List Char) : Option StringSort :=
  let small := String.ofList (letters.map Char.toLower)
  let isRaw := small.toList.contains 'r'
  if ["", "r", "u"].contains small then some ⟨false, false, isRaw⟩
  else if ["b", "br", "rb"].contains small then some ⟨true, false, isRaw⟩
  else if ["f", "fr", "rf"].contains small then some ⟨false, true, isRaw⟩
  else none

def StringSort.refusal? (inner : List Char → Except Refusal Unit) (sort : StringSort) (cs : List Char) :
    Option Refusal :=
  if sort.isFormatted then Template.refusal? inner sort.isRaw cs
  else if sort.isBytes then (Escape.bytesFault? sort.isRaw cs).map (⟨·, false⟩)
  else if sort.isRaw || !cs.contains '\\' then none
  else (Escape.textFault? cs).map (⟨·, false⟩)

/-! ### Lines -/

/-- The blanks at the beginning of a line: their width, with tabs up to the next multiple of eight and with tabs
of one, and the width before the first back slash that joins lines. -/
structure Margin where
  wide : Nat := 0
  narrow : Nat := 0
  held : Nat := 0
  line : Nat

def margin (m : Margin) : List Char → Margin × List Char
  | ' ' :: rest => margin { m with wide := m.wide + 1, narrow := m.narrow + 1 } rest
  | '\t' :: rest => margin { m with wide := (m.wide / 8 + 1) * 8, narrow := m.narrow + 1 } rest
  | '\x0c' :: rest => margin { m with wide := 0, narrow := 0 } rest
  | '\\' :: '\n' :: c :: rest =>
    margin { m with held := if m.held = 0 then m.wide else m.held, line := m.line + 1 } (c :: rest)
  | rest => (m, rest)
termination_by cs => cs.length

/-- The place that the tokens are read at: the line, the brackets that are open with their lines, the margins of
the lines that enclose this one, whether a line begins here, and whether it has no tokens. -/
structure Place where
  line : Nat := 1
  opened : List (Char × Nat) := []
  margins : List (Nat × Nat) := [(0, 0)]
  isStart : Bool := true
  isBlank : Bool := false

def maxMargins : Nat := 100

/-- The margins when a line begins with another one, and the tokens that tell of it; or the fault of a margin. -/
def Place.atMargin (p : Place) (m : Margin) : Except Fault (List (Nat × Nat) × List Kind) :=
  let wide := if m.held = 0 then m.wide else m.held
  let narrow := if m.held = 0 then m.narrow else m.held
  let tabs : Except Fault (List (Nat × Nat) × List Kind) :=
    .error "inconsistent use of tabs and spaces in indentation"
  let (w, n) := p.margins.headD (0, 0)
  if wide = w then if narrow = n then .ok (p.margins, []) else tabs
  else if w < wide then
    if maxMargins ≤ p.margins.length then .error "too many levels of indentation"
    else if narrow ≤ n then tabs
    else .ok ((wide, narrow) :: p.margins, [.indent])
  else
    let left := p.margins.dropWhile fun o => wide < o.1
    let (w, n) := left.headD (0, 0)
    if wide ≠ w then .error "unindent does not match any outer indentation level"
    else if narrow ≠ n then tabs
    else .ok (left, List.replicate (p.margins.length - left.length) .dedent)

/-! ### All tokens -/

/-- Operators of more than one character, those of more characters first. -/
def longOperators : List String :=
  ["**=", "//=", ">>=", "<<=", "...", "**", "//", "<<", ">>", "<=", ">=", "==", "!=", "<>", "->", ":=", "+=",
    "-=", "*=", "/=", "%=", "@=", "&=", "|=", "^="]

def firstMisread? (ts : List Token) : Option Fault :=
  ts.findSome? fun t =>
    match t.kind with
    | .misread fault _ => some fault
    | _ => none

/-- The tokens of a text from a place on. The expressions in strings are read by `inner`. -/
def tokensFrom (inner : List Char → Except Refusal Unit) : (fuel : Nat) → Place → List Char → List Token
  | 0, _, _ => []
  | fuel + 1, p, cs =>
    let level := p.opened.length
    let token (kind : Kind) : Token := ⟨kind, level, p.line⟩
    let go (p : Place) (rest : List Char) : List Token := tokensFrom inner fuel p rest
    let add (kind : Kind) (rest : List Char) : List Token := token kind :: go p rest
    let misread (fault : Fault) : List Token := [token (.misread fault none)]
    if p.isStart then
      let (m, rest) := margin { line := p.line } cs
      let p := { p with line := m.line, isStart := false }
      let isBlank := rest.head? = some '#' || rest.head? = some '\n'
      if isBlank ∨ level ≠ 0 ∨ rest.head? = some '\\' then go { p with isBlank } rest
      else
        match p.atMargin m with
        | .error fault => [token (.broken fault none none)]
        | .ok (margins, kinds) => kinds.map token ++ go { p with margins, isBlank } rest
    else
    let string (sort : StringSort) (quote : Char) (rest : List Char) : List Token :=
      let isTriple := rest.take 2 = [quote, quote]
      let text := if isTriple then rest.drop 2 else rest
      match afterString quote isTriple 0 text with
      | .ok left =>
        let text := text.take (text.length - left.length - if isTriple then 3 else 1)
        token (.string sort.isBytes sort.isFormatted (sort.refusal? inner text)) ::
          go { p with line := p.line + text.count '\n' } left
      | .error (lines, isLast) =>
        let sort := if isTriple then "triple-quoted string" else "string"
        [token (.misread s!"unterminated {sort} literal (detected at line {p.line + lines})"
          (if isLast then firstMisread? (go p rest) else none))]
    let named (run left : List Char) : List Token :=
      match nameFault? run with
      | some fault => misread fault
      | none => add (.name (String.ofList run)) left
    match cs with
    | [] =>
      match p.opened with
      | (bracket, line) :: _ => [token (.unclosed bracket line)]
      | [] => [token .newline, token .finish]
    | c :: rest =>
      if c = ' ' ∨ c = '\t' ∨ c = '\x0c' then go p rest
      else if c = '#' then go p (rest.dropWhile (· ≠ '\n'))
      else if c = '\n' then
        let next := { p with line := p.line + 1, isStart := true }
        if p.isBlank ∨ level ≠ 0 then go next rest else token .newline :: go next rest
      else if c = '\\' then
        match rest with
        | '\n' :: [] =>
          match p.opened with
          | (bracket, line) :: _ => [token (.unclosed bracket line)]
          | [] => [token (.broken "unexpected EOF while parsing" none none)]
        | '\n' :: rest => go { p with line := p.line + 1 } rest
        | _ =>
          let line := (rest.drop 1).takeWhile (· ≠ '\n')
          [token (.broken "unexpected character after line continuation character" p.opened.head?
            (firstMisread? (go p line)))]
      else if c.isDigit ∨ (c = '.' ∧ (rest.head?.map Char.isDigit).getD false) then
        match number cs with
        | .error fault => misread fault
        | .ok (left, isImaginary) =>
          add (.number isImaginary (digitsFault? (cs.take (cs.length - left.length)))) left
      else if c = '"' ∨ c = '\x27' then string ⟨false, false, false⟩ c rest
      else if mayBeInName c then
        let run := cs.takeWhile mayBeInName
        let left := cs.drop run.length
        match stringSort? run, left with
        | some sort, quote :: inside =>
          if quote = '"' ∨ quote = '\x27' then string sort quote inside else named run left
        | _, _ => named run left
      else if "([\x7b".toList.contains c then
        if maxBrackets ≤ level then misread "too many nested parentheses"
        else
          ⟨.operator (String.ofList [c]), level + 1, p.line⟩ ::
            go { p with opened := (c, p.line) :: p.opened } rest
      else if ")]\x7d".toList.contains c then
        match p.opened with
        | [] => misread (unmatched c)
        | (bracket, begun) :: outer =>
          if closing bracket = c then
            ⟨.operator (String.ofList [c]), level - 1, p.line⟩ :: go { p with opened := outer } rest
          else misread (mismatched c bracket ++ if begun = p.line then "" else " on line " ++ toString begun)
      else
        match longOperators.find? fun o => o.toList.isPrefixOf cs with
        | some o => add (.operator o) (cs.drop o.length)
        | none =>
          if Printable.covers c.toNat then add (.operator (String.ofList [c])) rest
          else misread (characterFault c)

def tokens (inner : List Char → Except Refusal Unit) (cs : List Char) : List Token :=
  tokensFrom inner (2 * cs.length + 3) {} cs

end SbtWorkspace.Terminal.Literal
