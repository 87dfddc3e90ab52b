import SbtWorkspace.Terminal.Literal.Escape

/-! Strings with expressions in braces. A doubled brace means itself; an expression may be followed by a mark that
shows it, by a conversion and by a format, in which there may be further expressions. Main statement: a text
without braces is all literal (`literal_of_plain`). -/

namespace SbtWorkspace.Terminal.Literal

/-- Why a text is refused. A fault that is final is told as it is, wherever the text stands. -/
structure Refusal where
  fault : Fault
  isFinal : Bool := false
  deriving DecidableEq, Repr

/-- A character between quotes. -/
def between (c : Char) : String := "'" ++ String.ofList [c] ++ "'"

/-- The bracket that closes what a bracket opens. -/
def closing (opening : Char) : Char := if opening = '(' then ')' else if opening = '[' then ']' else '\x7d'

def unmatched (c : Char) : Fault := "unmatched " ++ between c

def mismatched (c opening : Char) : Fault :=
  "closing parenthesis " ++ between c ++ " does not match opening parenthesis " ++ between opening

def maxBrackets : Nat := 200

namespace Template

/-- What faults of these strings begin with. -/
def mark : String := "f-string: "

/-- Refuses a string. -/
def refuse (fault : Fault) : Except Refusal α := .error ⟨mark ++ fault, false⟩

def unclosed : Fault := "expecting '\x7d'"

/-- The literal text at the beginning, whether a doubled brace ends it, of which one is taken, and the rest. A
brace that is not doubled ends it too; in a format, braces are not doubled. -/
def literal (isRaw isFormat : Bool) : (fuel : Nat) → List Char → Except Refusal (List Char × Bool × List Char)
  | 0, cs => .ok ([], false, cs)
  | _, [] => .ok ([], false, [])
  | fuel + 1, c :: rest =>
    let more (taken rest : List Char) : Except Refusal (List Char × Bool × List Char) := do
      let (text, doubled, rest) ← literal isRaw isFormat fuel rest
      pure (taken ++ text, doubled, rest)
    let brace (taken : List Char) (c : Char) (rest : List Char) :
        Except Refusal (List Char × Bool × List Char) :=
      if !isFormat ∧ rest.head? = some c then .ok (taken ++ [c], true, rest.tail)
      else if !isFormat ∧ c = '\x7d' then refuse "single '\x7d' is not allowed"
      else .ok (taken, false, c :: rest)
    if c = '\\' ∧ !isRaw then
      match rest with
      | [] => .ok ([c], false, [])
      | 'N' :: '\x7b' :: inside =>
        let name := inside.takeWhile (· ≠ '\x7d')
        let end' := name ++ (inside.drop name.length).take 1
        more (['\\', 'N', '\x7b'] ++ end') (inside.drop end'.length)
      | 'N' :: rest => more ('\\' :: 'N' :: rest.take 1) (rest.drop 1)
      | d :: rest => if d = '\x7b' ∨ d = '\x7d' then brace ['\\'] d rest else more ['\\', d] rest
    else if c = '\x7b' ∨ c = '\x7d' then brace [] c rest
    else more [c] rest

/-- The text of an expression up to what ends it, and the rest from there on. `quote` is the quote that is open,
and whether it is tripled, and `opened` are the brackets that are open. -/
def expression : (fuel : Nat) → (quote : Option (Char × Bool)) → (opened : List Char) → List Char →
    Except Refusal (List Char × List Char)
  | 0, _, _, _ => refuse unclosed
  | _, some _, _, [] => refuse "unterminated string"
  | _, none, opening :: _, [] => refuse (unmatched opening)
  | _, none, [], [] => refuse unclosed
  | fuel + 1, quote, opened, c :: rest =>
    let more (count : Nat) (quote : Option (Char × Bool)) (opened : List Char) :
        Except Refusal (List Char × List Char) := do
      let (text, left) ← expression fuel quote opened ((c :: rest).drop count)
      pure ((c :: rest).take count ++ text, left)
    let isTripled := rest.take 2 = [c, c]
    if c = '\\' then .error ⟨"f-string expression part cannot include a backslash", false⟩
    else match quote with
    | some (q, tripled) =>
      if c ≠ q then more 1 quote opened
      else if !tripled then more 1 none opened
      else if isTripled then more 3 none opened
      else more 1 quote opened
    | none =>
      if c = '"' ∨ c = '\x27' then more (if isTripled then 3 else 1) (some (c, isTripled)) opened
      else if "([\x7b".toList.contains c then
        if maxBrackets ≤ opened.length then refuse "too many nested parenthesis" else more 1 none (c :: opened)
      else if c = '#' then .error ⟨"f-string expression part cannot include '#'", false⟩
      else if opened = [] ∧ "!:\x7d=<>".toList.contains c then
        if "!=<>".toList.contains c ∧ rest.head? = some '=' then more 2 none opened
        else if c = '<' ∨ c = '>' then more 1 none opened
        else .ok ([], c :: rest)
      else if ")]\x7d".toList.contains c then
        match opened with
        | [] => refuse (unmatched c)
        | opening :: outer =>
          if closing opening = c then more 1 none outer else refuse (mismatched c opening)
      else more 1 none opened

/-- Whether a character is a blank of an expression. -/
def isGap (c : Char) : Bool := c = ' ' || c = '\t' || c = '\n' || c = '\x0c'

/-- Whether a character is a blank. -/
def isBlank (c : Char) : Bool := c = ' ' || ('\t' ≤ c && c ≤ '\r')

def bracketed (text rest : List Char) : Except Refusal (List Char) :=
  if !text.all isGap then .ok ('(' :: text ++ [')'])
  else
    match rest with
    | c :: _ =>
      if c = '\x7d' then refuse "empty expression not allowed"
      else refuse ("expression required before " ++ between c)
    | [] => refuse unclosed

def afterShown : List Char → Except Refusal (List Char)
  | '=' :: rest =>
    match rest.dropWhile isBlank with
    | [] => refuse unclosed
    | rest => .ok rest
  | rest => .ok rest

def afterConversion : List Char → Except Refusal (List Char)
  | '!' :: [] => refuse unclosed
  | '!' :: c :: rest =>
    if c = 's' ∨ c = 'r' ∨ c = 'a' then .ok rest
    else refuse "invalid conversion character: expected 's', 'r', or 'a'"
  | rest => .ok rest

def maxDepth : Nat := 2

/-- Reads a string, or a format up to the brace that closes its field; gives what is left. -/
def parts (inner : List Char → Except Refusal Unit) (isRaw : Bool) (depth : Nat) :
    (fuel : Nat) → List Char → Except Refusal (List Char)
  | 0, cs => .ok cs
  | fuel + 1, cs => do
    let (text, doubled, rest) ← literal isRaw (depth ≠ 0) (cs.length + 1) cs
    if !isRaw then
      if let some fault := Escape.textFault? text then throw ⟨fault, false⟩
    if doubled then parts inner isRaw depth fuel rest
    else
      match rest with
      | '\x7b' :: inside => do
        if maxDepth ≤ depth then refuse "expressions nested too deeply"
        let (text, rest) ← expression (inside.length + 1) none [] inside
        inner (← bracketed text rest)
        let rest ← afterConversion (← afterShown rest)
        let rest ← match rest with
          | ':' :: [] => refuse unclosed
          | ':' :: format => parts inner isRaw (depth + 1) fuel format
          | rest => pure rest
        match rest with
        | '\x7d' :: rest => parts inner isRaw depth fuel rest
        | _ => refuse unclosed
      | [] => if depth = 0 then pure [] else refuse unclosed
      | rest => pure rest

/-- Why a string is refused, if it is. The expressions in it are read by `inner`. -/
def refusal? (inner : List Char → Except Refusal Unit) (isRaw : Bool) (cs : List Char) : Option Refusal :=
  match parts inner isRaw 0 (2 * cs.length + 2) cs with
  | .ok _ => none
  | .error r => some r

theorem literal_of_plain {cs : List Char} (isFormat : Bool)
    (h : ∀ c ∈ cs, c ≠ '\x7b' ∧ c ≠ '\x7d') :
    literal true isFormat (cs.length + 1) cs = .ok (cs, false, []) := by
  induction cs with
  | nil => rfl
  | cons c rest ih =>
    obtain ⟨ho, hc⟩ := h c (by simp)
    have hr := ih fun d hd => h d (by simp [hd])
    rw [List.length_cons, literal.eq_def]
    simp only [hr, ho, hc, Bool.not_true, Bool.false_eq_true, and_false, or_self, if_false]
    rfl

end Template

end SbtWorkspace.Terminal.Literal
