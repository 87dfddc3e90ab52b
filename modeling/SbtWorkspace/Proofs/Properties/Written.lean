import SbtWorkspace.Text.CodePoint

/-! # Entries as they may be written

The format of a properties file, as a relation between entries and texts. A writer is free in many ways:
what it escapes by number, how it indents, separates and ends lines, and what it puts between the
entries. The relation leaves all of that open, and says nothing of how such a text is read. -/

namespace SbtWorkspace.Properties

/-- The code points that indent a line and stand around a separator. -/
def gaps : List CodePoint := [' ', '\t', '\x0c']

def specials : List CodePoint := ['\\', ' ', '=', ':', '#', '!']

def letters : List (CodePoint × CodePoint) := [('\t', 't'), ('\n', 'n'), ('\r', 'r'), ('\x0c', 'f')]

def IsDigitOf (digit : Char) (value : Nat) : Prop :=
  "0123456789abcdef".toList[value]? = some digit ∨ "0123456789ABCDEF".toList[value]? = some digit

inductive WrittenPoint : CodePoint → Text → Prop where
  | plain {c : CodePoint} : c ∉ specials → c ∉ letters.map (·.1) → WrittenPoint c [c]
  | escaped {c : CodePoint} : c ∈ specials → WrittenPoint c [.scalar '\\', c]
  | letter {c l : CodePoint} : (c, l) ∈ letters → WrittenPoint c [.scalar '\\', l]
  | number {c : CodePoint} {d₃ d₂ d₁ d₀ : Char} {v₃ v₂ v₁ v₀ : Nat} :
      IsDigitOf d₃ v₃ → IsDigitOf d₂ v₂ → IsDigitOf d₁ v₁ → IsDigitOf d₀ v₀ →
      c.val = v₃ * 4096 + v₂ * 256 + v₁ * 16 + v₀ →
      WrittenPoint c [.scalar '\\', .scalar 'u', .scalar d₃, .scalar d₂, .scalar d₁, .scalar d₀]

/-- A key or a value, as it may be written: one code point after the other. -/
inductive WrittenText : Text → Text → Prop where
  | nil : WrittenText [] []
  | cons {c : CodePoint} {t u w : Text} :
      WrittenPoint c u → WrittenText t w → WrittenText (c :: t) (u ++ w)

def IsGaps (t : Text) : Prop := ∀ c ∈ t, c ∈ gaps

/-- What stands between a key and a value: gaps around at most one mark. It may be empty only before an
empty value, and it needs its mark after an empty key. -/
inductive Separates (key value : Text) : Text → Prop where
  | marked {before after : Text} {mark : CodePoint} :
      IsGaps before → mark = '=' ∨ mark = ':' → IsGaps after →
      Separates key value (before ++ mark :: after)
  | unmarked {between : Text} :
      IsGaps between → key ≠ [] → (value ≠ [] → between ≠ []) → Separates key value between

/-- A line without its end, and its entry if it has one. A comment may hold anything but a line end. -/
inductive WrittenLine : List (Text × Text) → Text → Prop where
  | entry {indent key writtenKey separator value writtenValue : Text} :
      IsGaps indent → WrittenText key writtenKey → Separates key value separator →
      WrittenText value writtenValue →
      WrittenLine [(key, value)] (indent ++ writtenKey ++ separator ++ writtenValue)
  | blank {indent : Text} : IsGaps indent → WrittenLine [] indent
  | comment {indent rest : Text} {mark : CodePoint} :
      IsGaps indent → mark = '#' ∨ mark = '!' → .scalar '\n' ∉ rest → .scalar '\r' ∉ rest →
      WrittenLine [] (indent ++ mark :: rest)

def lineEnds : List Text :=
  [[.scalar '\n'], [.scalar '\r', .scalar '\n'], [.scalar '\r']]

/-- A text of lines. The last one may lack its end. -/
inductive Written : List (Text × Text) → Text → Prop where
  | last {entries : List (Text × Text)} {line : Text} :
      WrittenLine entries line → Written entries line
  | line {entries more : List (Text × Text)} {line ending rest : Text} :
      WrittenLine entries line → ending ∈ lineEnds → Written more rest →
      Written (entries ++ more) (line ++ ending ++ rest)

/-- The value that a key has in the end: that of its last entry. -/
def LastValue (entries : List (Text × Text)) (key value : Text) : Prop :=
  ∃ before after, entries = before ++ (key, value) :: after ∧ ∀ e ∈ after, e.1 ≠ key

end SbtWorkspace.Properties
