/-! Expressions, as far as it matters which values they stand for. -/

namespace SbtWorkspace.Terminal.Literal

/-- A form of expression that stands for no value of its own. -/
inductive Form where
  | member
  | call
  | operation
  | logical
  | conditional
  | function
  | generator
  | setComprehension
  | dictionaryComprehension
  | formatted
  | await
  | yield
  | assignment
  deriving DecidableEq, Repr

/-- An expression, as far as it matters which value it stands for. -/
inductive Expr where
  | name (s : String)
  | constant (s : String)
  | number (isImaginary : Bool)
  | signed (isImaginary : Bool)
  | complex
  | text (isBytes : Bool)
  | ellipsis
  | tuple (items : List Expr)
  | set (items : List Expr)
  | dictionary (entries : List (Option Expr × Expr))
  | emptySet
  | comparison (isMembership : Bool) (left : Expr)
  | starred (e : Expr)
  | form (f : Form)

def Form.wording : Form → String
  | member => "attribute"
  | call => "function call"
  | operation | logical => "expression"
  | conditional => "conditional expression"
  | function => "lambda"
  | generator => "generator expression"
  | setComprehension => "set comprehension"
  | dictionaryComprehension => "dict comprehension"
  | formatted => "f-string expression"
  | await => "await expression"
  | yield => "yield expression"
  | assignment => "named expression"

namespace Expr

def wording : Expr → String
  | name _ => "name"
  | constant s => s
  | number _ | text _ => "literal"
  | signed _ | complex => "expression"
  | ellipsis => "ellipsis"
  | tuple _ => "tuple"
  | set _ => "set display"
  | dictionary _ => "dict literal"
  | emptySet => "function call"
  | comparison .. => "comparison"
  | starred _ => "starred"
  | form f => f.wording

/-- Whether an expression is made of operands that bind more tightly than comparisons. -/
def isOperand : Expr → Bool
  | comparison .. | form .logical | form .conditional | form .function | form .assignment => false
  | _ => true

mutual

def isTarget : Expr → Bool
  | name _ | form .member => true
  | starred (starred _) => false
  | starred e => e.isTarget
  | tuple items => areTargets items
  | _ => false

def areTargets : List Expr → Bool
  | [] => true
  | e :: rest => e.isTarget && areTargets rest

end

mutual

/-- What cannot be assigned to in the variables of a comprehension that are read together with what follows
them. -/
def untargeted? : Expr → Option Expr
  | name _ | form .member | comparison false _ => none
  | comparison true left => left.untargeted?
  | starred e => e.untargeted?
  | tuple items => firstUntargeted? items
  | e => some e

def firstUntargeted? : List Expr → Option Expr
  | [] => none
  | e :: rest => e.untargeted?.or (firstUntargeted? rest)

end

end Expr

end SbtWorkspace.Terminal.Literal
