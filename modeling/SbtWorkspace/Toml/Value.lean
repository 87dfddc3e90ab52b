/-! TOML values and tables. A table keeps the order in which its keys were first written. -/

namespace SbtWorkspace.Toml

/-- A floating-point number as it is written: a decimal mantissa and exponent, or a special value. -/
inductive Decimal where
  | finite (negative : Bool) (mantissa : Nat) (exponent : Int)
  | infinite
  | notNumber
  deriving DecidableEq, Repr

/-- A value. Of dates and times only their being one is kept. -/
inductive Value where
  | string (s : String)
  | boolean (b : Bool)
  | integer (n : Int)
  | decimal (d : Decimal)
  | moment
  | array (items : List Value)
  | table (entries : List (String × Value))

abbrev Table := List (String × Value)

abbrev Key := List String

namespace Table

def get? (t : Table) (key : String) : Option Value := (t.find? fun e => e.1 = key).map (·.2)

/-- The table with the value of a key replaced in its place, or added at the end. -/
def set (t : Table) (key : String) (value : Value) : Table :=
  if t.any fun e => e.1 = key then t.map fun e => if e.1 = key then (key, value) else e
  else t ++ [(key, value)]

end Table

end SbtWorkspace.Toml
