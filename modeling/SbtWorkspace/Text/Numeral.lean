/-! Decimal numerals. A numeral of more than 4300 digits is refused, wherever it stands. -/

namespace SbtWorkspace.Numeral

def maxDigits : Nat := 4300

/-- The number that digits write in a base, the first one being the most significant. -/
def ofDigits (base : Nat) (digits : List Nat) : Nat := digits.foldl (fun n d => base * n + d) 0

def tooManyDigits (count : Nat) : String :=
  s!"Exceeds the limit ({maxDigits} digits) for integer string conversion: value has {count} digits; "
    ++ "use sys.set_int_max_str_digits() to increase the limit"

/-- The wording for a text that is no numeral, given in its quoted form. -/
def notANumeral (quoted : String) : String := "invalid literal for int() with base 10: " ++ quoted

theorem ofDigits_concat (base : Nat) (digits : List Nat) (d : Nat) :
    ofDigits base (digits ++ [d]) = base * ofDigits base digits + d := by
  simp [ofDigits]

end SbtWorkspace.Numeral
