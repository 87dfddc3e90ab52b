/-! Dates and the days between them. Days are numbered from the first of January 1970 on, and the calendar is the same
for all of them. Main statement: the days of a month are as many as there are between its first and the first of the
next one (`dayNumber_succ_month`). -/

namespace SbtWorkspace.Simulation.Calendar

def isLeap (year : Int) : Bool := year % 4 = 0 && (year % 100 ≠ 0 || year % 400 = 0)

def daysIn (year : Int) (month : Nat) : Nat :=
  match month with
  | 2 => if isLeap year then 29 else 28
  | 4 | 6 | 9 | 11 => 30
  | _ => 31

def daysBefore (year : Int) : (month : Nat) → Nat
  | 0 | 1 => 0
  | month + 2 => daysBefore year (month + 1) + daysIn year (month + 1)

def daysOfYears (year : Int) : Int := 365 * (year - 1) + (year - 1) / 4 - (year - 1) / 100 + (year - 1) / 400

def dayNumber (year : Int) (month : Nat) (day : Int) : Int :=
  daysOfYears year + daysBefore year month + day - 1 - 719162

theorem dayNumber_succ_month (year : Int) (month : Nat) (h : 0 < month) :
    dayNumber year (month + 1) 1 - dayNumber year month 1 = daysIn year month := by
  obtain ⟨m, rfl⟩ : ∃ m, month = m + 1 := ⟨month - 1, by omega⟩
  simp only [dayNumber, daysBefore]
  omega

/-- A date: the year, the month and the day of the month. -/
structure Date where
  year : Int
  month : Nat
  day : Nat
  deriving DecidableEq, Repr

/-- The month and the day of a day that is so many days after the first one of its year. -/
def inYear (year : Int) : (months : Nat) → (month rest : Nat) → Nat × Nat
  | 0, month, rest => (month, rest + 1)
  | months + 1, month, rest =>
    if rest < daysIn year month then (month, rest + 1) else inYear year months (month + 1) (rest - daysIn year month)

def dateOf (number : Int) : Date :=
  let guess := (number + 719162) * 400 / 146097 + 1
  let year := if dayNumber guess 1 1 ≤ number then
      (if dayNumber (guess + 1) 1 1 ≤ number then guess + 1 else guess) else guess - 1
  let (month, day) := inYear year 11 1 (number - dayNumber year 1 1).toNat
  ⟨year, month, day⟩

def weekday (number : Int) : Nat := ((number + 4) % 7).toNat

def dayOfYear (d : Date) : Nat := daysBefore d.year d.month + d.day

/-- The number of the week of a date, where weeks begin on Sunday or on another day. -/
def weekOf (first : Nat) (d : Date) : Nat :=
  let w := weekday (dayNumber d.year d.month d.day)
  (dayOfYear d + 6 - (w + 7 - first) % 7) / 7

/-- The year and the number of the week of a date, where a week belongs to the year of its Thursday. -/
def isoWeek (d : Date) : Int × Nat :=
  let number := dayNumber d.year d.month d.day
  let thursday := number + 3 - ((weekday number + 6) % 7 : Nat)
  let t := dateOf thursday
  (t.year, (dayOfYear t - 1) / 7 + 1)

def months : List String :=
  ["January", "February", "March", "April", "May", "June", "July", "August", "September", "October", "November",
    "December"]

def weekdays : List String := ["Sunday", "Monday", "Tuesday", "Wednesday", "Thursday", "Friday", "Saturday"]

end SbtWorkspace.Simulation.Calendar
