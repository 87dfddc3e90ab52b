import SbtWorkspace.Simulation.Binary
import SbtWorkspace.Simulation.Calendar
import SbtWorkspace.Simulation.Permission
import SbtWorkspace.Simulation.Utility.Outcome

/-! The program that tells times. A time is read from words and numbers, and written by a format. All times are in
the zone without an offset. -/

namespace SbtWorkspace.Simulation.Utility.Clock

abbrev Time := Int

/-- A second. -/
def second : Int := 1000000000

/-- A token of a time. A number keeps its sign and its count of digits. -/
inductive Token where
  | number (sign : Option Char) (n digits : Nat)
  | fraction (nanos : Nat)
  | word (cs : List Char)
  | symbol (c : Char)
  deriving DecidableEq

def nanos (ds : List Char) : Nat :=
  ((ds ++ List.replicate 9 '0').take 9).foldl (fun n c => n * 10 + (c.toNat - 48)) 0

def afterComment : (depth : Nat) → List Char → List Char
  | _, [] => []
  | depth, '(' :: rest => afterComment (depth + 1) rest
  | 0, rest => rest
  | depth + 1, ')' :: rest => if depth = 0 then rest else afterComment depth rest
  | depth, _ :: rest => afterComment depth rest

def tokens : (fuel : Nat) → List Char → List Token
  | 0, _ => []
  | _, [] => []
  | fuel + 1, c :: rest =>
    let number (sign : Option Char) (cs : List Char) : List Token :=
      let ds := cs.takeWhile Char.isDigit
      let n := ds.foldl (fun n c => n * 10 + (c.toNat - 48)) 0
      let after := cs.drop ds.length
      let places := match after with
        | '.' :: more | ',' :: more => more.takeWhile Char.isDigit
        | _ => []
      .number sign n ds.length ::
        (if places = [] then tokens fuel after
        else .fraction (nanos places) :: tokens fuel (after.drop (places.length + 1)))
    if c.isDigit then number none (c :: rest)
    else if c = '-' ∨ c = '+' then
      let rest := rest.dropWhile (· = ' ')
      if rest.head?.any Char.isDigit then number (some c) rest else if c = '-' then tokens fuel rest else
        .symbol c :: tokens fuel rest
    else if c.isAlpha then
      let letters := (c :: rest).takeWhile fun c => c.isAlpha || c = '.'
      .word ((letters.filter (· ≠ '.')).map Char.toLower) :: tokens fuel ((c :: rest).drop letters.length)
    else if c = '(' then tokens fuel (afterComment 0 (c :: rest))
    else if c = ' ' ∨ ('\t' ≤ c ∧ c ≤ '\r') then tokens fuel rest
    else .symbol c :: tokens fuel rest

/-- What words ask to be added. -/
structure Shift where
  years : Int := 0
  months : Int := 0
  days : Int := 0
  nanos : Int := 0

/-- What has been read of a time, and how often each part of it was given. -/
structure Parts where
  date : Option (Int × Nat × Nat) := none
  hasYear : Bool := false
  dates : Nat := 0
  time : Int := 0
  times : Nat := 0
  weekday : Option (Int × Nat) := none
  weekdays : Nat := 0
  zone : Int := 0
  zones : Nat := 0
  shift : Shift := {}
  shifts : Nat := 0

def yearOf (n digits : Nat) : Int := if digits = 2 then (if n < 69 then n + 2000 else n + 1900) else n

def placeOf? (names : List String) (word : List Char) : Option Nat :=
  names.findIdx? fun name =>
    let name := name.toList.map Char.toLower
    word = name || (word = name.take 3) || (name = "september".toList && word = "sept".toList) ||
      (name = "tuesday".toList && word = "tues".toList) || (name = "wednesday".toList && word = "wednes".toList) ||
      (name = "thursday".toList && (word = "thur".toList || word = "thurs".toList))

def unit? (word : List Char) : Option Shift :=
  let stem := if word.getLast? = some 's' ∧ 1 < word.length then word.dropLast else word
  match String.ofList stem with
  | "year" => some { years := 1 }
  | "month" => some { months := 1 }
  | "fortnight" => some { days := 14 }
  | "week" => some { days := 7 }
  | "day" => some { days := 1 }
  | "hour" => some { nanos := 3600 * second }
  | "minute" | "min" => some { nanos := 60 * second }
  | "second" | "sec" => some { nanos := second }
  | _ => none

def Shift.times (s : Shift) (k : Int) : Shift := ⟨s.years * k, s.months * k, s.days * k, s.nanos * k⟩

def Shift.plus (s t : Shift) : Shift :=
  ⟨s.years + t.years, s.months + t.months, s.days + t.days, s.nanos + t.nanos⟩

def ordinal? (word : List Char) : Option Int :=
  match String.ofList word with
  | "last" => some (-1)
  | "this" => some 0
  | "next" | "first" => some 1
  | "third" => some 3
  | "fourth" => some 4
  | "fifth" => some 5
  | "sixth" => some 6
  | "seventh" => some 7
  | "eighth" => some 8
  | "ninth" => some 9
  | "tenth" => some 10
  | "eleventh" => some 11
  | "twelfth" => some 12
  | _ => none

def zone? (word : List Char) : Option Int :=
  match String.ofList word with
  | "gmt" | "ut" | "utc" | "wet" | "z" => some 0
  | "west" | "bst" | "cet" | "met" | "a" => some 60
  | "cest" | "mest" | "eet" | "sast" | "b" => some 120
  | "eest" | "eat" | "msk" | "c" => some 180
  | "msd" | "d" => some 240
  | "e" => some 300
  | "ist" => some 330
  | "f" => some 360
  | "g" => some 420
  | "sgt" | "h" => some 480
  | "jst" | "i" | "kst" => some 540
  | "gst" | "k" => some 600
  | "l" => some 660
  | "nzst" | "m" => some 720
  | "nzdt" => some 780
  | "n" => some (-60)
  | "o" => some (-120)
  | "brt" | "art" | "clst" | "p" | "adt" => some (-180)
  | "ast" | "clt" | "edt" | "q" => some (-240)
  | "est" | "cdt" | "r" => some (-300)
  | "cst" | "mdt" | "s" => some (-360)
  | "mst" | "pdt" | "t" => some (-420)
  | "pst" | "akdt" | "u" => some (-480)
  | "akst" | "hadt" | "v" => some (-540)
  | "hst" | "w" => some (-600)
  | "sst" | "x" => some (-660)
  | "y" => some (-720)
  | _ => none

/-- The hour of a clock with half a day; `none` if there is no such hour. -/
def hourOf? (hour : Nat) (half : Option Bool) : Option Nat :=
  match half with
  | none => if hour < 24 then some hour else none
  | some isAfternoon =>
    if hour = 12 then some (if isAfternoon then 12 else 0)
    else if 0 < hour ∧ hour < 12 then some (if isAfternoon then hour + 12 else hour)
    else none

def half? : Token → Option Bool
  | .word ['a', 'm'] => some false
  | .word ['p', 'm'] => some true
  | _ => none

/-- The offset of a zone that is written as a number with a sign, in minutes; and the rest. -/
def offset? : List Token → Option (Int × List Token)
  | .number (some sign) n digits :: rest =>
    let signed (k : Int) : Int := if sign = '-' then -k else k
    match rest with
    | .symbol ':' :: .number none m _ :: rest =>
      if digits ≤ 2 ∧ n ≤ 24 ∧ m < 60 then some (signed (n * 60 + m : Nat), rest) else none
    | _ =>
      if digits ≤ 2 then (if n ≤ 24 then some (signed (n * 60 : Nat), rest) else none)
      else if n / 100 ≤ 24 ∧ n % 100 < 60 then some (signed (n / 100 * 60 + n % 100 : Nat), rest)
      else none
  | _ => none

def withTime (p : Parts) (hour minute second_ nano : Nat) (rest : List Token) : Option (Parts × List Token) := do
  let half := (rest.head?).bind half?
  let rest := if half.isSome then rest.tail else rest
  let hour ← hourOf? hour half
  if 60 ≤ minute ∨ 60 ≤ second_ then none
  let time : Int := ((hour * 60 + minute) * 60 + second_ : Nat) * second + nano
  let p := { p with time, times := p.times + 1 }
  match rest with
  | .number (some _) _ _ :: below =>
    match below with
    | .word w :: _ =>
      if (unit? w).isSome then pure (p, rest)
      else do
        let (zone, rest) ← offset? rest
        pure ({ p with zone := p.zone + zone, zones := p.zones + 1 }, rest)
    | _ => do
      let (zone, rest) ← offset? rest
      pure ({ p with zone := p.zone + zone, zones := p.zones + 1 }, rest)
  | _ => pure (p, rest)

def withDate (p : Parts) (year : Option Int) (month day : Nat) : Option Parts :=
  some { p with date := some (year.getD 1970, month, day), hasYear := year.isSome, dates := p.dates + 1 }

/-- Adds what a word asks to be added, or the opposite of it where a word says so. -/
def withShift (p : Parts) (s : Shift) (rest : List Token) : Parts × List Token :=
  match rest with
  | .word ['a', 'g', 'o'] :: rest => ({ p with shift := p.shift.plus (s.times (-1)), shifts := p.shifts + 1 }, rest)
  | _ => ({ p with shift := p.shift.plus s, shifts := p.shifts + 1 }, rest)

/-- Reads one part of a time. -/
def part (p : Parts) (ts : List Token) : Option (Parts × List Token) :=
  match ts with
  | .number none h _ :: .symbol ':' :: .number none m _ :: .symbol ':' :: .number none s _ :: .fraction f :: rest =>
    withTime p h m s f rest
  | .number none h _ :: .symbol ':' :: .number none m _ :: .symbol ':' :: .number none s _ :: rest =>
    withTime p h m s 0 rest
  | .number none h _ :: .symbol ':' :: .number none m _ :: rest => withTime p h m 0 0 rest
  | .number none a d :: .symbol '/' :: .number none b _ :: .symbol '/' :: .number none c e :: rest =>
    (if 4 ≤ d then withDate p (some (yearOf a d)) b c else withDate p (some (yearOf c e)) a b).map (·, rest)
  | .number none a _ :: .symbol '/' :: .number none b _ :: rest => (withDate p none a b).map (·, rest)
  | .number none y d :: .number (some '-') m _ :: .number (some '-') day _ :: rest => do
    let p ← withDate p (some (yearOf y d)) m day
    match rest with
    | .word ['t'] :: (.number none h hd) :: more =>
      if more.head? = some (.symbol ':') ∨ hd ≤ 2 then pure (p, .number none h hd :: more) else pure (p, rest)
    | _ => pure (p, rest)
  | .number sign n d :: .word w :: rest =>
    match unit? w, placeOf? Calendar.months w, half? (.word w), sign with
    | some s, _, _, sign => some (withShift p (s.times (if sign = some '-' then -(n : Int) else n)) rest)
    | none, some month, _, none =>
      match rest with
      | .number (some '-') y e :: rest => (withDate p (some (yearOf y e)) (month + 1) n).map (·, rest)
      | .number none y e :: more =>
        if more.head? = some (.symbol ':') then (withDate p none (month + 1) n).map (·, rest)
        else (withDate p (some (yearOf y e)) (month + 1) n).map (·, more)
      | _ => (withDate p none (month + 1) n).map (·, rest)
    | none, none, some _, none => withTime p n 0 0 0 (.word w :: rest)
    | _, _, _, none => plain p n d (.word w :: rest)
    | _, _, _, some _ => none
  | .number none n d :: rest => plain p n d rest
  | .word w :: rest =>
    match placeOf? Calendar.months w, placeOf? Calendar.weekdays w with
    | some month, _ =>
      match rest with
      | .number none day _ :: .symbol ',' :: .number none y e :: rest =>
        (withDate p (some (yearOf y e)) (month + 1) day).map (·, rest)
      | .number none day d :: rest => if 2 < d then none else (withDate p none (month + 1) day).map (·, rest)
      | .number (some '-') day _ :: .number (some '-') y e :: rest =>
        (withDate p (some (yearOf y e)) (month + 1) day).map (·, rest)
      | _ => none
    | none, some day =>
      let rest := if rest.head? = some (.symbol ',') then rest.tail else rest
      some ({ p with weekday := some (0, day), weekdays := p.weekdays + 1 }, rest)
    | none, none =>
      match ordinal? w, rest with
      | some k, .word v :: rest =>
        match unit? v, placeOf? Calendar.weekdays v with
        | some s, _ => some (withShift p (s.times k) rest)
        | none, some day => some ({ p with weekday := some (k, day), weekdays := p.weekdays + 1 }, rest)
        | none, none => none
      | _, _ =>
        match String.ofList w with
        | "tomorrow" => some (withShift p { days := 1 } rest)
        | "yesterday" => some (withShift p { days := -1 } rest)
        | "today" | "now" => some (withShift p {} rest)
        | _ =>
          match unit? w, zone? w with
          | some s, _ => some (withShift p s rest)
          | none, some zone => some ({ p with zone := p.zone + zone, zones := p.zones + 1 }, rest)
          | none, none => none
  | _ => none
where
  /-- Adds a number that stands alone: a year, a date, an hour, or an hour with its minutes. -/
  plain (p : Parts) (n d : Nat) (rest : List Token) : Option (Parts × List Token) :=
    if p.dates ≠ 0 ∧ !p.hasYear ∧ p.shifts = 0 ∧ (p.times ≠ 0 ∨ 2 < d) then
      some ({ p with date := p.date.map fun e => (yearOf n d, e.2), hasYear := true }, rest)
    else if 4 < d then (withDate p (some (yearOf (n / 10000) (d - 4))) (n / 100 % 100) (n % 100)).map (·, rest)
    else if d ≤ 2 then withTime p n 0 0 0 rest
    else withTime p (n / 100) (n % 100) 0 0 rest

def parts : (fuel : Nat) → Parts → List Token → Option Parts
  | 0, _, _ => none
  | _, p, [] => some p
  | fuel + 1, p, ts => do
    let (p, rest) ← part p ts
    parts fuel p rest

def Parts.time? (p : Parts) (now : Time) : Option Time := do
  if 1 < p.dates ∨ 1 < p.times ∨ 1 < p.weekdays ∨ 1 < p.zones then none
  let today := now / (86400 * second)
  let (year, month, day) : Int × Nat × Nat := p.date.getD
    (let d := Calendar.dateOf today; (d.year, d.month, d.day))
  if p.dates ≠ 0 ∧ (month = 0 ∨ 12 < month ∨ day = 0 ∨ Calendar.daysIn year month < day) then none
  let total := year * 12 + ((month : Int) - 1) + p.shift.years * 12 + p.shift.months
  let number := Calendar.dayNumber (total / 12) ((total % 12).toNat + 1) day + p.shift.days
  let number := match p.weekday, p.dates with
    | some (k, wanted), 0 =>
      let here := Calendar.weekday number
      let ahead : Int := ((wanted + 7 - here) % 7 : Nat)
      number + ahead + 7 * (if 0 < k ∧ here ≠ wanted then k - 1 else k)
    | _, _ => number
  let kept := p.times = 0 ∧ p.dates = 0 ∧ p.weekdays = 0 ∧ p.shifts ≠ 0
  let time := if kept then now % (86400 * second) else p.time
  pure (number * 86400 * second + time + p.shift.nanos - p.zone * 60 * second)

def read? (now : Time) (text : String) : Option Time :=
  let cs := text.toList.dropWhile (· = ' ')
  match cs with
  | '@' :: rest =>
    match Binary.decimal? rest with
    | some (negative, n, e, []) =>
      if 0 < e ∨ rest.any fun c => c = 'e' || c = 'E' then none
      else
        let scaled : Nat := n * 1000000000 / Nat.pow 10 (-e).toNat
        let exact := scaled * Nat.pow 10 (-e).toNat = n * 1000000000
        some (if negative then -((if exact then scaled else scaled + 1 : Nat) : Int) else scaled)
    | _ => none
  | _ => (parts (cs.length + 2) {} (tokens (cs.length + 1) cs)).bind (·.time? now)

/-- How a field is filled up to its width. -/
structure Fill where
  pad : Option Char := none
  upper : Bool := false
  swap : Bool := false
  width : Option Nat := none

/-- A number in a field, which is filled with a sign of its own unless another one is wanted. -/
def Fill.number (f : Fill) (sign : Char) (width : Nat) (n : Int) : List Char :=
  let pad := f.pad.getD sign
  let ds := Nat.toDigits 10 n.natAbs
  let width := f.width.getD (if pad = '-' then 0 else width)
  let start : List Char := if n < 0 then ['-'] else []
  let gap := List.replicate (width - ds.length - start.length) (if pad = '_' then ' ' else '0')
  if pad = '-' ∧ f.width.isNone then start ++ ds else if pad = '_' then gap ++ start ++ ds else start ++ gap ++ ds

/-- A text in a field. -/
def Fill.text (f : Fill) (s : String) : List Char :=
  let cs := s.toList
  let cs := if f.upper then cs.map Char.toUpper else cs
  let cs := if f.swap then (if cs.any Char.isLower then cs.map Char.toUpper else cs.map Char.toLower) else cs
  let gap := List.replicate (f.width.getD 0 - cs.length) (if f.pad = some '0' then '0' else ' ')
  if f.pad = some '-' then cs else gap ++ cs

/-- A time as a format writes it. -/
def render (t : Time) : (fuel : Nat) → List Char → List Char
  | 0, _ => []
  | _, [] => []
  | fuel + 1, '%' :: rest =>
    let flags := rest.takeWhile "-_0^#+".toList.contains
    let after := rest.drop flags.length
    let digits := after.takeWhile Char.isDigit
    let after := after.drop digits.length
    let after := match after with
      | 'E' :: c :: more => if "cCxXyY".toList.contains c then c :: more else 'E' :: c :: more
      | 'O' :: c :: more => if "deHIlmMSuUVwWy".toList.contains c then c :: more else 'O' :: c :: more
      | _ => after
    let f : Fill := flags.foldl
      (fun f c => match c with
        | '^' => { f with upper := true }
        | '#' => { f with swap := true }
        | '+' => { f with pad := some '0' }
        | c => { f with pad := some c })
      { width := if digits = [] then none else natural? digits }
    let days := t / (86400 * second)
    let nano := t % second
    let s := t / second % 86400
    let (hour, minute, sec) : Int × Int × Int := (s / 3600, s / 60 % 60, s % 60)
    let d := Calendar.dateOf days
    let w := Calendar.weekday days
    let weekName := (Calendar.weekdays[w]?).getD ""
    let monthName := (Calendar.months[d.month - 1]?).getD ""
    let short (name : String) : String := String.ofList (name.toList.take 3)
    let twelve := if hour % 12 = 0 then 12 else hour % 12
    let (isoYear, isoNumber) := Calendar.isoWeek d
    let inner (form : String) : List Char := f.text (String.ofList (render t fuel form.toList))
    let go (cs : List Char) (rest : List Char) : List Char := cs ++ render t fuel rest
    match after with
    | [] => '%' :: rest
    | '%' :: more => go ['%'] more
    | 'n' :: more => go ['\n'] more
    | 't' :: more => go ['\t'] more
    | 'Y' :: more => go (f.number '0' 4 d.year) more
    | 'C' :: more => go (f.number '0' 2 (d.year / 100)) more
    | 'y' :: more => go (f.number '0' 2 (d.year % 100)) more
    | 'G' :: more => go (f.number '0' 4 isoYear) more
    | 'g' :: more => go (f.number '0' 2 (isoYear % 100)) more
    | 'm' :: more => go (f.number '0' 2 d.month) more
    | 'd' :: more => go (f.number '0' 2 d.day) more
    | 'e' :: more => go (f.number '_' 2 d.day) more
    | 'H' :: more => go (f.number '0' 2 hour) more
    | 'I' :: more => go (f.number '0' 2 twelve) more
    | 'k' :: more => go (f.number '_' 2 hour) more
    | 'l' :: more => go (f.number '_' 2 twelve) more
    | 'M' :: more => go (f.number '0' 2 minute) more
    | 'S' :: more => go (f.number '0' 2 sec) more
    | 's' :: more => go (f.number '-' 1 (t / second)) more
    | 'N' :: more =>
      let places := (f.width.getD 9)
      go (((List.replicate (9 - (Nat.toDigits 10 nano.toNat).length) '0' ++ Nat.toDigits 10 nano.toNat) ++
        List.replicate (places - 9) '0').take places) more
    | 'j' :: more => go (f.number '0' 3 (Calendar.dayOfYear d)) more
    | 'u' :: more => go (f.number '0' 1 (if w = 0 then 7 else w : Nat)) more
    | 'w' :: more => go (f.number '0' 1 w) more
    | 'U' :: more => go (f.number '0' 2 (Calendar.weekOf 0 d)) more
    | 'W' :: more => go (f.number '0' 2 (Calendar.weekOf 1 d)) more
    | 'V' :: more => go (f.number '0' 2 isoNumber) more
    | 'q' :: more => go (f.number '0' 1 ((d.month - 1) / 3 + 1 : Nat)) more
    | 'a' :: more => go (f.text (short weekName)) more
    | 'A' :: more => go (f.text weekName) more
    | 'b' :: more | 'h' :: more => go (f.text (short monthName)) more
    | 'B' :: more => go (f.text monthName) more
    | 'p' :: more => go (f.text (if hour < 12 then "AM" else "PM")) more
    | 'P' :: more => go (f.text (if hour < 12 then "am" else "pm")) more
    | 'Z' :: more => go (f.text "UTC") more
    | 'z' :: more => go ("+0000".toList) more
    | ':' :: 'z' :: more => go ("+00:00".toList) more
    | ':' :: ':' :: 'z' :: more => go ("+00:00:00".toList) more
    | ':' :: ':' :: ':' :: 'z' :: more => go ("+00".toList) more
    | 'c' :: more => go (inner "%a %b %e %H:%M:%S %Y") more
    | 'D' :: more | 'x' :: more => go (inner "%m/%d/%y") more
    | 'F' :: more => go (inner "%Y-%m-%d") more
    | 'T' :: more | 'X' :: more => go (inner "%H:%M:%S") more
    | 'R' :: more => go (inner "%H:%M") more
    | 'r' :: more => go (inner "%I:%M:%S %p") more
    | c :: more => go ('%' :: flags ++ digits ++ [c]) more
  | fuel + 1, c :: rest => c :: render t fuel rest

end SbtWorkspace.Simulation.Utility.Clock

namespace SbtWorkspace.Simulation.Utility

def isoForm? (separator : String) (zone : String) : String → Option String
  | "date" | "" => some "%Y-%m-%d"
  | "hours" => some ("%Y-%m-%d" ++ separator ++ "%H" ++ zone)
  | "minutes" => some ("%Y-%m-%d" ++ separator ++ "%H:%M" ++ zone)
  | "seconds" => some ("%Y-%m-%d" ++ separator ++ "%H:%M:%S" ++ zone)
  | "ns" => some ("%Y-%m-%d" ++ separator ++ "%H:%M:%S" ++ (if separator = "T" then "," else ".") ++ "%N" ++ zone)
  | _ => none

def writtenTime? (now : Clock.Time) (text : String) : Option Clock.Time :=
  let cs := text.toList
  let main := cs.takeWhile (· ≠ '.')
  let seconds := match cs.drop main.length with
    | [] => "00"
    | _ :: rest => String.ofList rest
  let year := match main.length with
    | 12 => some (String.ofList (main.take 4))
    | 10 => (natural? (main.take 2)).map fun n => toString (Clock.yearOf n 2)
    | 8 => some (toString (Calendar.dateOf (now / (86400 * Clock.second))).year)
    | _ => none
  let rest := main.drop (main.length - 8)
  let pair (i : Nat) : String := String.ofList ((rest.drop (2 * i)).take 2)
  if main.all Char.isDigit ∧ seconds.length = 2 then
    year.bind fun y =>
      Clock.read? now (y ++ "-" ++ pair 0 ++ "-" ++ pair 1 ++ " " ++ pair 2 ++ ":" ++ pair 3 ++ ":" ++ seconds)
  else none

/-- Writes times. -/
def date : Work := fun c w args =>
  let args := args.map fun arg =>
    if "-I".toList.isPrefixOf arg.toList then "--iso-8601=" ++ String.ofList (arg.toList.drop 2) else arg
  reading
    { letters := "Ru", valued := "dfrs\x02", optional := "\x01"
      long := [("date", 'd'), ("file", 'f'), ("iso-8601", '\x01'), ("rfc-email", 'R'), ("rfc-3339", '\x02'),
        ("reference", 'r'), ("set", 's'), ("utc", 'u'), ("universal", 'u'), ("debug", '\x03')] } 1
    (fun c w a =>
      let now := w.clock
      let isGiven := a.has 'd' || a.has 'f' || a.has 'r' || a.has 's'
      let form : Option String :=
        match a.operands, a.value? '\x01', a.value? '\x02' with
        | [], some kind, _ => isoForm? "T" "%:z" kind
        | [], none, some kind => isoForm? " " "%:z" kind
        | [], none, none => some (if a.has 'R' then "%a, %d %b %Y %H:%M:%S %z" else "%a %b %e %H:%M:%S UTC %Y")
        | [text], none, none =>
          if a.has 'R' then none
          else match text.toList with
            | '+' :: form => some (String.ofList form)
            | _ => none
        | _, _, _ => none
      let shown (t : Clock.Time) : Bytes :=
        octets (String.ofList (Clock.render t (4 * (form.getD "").length + 40) (form.getD "").toList) ++ "\n")
      let invalid (text : String) (w : World) : Outcome := refused c w 1 ("invalid date " ++ named text)
      match form, a.operands with
      | none, _ :: extra :: _ => misused c w 1 ("extra operand " ++ named extra)
      | none, text :: _ =>
        if text.toList.head? = some '+' then refused c w 1 "multiple output formats specified" else invalid text w
      | none, [] =>
        misused c w 1 ("invalid argument " ++ named (((a.value? '\x01').or (a.value? '\x02')).getD ""))
      | some _, _ =>
        match a.value? 'd', a.value? 'f', a.value? 'r' with
        | some text, none, none =>
          match Clock.read? now text with
          | some t => { world := w, output := shown t }
          | none => invalid text w
        | none, some path, none =>
          match contents c w [path] with
          | (w, [.ok text]) =>
            inTurn w ((rows text).map fun row => fun w =>
              match Clock.read? now (String.ofList row) with
              | some t => { world := w, output := shown t }
              | none => invalid (Octets.toString row) w)
          | (w, found) => { world := w, complaints := faultsOf c unreadable [path] found, status := 1 }
        | none, none, some path =>
          match w.files.status c.cwd (.ofString path) with
          | .ok (loc, _) => { world := w, output := shown ((w.stamp? loc).getD now) }
          | .error fault => refused c w 1 (unreadable path fault)
        | none, none, none =>
          if isGiven then { refused c w 1 "cannot set date: Operation not permitted" with output := shown now }
          else { world := w, output := shown now }
        | _, _, _ =>
          misused c w 1 "the options to specify dates for printing are mutually exclusive") c w args

/-- How long a text tells to wait, in thousandths of a second. -/
def duration? (text : String) : Option Nat :=
  let cs := text.toList
  let factor : Option Nat := match cs.getLast? with
    | some 's' => some 1
    | some 'm' => some 60
    | some 'h' => some 3600
    | some 'd' => some 86400
    | _ => none
  let number := if factor.isSome then cs.dropLast else cs
  match number with
  | ['i', 'n', 'f'] | ['i', 'n', 'f', 'i', 'n', 'i', 't', 'y'] => some (Nat.pow 10 12)
  | _ =>
    match Binary.decimal? number with
    | some (false, n, e, []) =>
      if e < -1000 ∨ 20 < e then none
      else
        let (a, b) := Binary.scale (n * 1000 * factor.getD 1) 10 e
        some (a / b)
    | _ => none

end SbtWorkspace.Simulation.Utility
