import StreamBot.Text.Search

/-! # Dates

Points in time are counted in microseconds from the beginning of 1970, without leap seconds.  Dates are
those of the Gregorian calendar in coordinated universal time.
-/

namespace StreamBot.Time

/-- A point in time, in microseconds from the beginning of 1970. -/
structure Instant where
  micros : Int
  deriving Repr, DecidableEq, Inhabited

structure DateTime where
  year : Int
  month : Nat
  day : Nat
  hour : Nat
  minute : Nat
  second : Nat
  micros : Nat
  deriving Repr, DecidableEq, Inhabited

/-- The day of the epoch on which a date falls, by counting years from March. -/
def dayNumber (year : Int) (month day : Nat) : Int :=
  let y := if month ≤ 2 then year - 1 else year
  let era := Int.fdiv y 400
  let yearOfEra := y - era * 400
  let dayOfYear : Int := (153 * (if 2 < month then month - 3 else month + 9) + 2) / 5 + day - 1
  let dayOfEra := yearOfEra * 365 + yearOfEra / 4 - yearOfEra / 100 + dayOfYear
  era * 146097 + dayOfEra - 719468

def dateOfDay (n : Int) : Int × Nat × Nat :=
  let z := n + 719468
  let era := Int.fdiv z 146097
  let dayOfEra := (z - era * 146097).toNat
  let yearOfEra := (dayOfEra - dayOfEra / 1460 + dayOfEra / 36524 - dayOfEra / 146096) / 365
  let dayOfYear := dayOfEra - (365 * yearOfEra + yearOfEra / 4 - yearOfEra / 100)
  let m := (5 * dayOfYear + 2) / 153
  let day := dayOfYear - (153 * m + 2) / 5 + 1
  let month := if m < 10 then m + 3 else m - 9
  let year : Int := yearOfEra + era * 400
  (if month ≤ 2 then year + 1 else year, month, day)

def Instant.date (t : Instant) : DateTime :=
  let seconds := Int.fdiv t.micros 1000000
  let days := Int.fdiv seconds 86400
  let ofDay := (seconds - days * 86400).toNat
  let (year, month, day) := dateOfDay days
  { year, month, day, hour := ofDay / 3600, minute := ofDay / 60 % 60, second := ofDay % 60,
    micros := (t.micros - seconds * 1000000).toNat }

def DateTime.instant (d : DateTime) : Instant :=
  let seconds := dayNumber d.year d.month d.day * 86400 + d.hour * 3600 + d.minute * 60 + d.second
  ⟨seconds * 1000000 + d.micros⟩

def Instant.seconds (t : Instant) : Float :=
  let x := Float.ofScientific t.micros.natAbs true 6
  if t.micros < 0 then -x else x

def padded (width n : Nat) : String :=
  let digits := toString n
  String.ofList (List.replicate (width - digits.length) '0') ++ digits

def DateTime.dayOfYear (d : DateTime) : Nat :=
  (dayNumber d.year d.month d.day - dayNumber d.year 1 1 + 1).toNat

def DateTime.directive? (d : DateTime) : Char → Option String
  | 'Y' => some (toString d.year)
  | 'm' => some (padded 2 d.month)
  | 'd' => some (padded 2 d.day)
  | 'H' => some (padded 2 d.hour)
  | 'M' => some (padded 2 d.minute)
  | 'S' => some (padded 2 d.second)
  | 'y' => some (padded 2 (d.year % 100).toNat)
  | 'j' => some (padded 3 d.dayOfYear)
  | '%' => some "%"
  | _ => none

/-- A date by a pattern with directives; an unknown directive is left as it is. -/
def DateTime.format (d : DateTime) : List Char → String
  | [] => ""
  | '%' :: c :: rest =>
    (match d.directive? c with
      | some s => s
      | none => String.ofList ['%', c]) ++ d.format rest
  | c :: rest => c.toString ++ d.format rest

/-- A date as `YYYY-MM-DDTHH:MM:SS`, with a fraction if the second has one. -/
def DateTime.iso (d : DateTime) : String :=
  padded 4 d.year.toNat ++ "-" ++ padded 2 d.month ++ "-" ++ padded 2 d.day ++ "T" ++
    padded 2 d.hour ++ ":" ++ padded 2 d.minute ++ ":" ++ padded 2 d.second ++
    (if d.micros = 0 then "" else "." ++ padded 6 d.micros)

/-! ## Clocks

A clock shows the date, and the seconds that have passed since some time.  Both go forward together.
-/

structure Clock where
  now : Instant
  /-- Seconds on a scale that never goes back. -/
  monotonic : Float

def microsOf (seconds : Float) : Int := (seconds * 1000000.0).round.toInt64.toInt

def Instant.later (t : Instant) (seconds : Float) : Instant := ⟨t.micros + microsOf seconds⟩

def Clock.later (c : Clock) (seconds : Float) : Clock :=
  ⟨c.now.later seconds, c.monotonic + seconds⟩

def Clock.advanceTo (c : Clock) (monotonic : Float) : Clock :=
  if c.monotonic < monotonic then ⟨c.now.later (monotonic - c.monotonic), monotonic⟩ else c

def Instant.wholeSeconds (t : Instant) : Int := Int.fdiv t.micros 1000000

/-! ## Dates and times in the style of a region

A locale names a language and a country, and may be followed by a point and an encoding.
-/

inductive Style where
  /-- `02.01.2026`, `03:04:05` -/
  | german
  /-- `2 Jan 2026`, `03:04:05` -/
  | british
  /-- `2 janv. 2026`, `03:04:05` -/
  | french
  /-- `Jan 2, 2026`, `3:04:05 AM` -/
  | american
  deriving Repr, DecidableEq

namespace Style

def ofLocale (locale : String) : Style :=
  let region := (Text.splitOn locale ".").headD ""
  if Text.startsWith region "de" then .german
  else if region == "en_GB" then .british
  else if Text.startsWith region "fr" then .french
  else .american

def months : Style → List String
  | .french => [
      "janv.", "févr.", "mars", "avr.", "mai", "juin", "juil.", "août", "sept.", "oct.", "nov.", "déc."]
  | .british => ["Jan", "Feb", "Mar", "Apr", "May", "Jun", "Jul", "Aug", "Sept", "Oct", "Nov", "Dec"]
  | _ => ["Jan", "Feb", "Mar", "Apr", "May", "Jun", "Jul", "Aug", "Sep", "Oct", "Nov", "Dec"]

def month (s : Style) (d : DateTime) : String := s.months.getD (d.month - 1) ""

def date (s : Style) (d : DateTime) : String :=
  match s with
  | .german => padded 2 d.day ++ "." ++ padded 2 d.month ++ "." ++ toString d.year
  | .american => s!"{s.month d} {d.day}, {d.year}"
  | _ => s!"{d.day} {s.month d} {d.year}"

def time (s : Style) (d : DateTime) : String :=
  let rest := ":" ++ padded 2 d.minute ++ ":" ++ padded 2 d.second
  match s with
  | .american =>
    let hour := if d.hour % 12 = 0 then 12 else d.hour % 12
    toString hour ++ rest ++ " " ++ (if d.hour < 12 then "AM" else "PM")
  | _ => padded 2 d.hour ++ rest

end Style

end StreamBot.Time
