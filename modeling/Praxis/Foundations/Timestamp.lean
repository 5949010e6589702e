import Mathlib

/-!
# Timestamps and their ISO text

A timestamp is a text together with the instant that parsing it yields, in milliseconds
since 1970, or no instant when the text is not a date. Two orders live on timestamps. One
compares the instants, as code does that parses both texts. The other compares the texts
byte by byte, as a text column of a database does.

`ofMs?` writes an instant as canonical ISO text. A year outside 0 to 9999 is written with a
sign and six digits, and a sign sorts before every digit.
-/

namespace Praxis.Foundations

set_option autoImplicit false

/-! ## The calendar -/

/-- Days from the first day of year 0 to the first day of a year. -/
def daysBeforeYear (year : Int) : Int :=
  365 * year + (year + 3) / 4 - (year + 99) / 100 + (year + 399) / 400

/-- The year of a day that is counted from the first day of year 0. -/
def yearOfDay (day : Int) : Int :=
  let guess := day * 400 / 146097
  if daysBeforeYear (guess + 1) ≤ day then guess + 1
  else if day < daysBeforeYear guess then guess - 1
  else guess

/-- Whether a year has 366 days. -/
def isLeap (year : Int) : Bool :=
  daysBeforeYear (year + 1) - daysBeforeYear year == 366

/-- The days of a year before each of its months. -/
def daysBeforeMonth (leap : Bool) : List Nat :=
  if leap then [0, 31, 60, 91, 121, 152, 182, 213, 244, 274, 305, 335]
  else [0, 31, 59, 90, 120, 151, 181, 212, 243, 273, 304, 334]

/-- The month (from 1) and the day of the month (from 1) of a day of the year (from 0). -/
def monthAndDay (leap : Bool) (day : Nat) : Nat × Nat :=
  let begun := (daysBeforeMonth leap).takeWhile (· ≤ day)
  (begun.length, day - begun.getLastD 0 + 1)

/-! ## ISO text -/

/-- A number with leading zeros up to a width. -/
def padded (width value : Nat) : String :=
  let digits := Nat.toDigits 10 value
  String.ofList (List.replicate (width - digits.length) '0' ++ digits)

/-- A year as ISO text: four digits, or a sign and six digits. -/
def yearText (year : Int) : String :=
  if 0 ≤ year ∧ year ≤ 9999 then padded 4 year.toNat
  else if 0 ≤ year then "+" ++ padded 6 year.toNat
  else "-" ++ padded 6 (-year).toNat

/-- Days from the first day of year 0 to the first day of 1970. -/
def epochDay : Int := 719528

/-- The canonical ISO text of an instant. -/
def isoText (ms : Int) : String :=
  let day := ms / 86_400_000 + epochDay
  let clock := (ms % 86_400_000).toNat
  let year := yearOfDay day
  let (month, date) := monthAndDay (isLeap year) (day - daysBeforeYear year).toNat
  yearText year ++ "-" ++ padded 2 month ++ "-" ++ padded 2 date ++ "T" ++
    padded 2 (clock / 3_600_000) ++ ":" ++ padded 2 (clock / 60_000 % 60) ++ ":" ++
    padded 2 (clock / 1000 % 60) ++ "." ++ padded 3 (clock % 1000) ++ "Z"

/-! ## Timestamps -/

/-- A text, with the instant that parsing it yields. -/
structure Timestamp where
  text : String
  parsed : Option Int
deriving DecidableEq

namespace Timestamp

/-- The last representable date. -/
def maxMs : Int := 8_640_000_000_000_000

/-- The canonical timestamp of an instant; `none` outside the range of dates. -/
def ofMs? (ms : Int) : Option Timestamp :=
  if -maxMs ≤ ms ∧ ms ≤ maxMs then some ⟨isoText ms, some ms⟩ else none

/-- The text is a date. -/
def valid (timestamp : Timestamp) : Bool := timestamp.parsed.isSome

/-- The canonical timestamp a number of milliseconds later; `none` when the text is no date
or the result is outside the range of dates. -/
def after? (timestamp : Timestamp) (delay : Int) : Option Timestamp :=
  timestamp.parsed.bind fun ms => ofMs? (ms + delay)

/-- The byte order of the texts. -/
def textLe (left right : Timestamp) : Bool := decide (left.text ≤ right.text)

/-- The strict byte order of the texts. -/
def textLt (left right : Timestamp) : Bool := decide (left.text < right.text)

/-- The order of the instants; false when one of the texts is no date, as every comparison
with `NaN` is. -/
def parsedLe (left right : Timestamp) : Bool :=
  match left.parsed, right.parsed with
  | some a, some b => decide (a ≤ b)
  | _, _ => false

/-- The timestamp is what its instant is written as. -/
def Canonical (timestamp : Timestamp) : Prop :=
  timestamp.parsed.bind ofMs? = some timestamp

instance (timestamp : Timestamp) : Decidable timestamp.Canonical :=
  inferInstanceAs (Decidable (_ = _))

variable {ms : Int} {timestamp : Timestamp}

theorem ofMs?_eq_some :
    ofMs? ms = some timestamp ↔
      (-maxMs ≤ ms ∧ ms ≤ maxMs) ∧ timestamp = ⟨isoText ms, some ms⟩ := by
  unfold ofMs?
  split
  · rename_i inside
    simp [inside, eq_comm]
  · rename_i outside
    simp [outside]

theorem canonical_of_ofMs? (written : ofMs? ms = some timestamp) : timestamp.Canonical := by
  obtain ⟨_, rfl⟩ := ofMs?_eq_some.mp written
  exact written

end Timestamp

end Praxis.Foundations
