/-! Points in time and their stamps: date and time of day in the proleptic Gregorian calendar, with
thousandths of a second cut off. -/

namespace SchemaGen.Time

set_option autoImplicit false

/-- Seconds since the start of 1970, and nanoseconds. From a whole second on, the nanoseconds tell
of a leap second that follows the second. -/
structure Instant where
  seconds : Int
  nanoseconds : Nat
  deriving DecidableEq, Repr

/-- A day of the calendar. -/
structure Date where
  year : Int
  month : Nat
  day : Nat
  deriving DecidableEq, Repr

/-! ## Calendar -/

/-- The date of a day counted from the start of 1970. Years are counted from March on in eras of 400
years, which have 146097 days each, so that the leap day ends its year. -/
def Date.ofDay (day : Int) : Date :=
  let shifted := day + 719468
  let era := shifted.fdiv 146097
  let ofEra := (shifted.fmod 146097).toNat
  let year := (ofEra - ofEra / 1460 + ofEra / 36524 - ofEra / 146096) / 365
  let ofYear := ofEra - (365 * year + year / 4 - year / 100)
  let shiftedMonth := (5 * ofYear + 2) / 153
  let dayOfMonth := ofYear - (153 * shiftedMonth + 2) / 5 + 1
  let month := if shiftedMonth < 10 then shiftedMonth + 3 else shiftedMonth - 9
  ⟨era * 400 + year + (if month ≤ 2 then 1 else 0), month, dayOfMonth⟩

/-! ## Stamps -/

/-- A natural number with at least `width` digits. -/
def padded (width n : Nat) : String :=
  let digits := toString n
  String.ofList (List.replicate (width - digits.length) '0') ++ digits

/-- Four digits for the years 0 to 9999; a sign and at least four digits for all others. -/
def yearText (year : Int) : String :=
  if 0 ≤ year && year ≤ 9999 then padded 4 year.toNat
  else (if year < 0 then "-" else "+") ++ padded 4 year.natAbs

/-- The stamp of an instant in universal time. -/
def Instant.stamp (t : Instant) : String :=
  let date := Date.ofDay (t.seconds.fdiv 86400)
  let ofDay := (t.seconds.fmod 86400).toNat
  let leap := t.nanoseconds / 1000000000
  let millis := t.nanoseconds % 1000000000 / 1000000
  yearText date.year ++ "-" ++ padded 2 date.month ++ "-" ++ padded 2 date.day ++ "T" ++
    padded 2 (ofDay / 3600) ++ ":" ++ padded 2 (ofDay / 60 % 60) ++ ":" ++
    padded 2 (ofDay % 60 + leap) ++ "." ++ padded 3 millis ++ "Z"

end SchemaGen.Time
