/-! # Moments in time

A moment is a number of seconds since the start of 1970, universal time.  `Timestamp.text?` writes
it as a date and a time of day; years outside `0000` to `9999` cannot be written. -/

namespace GuestHost

/-- Seconds since the start of 1970, universal time. -/
abbrev Timestamp := Int

namespace Timestamp

/-- Year, month and day of a number of days since the start of 1970.  Years are counted from March
in eras of 400 years, so that the leap day is the last day of a year. -/
def civil (days : Int) : Int × Int × Int :=
  let z := days + 719468
  let era := Int.fdiv z 146097
  let doe := z - era * 146097
  let yoe := (doe - doe / 1460 + doe / 36524 - doe / 146096) / 365
  let doy := doe - (365 * yoe + yoe / 4 - yoe / 100)
  let mp := (5 * doy + 2) / 153
  let day := doy - (153 * mp + 2) / 5 + 1
  let month := if mp < 10 then mp + 3 else mp - 9
  (yoe + era * 400 + (if month ≤ 2 then 1 else 0), month, day)

/-- Decimal digits padded with zeros to a width. -/
def padded (width : Nat) (n : Int) : String :=
  let ds := Nat.toDigits 10 n.toNat
  String.ofList (List.replicate (width - ds.length) '0' ++ ds)

/-- The written form of a moment. -/
def text? (t : Timestamp) : Option String :=
  let days := Int.fdiv t 86400
  let second := t - days * 86400
  let (year, month, day) := civil days
  if 0 ≤ year ∧ year ≤ 9999 then
    some (padded 4 year ++ "-" ++ padded 2 month ++ "-" ++ padded 2 day ++ "T"
      ++ padded 2 (second / 3600) ++ ":" ++ padded 2 (second / 60 % 60) ++ ":"
      ++ padded 2 (second % 60) ++ "Z")
  else none

end Timestamp
end GuestHost
