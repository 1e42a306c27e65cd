/-!
# Durations

A length of time in whole seconds and nanoseconds, and its text: the largest unit that is not
zero comes first, hours are followed by minutes and seconds, and a length below one second is
a single number of a smaller unit.
-/

namespace MessageTemplate

/-- A length of time. -/
structure Duration where
  seconds : UInt64
  nanoseconds : Nat
  nanoseconds_lt : nanoseconds < 1000000000

namespace Duration

/-- The duration with these numbers, if the nanoseconds are below one second. -/
def ofParts? (seconds : UInt64) (nanoseconds : Nat) : Option Duration :=
  if h : nanoseconds < 1000000000 then some ⟨seconds, nanoseconds, h⟩ else none

/-- The whole length in nanoseconds. -/
def totalNanoseconds (duration : Duration) : Nat :=
  duration.seconds.toNat * 1000000000 + duration.nanoseconds

/-- The quotient `amount / 10 ^ places` in decimal, without zeros at the end of the fraction. -/
def decimalText (amount places : Nat) : String :=
  let unit := Nat.pow 10 places
  let whole := Nat.toDigits 10 (amount / unit)
  let fraction := Nat.toDigits 10 (amount % unit)
  if amount % unit = 0 then String.ofList whole
  else
    let padded := List.replicate (places - fraction.length) '0' ++ fraction
    String.ofList (whole ++ '.' :: (padded.reverse.dropWhile (· = '0')).reverse)

/-- The text of a duration: `0s`, `250ms`, `1h0m2.5s`. -/
def text (duration : Duration) : String :=
  let total := duration.totalNanoseconds
  if total = 0 then "0s"
  else if total < 1000 then decimalText total 0 ++ "ns"
  else if total < 1000000 then decimalText total 3 ++ "µs"
  else if total < 1000000000 then decimalText total 6 ++ "ms"
  else
    let hours := duration.seconds.toNat / 3600
    let minutes := duration.seconds.toNat % 3600 / 60
    let remaining := duration.seconds.toNat % 60 * 1000000000 + duration.nanoseconds
    let leading :=
      if 0 < hours then toString hours ++ "h" ++ toString minutes ++ "m"
      else if 0 < minutes then toString minutes ++ "m"
      else ""
    leading ++ decimalText remaining 9 ++ "s"

/-- The text of a duration as one decimal number of the largest unit that is not zero, up to
seconds. -/
def unitText (duration : Duration) : String :=
  if 0 < duration.seconds.toNat then decimalText duration.totalNanoseconds 9 ++ "s"
  else if 1000000 ≤ duration.nanoseconds then decimalText duration.nanoseconds 6 ++ "ms"
  else if 1000 ≤ duration.nanoseconds then decimalText duration.nanoseconds 3 ++ "µs"
  else decimalText duration.nanoseconds 0 ++ "ns"

end Duration

end MessageTemplate
