/-
**A span of time in words: two decimals, in the largest unit of which it holds one.**

* `Text.elapsed`: the span, given in nanoseconds.
* `Text.roundedQuotient`: the nearest whole number to a quotient, the even one of two.
-/

namespace ExtensionHost.Text

/-- The whole number nearest to a quotient; of two, the even one. -/
def roundedQuotient (dividend divisor : Nat) : Nat :=
  let below := dividend / divisor
  let rest := 2 * (dividend % divisor)
  if divisor < rest || (rest = divisor && below % 2 = 1) then below + 1 else below

/-- A number of hundredths, with a point. -/
def hundredths (count : Nat) : String :=
  let part := count % 100
  toString (count / 100) ++ "." ++ (if part < 10 then "0" else "") ++ toString part

/-- A span of so many nanoseconds. -/
def elapsed (nanoseconds : Nat) : String :=
  let inUnits (size : Nat) (name : String) : String :=
    hundredths (roundedQuotient (nanoseconds * 100) size) ++ name
  if Nat.pow 10 9 ≤ nanoseconds then inUnits (Nat.pow 10 9) "s"
  else if Nat.pow 10 6 ≤ nanoseconds then inUnits (Nat.pow 10 6) "ms"
  else if Nat.pow 10 3 ≤ nanoseconds then inUnits (Nat.pow 10 3) "µs"
  else inUnits 1 "ns"

end ExtensionHost.Text
