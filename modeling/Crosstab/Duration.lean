import Crosstab.Text.Blank
import Crosstab.Text.Digit

/-!
Durations. They are written as a whole number and a unit, and kept in milliseconds. A store is given
some: they bound how long anybody waits for it.
-/

namespace Crosstab

open Crosstab.Text

/-- A span of time. -/
structure Duration where
  millis : Nat
deriving DecidableEq

inductive TimeUnit where
  | millisecond
  | second
  | minute
  | hour
deriving DecidableEq

namespace TimeUnit

/-- The unit of a name. A number without a unit counts seconds. -/
def ofName? : String → Option TimeUnit
  | "ms" => some .millisecond
  | "" | "s" => some .second
  | "m" => some .minute
  | "h" => some .hour
  | _ => none

/-- So many of a unit. Minutes and hours are turned into seconds, whose counter has 64 bits and
starts again from zero when it overflows. -/
def span : TimeUnit → UInt64 → Duration
  | .millisecond, n => ⟨n.toNat⟩
  | .second, n => ⟨n.toNat * 1000⟩
  | .minute, n => ⟨(n * 60).toNat * 1000⟩
  | .hour, n => ⟨(n * 3600).toNat * 1000⟩

end TimeUnit

namespace Duration

def ofSeconds (n : Nat) : Duration := ⟨n * 1000⟩

/-- The duration that a text denotes: ASCII digits for a number of at most 64 bits and a unit, with
blanks allowed around both. -/
def ofText? (s : String) : Option Duration :=
  let (digits, unit) := spanDigits (trimChars s.toList)
  let amount := natOfDigits digits
  if digits.isEmpty || Nat.pow 2 64 ≤ amount then none
  else (TimeUnit.ofName? (String.ofList (trimChars unit))).map (·.span (UInt64.ofNat amount))

/-- The digits after the point for so many thousandths, without zeros at their end. -/
def thousandths (n : Nat) : String :=
  let digits := (Nat.toDigits 10 (1000 + n % 1000)).drop 1
  String.ofList (digits.reverse.dropWhile (· == '0')).reverse

/-- The duration as it is shown to people: in seconds, or in milliseconds if it is shorter than
one. -/
def display (d : Duration) : String :=
  if d.millis = 0 then "0ns"
  else if d.millis < 1000 then toString d.millis ++ "ms"
  else
    let fraction := thousandths d.millis
    toString (d.millis / 1000) ++ (if fraction.isEmpty then "" else "." ++ fraction) ++ "s"

end Duration

structure Pool where
  /-- The number of statements that may run at once. -/
  maxOpen : Nat := 4
  /-- How long a statement waits until it may run. -/
  acquireTimeout : Duration := .ofSeconds 5
  /-- How long a statement may run. -/
  queryTimeout : Duration := .ofSeconds 30
deriving DecidableEq

end Crosstab
