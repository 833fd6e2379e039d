import Crosstab.Decimal.Reader
import Crosstab.Document.Basic
import Crosstab.Json.Reader
import Crosstab.Text.Blank

/-!
Values of TOML that are written without quotes and brackets: truth values, integers to four bases,
floating-point numbers, and dates and times.
-/

namespace Crosstab.Toml

open Crosstab.Text

/-- Digits of one kind with single underscores between them, without the underscores. -/
def digits? (isDigit : Char → Bool) (cs : List Char) : Option (List Char) :=
  let groups := pieces '_' cs
  if groups.all fun group => !group.isEmpty && group.all isDigit then some groups.flatten else none

/-- Decimal digits without a needless leading zero. -/
def wholeDigits? (cs : List Char) : Option (List Char) :=
  (digits? isAsciiDigit cs).filter fun ds => ds.length == 1 || ds.head? != some '0'

/-- An integer to a base other than ten: never signed, leading zeros allowed. -/
def based? (base : Nat) (cs : List Char) : Option Int :=
  let isDigit := fun c => (Json.hexValue? c).any (· < base)
  (digits? isDigit cs).map fun ds =>
    ds.foldl (fun n c => (base : Int) * n + ((Json.hexValue? c).getD 0 : Nat)) 0

def integer? : List Char → Option Int
  | '0' :: 'x' :: cs => based? 16 cs
  | '0' :: 'o' :: cs => based? 8 cs
  | '0' :: 'b' :: cs => based? 2 cs
  | cs =>
    let (negative, body) := Decimal.splitSign cs
    (wholeDigits? body).map fun ds =>
      if negative then -(natOfDigits ds : Int) else natOfDigits ds

def exponent? (cs : List Char) : Option (List Char) :=
  let (negative, body) := Decimal.splitSign cs
  (digits? isAsciiDigit body).map fun ds => if negative then 'e' :: '-' :: ds else 'e' :: ds

/-- A floating-point number: a whole part, and a fraction or an exponent or both; or a named
value. -/
def float? (cs : List Char) : Option Float :=
  let (negative, body) := Decimal.splitSign cs
  let isMark := fun c => c == 'e' || c == 'E'
  let (significand, mark) := (body.takeWhile (!isMark ·), body.dropWhile (!isMark ·))
  let (whole, point) := (significand.takeWhile (· != '.'), significand.dropWhile (· != '.'))
  let exponent :=
    match mark with
    | [] => some []
    | _ :: more => exponent? more
  let fraction :=
    match point with
    | [] => if mark.isEmpty then none else some []
    | _ :: more => (digits? isAsciiDigit more).map ('.' :: ·)
  let magnitude :=
    if body == ['i', 'n', 'f'] then some (1.0 / 0.0)
    else if body == ['n', 'a', 'n'] then some (0.0 / 0.0)
    else
      match wholeDigits? whole, fraction, exponent with
      | some ds, some frac, some exp => Decimal.readFloat? (String.ofList (ds ++ frac ++ exp))
      | _, _, _ => none
  magnitude.map fun x => if negative then -x else x

/-- The number that exactly so many digits denote, and the rest. -/
def fixedDigits? (count : Nat) (cs : List Char) : Option (Nat × List Char) :=
  let ds := cs.take count
  if ds.length == count && ds.all isAsciiDigit then some (natOfDigits ds, cs.drop count) else none

def daysInMonth (year month : Nat) : Nat :=
  if month == 2 then
    if year % 4 == 0 && (year % 100 != 0 || year % 400 == 0) then 29 else 28
  else if month == 4 || month == 6 || month == 9 || month == 11 then 30
  else 31

/-- The rest behind a given mark. -/
def after? (mark : Char) : List Char → Option (List Char)
  | [] => none
  | c :: rest => if c == mark then some rest else none

/-- A date, which has to be one of the calendar, and what follows it. -/
def date? (cs : List Char) : Option (List Char) := do
  let (year, cs) ← fixedDigits? 4 cs
  let (month, cs) ← fixedDigits? 2 (← after? '-' cs)
  let (day, cs) ← fixedDigits? 2 (← after? '-' cs)
  if 1 ≤ month && month ≤ 12 && 1 ≤ day && day ≤ daysInMonth year month then some cs else none

def clock? (cs : List Char) : Option (List Char) := do
  let (hour, cs) ← fixedDigits? 2 cs
  let (minute, cs) ← fixedDigits? 2 (← after? ':' cs)
  if hour ≤ 23 && minute ≤ 59 then some cs else none

def time? (cs : List Char) : Option (List Char) := do
  let cs ← clock? cs
  match cs with
  | ':' :: more =>
    let (second, more) ← fixedDigits? 2 more
    if 60 < second then none
    else
      match more with
      | '.' :: rest => if (spanDigits rest).1.isEmpty then none else some (spanDigits rest).2
      | _ => some more
  | _ => some cs

/-- Whether the rest of a date and time is an offset, or nothing. -/
def isOffset : List Char → Bool
  | [] => true
  | ['Z'] => true
  | ['z'] => true
  | '+' :: cs => clock? cs == some []
  | '-' :: cs => clock? cs == some []
  | _ => false

def isMoment (cs : List Char) : Bool :=
  time? cs == some [] ||
    match date? cs with
    | none => false
    | some [] => true
    | some (c :: more) => (c == 'T' || c == 't' || c == ' ') && (time? more).any isOffset

/-- The value of a text without quotes and brackets. A moment is a value like no other: it reads as
a record without fields. -/
def scalar? (cs : List Char) : Option Document :=
  if cs == ['t', 'r', 'u', 'e'] then some (.bool true)
  else if cs == ['f', 'a', 'l', 's', 'e'] then some (.bool false)
  else
    match integer? cs with
    | some n => some (.number (.int n))
    | none =>
      match float? cs with
      | some x => some (.number (.float x))
      | none => if isMoment cs then some (.record []) else none

end Crosstab.Toml
