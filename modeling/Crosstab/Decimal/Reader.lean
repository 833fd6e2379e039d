import Crosstab.Text.Digit

/-!
Numbers read from plain text. `readFloat?` takes an optional sign, digits with an optional point,
and an optional exponent, or the name of an infinity or of the undefined value; `readInt64?` takes
an optional sign and digits. Both read the whole text or nothing.
-/

namespace Crosstab.Decimal

open Crosstab.Text

/-- The double nearest to `m · 10 ^ e`. Beyond four hundred digits before or after the point the
answer is an infinity or zero whatever the digits are, so no power that large is ever computed. -/
def ofScaled (m : Nat) (e : Int) : Float :=
  if m = 0 then 0
  else
    let size := e + (Nat.toDigits 10 m).length
    if size < -400 then 0
    else if 400 < size then 1.0 / 0.0
    else if e < 0 then Float.ofScientific m true (-e).toNat
    else Float.ofScientific m false e.toNat

def ofInt (n : Int) : Float :=
  if n < 0 then -(Float.ofScientific n.natAbs false 0) else Float.ofScientific n.natAbs false 0

def splitSign : List Char → Bool × List Char
  | '-' :: rest => (true, rest)
  | '+' :: rest => (false, rest)
  | cs => (false, cs)

/-- An exponent: nothing at all, or the mark, an optional sign, and digits to the end. -/
def readExponent? : List Char → Option Int
  | [] => some 0
  | c :: rest =>
    if c == 'e' || c == 'E' then
      let (negative, digits) := splitSign rest
      if digits.isEmpty || !digits.all isAsciiDigit then none
      else some (if negative then -(natOfDigits digits : Int) else natOfDigits digits)
    else none

/-- Digits with an optional point, at least one digit in all, and an optional exponent. -/
def readUnsigned? (cs : List Char) : Option Float :=
  let (whole, afterWhole) := spanDigits cs
  let (fraction, rest) :=
    match afterWhole with
    | '.' :: more => spanDigits more
    | _ => ([], afterWhole)
  if whole.isEmpty && fraction.isEmpty then none
  else (readExponent? rest).map fun e =>
    ofScaled (natOfDigits (whole ++ fraction)) (e - fraction.length)

/-- The values that are named rather than written with digits, in any mixture of cases. -/
def readNamed? (cs : List Char) : Option Float :=
  let name :=
    String.ofList (cs.map fun c => if 'A' ≤ c && c ≤ 'Z' then Char.ofNat (c.toNat + 32) else c)
  if name == "inf" || name == "infinity" then some (1.0 / 0.0)
  else if name == "nan" then some (0.0 / 0.0)
  else none

def readFloat? (s : String) : Option Float :=
  let (negative, body) := splitSign s.toList
  ((readNamed? body).orElse fun _ => readUnsigned? body).map fun x => if negative then -x else x

/-- The 64-bit signed integer that a text denotes. -/
def readInt64? (s : String) : Option Int :=
  let (negative, digits) := splitSign s.toList
  if digits.isEmpty || !digits.all isAsciiDigit then none
  else
    let n : Int := if negative then -(natOfDigits digits : Int) else natOfDigits digits
    if -(Nat.pow 2 63 : Int) ≤ n && n < (Nat.pow 2 63 : Int) then some n else none

end Crosstab.Decimal
