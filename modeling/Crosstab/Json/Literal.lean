import Crosstab.Decimal.Reader
import Crosstab.Document.Basic

/-!
Number literals of JSON. A literal without point and exponent is an integer if 64 bits hold it. Any
other is a double: its leading digits, as many as 64 bits hold, scaled by one power of ten. That is
the nearest double for up to fifteen digits and at most a neighbour of it beyond.
-/

namespace Crosstab.Json.Literal

open Crosstab.Text

structure Parts where
  negative : Bool
  whole : List Char
  fraction : Option (List Char)
  exponent : Option Int

/-- The exponent of a literal: at least one digit after the mark and the sign. -/
def exponent? : List Char → Option (Option Int)
  | [] => some none
  | c :: rest =>
    if c == 'e' || c == 'E' then (Decimal.readExponent? (c :: rest)).map some else none

/-- The parts of a literal: no needless leading zero, and digits on both sides of a point. -/
def parts? (cs : List Char) : Option Parts :=
  let (negative, body) :=
    match cs with
    | '-' :: rest => (true, rest)
    | _ => (false, cs)
  let (whole, rest) := spanDigits body
  if whole.isEmpty || (whole.head? == some '0' && 1 < whole.length) then none
  else
    match rest with
    | '.' :: more =>
      let (fraction, tail) := spanDigits more
      if fraction.isEmpty then none
      else (exponent? tail).map fun e => ⟨negative, whole, some fraction, e⟩
    | _ => (exponent? rest).map fun e => ⟨negative, whole, none, e⟩

/-- The number read so far, continued with digits as long as 64 bits hold it, and the digits
left. -/
def takeDigits (n : Nat) : List Char → Nat × List Char
  | [] => (n, [])
  | c :: rest =>
    if 10 * n + digitValue c < Nat.pow 2 64 then takeDigits (10 * n + digitValue c) rest
    else (n, c :: rest)

def powerOfTen (k : Nat) : Float := Float.ofScientific 1 false k

/-- A double divided by a power of ten, in steps of at most `10 ^ 308`. After three steps nothing is
left of a number of 64 bits. -/
def scaleDown : (steps : Nat) → Float → Nat → Float
  | 0, x, _ => x
  | steps + 1, x, k =>
    if k ≤ 308 then x / powerOfTen k
    else if x == 0 then x
    else scaleDown steps (x / powerOfTen 308) (k - 308)

/-- The double for `n · 10 ^ e`, if it is not too large for one. -/
def scaled? (n : Nat) (e : Int) : Option Float :=
  let x := Float.ofScientific n false 0
  if e < 0 then some (scaleDown 3 x e.natAbs)
  else if e ≤ 308 then
    let y := x * powerOfTen e.toNat
    if y.isFinite then some y else none
  else if n = 0 then some x
  else none

/-- The double of a literal. -/
def Parts.float? (p : Parts) : Option Float :=
  let (n, wholeLeft) := takeDigits 0 p.whole
  let fraction := p.fraction.getD []
  let (m, fractionLeft) := takeDigits n fraction
  let e : Int :=
    wholeLeft.length - (fraction.length - fractionLeft.length : Nat) + p.exponent.getD 0
  (scaled? m e).map fun x => if p.negative then -x else x

/-- The integer of a literal that has neither point nor exponent, if 64 bits hold it. A negative
zero is no integer. -/
def Parts.int? (p : Parts) : Option Int :=
  if p.fraction.isSome || p.exponent.isSome then none
  else
    let n := natOfDigits p.whole
    if p.negative then
      if n = 0 || Nat.pow 2 63 < n then none else some (-(n : Int))
    else if n < Nat.pow 2 64 then some n
    else none

/-- What a literal denotes; a number beyond the doubles is no value. -/
def read? (cs : List Char) : Option Document :=
  (parts? cs).map fun p =>
    match p.int? with
    | some n => .number (.int n)
    | none =>
      match p.float? with
      | some x => .number (.float x)
      | none => .invalid

end Crosstab.Json.Literal
