/-!
Shortest decimals. A positive finite double stands for an interval of real numbers, those that round
to it. Among the decimals in that interval with the fewest digits, `shortest` picks the nearest to
the double itself. All arithmetic is exact, on natural numbers.
-/

namespace Crosstab.Decimal

/-- A positive decimal `digits · 10 ^ exponent`. -/
structure Scaled where
  digits : Nat
  exponent : Int

structure Ratio where
  num : Nat
  den : Nat

def Ratio.dyadic (n : Nat) (q : Int) : Ratio :=
  if 0 ≤ q then ⟨n * Nat.pow 2 q.toNat, 1⟩ else ⟨n, Nat.pow 2 (-q).toNat⟩

def Ratio.decimal (n : Nat) (k : Int) : Ratio :=
  if 0 ≤ k then ⟨n * Nat.pow 10 k.toNat, 1⟩ else ⟨n, Nat.pow 10 (-k).toNat⟩

def Ratio.lt (a b : Ratio) : Bool := a.num * b.den < b.num * a.den

def Ratio.le (a b : Ratio) : Bool := a.num * b.den ≤ b.num * a.den

/-- The whole part of `r / 10 ^ k`. -/
def Ratio.floorOnGrid (r : Ratio) (k : Int) : Nat :=
  if 0 ≤ k then r.num / (r.den * Nat.pow 10 k.toNat) else r.num * Nat.pow 10 (-k).toNat / r.den

def digitCount (n : Nat) : Nat := (Nat.toDigits 10 n).length

/-- The exponent of the leading digit of a number that is not a negative power of ten. -/
def Ratio.leadingExponent (r : Ratio) : Int :=
  if r.den ≤ r.num then digitCount (r.num / r.den) - 1 else -(digitCount (r.den / r.num) : Int)

/-- The reals that round to `m · 2 ^ q`. The lower gap is half as wide where the exponent changes;
the ends belong to the interval if the significand is even, because ties go to even. -/
structure Interval where
  low : Ratio
  value : Ratio
  high : Ratio
  closed : Bool

def Interval.ofDouble (m : Nat) (q : Int) : Interval where
  low := if m = Nat.pow 2 52 ∧ -1074 < q then .dyadic (4 * m - 1) (q - 2)
    else .dyadic (4 * m - 2) (q - 2)
  value := .dyadic m q
  high := .dyadic (4 * m + 2) (q - 2)
  closed := m % 2 == 0

def Interval.holds (i : Interval) (r : Ratio) : Bool :=
  if i.closed then i.low.le r && r.le i.high else i.low.lt r && r.lt i.high

/-- The better of the two neighbours of the value on the grid of step `10 ^ k`, if one of them is in
the interval. Of two at the same distance the upper one is taken if `tiesUp`, else the even one. -/
def Interval.onGrid? (tiesUp : Bool) (i : Interval) (k : Int) : Option Nat :=
  let below := i.value.floorOnGrid k
  let above := below + 1
  let middle := Ratio.decimal (10 * below + 5) (k - 1)
  let belowIn := 0 < below && i.holds (.decimal below k)
  let aboveIn := i.holds (.decimal above k)
  match belowIn, aboveIn with
  | false, false => none
  | true, false => some below
  | false, true => some above
  | true, true =>
    if i.value.lt middle then some below
    else if middle.lt i.value then some above
    else if tiesUp || below % 2 == 1 then some above
    else some below

/-- The first hit on the grids with one, two, … digits, `count` of them in all. -/
def Interval.search (tiesUp : Bool) (i : Interval) (leading : Int) : (count tried : Nat) → Scaled
  | 0, tried => ⟨i.value.floorOnGrid (leading - tried), leading - tried⟩
  | count + 1, tried =>
    match i.onGrid? tiesUp (leading - tried) with
    | some n => ⟨n, leading - tried⟩
    | none => i.search tiesUp leading count (tried + 1)

/-- The shortest decimal that reads back as `m · 2 ^ q`. Seventeen digits always suffice. -/
def shortest (tiesUp : Bool) (m : Nat) (q : Int) : Scaled :=
  let i := Interval.ofDouble m q
  i.search tiesUp i.value.leadingExponent 17 0

/-- Significand and exponent of the absolute value of a finite double. -/
def significand (x : Float) : Nat × Int :=
  let bits : Nat := x.toBits.toNat % Nat.pow 2 63
  let exponent : Nat := bits / Nat.pow 2 52
  let fraction : Nat := bits % Nat.pow 2 52
  if exponent = 0 then (fraction, -1074) else (fraction + Nat.pow 2 52, (exponent : Int) - 1075)

def signBit (x : Float) : Bool := Nat.pow 2 63 ≤ x.toBits.toNat

end Crosstab.Decimal
