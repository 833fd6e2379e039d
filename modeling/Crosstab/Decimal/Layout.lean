import Crosstab.Decimal.Shortest

/-!
How a finite double is written: which decimal stands for it is settled by `shortest`, and a `Layout`
says where the point goes. The two layouts of this library are `Layout.json`, for numbers in
documents, and `Layout.plain`, for numbers shown to people.
-/

namespace Crosstab.Decimal

structure Layout where
  /-- Whether a number whose leading digit has this exponent is written without an exponent. -/
  positional : Int → Bool
  /-- Whether a whole number keeps a point and one zero. -/
  wholePart : Bool
  /-- Whether of two equally near decimals the upper one is taken; otherwise the even one. -/
  tiesUp : Bool

/-- Numbers in documents: positional from `0.00001` up to sixteen digits before the point, a whole
number marked by `.0`, and otherwise an exponent with its sign. -/
def Layout.json : Layout := ⟨fun e => -5 ≤ e && e ≤ 15, true, false⟩

/-- Numbers shown to people: never an exponent, and a whole number has no point. -/
def Layout.plain : Layout := ⟨fun _ => true, false, true⟩

/-- `digits` with the point after the digit of exponent zero, if `leading` is the exponent of the
first digit. -/
def positionalText (wholePart : Bool) (digits : List Char) (leading : Int) : List Char :=
  if leading < 0 then
    '0' :: '.' :: (List.replicate (-leading - 1).toNat '0' ++ digits)
  else
    let before := leading.toNat + 1
    if digits.length ≤ before then
      digits ++ List.replicate (before - digits.length) '0' ++
        (if wholePart then ['.', '0'] else [])
    else
      digits.take before ++ '.' :: digits.drop before

/-- One digit, a point before the others if there are any, and the exponent with its sign. -/
def exponentText (digits : List Char) (leading : Int) : List Char :=
  let mark := if leading < 0 then ['e', '-'] else ['e', '+']
  let size := Nat.toDigits 10 leading.natAbs
  match digits with
  | [] => []
  | [d] => d :: mark ++ size
  | d :: others => d :: '.' :: others ++ mark ++ size

/-- The text of a decimal whose digits have no trailing zeros. -/
def Layout.unsigned (layout : Layout) (d : Scaled) : List Char :=
  let all := Nat.toDigits 10 d.digits
  let leading := d.exponent + all.length - 1
  let digits := (all.reverse.dropWhile (· == '0')).reverse
  if layout.positional leading then positionalText layout.wholePart digits leading
  else exponentText digits leading

/-- The text of a finite double. Zero keeps its sign. -/
def Layout.finite (layout : Layout) (x : Float) : String :=
  let (m, q) := significand x
  let body :=
    if m = 0 then if layout.wholePart then ['0', '.', '0'] else ['0']
    else layout.unsigned (shortest layout.tiesUp m q)
  String.ofList (if signBit x then '-' :: body else body)

/-- The text shown to people, infinities and the undefined value included. -/
def display (x : Float) : String :=
  if x.isFinite then Layout.plain.finite x
  else if x.isNaN then "NaN"
  else if signBit x then "-inf"
  else "inf"

end Crosstab.Decimal
