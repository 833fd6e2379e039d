import Crosstab.Decimal.Reader
import Crosstab.Json.Printer
import Crosstab.Plan.Basic
import Crosstab.Rejection
import Crosstab.Text.Digit

/-!
Reading filter values. Which form a value needs follows from the operator, and what its texts have
to denote follows from the kind of the column.
-/

namespace Crosstab

open Crosstab.Text

/-- So many decimal digits, and behind them what `next` accepts. -/
def digitsThen (count : Nat) (next : List Char → Bool) (cs : List Char) : Bool :=
  (cs.take count).length == count && (cs.take count).all isDecimalDigit && next (cs.drop count)

/-- A given mark, and behind it what `next` accepts. -/
def markThen (mark : Char) (next : List Char → Bool) : List Char → Bool
  | [] => false
  | c :: rest => c == mark && next rest

/-- Nothing, or a point and at least one digit. -/
def isFraction : List Char → Bool
  | [] => true
  | c :: rest => c == '.' && !rest.isEmpty && rest.all isDecimalDigit

/-- Nothing, or seconds with or without a fraction. -/
def isSeconds : List Char → Bool
  | [] => true
  | c :: rest => c == ':' && digitsThen 2 isFraction rest

/-- Nothing, or a time of day set off by a space or a `T`. -/
def isClock : List Char → Bool
  | [] => true
  | c :: rest => (c == ' ' || c == 'T') && digitsThen 2 (markThen ':' (digitsThen 2 isSeconds)) rest

/-- Whether a text has the form of a date: year, month and day, with or without a time of day. The
digits may be of any script, and whether the calendar has such a day is left to the store. -/
def isDateText (s : String) : Bool :=
  digitsThen 4 (markThen '-' (digitsThen 2 (markThen '-' (digitsThen 2 isClock)))) s.toList

/-- The operand that a text denotes for a kind of column. Numbers have to be finite. -/
def Operand.ofText : ValueKind → String → Except ValueFault Operand
  | .numeric, s =>
    match (Decimal.readFloat? s).filter Float.isFinite with
    | some x => .ok (.number x)
    | none => .error (.notANumber s)
  | .date, s => if isDateText s then .ok (.date s) else .error (.notADate s)
  | .text, s => .ok (.text s)

/-- The text of a value that is neither null nor a container, exactly as it was sent. -/
def verbatim? : Json → Option String
  | .text s => some s
  | .number n => some n.text
  | .bool b => some (if b then "true" else "false")
  | _ => none

/-- The texts of a list. Its members are kept as they are; a single text is cut at its commas, and
the pieces are trimmed and empty ones dropped. -/
def listTexts? : Json → Option (List String)
  | .list items => items.mapM verbatim?
  | .text s =>
    some (((pieces ',' s.toList).map fun piece => String.ofList (trimChars piece)).filter (· ≠ ""))
  | value => (verbatim? value).map fun s => [trim s]

/-- A text with the wildcards of patterns escaped by a backslash, so that it matches only itself. -/
def escapePattern (s : String) : String :=
  String.ofList (s.toList.flatMap fun c =>
    if c == '\\' || c == '%' || c == '_' then ['\\', c] else [c])

/-- The text of a single value, trimmed, unless nothing is left of it. -/
def scalarText? (value : Option Json) : Option String :=
  ((value.bind verbatim?).map trim).filter (· ≠ "")

namespace FilterValue

def ofMembers (value : Option Json) : Except ValueFault FilterValue :=
  match value with
  | none => .error .listMissing
  | some value =>
    match listTexts? value with
    | some items => .ok (.list items)
    | none => .error .notAList

def ofBounds (kind : ValueKind) (value : Option Json) : Except ValueFault FilterValue :=
  match value with
  | none => .error .boundsMissing
  | some value =>
    match listTexts? value with
    | some [low, high] => do
      let low ← Operand.ofText kind (trim low)
      let high ← Operand.ofText kind (trim high)
      return .range low high
    | some items => .error (.boundCount items.length)
    | none => .error .notBounds

def ofPattern (value : Option Json) (before after : String) : Except ValueFault FilterValue :=
  match scalarText? value with
  | some s => .ok (.pattern (before ++ escapePattern s ++ after))
  | none => .error .patternMissing

def ofScalar (kind : ValueKind) (value : Option Json) : Except ValueFault FilterValue :=
  match scalarText? value with
  | some s => (Operand.ofText kind s).map .scalar
  | none => .error .scalarMissing

/-- The value of a filter with a given operator on a column of a given kind. A null value is
none. -/
def read (kind : ValueKind) (operator : FilterOperator) (value : Option Json) :
    Except ValueFault FilterValue :=
  let given := value.filter (!·.isNull)
  match operator with
  | .isNull | .isNotNull => .ok .absent
  | .isIn | .notIn => ofMembers given
  | .between => ofBounds kind given
  | .contains => ofPattern given "%" "%"
  | .startsWith => ofPattern given "" "%"
  | .endsWith => ofPattern given "%" ""
  | .equals | .notEquals | .greaterThan | .lessThan | .greaterEqual | .lessEqual =>
    ofScalar kind given

end FilterValue

end Crosstab
