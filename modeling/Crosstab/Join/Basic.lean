import Crosstab.Text.Blank

/-!
How two entities can be combined: the kinds of join, and the conditions that relate a row of one
side to a row of the other.
-/

namespace Crosstab

open Crosstab.Text

/-- How two entities are combined. -/
inductive JoinKind where
  | inner
  | left
  | right
  /-- At most one matching row of the right side for each row of the left; which one is open. -/
  | first
  /-- The rows of the left side that have a match. Nothing of the right side is projected. -/
  | semi
deriving DecidableEq

namespace JoinKind

def all : List JoinKind := [.inner, .left, .right, .first, .semi]

def name : JoinKind → String
  | .inner => "inner"
  | .left => "left"
  | .right => "right"
  | .first => "first"
  | .semi => "exists"

def names : List (String × JoinKind) := all.map fun kind => (kind.name, kind)

/-- Whether the rows that the join yields carry both sides. -/
def projectsBoth (kind : JoinKind) : Bool := kind ≠ .semi

end JoinKind

/-- How a field of the left side compares to one of the right. -/
inductive Comparator where
  | eq
  | ne
  | lt
  | le
  | gt
  | ge
deriving DecidableEq

namespace Comparator

def symbol : Comparator → String
  | .eq => "="
  | .ne => "<>"
  | .lt => "<"
  | .le => "<="
  | .gt => ">"
  | .ge => ">="

def names : List (String × Comparator) :=
  [("=", .eq), ("eq", .eq), ("<>", .ne), ("!=", .ne), ("ne", .ne), ("<", .lt), ("lt", .lt),
    ("<=", .le), ("lte", .le), (">", .gt), ("gt", .gt), (">=", .ge), ("gte", .ge)]

def flipped : Comparator → Comparator
  | .eq => .eq
  | .ne => .ne
  | .lt => .gt
  | .le => .ge
  | .gt => .lt
  | .ge => .le

end Comparator

/-- One condition of a join, between a field of the left side and one of the right. -/
structure FieldPair where
  leftField : String := ""
  rightField : String := ""
  comparator : Comparator := .eq
deriving DecidableEq

namespace FieldPair

def isComplete (pair : FieldPair) : Bool :=
  !isBlankText pair.leftField && !isBlankText pair.rightField

def flipped (pair : FieldPair) : FieldPair :=
  ⟨pair.rightField, pair.leftField, pair.comparator.flipped⟩

def trimmed (pair : FieldPair) : FieldPair :=
  { pair with leftField := trim pair.leftField, rightField := trim pair.rightField }

def display (pair : FieldPair) : String :=
  pair.leftField ++ " " ++ pair.comparator.symbol ++ " " ++ pair.rightField

end FieldPair

/-- A registered way of joining two entities. -/
structure JoinRule where
  source : String
  target : String
  pairs : List FieldPair := []
  defaultKind : JoinKind := .left
  supportedKinds : List JoinKind := JoinKind.all
  /-- Whether the rule is preferred to others for the same entities. -/
  isDefault : Bool := false
deriving DecidableEq

namespace JoinRule

def supports (rule : JoinRule) (kind : JoinKind) : Bool := rule.supportedKinds.contains kind

def reversed (rule : JoinRule) : JoinRule :=
  { rule with
    source := rule.target, target := rule.source, pairs := rule.pairs.map FieldPair.flipped }

/-- The rule as seen from `source`, if it connects `source` and `target`. -/
def oriented? (rule : JoinRule) (source target : String) : Option JoinRule :=
  if rule.source = source ∧ rule.target = target then some rule
  else if rule.source = target ∧ rule.target = source then some rule.reversed
  else none

end JoinRule

end Crosstab
