import Crosstab.Document.Decode
import Crosstab.Join.Basic

/-!
The written form of join conditions and join rules.
-/

namespace Crosstab

def JoinKind.ofDocument? (c : Convention) (d : Document) : Option JoinKind :=
  d.constant? c JoinKind.names

def Comparator.ofDocument? (c : Convention) (d : Document) : Option Comparator :=
  d.constant? c Comparator.names

/-- The condition that a document describes. A missing name is an empty one, and a missing
comparator asks for equality. -/
def FieldPair.ofDocument? (d : Document) : Option FieldPair := do
  let fields ← d.fields? .json ["leftField", "rightField", "comparator"]
  let leftField ← Document.optional? fields "leftField" "" Document.text?
  let rightField ← Document.optional? fields "rightField" "" Document.text?
  let comparator ← Document.optional? fields "comparator" .eq (Comparator.ofDocument? .json)
  some { leftField, rightField, comparator }

def FieldPair.toJson (pair : FieldPair) : Json :=
  .object [
    ("leftField", .text pair.leftField),
    ("rightField", .text pair.rightField),
    ("comparator", .text pair.comparator.symbol)]

/-- The rule that a document describes. Only the two entities have to be named. -/
def JoinRule.ofDocument? (d : Document) : Option JoinRule := do
  let fields ←
    d.fields? .json
      ["sourceEntity", "targetEntity", "fieldPairs", "defaultJoinKind", "supportedJoinKinds",
        "isDefault"]
  let source ← Document.required? fields "sourceEntity" Document.text?
  let target ← Document.required? fields "targetEntity" Document.text?
  let pairs ← Document.optional? fields "fieldPairs" [] (Document.list? FieldPair.ofDocument?)
  let defaultKind ← Document.optional? fields "defaultJoinKind" .left (JoinKind.ofDocument? .json)
  let supportedKinds ←
    Document.optional? fields "supportedJoinKinds" JoinKind.all
      (Document.list? (JoinKind.ofDocument? .json))
  let isDefault ← Document.optional? fields "isDefault" false Document.bool?
  some { source, target, pairs, defaultKind, supportedKinds, isDefault }

def JoinRule.toJson (rule : JoinRule) : Json :=
  .object [
    ("sourceEntity", .text rule.source),
    ("targetEntity", .text rule.target),
    ("fieldPairs", .list (rule.pairs.map FieldPair.toJson)),
    ("defaultJoinKind", .text rule.defaultKind.name),
    ("supportedJoinKinds", .texts (rule.supportedKinds.map JoinKind.name)),
    ("isDefault", .bool rule.isDefault)]

end Crosstab
