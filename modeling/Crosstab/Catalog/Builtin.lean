import Crosstab.Column
import Crosstab.Join.Basic

/-!
Entities, and the built-in catalog: inventory records and the returns logged against them. It is
served wherever a configured catalog has nothing to say.
-/

namespace Crosstab

/-- An entity with the name that people see. -/
structure Entity where
  id : String
  displayName : String := ""
  visible : Bool := true
deriving DecidableEq

/-- An entity shown under the title of its id. -/
def Entity.ofId [Text.Titling] (id : String) : Entity :=
  { id, displayName := Text.Titling.title id }

/-- The entity that a document describes. Only the id has to be given. -/
def Entity.ofDocument? (d : Document) : Option Entity := do
  let fields ← d.fields? .json ["id", "displayName", "visible"]
  let id ← Document.required? fields "id" Document.text?
  let displayName ← Document.optional? fields "displayName" "" Document.text?
  let visible ← Document.optional? fields "visible" true Document.bool?
  some { id, displayName, visible }

def Entity.jsonFields (entity : Entity) : List (String × Json) :=
  [("id", .text entity.id), ("displayName", .text entity.displayName),
    ("visible", .bool entity.visible)]

def Entity.toJson (entity : Entity) : Json := .object entity.jsonFields

namespace Builtin

def entities : List Entity :=
  [{ id := "inventory", displayName := "Inventory Records" },
    { id := "returns", displayName := "Return Records" }]

def inventoryColumns [Text.Titling] : List Column :=
  [{ entity := "inventory", field := "sku", label := "SKU" },
    .ofTexts "inventory" "productName",
    .ofTexts "inventory" "category",
    .ofTexts "inventory" "brand",
    .ofTexts "inventory" "warehouse",
    .ofTexts "inventory" "region",
    .ofNumbers "inventory" "quantity",
    .ofNumbers "inventory" "unitCost",
    .ofNumbers "inventory" "revenue",
    .ofDates "inventory" "receivedDate"]

def returnColumns [Text.Titling] : List Column :=
  [{ entity := "returns", field := "returnId", label := "Return ID" },
    { entity := "returns", field := "sku", label := "SKU" },
    .ofTexts "returns" "reason",
    .ofTexts "returns" "condition",
    .ofTexts "returns" "channel",
    .ofNumbers "returns" "quantityReturned",
    .ofNumbers "returns" "refundAmount",
    .ofDates "returns" "returnDate"]

/-- The columns of an entity; none unless it is built in. -/
def columns [Text.Titling] (entity : String) : List Column :=
  if entity = "inventory" then inventoryColumns
  else if entity = "returns" then returnColumns
  else []

/-- The only join: from inventory to returns by stock number. -/
def joins : List JoinRule :=
  [{ source := "inventory", target := "returns", pairs := [⟨"sku", "sku", .eq⟩],
     isDefault := true }]

def tables : List (String × String) :=
  [("inventory", "inventory_records"), ("returns", "return_records")]

/-- The columns of built-in fields whose names are more than their letters in lower case. -/
def fields : List ((String × String) × String) :=
  [(("inventory", "productName"), "product_name"),
    (("inventory", "unitCost"), "unit_cost"),
    (("inventory", "receivedDate"), "received_date"),
    (("returns", "returnId"), "return_id"),
    (("returns", "quantityReturned"), "quantity_returned"),
    (("returns", "refundAmount"), "refund_amount"),
    (("returns", "returnDate"), "return_date")]

end Builtin

end Crosstab
