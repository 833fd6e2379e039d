import Crosstab.Catalog.Basic
import Crosstab.Proofs.Except

/-!
What loading guarantees. A source may describe columns as it likes; in the catalog every column
belongs to the entity that it is listed for.
-/

namespace Crosstab.Catalog

/-- Each column is listed for its own entity. -/
def OwnsColumns (c : Catalog) : Prop :=
  ∀ listing ∈ c.columns, ∀ column ∈ listing.2, column.entity = listing.1

theorem entity_labeled [Text.Titling] (column : Column) :
    column.labeled.entity = column.entity := by
  unfold Column.labeled
  split <;> rfl

/-- However a catalog is loaded, it lists columns under the entities that they are of. -/
theorem ownsColumns_load [Text.Titling] {source : Source} {c : Catalog} (h : load source = .ok c) :
    c.OwnsColumns := by
  simp only [load, bind_eq_ok, mapM_eq_ok] at h
  obtain ⟨listed, -, columns, hColumns, rules, -, hEq⟩ := h
  cases hEq
  intro listing hMem column hColumn
  obtain ⟨entity, -, hListing⟩ := exists_of_forall₂_right hColumns hMem
  obtain ⟨given, -, hEq⟩ := hListing
  cases hEq
  obtain ⟨described, -, rfl⟩ := List.mem_map.mp hColumn
  exact entity_labeled _

/-- What is found under two names bears these names. -/
theorem OwnsColumns.of_column? {c : Catalog} (h : c.OwnsColumns) {entity field : String}
    {column : Column} (hFound : c.column? entity field = some column) :
    column.entity = entity ∧ column.field = field := by
  have hField : column.field = field := by simpa using List.find?_some hFound
  have hMem := List.mem_of_find?_eq_some hFound
  unfold columnsOf at hMem
  cases hLookup : c.columns.lookup entity with
  | none => simp [hLookup] at hMem
  | some columns =>
      rw [hLookup] at hMem
      obtain ⟨before, after, hColumns, -⟩ := List.lookup_eq_some_iff.mp hLookup
      exact ⟨h (entity, columns) (by simp [hColumns]) column hMem, hField⟩

/-- The catalog that the built-in registry is loaded as. -/
def builtin : Catalog where
  entities := Builtin.entities
  columns := [("inventory", Builtin.inventoryColumns), ("returns", Builtin.returnColumns)]
  joins := Builtin.joins

/-- What is built in always loads. -/
theorem load_builtin : load Registry.builtin.source = .ok builtin := rfl

end Crosstab.Catalog
