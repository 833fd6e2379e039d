import Crosstab.Proofs.Catalog.Load
import Crosstab.Proofs.Keyed

/-!
Catalogs of registries. A registry remembers of each id only what was registered last under it, and
a catalog shows just that: an entity with the columns of its last registration, each of which
belongs to it. What is built in fills three gaps, one for entities, one for columns and one for
joins, and none of them depends on another.
-/

namespace Crosstab

open Crosstab.Text

inductive Registration where
  | entity (e : Entity) (columns : List Column)
  | join (rule : JoinRule)

namespace Registration

/-- The entity that is registered, with its columns. -/
def entry? : Registration → Option (Entity × List Column)
  | .entity e columns => some (e, columns)
  | .join _ => none

def rule? : Registration → Option JoinRule
  | .entity _ _ => none
  | .join rule => some rule

/-- The calls that register what is built in. -/
def builtin [Titling] : List Registration :=
  (Builtin.entities.map fun entity => .entity entity (Builtin.columns entity.id)) ++
    Builtin.joins.map .join

/-- The entities in the order of their last registration: those after which no other one is
registered under the same id. -/
def standing : List (Entity × List Column) → List Entity
  | [] => []
  | entry :: rest =>
    if ∃ later ∈ rest, later.1.id = entry.1.id then standing rest else entry.1 :: standing rest

/-- The columns of the last registration under an id. -/
def lastColumns (entries : List (Entity × List Column)) (id : String) : List Column :=
  ((entries.reverse.find? fun entry => entry.1.id = id).map Prod.snd).getD []

variable {entries : List (Entity × List Column)}

/-- The last registration takes the place of an earlier one of the same entity. -/
theorem standing_append_singleton (entries : List (Entity × List Column))
    (entry : Entity × List Column) : standing (entries ++ [entry]) =
      (standing entries).filter (fun other => other.id ≠ entry.1.id) ++ [entry.1] := by
  induction entries with
  | nil => simp [standing]
  | cons first rest ih =>
      rw [List.cons_append, standing, standing, ih]
      -- The new entry decides about the first one only if no other one has done so before.
      by_cases hAgain : ∃ later ∈ rest, later.1.id = first.1.id
      · have hLater : ∃ later ∈ rest ++ [entry], later.1.id = first.1.id := by
          obtain ⟨later, hMem, hId⟩ := hAgain
          exact ⟨later, List.mem_append_left _ hMem, hId⟩
        rw [if_pos hLater, if_pos hAgain]
      · by_cases hId : entry.1.id = first.1.id
        · have hLater : ∃ later ∈ rest ++ [entry], later.1.id = first.1.id :=
            ⟨entry, by simp, hId⟩
          rw [if_pos hLater, if_neg hAgain]
          simp [hId]
        · have hLast : ¬∃ later ∈ rest ++ [entry], later.1.id = first.1.id := by
            simpa [hId] using hAgain
          have hOther : first.1.id ≠ entry.1.id := fun hSame => hId hSame.symm
          rw [if_neg hLast, if_neg hAgain]
          simp [hOther]

/-- No entity stands twice. -/
theorem nodup_standing (entries : List (Entity × List Column)) :
    ((standing entries).map Entity.id).Nodup := by
  induction entries using List.reverseRecOn with
  | nil => exact List.nodup_nil
  | append_singleton entries entry ih =>
      rw [standing_append_singleton, List.map_append, List.map_singleton]
      apply List.nodup_append'.mpr
      refine ⟨ih.sublist (List.filter_sublist.map Entity.id), List.nodup_singleton _, ?_⟩
      rw [List.disjoint_singleton]
      simp

theorem standing_eq_nil : standing entries = [] ↔ entries = [] := by
  induction entries using List.reverseRecOn with
  | nil => simp [standing]
  | append_singleton entries entry ih => simp [standing_append_singleton]

end Registration

namespace Registry

def after (r : Registry) : Registration → Registry
  | .entity e columns => r.withEntity e columns
  | .join rule => r.withJoin rule

def run (r : Registry) (calls : List Registration) : Registry := calls.foldl after r

theorem run_append_singleton (r : Registry) (calls : List Registration) (call : Registration) :
    r.run (calls ++ [call]) = (r.run calls).after call := by
  rw [run, List.foldl_append, List.foldl_cons, List.foldl_nil, run]

/-- What a registry remembers of the entities and the rules that have been registered. -/
structure Remembers (r : Registry) (entries : List (Entity × List Column)) (rules : List JoinRule) :
    Prop where
  entities : r.entities = Registration.standing entries
  columns : ∀ id, r.columnsOf id = Registration.lastColumns entries id
  joins : r.joins = rules

/-- A registry without registrations has nothing to remember. -/
theorem remembers_empty : ({} : Registry).Remembers [] [] where
  entities := rfl
  columns _ := rfl
  joins := rfl

variable {r : Registry} {entries : List (Entity × List Column)} {rules : List JoinRule}

/-- An entity that is registered replaces whatever is remembered under its id, and nothing else. -/
theorem Remembers.withEntity (h : r.Remembers entries rules) (e : Entity) (columns : List Column) :
    (r.withEntity e columns).Remembers (entries ++ [(e, columns)]) rules := by
  constructor
  case entities =>
    rw [Registration.standing_append_singleton, ← h.entities]
    rfl
  case columns =>
    intro id
    have hOld := h.columns id
    unfold columnsOf Registration.lastColumns at hOld ⊢
    show ((Keyed.put e.id columns r.columns).lookup id).getD [] = _
    rw [Keyed.lookup_put, List.reverse_append, List.reverse_singleton, List.singleton_append,
      List.find?_cons]
    by_cases hId : id = e.id
    · simp [hId]
    · have hOther : ¬e.id = id := fun hSame => hId hSame.symm
      simpa [hId, hOther] using hOld
  case joins => exact h.joins

/-- What is remembered after one more rule. -/
theorem Remembers.withJoin (h : r.Remembers entries rules) (rule : JoinRule) :
    (r.withJoin rule).Remembers entries (rules ++ [rule]) where
  entities := h.entities
  columns := h.columns
  joins := congrArg (· ++ [rule]) h.joins

/-- After any call a registry remembers what it did before, and the call. -/
theorem Remembers.after (h : r.Remembers entries rules) (call : Registration) :
    (r.after call).Remembers (entries ++ call.entry?.toList) (rules ++ call.rule?.toList) := by
  cases call with
  | entity e columns =>
      show (r.withEntity e columns).Remembers (entries ++ [(e, columns)]) (rules ++ [])
      rw [List.append_nil]
      exact h.withEntity e columns
  | join rule =>
      show (r.withJoin rule).Remembers (entries ++ []) (rules ++ [rule])
      rw [List.append_nil]
      exact h.withJoin rule

/-- A registry remembers all calls that made it, by induction over the calls. -/
theorem remembers_run (calls : List Registration) : (({} : Registry).run calls).Remembers
    (calls.filterMap Registration.entry?) (calls.filterMap Registration.rule?) := by
  induction calls using List.reverseRecOn with
  | nil => exact remembers_empty
  | append_singleton calls call ih =>
      have hNext := ih.after call
      rw [run_append_singleton, List.filterMap_append, List.filterMap_append]
      cases call <;> exact hNext

/-- The catalog that a registry is loaded as. -/
def catalog [Titling] (r : Registry) : Catalog :=
  let entities := if r.entities = [] then Builtin.entities else r.entities
  { entities
    columns := entities.map fun e => (e.id, Catalog.resolvedColumns e.id (r.columnsOf e.id))
    joins := (if r.joins = [] then Builtin.joins else r.joins).filter fun rule =>
      rule.source ∈ entities.map Entity.id ∧ rule.target ∈ entities.map Entity.id }

/-- A registry always answers, so that loading never fails. -/
theorem load_source [Titling] (r : Registry) : Catalog.load r.source = .ok r.catalog := by
  have hColumns (entities : List Entity) : entities.mapM (fun e => do
      let columns ← r.source.columns e.id
      pure (e.id, Catalog.resolvedColumns e.id columns)) =
        (.ok (entities.map fun e => (e.id, Catalog.resolvedColumns e.id (r.columnsOf e.id))) :
          Except CatalogFault (List (String × List Column))) := by
    rw [mapM_eq_ok, List.forall₂_map_right_iff, List.forall₂_same]
    exact fun _ _ => rfl
  simp only [Catalog.load, bind_eq_ok]
  refine ⟨r.entities, rfl, _, hColumns _, r.joins, rfl, ?_⟩
  simp [catalog, pure, Except.pure, List.any_eq, Bool.decide_and]

/-- The columns of an entity are those that the registry has for it. -/
theorem columnsOf_catalog [Titling] {id : String} (h : id ∈ r.catalog.entities.map Entity.id) :
    r.catalog.columnsOf id = Catalog.resolvedColumns id (r.columnsOf id) := by
  have hColumns : r.catalog.columns = (r.catalog.entities.map Entity.id).map fun id =>
      (id, Catalog.resolvedColumns id (r.columnsOf id)) := by
    rw [List.map_map]
    rfl
  rw [Catalog.columnsOf, hColumns, Keyed.lookup_map_pair _ h, Option.getD_some]

/-- An entity that is not known has no columns. -/
theorem columnsOf_catalog_of_notMem [Titling] {id : String}
    (h : id ∉ r.catalog.entities.map Entity.id) : r.catalog.columnsOf id = [] := by
  have hNone : r.catalog.columns.lookup id = none := by
    rw [List.lookup_eq_none_iff]
    intro pair hPair
    obtain ⟨e, hMem, rfl⟩ := List.mem_map.mp hPair
    have hOther : id ≠ e.id := fun hSame => h (hSame ▸ List.mem_map_of_mem hMem)
    simpa using hOther
  rw [Catalog.columnsOf, hNone, Option.getD_none]

end Registry

/-- A column is found under an entity and a field just if it is the first one that the entity has of
that field. -/
theorem Catalog.column?_eq_some {c : Catalog} {entity field : String} {column : Column} :
    c.column? entity field = some column ↔ column.field = field ∧ ∃ before after,
      c.columnsOf entity = before ++ column :: after ∧ ∀ other ∈ before, other.field ≠ field := by
  rw [column?, List.find?_eq_some_iff_append]
  simp

/-- What a catalog shows of the calls that made its registry. -/
structure Catalog.Presents [Titling] (c : Catalog) (calls : List Registration) : Prop where
  distinct : (c.entities.map Entity.id).Nodup
  entities : c.entities =
    if calls.filterMap Registration.entry? = [] then Builtin.entities
    else Registration.standing (calls.filterMap Registration.entry?)
  /-- Apart from the entity and a blank label, columns are as they were registered. -/
  columns : ∀ id ∈ c.entities.map Entity.id, c.columnsOf id =
    (if Registration.lastColumns (calls.filterMap Registration.entry?) id =
      [] then Builtin.columns id
      else Registration.lastColumns (calls.filterMap Registration.entry?) id).map fun column =>
        { column with
          entity := id
          label := if isBlankText column.label then Titling.title column.field else column.label }
  unlisted : ∀ id ∉ c.entities.map Entity.id, c.columnsOf id = []
  /-- A pair of names has a column just if the entity is listed and has a field of that name, and it
  is the first such column. -/
  identity : ∀ entity field, ((c.column? entity field).isSome ↔
      entity ∈ c.entities.map Entity.id ∧ ∃ column ∈ c.columnsOf entity, column.field = field) ∧
    ∀ column, c.column? entity field = some column → column.entity = entity ∧ column.field = field ∧
      ∃ before after, c.columnsOf entity = before ++ column :: after ∧
        ∀ other ∈ before, other.field ≠ field
  joins : c.joins =
    (if calls.filterMap Registration.rule? = [] then Builtin.joins
      else calls.filterMap Registration.rule?).filter fun rule =>
        rule.source ∈ c.entities.map Entity.id ∧ rule.target ∈ c.entities.map Entity.id

/-- Filling a blank label is all that labelling does. -/
theorem Column.labeled_eq [Titling] (column : Column) : column.labeled = { column with
    label := if isBlankText column.label then Titling.title column.field else column.label } := by
  unfold labeled
  split <;> rfl

/-- Columns are registered under their entity. Without any, the built-in ones take their place. -/
theorem Catalog.resolvedColumns_eq [Titling] (id : String) (listed : List Column) :
    resolvedColumns id listed =
      (if listed = [] then Builtin.columns id else listed).map fun column =>
      { column with
        entity := id
        label :=
          if isBlankText column.label then Titling.title column.field else column.label } := by
  simp only [resolvedColumns, Column.labeled_eq, List.isEmpty_iff]

/-- What a registry remembers of calls is what its catalog presents of them. -/
theorem Registry.Remembers.presents [Titling] {r : Registry} {calls : List Registration}
    (h : r.Remembers (calls.filterMap Registration.entry?) (calls.filterMap Registration.rule?)) :
    r.catalog.Presents calls := by
  have hListed : r.catalog.entities =
      if calls.filterMap Registration.entry? = [] then Builtin.entities
      else Registration.standing (calls.filterMap Registration.entry?) := by
    show (if r.entities = [] then Builtin.entities else r.entities) = _
    rw [h.entities]
    simp only [Registration.standing_eq_nil]
  -- Only a listed entity has columns, so that finding one says that its entity is listed.
  have hEntity {entity : String} {column : Column} (hMem : column ∈ r.catalog.columnsOf entity) :
      entity ∈ r.catalog.entities.map Entity.id := by
    by_contra hUnlisted
    rw [columnsOf_catalog_of_notMem hUnlisted] at hMem
    exact absurd hMem List.not_mem_nil
  constructor
  case distinct =>
    rw [hListed]
    split
    next => decide
    next => exact Registration.nodup_standing _
  case entities => exact hListed
  case columns =>
    intro id hMem
    rw [columnsOf_catalog hMem, h.columns, Catalog.resolvedColumns_eq]
  case unlisted => exact fun id hUnlisted => columnsOf_catalog_of_notMem hUnlisted
  case identity =>
    intro entity field
    constructor
    · rw [Catalog.column?, List.find?_isSome]
      constructor
      · rintro ⟨column, hMem, hField⟩
        exact ⟨hEntity hMem, column, hMem, by simpa using hField⟩
      · rintro ⟨-, column, hMem, hField⟩
        exact ⟨column, hMem, by simpa using hField⟩
    · intro column hFound
      obtain ⟨hOwner, hField⟩ := (Catalog.ownsColumns_load r.load_source).of_column? hFound
      exact ⟨hOwner, hField, (Catalog.column?_eq_some.mp hFound).2⟩
  case joins =>
    show (if r.joins = [] then Builtin.joins else r.joins).filter _ = _
    rw [h.joins]
    rfl

/-- Whatever has been registered, in whatever order and however often, the catalog of a registry
presents it, whatever titles are given, and the built-in registry is one that has been made by such
calls. -/
theorem presents_load [Titling] : (∀ calls : List Registration, ∃ c,
      Catalog.load (({} : Registry).run calls).source = .ok c ∧ c.Presents calls) ∧
    ∀ calls : List Registration,
      Registry.builtin.run calls = ({} : Registry).run (Registration.builtin ++ calls) := by
  constructor
  · intro calls
    exact ⟨_, Registry.load_source _, (Registry.remembers_run calls).presents⟩
  · intro calls
    rw [Registry.run, Registry.run, List.foldl_append]
    rfl

/-- A column without a label of its own, registered for an entity in the name of another one. -/
def Registration.unlabeled : List Registration :=
  [.entity { id := "orders", displayName := "Orders" }
    [{ entity := "sales", field := "shipRegion", label := " " }]]

/-- A blank label is filled from the field, and the column stands under the entity it came with. -/
theorem presents_unlabeled : ∃ c,
    Catalog.load (({} : Registry).run Registration.unlabeled).source = .ok c ∧
    c.Presents Registration.unlabeled ∧
    c.column? "orders" "shipRegion" =
      some { entity := "orders", field := "shipRegion", label := "Ship Region" } := by
  obtain ⟨c, hLoad, hPresents⟩ := presents_load.1 Registration.unlabeled
  refine ⟨c, hLoad, hPresents, ?_⟩
  cases hLoad
  decide +kernel

end Crosstab
