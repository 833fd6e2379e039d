import Crosstab.Proofs.Sql.Scope
import Crosstab.Proofs.Statement.Compile

/-!
The scopes of joins. However a dialect writes a join, its clauses bind the right name just if both
sides are projected, and they mention no columns but those of the join's own conditions, each under
a name that stands for the entity on its side.
-/

namespace Crosstab

open Crosstab.Sql

namespace Sql

/-- A source with the rows of an entity: its table, or a sub-select that picks one row of the
table. -/
def JoinSource.Holds (names : Naming) (entity : String) : JoinSource → Prop
  | .table t => ∃ name, t = names.tableRef entity name
  | .lateral query _ => query.items = [⟨.star none, none⟩] ∧ query.joins = [] ∧ query.groups = [] ∧
    query.limit = some 1 ∧ ∃ name, query.source = some (names.tableRef entity name)

/-- A name in scope stands for an entity. -/
def Scope.StandsFor (scope : Scope) (names : Naming) (name entity : String) : Prop :=
  ∃ source, scope.find? name = some source ∧ source.Holds names entity

/-- The innermost source stands for its entity. -/
theorem Scope.standsFor_cons {names : Naming} {entity : String} (source : JoinSource)
    (h : source.Holds names entity) (scope : Scope) :
    Scope.StandsFor (source :: scope) names source.binder entity :=
  ⟨source, scope.find?_cons_self source, h⟩

/-- A source under another name hides nothing. -/
theorem Scope.StandsFor.behind {scope : Scope} {names : Naming} {name entity : String}
    (h : scope.StandsFor names name entity) {source : JoinSource} (hOther : source.binder ≠ name) :
    Scope.StandsFor (source :: scope) names name entity := by
  obtain ⟨found, hFind, hHolds⟩ := h
  exact ⟨found, (scope.find?_cons_of_ne hOther).trans hFind, hHolds⟩

/-- A name that is used for an entity, in front of a given column. -/
def Mention.Denotes (names : Naming) (entity column : String) : Mention → Prop
  | .bound _ => False
  | .used scope table found => found = some column ∧ scope.StandsFor names table entity

/-- The mention of a field of an entity, by the column of that field. -/
def Mention.IsField (names : Naming) (entity field : String) (m : Mention) : Prop :=
  m.Denotes names entity (names.column entity field)

def leftScope (names : Naming) (entity : String) : Scope :=
  [.table (names.tableRef entity leftName)]

/-- The mentions in the clauses of a join: in the joined sources, and in conditions behind them. -/
def clauseMentions (outer : Scope) (clauses : List JoinItem × List Expr) : List Mention :=
  joinMentions outer clauses.1 ++ exprMentions (joinScope clauses.1 outer) clauses.2

end Sql

namespace PlannedJoin

/-- What a join may mention: the fields of its conditions or, where one row is picked by it, the row
identity of the right side. -/
def Mentions (join : PlannedJoin) (names : Naming) (d : Dialect) (m : Mention) : Prop :=
  (∃ pair ∈ join.pairs, m.IsField names join.leftEntity pair.leftField ∨
    m.IsField names join.rightEntity pair.rightField) ∨
  join.kind = .first ∧ ∃ row, d.rowIdentity? = some row ∧ m.Denotes names join.rightEntity row

variable {join : PlannedJoin} {names : Naming} {d : Dialect} {scope : Scope}

/-- What the clauses of a join may hold: bindings, and mentions of the join's own fields, where the
inner name is used inside a sub-select only, which is over the right side. -/
def Fits (join : PlannedJoin) (names : Naming) (d : Dialect) (m : Mention) : Prop :=
  (∃ source, m = .bound source) ∨ join.Mentions names d m ∧
    ∀ scope column, m = .used scope innerName column →
      ∃ outer, scope = .table (names.tableRef join.rightEntity innerName) :: outer

/-- A column under a name in scope is one of its entity. -/
theorem fits_used {table column entity : String} (hScope : scope.StandsFor names table entity)
    (hInner : table = innerName →
      ∃ outer, scope = .table (names.tableRef join.rightEntity innerName) :: outer)
    (hMentions : ∀ m : Mention, m.Denotes names entity column → join.Mentions names d m) :
    join.Fits names d (.used scope table (some column)) := by
  refine .inr ⟨hMentions _ ⟨rfl, hScope⟩, fun _ _ hEq => ?_⟩
  cases hEq
  exact hInner rfl

/-- Conditions mention the fields of their pairs. -/
theorem fits_conditions {name : String} (hLeft : scope.StandsFor names leftName join.leftEntity)
    (hRight : scope.StandsFor names name join.rightEntity)
    (hInner : name = innerName →
      ∃ outer, scope = .table (names.tableRef join.rightEntity innerName) :: outer) :
    ∀ m ∈ exprMentions scope (join.conditions names name), join.Fits names d m := by
  unfold conditions
  split
  · simp [exprMentions, Expr.mentions]
  · rw [exprMentions_eq_flatMap, List.flatMap_map]
    intro m hMem
    obtain ⟨pair, hPair, hMention⟩ := List.mem_flatMap.mp hMem
    simp only [Expr.mentions, Expr.ofTable, List.mem_append, List.mem_singleton] at hMention
    rcases hMention with rfl | rfl
    · exact fits_used hLeft (fun hEq => absurd hEq (by decide)) fun m hField =>
        .inl ⟨pair, hPair, .inl hField⟩
    · exact fits_used hRight hInner fun m hField => .inl ⟨pair, hPair, .inr hField⟩

def innerTable (join : PlannedJoin) (names : Naming) : JoinSource :=
  .table (names.tableRef join.rightEntity innerName)

/-- A sub-select binds its table, and mentions what its parts do. -/
theorem mentions_matching (items : List Item) (limit : Option UInt64) :
    (join.matching names items limit).mentions scope = .bound (join.innerTable names) ::
      (itemMentions (join.innerTable names :: scope) items ++
        exprMentions (join.innerTable names :: scope) (join.conditions names innerName)) := by
  simp [matching, Query.empty, Query.mentions, joinMentions, exprMentions, orderMentions, joinScope,
    fromScope, innerTable]

theorem innerTable_standsFor :
    Scope.StandsFor (join.innerTable names :: scope) names innerName join.rightEntity :=
  Scope.standsFor_cons (join.innerTable names) ⟨innerName, rfl⟩ scope

/-- A sub-select over the right side is scoped by itself. -/
theorem fits_matching {items : List Item} (hLeft : scope.StandsFor names leftName join.leftEntity)
    (hItems : ∀ m ∈ itemMentions (join.innerTable names :: scope) items, join.Fits names d m)
    (limit : Option UInt64) :
    ∀ m ∈ (join.matching names items limit).mentions scope, join.Fits names d m := by
  have hInnerLeft : Scope.StandsFor (join.innerTable names :: scope) names leftName
      join.leftEntity := hLeft.behind (show innerName ≠ leftName by decide)
  have hConditions := fits_conditions (d := d) hInnerLeft innerTable_standsFor
    fun _ => ⟨scope, rfl⟩
  intro m hMem
  rw [mentions_matching] at hMem
  rcases List.mem_cons.mp hMem with hBound | hRest
  · exact .inl ⟨_, hBound⟩
  · rcases List.mem_append.mp hRest with hItem | hCondition
    · exact hItems m hItem
    · exact hConditions m hCondition

theorem boundNames_conditions (name : String) :
    boundNames (exprMentions scope (join.conditions names name)) = [] := by
  unfold conditions
  split
  · simp [exprMentions, Expr.mentions, boundNames]
  · rw [exprMentions_eq_flatMap, List.flatMap_map]
    simp [Expr.mentions, Expr.ofTable, boundNames, List.filterMap_flatMap]

/-- A sub-select over matching rows binds a single name. -/
theorem boundNames_matching {items : List Item}
    (hItems : boundNames (itemMentions (join.innerTable names :: scope) items) = [])
    (limit : Option UInt64) :
    boundNames ((join.matching names items limit).mentions scope) = [innerName] := by
  have hConditions : boundNames (exprMentions (join.innerTable names :: scope)
      (join.conditions names innerName)) = [] := boundNames_conditions innerName
  rw [mentions_matching]
  simp only [boundNames, List.filterMap_cons, List.filterMap_append] at hItems hConditions ⊢
  rw [hItems, hConditions]
  rfl

def rightTable (join : PlannedJoin) (names : Naming) : JoinSource :=
  .table (names.tableRef join.rightEntity rightName)

theorem leftScope_standsFor (entity : String) :
    (leftScope names entity).StandsFor names leftName entity :=
  Scope.standsFor_cons (.table (names.tableRef entity leftName)) ⟨leftName, rfl⟩ []

theorem rightTable_standsFor :
    Scope.StandsFor (join.rightTable names :: scope) names rightName join.rightEntity :=
  Scope.standsFor_cons (join.rightTable names) ⟨rightName, rfl⟩ scope

end PlannedJoin

/-- What the join of a plan, if there is one, adds to its query: the source that is joined, the
names that are bound, and everything that is mentioned. -/
structure ScopedClauses (names : Naming) (d : Dialect) (anchor : String)
    (planned : Option PlannedJoin) (clauses : List JoinItem × List Expr) : Prop where
  projected : ∀ join, planned = some join → join.kind.projectsBoth →
    ∃ item, clauses.1 = [item] ∧ item.source.binder = rightName ∧
      item.source.Holds names join.rightEntity
  unjoined : (∀ join, planned = some join → join.kind = .semi) → clauses.1 = []
  left : leftName ∉ boundNames (clauseMentions (leftScope names anchor) clauses)
  right : (boundNames (clauseMentions (leftScope names anchor) clauses)).count rightName =
    if ∃ join, planned = some join ∧ join.kind.projectsBoth then 1 else 0
  fits : ∀ m ∈ clauseMentions (leftScope names anchor) clauses,
    ∃ join, planned = some join ∧ join.Fits names d m

namespace PlannedJoin

variable {join : PlannedJoin} {names : Naming} {d : Dialect} {scope : Scope}

/-- A joined source is scoped if it binds the right name first and no more than the inner one
besides. -/
theorem scoped_item {item : JoinItem} (hKind : join.kind.projectsBoth)
    (hBinder : item.source.binder = rightName) (hHolds : item.source.Holds names join.rightEntity)
    (mentions : List Mention) (hMentions : clauseMentions (leftScope names join.leftEntity)
      ([item], []) = .bound item.source :: mentions)
    (hBound : ∀ name ∈ boundNames mentions, name = innerName)
    (hFits : ∀ m ∈ mentions, join.Fits names d m) :
    ScopedClauses names d join.leftEntity (some join) ([item], []) := by
  have hNames : boundNames (clauseMentions (leftScope names join.leftEntity) ([item], [])) =
      rightName :: boundNames mentions := by
    rw [hMentions, boundNames_cons_bound, hBinder]
  have hOther : ∀ name, name ≠ innerName → name ∉ boundNames mentions :=
    fun name hNe hMem => hNe (hBound name hMem)
  constructor
  case projected =>
    rintro _ ⟨⟩ -
    exact ⟨item, rfl, hBinder, hHolds⟩
  case unjoined =>
    intro hSemi
    simp [hSemi join rfl, JoinKind.projectsBoth] at hKind
  case left =>
    rw [hNames]
    exact List.not_mem_cons_of_ne_of_not_mem (by decide) (hOther leftName (by decide))
  case right =>
    rw [hNames, if_pos ⟨join, rfl, hKind⟩, List.count_cons_self,
      List.count_eq_zero_of_not_mem (hOther rightName (by decide))]
  case fits =>
    rw [hMentions]
    intro m hMem
    refine ⟨join, rfl, ?_⟩
    rcases List.mem_cons.mp hMem with hFirst | hRest
    · exact .inl ⟨_, hFirst⟩
    · exact hFits m hRest

theorem standsFor_left_behind_right :
    Scope.StandsFor (join.rightTable names :: leftScope names join.leftEntity) names leftName
      join.leftEntity :=
  (leftScope_standsFor _).behind (show rightName ≠ leftName by decide)

/-- The clauses are in scope if the right entity is joined as a whole. -/
theorem scoped_table (type : JoinType) (hKind : join.kind.projectsBoth) :
    ScopedClauses names d join.leftEntity (some join)
      ([join.tableJoin names type (join.conditions names rightName)], []) := by
  refine scoped_item hKind rfl ⟨rightName, rfl⟩
    (exprMentions (join.rightTable names :: leftScope names join.leftEntity)
      (join.conditions names rightName)) ?_ (by simp [boundNames_conditions]) ?_
  · simp [clauseMentions, tableJoin, joinMentions, JoinSource.mentions, exprMentions, rightTable]
  · exact fits_conditions standsFor_left_behind_right rightTable_standsFor
      fun hEq => absurd hEq (by decide)

/-- They are in scope if a sub-select in the join picks the row. -/
theorem scoped_lateralPick (hKind : join.kind.projectsBoth) :
    ScopedClauses names d join.leftEntity (some join) ([join.lateralPick names], []) := by
  have hStar (scope : Scope) : itemMentions scope [⟨.star none, none⟩] = [] := rfl
  refine scoped_item hKind rfl ⟨rfl, rfl, rfl, rfl, innerName, rfl⟩
    ((join.matching names [⟨.star none, none⟩] (some 1)).mentions
      (leftScope names join.leftEntity)) ?_ ?_ ?_
  · simp [clauseMentions, lateralPick, joinMentions, JoinSource.mentions, exprMentions]
  · rw [boundNames_matching (by rw [hStar]; rfl)]
    simp
  · exact fits_matching (leftScope_standsFor _) (by simp [hStar]) (some 1)

/-- They are in scope if a row is picked by its identity. -/
theorem scoped_rowPick {row : String} (hKind : join.kind = .first)
    (hRow : d.rowIdentity? = some row) :
    ScopedClauses names d join.leftEntity (some join) ([join.rowPick names row], []) := by
  have hIdentity (m : Mention) (h : m.Denotes names join.rightEntity row) :
      join.Mentions names d m :=
    .inr ⟨hKind, row, hRow, h⟩
  have hItem (scope : Scope) : itemMentions scope [⟨.ofTable innerName row, none⟩] =
      [.used scope innerName (some row)] := rfl
  refine scoped_item (by rw [hKind]; rfl) rfl ⟨rightName, rfl⟩
    (.used (join.rightTable names :: leftScope names join.leftEntity) rightName (some row) ::
      (join.matching names [⟨.ofTable innerName row, none⟩] (some 1)).mentions
        (join.rightTable names :: leftScope names join.leftEntity)) ?_ ?_ ?_
  · simp [clauseMentions, rowPick, tableJoin, joinMentions, JoinSource.mentions, exprMentions,
      Expr.mentions, Expr.ofTable, rightTable]
  · have hNames : boundNames ((join.matching names [⟨.ofTable innerName row, none⟩]
        (some 1)).mentions (join.rightTable names :: leftScope names join.leftEntity)) =
          [innerName] :=
      boundNames_matching (by rw [hItem]; rfl) (some 1)
    intro name hMem
    rw [boundNames_cons_used, hNames] at hMem
    exact List.mem_singleton.mp hMem
  · refine List.forall_mem_cons.mpr ⟨?_, ?_⟩
    · -- The row identity of the join itself, and behind it the one inside the sub-select.
      exact fits_used rightTable_standsFor (fun hEq => absurd hEq (by decide)) hIdentity
    · refine fits_matching standsFor_left_behind_right ?_ (some 1)
      simp only [hItem, List.mem_singleton, forall_eq]
      exact fits_used innerTable_standsFor (fun _ => ⟨_, rfl⟩) hIdentity

/-- They are in scope if a matching row is only asked for. -/
theorem scoped_probe (hKind : join.kind = .semi) :
    ScopedClauses names d join.leftEntity (some join) ([], [join.probe names]) := by
  have hMentions : clauseMentions (leftScope names join.leftEntity) ([], [join.probe names]) =
      (join.matching names [⟨.int 1, none⟩] none).mentions (leftScope names join.leftEntity) := by
    simp [clauseMentions, probe, joinMentions, joinScope, exprMentions, Expr.mentions]
  have hOne (scope : Scope) : itemMentions scope [⟨.int 1, none⟩] = [] := rfl
  have hNames : boundNames (clauseMentions (leftScope names join.leftEntity)
      ([], [join.probe names])) = [innerName] := by
    rw [hMentions, boundNames_matching (by rw [hOne]; rfl)]
  constructor
  case projected =>
    rintro _ ⟨⟩ hBoth
    simp [hKind, JoinKind.projectsBoth] at hBoth
  case unjoined => exact fun _ => rfl
  case left =>
    rw [hNames]
    decide
  case right =>
    rw [hNames, if_neg (by simp [hKind, JoinKind.projectsBoth])]
    decide
  case fits =>
    rw [hMentions]
    exact fun m hMem => ⟨join, rfl,
      fits_matching (leftScope_standsFor _) (by simp [hOne]) none m hMem⟩

/-- The clauses of every join are scoped, in whichever way the dialect writes it. -/
theorem exists_scoped (join : PlannedJoin) (names : Naming) (d : Dialect) :
    ∃ clauses, join.clauses names d = .ok clauses ∧
      ScopedClauses names d join.leftEntity (some join) clauses := by
  rcases join.clauses_cases names d with ⟨hKind, type, h⟩ | ⟨hKind, h⟩ | ⟨hKind, row, hRow, h⟩ |
    ⟨hKind, h⟩
  · have hBoth : join.kind.projectsBoth := by
      simp only [List.mem_cons, List.not_mem_nil, or_false] at hKind
      rcases hKind with hKind | hKind | hKind <;> rw [hKind] <;> rfl
    exact ⟨_, h, scoped_table type hBoth⟩
  · exact ⟨_, h, scoped_lateralPick (by rw [hKind]; rfl)⟩
  · exact ⟨_, h, scoped_rowPick hKind hRow⟩
  · exact ⟨_, h, scoped_probe hKind⟩

end PlannedJoin

end Crosstab
