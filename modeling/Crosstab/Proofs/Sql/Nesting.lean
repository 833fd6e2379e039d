import Crosstab.Proofs.Sql.Clause

/-!
How expressions and queries are nested. Every expression keeps its parentheses balanced and starts
no clause; what an operator may follow without parentheses has no operator of its own outside them.
So the clauses of a query are found in its tokens as they were written, and a test is never torn
apart.
-/

namespace Crosstab.Sql

/-- Whether a token may stand in an operand: it is neither the word of a conjunction nor that of a
range. -/
def Token.isOperand (t : Token) : Bool :=
  t.isPart && t ≠ .keyword .and && t ≠ .keyword .between

theorem Token.isPart_of_isOperand {t : Token} (h : t.isOperand) : t.isPart := by
  simp only [isOperand, Bool.and_eq_true] at h
  exact h.1.1

theorem Token.isFlat_of_isPart {t : Token} (h : t.isPart) : t.isFlat := by
  simp only [isPart, Bool.and_eq_true] at h
  exact h.1

/-- What may stand in a clause has its parentheses in pairs. -/
theorem Nested.flat {tokens : List Token} (h : Nested Token.isPart tokens) :
    Nested Token.isFlat tokens :=
  h.mono fun _ => Token.isFlat_of_isPart

/-- A list of parts may stand in a clause. -/
theorem nested_listed {parts : List (List Token)} (h : ∀ part ∈ parts, Nested Token.isPart part) :
    Nested Token.isPart (listed parts) :=
  .intercalate (.of_all rfl) h

/-- Joined conditions may stand in a clause. -/
theorem nested_conjoined {parts : List (List Token)}
    (h : ∀ part ∈ parts, Nested Token.isPart part) : Nested Token.isPart (conjoined parts) :=
  .intercalate (.of_all rfl) h

theorem nested_qualifier (table : Option String) : Nested Token.isOperand (qualifier table) := by
  cases table <;> exact .of_all rfl

theorem nested_naming (name : Option String) : Nested Token.isPart (naming name) := by
  cases name <;> exact .of_all rfl

theorem nested_negation (negated : Bool) : Nested Token.isOperand (negation negated) := by
  cases negated <;> exact .of_all rfl

theorem nested_direction (direction : Option SortDirection) :
    Nested Token.isPart (directionTokens direction) := by
  rcases direction with _ | _ | _ <;> exact .of_all rfl

theorem Solid.append_direction {tokens : List Token} (h : Solid tokens)
    (direction : Option SortDirection) : Solid (tokens ++ directionTokens direction) := by
  refine ⟨h.starts.append _, ?_⟩
  rcases direction with _ | _ | _
  · exact (List.append_nil tokens).symm ▸ h.ends
  · exact .append _ ⟨[_], _, rfl, rfl⟩
  · exact .append _ ⟨[_], _, rfl, rfl⟩

/-- A name with its table in front has no white space around it. -/
theorem solid_qualified (table : Option String) {t : Token} (h : t.isWhite = false) :
    Solid (qualifier table ++ [t]) := by
  cases table with
  | none => exact .singleton h
  | some table => exact .of_ends rfl (by simp [qualifier, h])

/-- How the tokens of an expression are nested. -/
structure Expr.Shaped (d : Dialect) (e : Expr) : Prop where
  nested : Nested Token.isPart (e.tokens d)
  atomic : e.isAtomic → Nested Token.isOperand (e.tokens d)
  solid : Solid (e.tokens d)

namespace Expr.Shaped

variable {d : Dialect} {e : Expr}

/-- What may be an operand may be a part. -/
theorem of_atomic (h : Nested Token.isOperand (e.tokens d)) (hSolid : Solid (e.tokens d)) :
    e.Shaped d :=
  ⟨h.mono fun _ => Token.isPart_of_isOperand, fun _ => h, hSolid⟩

theorem nested_map {es : List Expr} (h : ∀ e ∈ es, e.Shaped d) :
    ∀ part ∈ es.map (Expr.tokens d), Nested Token.isPart part := by
  simpa using fun e hMem => (h e hMem).nested

theorem solid_map {es : List Expr} (h : ∀ e ∈ es, e.Shaped d) :
    ∀ part ∈ es.map (Expr.tokens d), Solid part := by
  simpa using fun e hMem => (h e hMem).solid

/-- The arguments of a call are nested in its parentheses. -/
theorem nested_arguments {arguments : List Expr} (h : ∀ e ∈ arguments, e.Shaped d)
    (distinct : Bool) :
    Nested Token.isFlat
      ((if distinct then [.keyword .distinct, .space] else []) ++
        listed (exprTokens d arguments)) := by
  rw [exprTokens_eq_map]
  refine .append ?_ (nested_listed (nested_map h)).flat
  cases distinct <;> exact .of_all rfl

/-- Calls are shaped as operands. -/
theorem call {arguments : List Expr} (h : ∀ e ∈ arguments, e.Shaped d) (function : String)
    (distinct : Bool) : (Expr.call function distinct arguments).Shaped d := by
  refine .of_atomic ?_ ?_ <;> rw [Expr.tokens]
  · exact .token rfl (nested_arguments h distinct).parenthesized
  · exact ⟨⟨_, _, rfl, rfl⟩, .append [_] (Solid.parenthesized _).ends⟩

/-- Casts are shaped as operands in every dialect. -/
theorem cast (h : e.Shaped d) (kind : ValueKind) : (Expr.cast e kind).Shaped d := by
  have hFlat := h.nested.flat
  refine .of_atomic ?_ ?_ <;> rw [Expr.tokens, castTokens]
  · split
    · refine .append ?_ (.of_all rfl)
      split
      next hAtomic => exact h.atomic hAtomic
      next => exact hFlat.parenthesized
    · split
      · exact .token rfl hFlat.parenthesized
      · exact .token rfl (hFlat.append (.of_all rfl)).parenthesized
  · split
    · refine ⟨.append ?_ _, .append _ (Solid.of_ends rfl rfl).ends⟩
      split
      · exact h.solid.starts
      · exact (Solid.parenthesized _).starts
    · split <;> exact ⟨⟨_, _, rfl, rfl⟩, .append [_] (Solid.parenthesized _).ends⟩

/-- An expression that begins with an operand. -/
theorem of_operand {e operand : Expr} {middle last : List Token} (hOperand : operand.Shaped d)
    (hTokens : e.tokens d = operand.tokens d ++ (middle ++ last))
    (hMiddle : Nested Token.isPart middle) (hLast : Nested Token.isPart last) (hSolid : Solid last)
    (hAtomic : e.isAtomic = false) : e.Shaped d := by
  refine ⟨?_, by simp [hAtomic], ?_⟩ <;> rw [hTokens]
  · exact hOperand.nested.append (hMiddle.append hLast)
  · exact hOperand.solid.append hSolid

/-- A test for membership is shaped as a condition, also with an empty list. -/
theorem among {values : List Expr} (hOperand : e.Shaped d) (h : ∀ value ∈ values, value.Shaped d)
    (negated : Bool) : (Expr.among negated e values).Shaped d := by
  cases values with
  | nil =>
      refine ⟨?_, nofun, ?_⟩ <;> rw [Expr.tokens]
      · cases negated <;> exact .of_all rfl
      · cases negated <;> exact .singleton rfl
  | cons value values =>
      have hTokens : (Expr.among negated e (value :: values)).tokens d = e.tokens d ++
          (negation negated ++ [.space, .keyword .inKeyword, .space] ++
            parenthesized (listed ((value :: values).map (Expr.tokens d)))) := by
        simp [Expr.tokens, exprTokens_eq_map]
      refine hOperand.of_operand hTokens ?_ (nested_listed (nested_map h)).flat.parenthesized
        (.parenthesized _) rfl
      cases negated <;> exact .of_all rfl

/-- The `AND` between two bounds stands behind its `BETWEEN`. -/
theorem between {low high : Expr} (hOperand : e.Shaped d) (hLow : low.Shaped d)
    (hHigh : high.Shaped d) (negated : Bool) : (Expr.between negated e low high).Shaped d := by
  have hTokens : (Expr.between negated e low high).tokens d = e.tokens d ++
      (negation negated ++ [.space, .keyword .between, .space] ++
        (low.tokens d ++ [.space, .keyword .and, .space]) ++ high.tokens d) := by
    simp [Expr.tokens]
  refine hOperand.of_operand hTokens (.append ?_ (hLow.nested.append (.of_all rfl))) hHigh.nested
    hHigh.solid rfl
  cases negated <;> exact .of_all rfl

theorem like {pattern : Expr} (hOperand : e.Shaped d) (hPattern : pattern.Shaped d) (negated : Bool)
    (escape : Char) : (Expr.like negated e pattern escape).Shaped d := by
  have hTokens : (Expr.like negated e pattern escape).tokens d = e.tokens d ++
      (negation negated ++ [.space, .keyword .like, .space] ++
        (pattern.tokens d ++ [.space, .keyword .escape, .space]) ++
          [.text (String.singleton escape)]) := by
    simp [Expr.tokens]
  refine hOperand.of_operand hTokens (.append ?_ (hPattern.nested.append (.of_all rfl)))
    (.of_all rfl) (.singleton rfl) rfl
  cases negated <;> exact .of_all rfl

end Expr.Shaped

def JoinItem.on (d : Dialect) (join : JoinItem) : List Token :=
  if join.conditions.isEmpty then [.keyword .true]
  else conjoined (join.conditions.map (Expr.tokens d))

/-- The two clauses of a join. -/
def JoinItem.sections (d : Dialect) (join : JoinItem) : List Section :=
  [⟨.newline, join.type.keyword, .keyword .join :: .space :: join.source.tokens d⟩,
    ⟨.space, .onKeyword, join.on d⟩]

def sectionOver (word : Keyword) (join : List (List Token) → List Token)
    (parts : List (List Token)) : List Section :=
  if parts.isEmpty then [] else [⟨.newline, word, join parts⟩]

namespace Query

def selected (d : Dialect) (query : Query) : List Token :=
  [Token.comma].intercalate (query.items.map fun item =>
    .newline :: .indent 1 :: (item.expr.tokens d ++ naming item.name))

/-- The clauses of a query behind what it selects. -/
def sections (d : Dialect) (query : Query) : List Section :=
  (query.source.elim [] fun t => [⟨.newline, .fromKeyword, t.tokens⟩]) ++
    query.joins.flatMap (JoinItem.sections d) ++
    sectionOver .whereKeyword conjoined (query.conditions.map (Expr.tokens d)) ++
    sectionOver .groupBy listed (query.groups.map (Expr.tokens d)) ++
    sectionOver .orderBy listed (query.orders.map fun order =>
      order.expr.tokens d ++ directionTokens order.direction) ++
    query.limit.elim [] fun n => [⟨.newline, .limit, (limitTokens n).drop 2⟩]

/-- A query is what it selects, and its clauses behind that. -/
theorem tokens_eq_sections (d : Dialect) (query : Query) : query.tokens d =
    .keyword .select :: (query.selected d ++ (query.sections d).flatMap Section.tokens) := by
  have hOver (word : Keyword) (join : List (List Token) → List Token) (parts : List (List Token)) :
      (sectionOver word join parts).flatMap Section.tokens = clauseOver word join parts := by
    cases parts <;> simp [sectionOver, clauseOver, clause, Section.tokens]
  have hFrom : (query.source.elim [] fun t => clause .fromKeyword t.tokens) =
      (query.source.elim [] fun t => [⟨.newline, .fromKeyword, t.tokens⟩]).flatMap
        Section.tokens := by
    cases query.source <;> simp [clause, Section.tokens]
  have hLimit : (query.limit.elim [] fun n => .newline :: limitTokens n) =
      (query.limit.elim [] fun n => [⟨.newline, .limit, (limitTokens n).drop 2⟩]).flatMap
        Section.tokens := by
    cases query.limit <;> simp [limitTokens, Section.tokens]
  have hJoins : (query.joins.flatMap fun join => .newline :: join.tokens d) =
      (query.joins.flatMap (JoinItem.sections d)).flatMap Section.tokens := by
    rw [List.flatMap_assoc]
    apply List.flatMap_congr
    intro join _
    simp [JoinItem.tokens_eq, JoinItem.sections, JoinItem.on, Section.tokens]
  rw [tokens_eq, hFrom, hJoins, hLimit]
  simp only [sections, List.flatMap_append, hOver, selected, List.append_assoc]

/-- Clauses have their parentheses in pairs. -/
theorem nested_sections {parts : List Section} (h : ∀ part ∈ parts, part.Proper) :
    Nested Token.isFlat (parts.flatMap Section.tokens) := by
  induction parts with
  | nil => exact .nil
  | cons part rest ih =>
      obtain ⟨hPart, hRest⟩ := List.forall_mem_cons.mp h
      have hGap := Token.isFlat_of_isPart (isPart_of_isWhite hPart.gap)
      exact .append (.token hGap (.token rfl (.token rfl hPart.body.flat))) (ih hRest)

/-- How the tokens of a query are nested. -/
structure Shaped (d : Dialect) (query : Query) : Prop where
  selected : Nested Token.isPart (query.selected d)
  sections : ∀ part ∈ query.sections d, part.Proper

namespace Shaped

variable {d : Dialect} {query : Query}

theorem flat (h : query.Shaped d) : Nested Token.isFlat (query.tokens d) := by
  rw [tokens_eq_sections]
  exact .token rfl (h.selected.flat.append (nested_sections h.sections))

/-- What stands in the clauses of a query. -/
theorem clauseBodies (h : query.Shaped d) {word : Keyword} (hWord : word ≠ .select) :
    clauseBodies word (query.tokens d) =
      ((query.sections d).filter fun part => part.word = word).map Section.body := by
  rw [tokens_eq_sections]
  exact clauseBodies_eq h.selected h.sections hWord

end Shaped

end Query

/-- A clause over parts is found again. -/
theorem proper_sectionOver {word : Keyword} {separator : List Token} {parts : List (List Token)}
    (hWord : (Token.keyword word).startsClause) (hSeparator : separator.all Token.isPart)
    (hNested : ∀ part ∈ parts, Nested Token.isPart part) (hSolid : ∀ part ∈ parts, Solid part) :
    ∀ part ∈ sectionOver word separator.intercalate parts, part.Proper := by
  cases parts with
  | nil => simp [sectionOver]
  | cons part rest =>
      have hBody := Nested.intercalate (.of_all hSeparator) hNested
      have hSolid := @Solid.intercalate separator _ (List.cons_ne_nil part rest) hSolid
      intro section_ hMem
      obtain rfl := List.mem_singleton.mp hMem
      exact ⟨rfl, hWord, hBody, hSolid⟩

/-- A table and its name may stand in a clause. -/
theorem TableRef.nested_tokens (t : TableRef) : Nested Token.isPart t.tokens :=
  .token rfl (nested_naming t.name)

theorem TableRef.solid_tokens (t : TableRef) : Solid t.tokens := by
  obtain ⟨schema, table, name⟩ := t
  cases name <;> exact .of_ends rfl rfl

/-- Both clauses of a join are found again. -/
theorem JoinItem.proper_sections {d : Dialect} {join : JoinItem}
    (hLateral : ∀ query name, join.source = .lateral query name → query.Shaped d)
    (hConditions : ∀ e ∈ join.conditions, e.Shaped d) :
    ∀ part ∈ join.sections d, part.Proper := by
  obtain ⟨type, source, conditions⟩ := join
  have hWord : (Token.keyword type.keyword).startsClause := by cases type <;> rfl
  have hSource : Nested Token.isPart (source.tokens d) ∧ Ends (source.tokens d) := by
    cases source with
    | table t => exact ⟨t.nested_tokens, t.solid_tokens.ends⟩
    | lateral query name =>
        have hQuery := (hLateral query name rfl).flat
        rw [JoinSource.tokens]
        exact ⟨.append (.token rfl (.token rfl hQuery.parenthesized)) (nested_naming _),
          .append _ ⟨[_, _, _], .name name, rfl, rfl⟩⟩
  have hOn : Nested Token.isPart (JoinItem.on d ⟨type, source, conditions⟩) ∧
      Solid (JoinItem.on d ⟨type, source, conditions⟩) := by
    cases conditions with
    | nil => exact ⟨.of_all rfl, .singleton rfl⟩
    | cons e rest =>
        exact ⟨nested_conjoined (Expr.Shaped.nested_map hConditions),
          .intercalate (List.cons_ne_nil _ _) (Expr.Shaped.solid_map hConditions)⟩
  have hJoin : Solid (.keyword .join :: .space :: source.tokens d) :=
    ⟨⟨_, _, rfl, rfl⟩, .append [_, _] hSource.2⟩
  simp only [JoinItem.sections, List.forall_mem_cons, List.not_mem_nil, false_implies, implies_true,
    and_true]
  exact ⟨⟨rfl, hWord, .token rfl (.token rfl hSource.1), hJoin⟩, ⟨rfl, rfl, hOn.1, hOn.2⟩⟩

/-- A query is nested as its parts are: each of its clauses is found again. -/
theorem Query.Shaped.of_parts {d : Dialect} {query : Query}
    (hItems : ∀ item ∈ query.items, item.expr.Shaped d)
    (hJoins : ∀ join ∈ query.joins,
      (∀ query name, join.source = .lateral query name → query.Shaped d) ∧
        ∀ e ∈ join.conditions, e.Shaped d)
    (hConditions : ∀ e ∈ query.conditions, e.Shaped d) (hGroups : ∀ e ∈ query.groups, e.Shaped d)
    (hOrders : ∀ order ∈ query.orders, order.expr.Shaped d) : query.Shaped d := by
  have hFrom : ∀ part ∈ query.source.elim [] fun t => [Section.mk .newline .fromKeyword t.tokens],
      part.Proper := by
    cases query.source with
    | none => exact List.forall_mem_nil _
    | some t => exact List.forall_mem_singleton.mpr ⟨rfl, rfl, t.nested_tokens, t.solid_tokens⟩
  have hJoined : ∀ part ∈ query.joins.flatMap (JoinItem.sections d), part.Proper := by
    intro part hMem
    obtain ⟨join, hJoin, hPart⟩ := List.mem_flatMap.mp hMem
    exact JoinItem.proper_sections (hJoins join hJoin).1 (hJoins join hJoin).2 part hPart
  have hWhere : ∀ part ∈ sectionOver .whereKeyword conjoined (query.conditions.map (Expr.tokens d)),
      part.Proper :=
    proper_sectionOver rfl rfl (Expr.Shaped.nested_map hConditions)
      (Expr.Shaped.solid_map hConditions)
  have hGroup : ∀ part ∈ sectionOver .groupBy listed (query.groups.map (Expr.tokens d)),
      part.Proper :=
    proper_sectionOver rfl rfl (Expr.Shaped.nested_map hGroups) (Expr.Shaped.solid_map hGroups)
  have hOrder : ∀ part ∈ sectionOver .orderBy listed (query.orders.map fun order =>
      order.expr.tokens d ++ directionTokens order.direction), part.Proper := by
    refine proper_sectionOver rfl rfl (List.forall_mem_map.mpr fun order hMem => ?_)
      (List.forall_mem_map.mpr fun order hMem => ?_)
    · exact (hOrders order hMem).nested.append (nested_direction _)
    · exact (hOrders order hMem).solid.append_direction _
  have hLimit : ∀ part ∈ query.limit.elim [] fun n =>
      [Section.mk .newline .limit ((limitTokens n).drop 2)], part.Proper := by
    cases query.limit with
    | none => exact List.forall_mem_nil _
    | some n => exact List.forall_mem_singleton.mpr ⟨rfl, rfl, .of_all rfl, .singleton rfl⟩
  constructor
  case selected =>
    refine .intercalate (.of_all rfl) (List.forall_mem_map.mpr fun item hMem => ?_)
    exact .token rfl (.token rfl ((hItems item hMem).nested.append (nested_naming _)))
  case sections =>
    simp only [Query.sections, List.forall_mem_append]
    exact ⟨⟨⟨⟨⟨hFrom, hJoined⟩, hWhere⟩, hGroup⟩, hOrder⟩, hLimit⟩

/-- The induction behind `Expr.shaped` and `Query.shaped`. -/
theorem shaped_cases (d : Dialect) : SyntaxCases (Expr.Shaped d) (Query.Shaped d) where
  column table name := by
    refine .of_atomic ?_ ?_ <;> rw [Expr.tokens]
    · exact (nested_qualifier table).append (.of_all rfl)
    · exact solid_qualified table rfl
  int _ := .of_atomic (.of_all rfl) (.singleton rfl)
  text _ := .of_atomic (.of_all rfl) (.singleton rfl)
  param _ := .of_atomic (.of_all rfl) (.singleton rfl)
  compare c left right hLeft hRight := by
    have hTokens : (Expr.compare c left right).tokens d =
        left.tokens d ++ ([.space, .comparator c, .space] ++ right.tokens d) := by
      simp [Expr.tokens]
    exact hLeft.of_operand hTokens (.of_all rfl) hRight.nested hRight.solid rfl
  and left right hLeft hRight := by
    have hTokens : (Expr.and left right).tokens d =
        left.tokens d ++ ([.space, .keyword .and, .space] ++ right.tokens d) := by
      simp [Expr.tokens]
    exact hLeft.of_operand hTokens (.of_all rfl) hRight.nested hRight.solid rfl
  call function distinct _ h := .call h function distinct
  cast _ kind h := h.cast kind
  nonempty query h := by
    constructor
    case nested =>
      rw [Expr.tokens]
      exact .token rfl (.token rfl h.flat.parenthesized)
    case atomic =>
      intro hAtomic
      cases hAtomic
    case solid =>
      rw [Expr.tokens]
      exact ⟨⟨_, _, rfl, rfl⟩, .append [_, _] (Solid.parenthesized _).ends⟩
  scalar query h := by
    refine .of_atomic ?_ ?_ <;> rw [Expr.tokens]
    · exact h.flat.parenthesized
    · exact .parenthesized _
  among negated _ _ hOperand h := hOperand.among h negated
  between negated _ _ _ hOperand hLow hHigh := hOperand.between hLow hHigh negated
  isNull negated operand h := by
    have hTokens : (Expr.isNull negated operand).tokens d = operand.tokens d ++
        ([.space] ++ [.keyword (if negated then .isNotNull else .isNull)]) := by
      simp [Expr.tokens]
    refine h.of_operand hTokens (.of_all rfl) ?_ (.singleton rfl) rfl
    cases negated <;> exact .of_all rfl
  like negated _ _ escape hOperand hPattern := hOperand.like hPattern negated escape
  star table := by
    refine .of_atomic ?_ ?_ <;> rw [Expr.tokens]
    · exact (nested_qualifier table).append (.of_all rfl)
    · exact solid_qualified table rfl
  paren inner h := by
    refine .of_atomic ?_ ?_ <;> rw [Expr.tokens]
    · exact h.nested.flat.parenthesized
    · exact .parenthesized _
  query _ _ _ _ _ _ _ hItems hJoins hConditions hGroups hOrders :=
    Query.Shaped.of_parts hItems hJoins hConditions hGroups hOrders

/-- Every expression has its shape. -/
theorem Expr.shaped (d : Dialect) (e : Expr) : e.Shaped d := (shaped_cases d).ofExpr e

/-- Every query has its shape. -/
theorem Query.shaped (d : Dialect) (query : Query) : query.Shaped d :=
  (shaped_cases d).ofQuery query

theorem filter_sectionOver (word other : Keyword) (join : List (List Token) → List Token)
    (parts : List (List Token)) :
    ((sectionOver word join parts).filter fun part => part.word = other) =
      if word = other then sectionOver word join parts else [] := by
  cases parts with
  | nil => simp [sectionOver]
  | cons part rest => by_cases h : word = other <;> simp [sectionOver, h]

section Clauses

variable (d : Dialect) (query : Query)

/-- The clauses of a query that conditions stand in are those of its joins and its own. -/
theorem Query.filter_sections {word : Keyword}
    (h : word ∉ [Keyword.fromKeyword, .groupBy, .orderBy, .limit]) :
    ((query.sections d).filter fun part => part.word = word) =
      (query.joins.flatMap fun join => (join.sections d).filter fun part => part.word = word) ++
        if .whereKeyword = word then
          sectionOver .whereKeyword conjoined (query.conditions.map (Expr.tokens d))
        else [] := by
  obtain ⟨hFrom, hGroup, hOrder, hLimit⟩ : Keyword.fromKeyword ≠ word ∧ Keyword.groupBy ≠ word ∧
      Keyword.orderBy ≠ word ∧ Keyword.limit ≠ word := by simpa [eq_comm] using h
  have hSource : ((query.source.elim [] fun t => [Section.mk .newline .fromKeyword t.tokens]).filter
      fun part => part.word = word) = [] := by cases query.source <;> simp [hFrom]
  have hRows : ((query.limit.elim [] fun n =>
      [Section.mk .newline .limit ((limitTokens n).drop 2)]).filter fun part => part.word = word) =
        [] := by cases query.limit <;> simp [hLimit]
  simp only [sections, List.filter_append, filter_sectionOver, List.filter_flatMap, hSource, hRows,
    if_neg hGroup, if_neg hOrder, List.append_nil, List.nil_append]

/-- There is one `WHERE` clause if there are conditions, and it has all of them. -/
theorem Query.clauseBodies_where : clauseBodies .whereKeyword (query.tokens d) =
    if query.conditions.isEmpty then []
    else [conjoined (query.conditions.map (Expr.tokens d))] := by
  have hJoin (join : JoinItem) :
      ((join.sections d).filter fun part => part.word = .whereKeyword) = [] := by
    cases hType : join.type <;> simp [JoinItem.sections, hType, JoinType.keyword]
  rw [(query.shaped d).clauseBodies (by decide), query.filter_sections d (by decide)]
  simp only [hJoin]
  cases query.conditions <;> simp [sectionOver]

/-- There is an `ON` clause for each join. -/
theorem Query.clauseBodies_on :
    clauseBodies .onKeyword (query.tokens d) = query.joins.map (JoinItem.on d) := by
  have hJoin (join : JoinItem) : ((join.sections d).filter fun part => part.word = .onKeyword) =
      [⟨.space, .onKeyword, join.on d⟩] := by
    cases hType : join.type <;> simp [JoinItem.sections, hType, JoinType.keyword]
  rw [(query.shaped d).clauseBodies (by decide), query.filter_sections d (by decide)]
  simp [hJoin, ← List.map_eq_flatMap]

/-- There is a clause for each join of a type, with what it joins. -/
theorem Query.clauseBodies_join (type : JoinType) : clauseBodies type.keyword (query.tokens d) =
    (query.joins.filter fun join => join.type = type).map fun join =>
      .keyword .join :: .space :: join.source.tokens d := by
  have hJoin (join : JoinItem) : ((join.sections d).filter fun part => part.word = type.keyword) =
      if join.type = type then
        [⟨.newline, type.keyword, .keyword .join :: .space :: join.source.tokens d⟩]
      else [] := by
    cases hType : join.type <;> cases type <;> simp [JoinItem.sections, hType, JoinType.keyword]
  have hWhere : Keyword.whereKeyword ≠ type.keyword := by cases type <;> decide
  rw [(query.shaped d).clauseBodies (by cases type <;> decide),
    query.filter_sections d (by cases type <;> decide), if_neg hWhere, List.append_nil]
  simp only [hJoin]
  induction query.joins with
  | nil => rfl
  | cons join rest ih =>
      rw [List.flatMap_cons, List.map_append, ih, List.filter_cons]
      by_cases h : join.type = type <;> simp [h]

end Clauses

/-- Operands are never torn apart. -/
theorem Nested.whole_operand {tokens : List Token} (h : Nested Token.isOperand tokens) (p : Place) :
    Whole Place.separates p p tokens := by
  refine h.whole (fun p t hDeep => ?_) (fun p => ?_) fun t hOperand => ?_
  · simp [Place.separates, Nat.ne_of_gt hDeep]
  · simp [Place.separates]
  · have hAnd : t ≠ .keyword .and := by
      rintro rfl
      cases hOperand
    have hToken : Whole Place.separates p (p.step t) [t] := .token (by simp [Place.separates, hAnd])
    have hStep : p.step t = p := by
      unfold Place.step
      split <;> first | rfl | cases hOperand
    rwa [hStep] at hToken

/-- Whether an expression is a test that joins and filters are written with. -/
def Expr.isTest : Expr → Bool
  | .compare _ left right => left.isAtomic && right.isAtomic
  | .among _ operand _ => operand.isAtomic
  | .between _ operand low high => operand.isAtomic && low.isAtomic && high.isAtomic
  | .isNull _ operand => operand.isAtomic
  | .like _ operand pattern _ => operand.isAtomic && pattern.isAtomic
  | .nonempty _ => true
  | _ => false

/-- A test is never torn apart: the only `AND` in it outside parentheses is that of a range. -/
theorem Expr.whole_of_isTest (d : Dialect) {e : Expr} (h : e.isTest) :
    Whole Place.separates {} {} (e.tokens d) := by
  have hAtomic {e : Expr} (h : e.isAtomic) : Nested Token.isOperand (e.tokens d) :=
    (e.shaped d).atomic h
  cases e with
  | compare c left right =>
      obtain ⟨hLeft, hRight⟩ := Bool.and_eq_true_iff.mp h
      rw [Expr.tokens]
      exact (((hAtomic hLeft).append (.of_all rfl)).append (hAtomic hRight)).whole_operand {}
  | among negated operand values =>
      cases values with
      | nil => cases negated <;> exact Nested.whole_operand (.of_all rfl) {}
      | cons value values =>
          have hValues : Nested Token.isFlat (listed (value.tokens d :: exprTokens d values)) := by
            have hAll (e : Expr) (_ : e ∈ value :: values) := e.shaped d
            rw [exprTokens_eq_map]
            exact (nested_listed (Expr.Shaped.nested_map hAll)).flat
          rw [Expr.tokens]
          exact ((((hAtomic h).append (nested_negation negated)).append (.of_all rfl)).append
            hValues.parenthesized).whole_operand {}
  | between negated operand low high =>
      obtain ⟨hBoth, hHigh⟩ := Bool.and_eq_true_iff.mp h
      obtain ⟨hOperand, hLow⟩ := Bool.and_eq_true_iff.mp hBoth
      -- Behind the first word, the range is open until its `AND`.
      let inside : Place := { ranges := 1 }
      have hFront : Nested Token.isOperand (operand.tokens d ++ negation negated ++ [.space]) :=
        ((hAtomic hOperand).append (nested_negation negated)).append (.of_all rfl)
      have hMiddle : Nested Token.isOperand ([.space] ++ low.tokens d ++ [.space]) :=
        .append (.append (.of_all rfl) (hAtomic hLow)) (.of_all rfl)
      have hBack : Nested Token.isOperand ([.space] ++ high.tokens d) :=
        .append (.of_all rfl) (hAtomic hHigh)
      have hOpen : Whole Place.separates {} inside [.keyword .between] := .token rfl
      have hClose : Whole Place.separates inside {} [.keyword .and] := .token rfl
      have hWhole := (hFront.whole_operand {}).append (hOpen.append
        ((hMiddle.whole_operand inside).append (hClose.append (hBack.whole_operand {}))))
      simpa [Expr.tokens] using hWhole
  | isNull negated operand =>
      rw [Expr.tokens]
      refine ((hAtomic h).append ?_).whole_operand {}
      cases negated <;> exact .of_all rfl
  | like negated operand pattern escape =>
      obtain ⟨hOperand, hPattern⟩ := Bool.and_eq_true_iff.mp h
      rw [Expr.tokens]
      exact (((((hAtomic hOperand).append (nested_negation negated)).append (.of_all rfl)).append
        (hAtomic hPattern)).append (.of_all rfl)).whole_operand {}
  | nonempty query =>
      have hQuery := (query.shaped d).flat
      rw [Expr.tokens]
      exact Nested.whole_operand (.token rfl (.token rfl hQuery.parenthesized)) {}
  | _ => cases h

section Conjuncts

variable {d : Dialect} {query : Query}

/-- Tests that are joined are found again one by one. -/
theorem conjuncts_tests {tests : List Expr} (hSome : tests ≠ []) (h : ∀ test ∈ tests, test.isTest) :
    conjuncts (conjoined (tests.map (Expr.tokens d))) = tests.map (Expr.tokens d) :=
  conjuncts_conjoined (by simpa using hSome)
    (List.forall_mem_map.mpr fun test hMem => Expr.whole_of_isTest d (h test hMem))
    (List.forall_mem_map.mpr fun test _ => (test.shaped d).solid)

/-- The conditions of a query are read off from its `WHERE` clause. -/
theorem Query.clauseConjuncts_where (h : ∀ test ∈ query.conditions, test.isTest) :
    clauseConjuncts .whereKeyword (query.tokens d) =
      if query.conditions.isEmpty then [] else [query.conditions.map (Expr.tokens d)] := by
  rw [clauseConjuncts, query.clauseBodies_where]
  split
  next => rfl
  next hSome => rw [List.map_singleton, conjuncts_tests (by simpa using hSome) h]

/-- The conditions of joins are read off from their `ON` clauses. -/
theorem Query.clauseConjuncts_on (h : ∀ join ∈ query.joins, ∀ test ∈ join.conditions, test.isTest) :
    clauseConjuncts .onKeyword (query.tokens d) = query.joins.map fun join =>
      if join.conditions.isEmpty then [[.keyword .true]]
      else join.conditions.map (Expr.tokens d) := by
  rw [clauseConjuncts, query.clauseBodies_on, List.map_map]
  apply List.map_congr_left
  intro join hMem
  rw [Function.comp_apply, JoinItem.on]
  split
  next => rfl
  next hSome => exact conjuncts_tests (by simpa using hSome) (h join hMem)

end Conjuncts

end Crosstab.Sql
