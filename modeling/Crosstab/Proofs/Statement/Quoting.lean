import Crosstab.Proofs.Sql.Readable
import Crosstab.Proofs.Statement.Compile

/-!
Names and quotes. A statement can be read back by the rules for quotes alone, whatever the schema,
the tables, the columns and the keys are called: a scan of its text finds those names, the constants
of this library, and between them the text of the other tokens.
-/

namespace Crosstab

open Crosstab.Sql

namespace Sql

@[simp] def Lexeme.name? : Lexeme → Option String
  | .name cs => some (String.ofList cs)
  | _ => none

@[simp] def Lexeme.text? : Lexeme → Option String
  | .text cs => some (String.ofList cs)
  | _ => none

@[simp] def Lexeme.plain? : Lexeme → Option Char
  | .plain c => some c
  | _ => none

@[simp] def Token.name? : Token → Option String
  | .name s => some s
  | _ => none

@[simp] def Token.text? : Token → Option String
  | .text s => some s
  | _ => none

theorem written_append (d : Dialect) (xs ys : List Token) :
    written d (xs ++ ys) = written d xs ++ written d ys := by
  simp [written]

/-- Taken apart, a qualified name is written as before. -/
theorem Token.written_parts (d : Dialect) (t : Token) : Sql.written d t.parts = t.written d := by
  cases t with
  | qualifiedName schema s =>
      cases schema <;> simp [Token.parts, Sql.written, Token.written, String.append_assoc]
  | _ => simp [Token.parts, Sql.written]

/-- The parts of tokens are written like the tokens. -/
theorem written_flatMap_parts (d : Dialect) (tokens : List Token) :
    written d (tokens.flatMap Token.parts) = written d tokens := by
  induction tokens with
  | nil => rfl
  | cons t rest ih =>
      rw [List.flatMap_cons, written_append, t.written_parts, ih]
      simp [written]

/-- The only name that a scan finds in a token is the one that it is. -/
theorem Token.filterMap_name_lexemes (d : Dialect) (t : Token) :
    (t.lexemes d).filterMap Lexeme.name? = t.name?.toList := by
  cases t <;> simp [Token.lexemes]

/-- The only text that a scan finds in a token is the one that it is. -/
theorem Token.filterMap_text_lexemes (d : Dialect) (t : Token) :
    (t.lexemes d).filterMap Lexeme.text? = t.text?.toList := by
  cases t <;> simp [Token.lexemes]

theorem Token.ne_qualifiedName_of_mem_parts {t part : Token} (h : part ∈ t.parts)
    (schema : Option String) (s : String) : part ≠ .qualifiedName schema s := by
  rintro rfl
  cases t with
  | qualifiedName schema s => cases schema <;> simp [Token.parts] at h
  | _ => simp [Token.parts] at h

theorem Token.eq_of_text_mem_parts {t : Token} {s : String} (h : .text s ∈ t.parts) :
    t = .text s := by
  cases t with
  | qualifiedName schema s => cases schema <;> simp [Token.parts] at h
  | _ => exact (List.mem_singleton.mp h).symm

/-- Outside quotes, all of a part is found or nothing. -/
theorem Token.filterMap_plain_lexemes (d : Dialect) {t part : Token} (h : part ∈ t.parts) :
    (part.lexemes d).filterMap Lexeme.plain? =
      if part.isQuoted then [] else (part.written d).toList := by
  cases hQuoted : part.isQuoted with
  | false =>
      rw [part.lexemes_of_unquoted d hQuoted, List.filterMap_map]
      exact List.filterMap_some
  | true =>
      cases part with
      | name s => rfl
      | text s => rfl
      | qualifiedName schema s => exact absurd rfl (ne_qualifiedName_of_mem_parts h schema s)
      | _ => simp [Token.isQuoted] at hQuoted

/-- The text of tokens without quotes is what is found outside quotes. -/
theorem ofList_plain_lexemes (d : Dialect) (tokens : List Token) :
    String.ofList (((tokens.flatMap Token.parts).flatMap (Token.lexemes d)).filterMap
        Lexeme.plain?) =
      written d ((tokens.flatMap Token.parts).filter fun t => !t.isQuoted) := by
  have hParts : ∀ part ∈ tokens.flatMap Token.parts, (part.lexemes d).filterMap Lexeme.plain? =
      if part.isQuoted then [] else (part.written d).toList := fun part hMem => by
    obtain ⟨t, -, hPart⟩ := List.mem_flatMap.mp hMem
    exact Token.filterMap_plain_lexemes d hPart
  generalize tokens.flatMap Token.parts = parts at hParts
  induction parts with
  | nil => rfl
  | cons part rest ih =>
      rw [List.flatMap_cons, List.filterMap_append, String.ofList_append,
        hParts part List.mem_cons_self, List.filter_cons,
        ih fun p hMem => hParts p (List.mem_cons_of_mem _ hMem)]
      cases part.isQuoted <;> simp [written]

end Sql

/-- The texts that statements are written with: the label for missing values, and the character that
escapes wildcards. -/
def IsConstantText (s : String) : Prop := s = missingLabel ∨ s = "\\"

namespace Statement

/-- The tokens of a statement, with qualified names taken apart. -/
def parts (s : Statement) : List Token := s.tokens.flatMap Token.parts

/-- What is found in a statement are its names, its texts, all of them constant, and outside quotes
the text of all other tokens. -/
structure ReadsAs (s : Statement) (found : List Lexeme) : Prop where
  sql : written s.dialect s.parts = s.sql
  names : found.filterMap Lexeme.name? = s.parts.filterMap Token.name?
  texts : found.filterMap Lexeme.text? = s.parts.filterMap Token.text?
  constant : ∀ text ∈ found.filterMap Lexeme.text?, IsConstantText text
  plain : String.ofList (found.filterMap Lexeme.plain?) =
    written s.dialect (s.parts.filter fun t => !t.isQuoted)

/-- A statement whose texts are all constant is read back. -/
theorem exists_readsAs {s : Statement} (h : s.query.AllLegible IsConstantText) :
    ∃ found, scan s.sql = some found ∧ s.ReadsAs found := by
  have hNames : (s.parts.flatMap (Token.lexemes s.dialect)).filterMap Lexeme.name? =
      s.parts.filterMap Token.name? := by
    rw [List.filterMap_flatMap, List.filterMap_eq_flatMap_toList Token.name?]
    simp only [Token.filterMap_name_lexemes]
  have hTexts : (s.parts.flatMap (Token.lexemes s.dialect)).filterMap Lexeme.text? =
      s.parts.filterMap Token.text? := by
    rw [List.filterMap_flatMap, List.filterMap_eq_flatMap_toList Token.text?]
    simp only [Token.filterMap_text_lexemes]
  have hConstant : ∀ text ∈ s.parts.filterMap Token.text?, IsConstantText text := by
    intro text hMem
    obtain ⟨part, hPart, hText⟩ := List.mem_filterMap.mp hMem
    obtain ⟨t, hToken, hPart⟩ := List.mem_flatMap.mp hPart
    cases part with
    | text s =>
        obtain rfl : s = text := by simpa using hText
        exact Query.allowed_of_mem_tokens h (Token.eq_of_text_mem_parts hPart ▸ hToken)
    | _ => simp at hText
  have hWritten := written_flatMap_parts s.dialect s.tokens
  have hPlain := ofList_plain_lexemes s.dialect s.tokens
  exact ⟨_, Query.scan_sql s.dialect h, hWritten, hNames, hTexts, hTexts ▸ hConstant, hPlain⟩

end Statement

section Legible

variable {e : Expr}

/-- A query is legible if its clauses are. -/
theorem Sql.Query.allLegible_of_clauses {allowed : String → Prop} {query : Query}
    (hItems : ∀ item ∈ query.items, item.expr.AllLegible allowed)
    (hJoins : ∀ part ∈ joinNodes query.joins, part.IsLegible allowed)
    (hConditions : ∀ e ∈ query.conditions, e.AllLegible allowed)
    (hGroups : ∀ e ∈ query.groups, e.AllLegible allowed)
    (hOrders : ∀ order ∈ query.orders, order.expr.AllLegible allowed) :
    query.AllLegible allowed := by
  obtain ⟨items, source, joins, conditions, groups, orders, limit⟩ := query
  simp only [Query.AllLegible, Query.nodes, List.forall_mem_append, allLegible_exprNodes,
    itemNodes_eq_flatMap, orderNodes_eq_flatMap, List.mem_flatMap, forall_exists_index, and_imp]
  refine ⟨⟨⟨⟨?_, hJoins⟩, hConditions⟩, hGroups⟩, ?_⟩
  · exact fun part item hMem hPart => hItems item hMem part hPart
  · exact fun part order hMem hPart => hOrders order hMem part hPart

/-- What binds nothing and is no text is legible. -/
theorem Sql.Expr.isLegible_of_isBare {allowed : String → Prop} (h : e.IsBare) :
    e.IsLegible allowed := by
  cases e <;> trivial

/-- A call is legible if its name is written without quotes. -/
theorem allLegible_call {allowed : String → Prop} {function : String}
    (hFunction : IsPlainText (Text.upper function)) (distinct : Bool) {arguments : List Expr}
    (h : ∀ e ∈ arguments, e.AllLegible allowed) :
    (Expr.call function distinct arguments).AllLegible allowed := by
  have hArguments := allLegible_exprNodes.mpr h
  simpa [Expr.AllLegible, Expr.nodes, Expr.IsLegible] using ⟨hFunction, hArguments⟩

theorem allLegible_among {allowed : String → Prop} (h : e.AllLegible allowed) (negated : Bool)
    {values : List Expr} (hValues : ∀ value ∈ values, value.AllLegible allowed) :
    (Expr.among negated e values).AllLegible allowed := by
  have hNodes := allLegible_exprNodes.mpr hValues
  cases values with
  | nil => simp [Expr.AllLegible, Expr.nodes, Expr.IsLegible]
  | cons value values =>
      rw [exprNodes, List.forall_mem_append] at hNodes
      simpa [Expr.AllLegible, Expr.nodes, Expr.IsLegible, or_imp, forall_and] using ⟨h, hNodes⟩

theorem allLegible_cast {allowed : String → Prop} (h : e.AllLegible allowed) (kind : ValueKind) :
    (Expr.cast e kind).AllLegible allowed := by
  simpa [Expr.AllLegible, Expr.nodes, Expr.IsLegible] using h

theorem allLegible_upper {allowed : String → Prop} (h : e.AllLegible allowed) :
    e.upper.AllLegible allowed :=
  allLegible_call (by decide) false (by simpa using h)

/-- The escape sign of a pattern is one of the constant texts. -/
theorem allLegible_like {pattern : Expr} (h : e.AllLegible IsConstantText) (negated : Bool)
    (hPattern : pattern.AllLegible IsConstantText) :
    (Expr.like negated e pattern '\\').AllLegible IsConstantText := by
  have hEscape : IsConstantText (String.singleton '\\') := .inr rfl
  simpa [Expr.AllLegible, Expr.nodes, Expr.IsLegible, or_imp, forall_and] using
    ⟨hEscape, h, hPattern⟩

theorem allLegible_param (n : Nat) : (Expr.param n).AllLegible IsConstantText := by
  simp [Expr.AllLegible, Expr.nodes, Expr.IsLegible]

theorem allLegible_column (table : Option String) (name : String) :
    (Expr.column table name).AllLegible IsConstantText := by
  simp [Expr.AllLegible, Expr.nodes, Expr.IsLegible]

/-- The label of missing values is one of the constant texts. -/
theorem allLegible_groupLabel (h : e.AllLegible IsConstantText) :
    (groupLabel e).AllLegible IsConstantText := by
  have hLabel : (Expr.text missingLabel).AllLegible IsConstantText := by
    simp [Expr.AllLegible, Expr.nodes, Expr.IsLegible, IsConstantText]
  refine allLegible_upper (allLegible_call (by decide) false ?_)
  simpa using ⟨allLegible_cast h .text, hLabel⟩

theorem allLegible_comparedAs (h : e.AllLegible IsConstantText) (kind : ValueKind) :
    (comparedAs kind e).AllLegible IsConstantText := by
  cases kind with
  | text => exact allLegible_upper (allLegible_cast h .text)
  | numeric => exact allLegible_cast h .numeric
  | date => exact allLegible_cast h .date

theorem allLegible_boundAs (h : e.AllLegible IsConstantText) (kind : ValueKind) :
    (boundAs kind e).AllLegible IsConstantText := by
  cases kind with
  | text => exact allLegible_upper h
  | numeric => exact allLegible_cast h .numeric
  | date => exact allLegible_cast h .date

theorem allLegible_aggregate (h : e.AllLegible IsConstantText) (a : Aggregation) :
    (a.expr e).AllLegible IsConstantText := by
  have hNumber : ∀ argument ∈ [e.cast .numeric], argument.AllLegible IsConstantText := by
    simpa using allLegible_cast h .numeric
  cases a with
  | sum => exact allLegible_call (by decide) false hNumber
  | avg => exact allLegible_call (by decide) false hNumber
  | min => exact allLegible_call (by decide) false hNumber
  | max => exact allLegible_call (by decide) false hNumber
  | count => exact allLegible_call (by decide) false (by simpa using h)
  | countDistinct => exact allLegible_call (by decide) true (by simpa using h)

/-- The only text that a test adds to its column is the character that escapes wildcards. -/
theorem PlannedFilter.allLegible_condition (f : PlannedFilter) (h : e.AllLegible IsConstantText)
    (first : Nat) : (f.condition e first).AllLegible IsConstantText := by
  unfold condition
  split
  next => simpa [Expr.AllLegible, Expr.nodes, Expr.IsLegible] using h
  next => simpa [Expr.AllLegible, Expr.nodes, Expr.IsLegible] using h
  next =>
    apply allLegible_among (allLegible_groupLabel h) _
    intro value hMem
    obtain ⟨n, -, rfl⟩ := List.mem_map.mp hMem
    exact allLegible_upper (allLegible_param n)
  next =>
    exact allLegible_like (allLegible_comparedAs h .text) false
      (allLegible_upper (allLegible_param first))
  next low high _ _ _ =>
    have hColumn := allLegible_comparedAs h low.kind
    have hLow := allLegible_boundAs (allLegible_param first) low.kind
    have hHigh := allLegible_boundAs (allLegible_param (first + 1)) high.kind
    simpa [Expr.AllLegible, Expr.nodes, Expr.IsLegible, or_imp, forall_and] using
      ⟨hColumn, hLow, hHigh⟩
  next operand _ _ _ =>
    have hColumn := allLegible_comparedAs h operand.kind
    have hBound := allLegible_boundAs (allLegible_param first) operand.kind
    simpa [Expr.AllLegible, Expr.nodes, Expr.IsLegible, or_imp, forall_and] using
      ⟨hColumn, hBound⟩
  next => simp [Expr.AllLegible, Expr.nodes, Expr.IsLegible]

end Legible

namespace Plan

variable (plan : Plan) (names : Naming)

theorem allLegible_columnExpr (column : Column) :
    (plan.columnExpr names column).AllLegible IsConstantText :=
  allLegible_column _ _

/-- Conditions of filters hold no text but constant ones. -/
theorem allLegible_filterConditions (filters : List PlannedFilter) (bound : Bindings) :
    ∀ e ∈ (plan.filterConditions names filters bound).1, e.AllLegible IsConstantText := by
  induction filters generalizing bound with
  | nil => simp [filterConditions]
  | cons f rest ih =>
      have hFirst := f.allLegible_condition (plan.allLegible_columnExpr names f.column) bound.next
      simpa [filterConditions] using ⟨hFirst, ih (bound.append f.operands)⟩

/-- The query of a plan has constant texts only. -/
theorem allLegible_statement (d : Dialect) (sourceLimit : UInt64)
    {clauses : List JoinItem × List Expr} (hJoins : ∀ part ∈ joinNodes clauses.1, part.IsBare)
    (hProbes : ∀ part ∈ exprNodes clauses.2, part.IsBare) :
    (plan.statement names d sourceLimit clauses).query.AllLegible IsConstantText := by
  have hLabel (axis : PlannedAxis) :=
    allLegible_groupLabel (plan.allLegible_columnExpr names axis.column)
  apply Query.allLegible_of_clauses
  · intro item hItem
    rcases List.mem_append.mp hItem with hAxis | hMeasure
    · obtain ⟨axis, -, rfl⟩ := List.mem_map.mp hAxis
      exact hLabel axis
    · obtain ⟨m, -, rfl⟩ := List.mem_map.mp hMeasure
      exact allLegible_aggregate (plan.allLegible_columnExpr names m.column) m.aggregation
  · exact fun part hMem => Expr.isLegible_of_isBare (hJoins part hMem)
  · intro e hMem
    rcases List.mem_append.mp hMem with hProbe | hTest
    · have hNodes : ∀ part ∈ exprNodes clauses.2, part.IsLegible IsConstantText :=
        fun part hPart => Expr.isLegible_of_isBare (hProbes part hPart)
      exact allLegible_exprNodes.mp hNodes e hProbe
    · exact plan.allLegible_filterConditions names plan.filters {} e hTest
  · intro e hMem
    obtain ⟨axis, -, rfl⟩ := List.mem_map.mp hMem
    exact hLabel axis
  · intro order hOrder
    obtain ⟨key, -, hExpr⟩ := plan.mem_orders hOrder
    exact hExpr ▸ allLegible_column none key

end Plan

/-- Searches hold no text but constant ones. -/
theorem Statement.allLegible_distinctValues (column : Column) (start : Option String)
    (limit : UInt64) (names : Naming) (d : Dialect) :
    (distinctValues column start limit names d).query.AllLegible IsConstantText := by
  have hValue :
      (groupLabel (.ofTable leftName (names.column column.entity column.field))).AllLegible
      IsConstantText := allLegible_groupLabel (allLegible_column _ _)
  have hCount : Expr.countRows.AllLegible IsConstantText :=
    allLegible_call (by decide) false (by simp [Expr.AllLegible, Expr.nodes, Expr.IsLegible])
  have hTest := allLegible_like hValue false (allLegible_upper (allLegible_param 1))
  have hName (name : String) := allLegible_column none name
  apply Query.allLegible_of_clauses
  · simpa [distinctValues] using ⟨hValue, hCount⟩
  · simp [distinctValues, joinNodes]
  · intro e hMem
    simp only [distinctValues] at hMem
    split at hMem
    · simp at hMem
    · exact List.mem_singleton.mp hMem ▸ hTest
  · simpa [distinctValues] using hValue
  · simpa [distinctValues] using ⟨hName "count", hName "value"⟩

/-- No name can end its quotes. The text of every statement, whatever its plan and its names, scans
to the names and the constant texts of its tokens, and what stands outside quotes is the text of the
other tokens; so does the text of the search for the values of a column. -/
theorem scan_reads_tokens :
    (∀ (plan : Plan) (names : Naming) (d : Dialect) (sourceLimit : UInt64), ∃ s found,
      plan.compile names d sourceLimit = .ok s ∧ scan s.sql = some found ∧ s.ReadsAs found) ∧
    ∀ (column : Column) (start : Option String) (limit : UInt64) (names : Naming) (d : Dialect),
      ∃ found, scan (Statement.distinctValues column start limit names d).sql = some found ∧
        (Statement.distinctValues column start limit names d).ReadsAs found := by
  refine ⟨fun plan names d sourceLimit => ?_, fun column start limit names d => ?_⟩
  · obtain ⟨clauses, -, hCompile, hJoins, hProbes⟩ := plan.compile_eq_ok names d sourceLimit
    have hLegible := plan.allLegible_statement names d sourceLimit hJoins hProbes
    obtain ⟨found, hScan, hFound⟩ := Statement.exists_readsAs hLegible
    exact ⟨_, found, hCompile, hScan, hFound⟩
  · exact Statement.exists_readsAs (Statement.allLegible_distinctValues column start limit names d)

end Crosstab
