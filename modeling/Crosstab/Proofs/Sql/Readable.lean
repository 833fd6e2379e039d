import Crosstab.Proofs.Sql.Nodes
import Crosstab.Proofs.Sql.Scan

/-!
Every expression and every query is written so that its tokens can be told apart again. Names and
texts stand between marks, reserved words or white space, and a clause begins with a line of its
own; what remains to be known of a query is that the functions it calls can be written without
quotes.
-/

namespace Crosstab.Sql

/-- A plain text stays plain with more text without quotes. -/
theorem IsPlainText.append {a b : String} (ha : IsPlainText a) (hb : ∀ c ∈ b.toList, ¬IsQuote c) :
    IsPlainText (a ++ b) := by
  refine ⟨fun hEmpty => ha.nonempty (String.append_eq_empty_iff.mp hEmpty).1, ?_⟩
  intro c hMem
  rw [String.toList_append] at hMem
  rcases List.mem_append.mp hMem with hLeft | hRight
  · exact ha.unquoted c hLeft
  · exact hb c hRight

theorem isPlainText_nat (n : Nat) : IsPlainText (toString n) := by
  rw [Nat.toString_eq_ofList_toDigits]
  refine ⟨fun hEmpty => ?_, fun c hMem hQuote => ?_⟩
  · exact Nat.toDigits_ne_nil (String.ofList_eq_empty_iff.mp hEmpty)
  · rw [String.toList_ofList] at hMem
    have hDigit := Nat.isDigit_of_mem_toDigits (by decide) (by decide) hMem
    rcases hQuote with rfl | rfl <;> simp at hDigit

theorem isPlainText_int (n : Int) : IsPlainText (toString n) := by
  cases n with
  | ofNat n => exact isPlainText_nat n
  | negSucc n => exact IsPlainText.append (a := "-") (by decide) (isPlainText_nat (n + 1)).unquoted

theorem Dialect.isPlainText_placeholder (d : Dialect) (n : Nat) :
    IsPlainText (d.placeholder n) := by
  have hDigits := (isPlainText_nat n).unquoted
  cases d with
  | postgres => exact IsPlainText.append (a := "$") (by decide) hDigits
  | duckdb => exact IsPlainText.append (a := "$") (by decide) hDigits
  | sqlite => exact IsPlainText.append (a := "?") (by decide) hDigits

theorem Dialect.isPlainText_typeName (d : Dialect) (kind : ValueKind) :
    IsPlainText (d.typeName kind) := by
  cases d <;> cases kind <;> decide

theorem Keyword.isPlainText_text (word : Keyword) : IsPlainText word.text := by
  cases word <;> decide

theorem isPlainText_symbol (c : Comparator) : IsPlainText c.symbol := by
  cases c <;> decide

/-- Whether a token is written alike wherever it stands: reserved words, comparators, marks and
white space are. -/
def Token.isFixed : Token → Bool
  | .keyword _ | .comma | .dot | .star | .leftParen | .rightParen | .doubleColon | .comparator _
  | .space | .newline => true
  | _ => false

/-- Which tokens are written alike in all dialects. -/
@[simp] theorem Token.isFixed_forms :
    (∀ word, (Token.keyword word).isFixed) ∧ (∀ c, (Token.comparator c).isFixed) ∧
      Token.comma.isFixed ∧ Token.dot.isFixed ∧ Token.star.isFixed ∧ Token.leftParen.isFixed ∧
      Token.rightParen.isFixed ∧ Token.doubleColon.isFixed ∧ Token.space.isFixed ∧
      Token.newline.isFixed :=
  ⟨fun _ => rfl, fun _ => rfl, rfl, rfl, rfl, rfl, rfl, rfl, rfl, rfl⟩

/-- What all dialects write alike has no quotes. -/
theorem Token.isPlain_of_isFixed {t : Token} (d : Dialect) (h : t.isFixed) : t.IsPlain d := by
  cases t with
  | keyword word => exact ⟨rfl, word.isPlainText_text⟩
  | comparator c => exact ⟨rfl, isPlainText_symbol c⟩
  | comma | dot | star | leftParen | rightParen | doubleColon | space | newline =>
    exact ⟨rfl, by cases d <;> decide⟩
  | _ => simp [Token.isFixed] at h

section Readable

variable {d : Dialect} {allowed : String → Prop} {xs ys : List Token} {s : Token}

@[simp] theorem readable_nil : Readable d allowed [] := by simp [Readable]

/-- A quoted token by itself is readable. -/
theorem readable_quoted (h : s.isQuoted) (hText : ∀ text, s = .text text → allowed text) :
    Readable d allowed [s] := by
  have hLegible : s.IsLegible d allowed := .inl ⟨h, hText⟩
  simpa [Readable] using hLegible

theorem readable_name (name : String) : Readable d allowed [.name name] :=
  readable_quoted rfl nofun

theorem readable_text {text : String} (h : allowed text) : Readable d allowed [.text text] :=
  readable_quoted rfl fun _ hEq => Token.text.inj hEq ▸ h

/-- A plain token keeps what stands on its two sides apart. -/
theorem readable_append_cons (hPlain : s.IsPlain d) :
    Readable d allowed (xs ++ s :: ys) ↔ Readable d allowed xs ∧ Readable d allowed ys := by
  have hChain : ∀ y ∈ ys.head?, ¬(s.isQuoted ∧ y.isQuoted) := fun y _ h => by simp [hPlain.1] at h
  simp only [Readable, List.isChain_append, List.isChain_cons, List.mem_append, List.mem_cons]
  constructor
  · rintro ⟨⟨hLeft, ⟨-, hRight⟩, -⟩, hAll⟩
    exact ⟨⟨hLeft, fun t hMem => hAll t (.inl hMem)⟩,
      ⟨hRight, fun t hMem => hAll t (.inr (.inr hMem))⟩⟩
  · rintro ⟨⟨hLeft, hLefts⟩, ⟨hRight, hRights⟩⟩
    refine ⟨⟨hLeft, ⟨hChain, hRight⟩, ?_⟩, ?_⟩
    · rintro x - y hMem ⟨-, hQuoted⟩
      obtain rfl : s = y := by simpa using hMem
      simp [hPlain.1] at hQuoted
    · rintro t (hMem | rfl | hMem)
      · exact hLefts t hMem
      · exact .inr hPlain
      · exact hRights t hMem

theorem readable_cons (hPlain : s.IsPlain d) :
    Readable d allowed (s :: ys) ↔ Readable d allowed ys := by
  have hFirst : Readable d allowed ([] ++ s :: ys) ↔ _ := readable_append_cons hPlain
  simpa using hFirst

/-- A fixed token parts what is before it from what is behind it. -/
@[simp] theorem readable_append_cons_of_isFixed (hFixed : s.isFixed) :
    Readable d allowed (xs ++ s :: ys) ↔ Readable d allowed xs ∧ Readable d allowed ys :=
  readable_append_cons (s.isPlain_of_isFixed d hFixed)

@[simp] theorem readable_cons_of_isFixed (hFixed : s.isFixed) :
    Readable d allowed (s :: ys) ↔ Readable d allowed ys :=
  readable_cons (s.isPlain_of_isFixed d hFixed)

/-- Tokens in front of which anything readable may stand. -/
def Detached (d : Dialect) (allowed : String → Prop) (tokens : List Token) : Prop :=
  Readable d allowed tokens ∧ ∀ t ∈ tokens.head?, t.isQuoted = false

/-- Whatever begins with a plain token may stand behind anything. -/
theorem Detached.cons (hPlain : s.IsPlain d) (h : Readable d allowed ys) :
    Detached d allowed (s :: ys) :=
  ⟨(readable_cons hPlain).mpr h, by simpa using hPlain.1⟩

theorem detached_nil : Detached d allowed [] := by simp [Detached]

/-- Readable tokens stay readable in front of detached ones. -/
theorem Readable.append (hx : Readable d allowed xs) (hy : Detached d allowed ys) :
    Readable d allowed (xs ++ ys) := by
  refine ⟨List.isChain_append.mpr ⟨hx.1, hy.1.1, ?_⟩, ?_⟩
  · rintro x - y hMem ⟨-, hQuoted⟩
    simp [hy.2 y hMem] at hQuoted
  · intro t hMem
    rcases List.mem_append.mp hMem with hLeft | hRight
    · exact hx.2 t hLeft
    · exact hy.1.2 t hRight

/-- Detached tokens stay detached together. -/
theorem Detached.append (hx : Detached d allowed xs) (hy : Detached d allowed ys) :
    Detached d allowed (xs ++ ys) := by
  refine ⟨hx.1.append hy, ?_⟩
  cases xs with
  | nil => exact hy.2
  | cons x xs => exact hx.2

theorem Detached.flatMap {α : Type} {f : α → List Token} {parts : List α}
    (h : ∀ part ∈ parts, Detached d allowed (f part)) : Detached d allowed (parts.flatMap f) := by
  induction parts with
  | nil => exact detached_nil
  | cons part rest ih =>
      rw [List.flatMap_cons]
      exact (h part List.mem_cons_self).append (ih fun p hMem => h p (List.mem_cons_of_mem _ hMem))

/-- Readable parts stay readable with separators that detach. -/
theorem Readable.intercalate {separator : List Token} {parts : List (List Token)}
    (hFixed : ∀ ys, Readable d allowed ys → Detached d allowed (separator ++ ys))
    (h : ∀ part ∈ parts, Readable d allowed part) :
    Readable d allowed (separator.intercalate parts) := by
  induction parts with
  | nil => exact readable_nil
  | cons part rest ih =>
      -- The last part has no separator behind it.
      cases rest with
      | nil => simpa [List.intercalate] using h
      | cons next rest =>
          rw [List.intercalate_cons_cons, List.append_assoc]
          exact (h part List.mem_cons_self).append
            (hFixed _ (ih fun p hMem => h p (List.mem_cons_of_mem _ hMem)))

theorem readable_listed {parts : List (List Token)} (h : ∀ part ∈ parts, Readable d allowed part) :
    Readable d allowed (listed parts) := by
  refine Readable.intercalate (fun ys hy => ?_) h
  exact .cons (Token.isPlain_of_isFixed d rfl) (by simpa using hy)

theorem readable_conjoined {parts : List (List Token)}
    (h : ∀ part ∈ parts, Readable d allowed part) : Readable d allowed (conjoined parts) := by
  refine Readable.intercalate (fun ys hy => ?_) h
  exact .cons (Token.isPlain_of_isFixed d rfl) (by simpa using hy)

theorem readable_parenthesized (h : Readable d allowed xs) :
    Readable d allowed (parenthesized xs) := by
  simpa [parenthesized] using h

theorem detached_naming (name : Option String) : Detached d allowed (naming name) := by
  cases name with
  | none => exact detached_nil
  | some name =>
      have hName : Readable d allowed [.name name] := readable_name name
      exact .cons (Token.isPlain_of_isFixed d rfl) (by simpa using hName)

theorem readable_qualifier_append (table : Option String) {t : Token} (h : Readable d allowed [t]) :
    Readable d allowed (qualifier table ++ [t]) := by
  cases table with
  | none => exact h
  | some table =>
      have hTable : Readable d allowed ([.name table] ++ .dot :: [t]) :=
        (readable_append_cons_of_isFixed rfl).mpr ⟨readable_name table, h⟩
      exact hTable

theorem TableRef.readable_tokens (t : TableRef) : Readable d allowed t.tokens := by
  have hTable : Readable d allowed [.qualifiedName t.schema t.table] := readable_quoted rfl nofun
  exact hTable.append (detached_naming t.name)

theorem detached_directionTokens (direction : Option SortDirection) :
    Detached d allowed (directionTokens direction) := by
  have hFixed (word : Keyword) : Detached d allowed [.space, .keyword word] :=
    .cons (Token.isPlain_of_isFixed d rfl) (by simp)
  rcases direction with _ | _ | _
  · exact detached_nil
  · exact hFixed .asc
  · exact hFixed .desc

/-- A clause begins on a line of its own, so that it is detached. -/
theorem detached_clause (word : Keyword) (h : Readable d allowed xs) :
    Detached d allowed (clause word xs) :=
  .cons (Token.isPlain_of_isFixed d rfl) (by simpa using h)

theorem detached_clauseOver (word : Keyword) {join : List (List Token) → List Token}
    {parts : List (List Token)} (h : Readable d allowed (join parts)) :
    Detached d allowed (clauseOver word join parts) := by
  unfold clauseOver
  split
  · exact detached_nil
  · exact detached_clause word h

/-- A cast is as readable as its operand. -/
theorem readable_castTokens (atomic : Bool) (kind : ValueKind) (h : Readable d allowed xs) :
    Readable d allowed (castTokens d atomic xs kind) := by
  have hType : (Token.type (d.typeName kind)).IsPlain d := ⟨rfl, d.isPlainText_typeName kind⟩
  have hDate : (Token.function "DATE").IsPlain d := ⟨rfl, by cases d <;> decide⟩
  have hOperand : Readable d allowed (if atomic then xs else parenthesized xs) := by
    cases atomic
    · exact readable_parenthesized h
    · exact h
  unfold castTokens
  split
  · simpa [readable_cons hType] using hOperand
  · split
    · exact (readable_cons hDate).mpr (readable_parenthesized h)
    · have hInner : Readable d allowed (xs ++ [.space, .keyword .asKeyword, .space,
          .type (d.typeName kind)]) := by
        simpa [readable_cons hType] using h
      simpa using readable_parenthesized hInner

end Readable

/-- Whether what an expression writes itself is legible: the function that it calls is written
without quotes, and its text is allowed. -/
def Expr.IsLegible (allowed : String → Prop) : Expr → Prop
  | .call function _ _ => IsPlainText (Text.upper function)
  | .text s => allowed s
  | .like _ _ _ escape => allowed (String.singleton escape)
  | _ => True

/-- Whether everything in an expression is legible. -/
def Expr.AllLegible (allowed : String → Prop) (e : Expr) : Prop :=
  ∀ part ∈ e.nodes, part.IsLegible allowed

def Query.AllLegible (allowed : String → Prop) (query : Query) : Prop :=
  ∀ part ∈ query.nodes, part.IsLegible allowed

/-- All of a list is legible just if each of its members is. -/
theorem allLegible_exprNodes {allowed : String → Prop} {es : List Expr} :
    (∀ part ∈ exprNodes es, part.IsLegible allowed) ↔ ∀ e ∈ es, e.AllLegible allowed := by
  rw [exprNodes_eq_flatMap]
  constructor
  · exact fun h e hMem part hPart => h part (List.mem_flatMap.mpr ⟨e, hMem, hPart⟩)
  · intro h part hMem
    obtain ⟨e, hExpr, hPart⟩ := List.mem_flatMap.mp hMem
    exact h e hExpr part hPart

theorem Token.isPlain_int (d : Dialect) (n : Int) : (Token.int n).IsPlain d :=
  ⟨rfl, isPlainText_int n⟩

theorem Token.isPlain_placeholder (d : Dialect) (n : Nat) : (Token.placeholder n).IsPlain d :=
  ⟨rfl, d.isPlainText_placeholder n⟩

theorem Token.isPlain_indent (d : Dialect) : (Token.indent 1).IsPlain d :=
  ⟨rfl, by cases d <;> decide⟩

/-- A join is detached if its parts are readable. -/
theorem JoinItem.detached_tokens {d : Dialect} {allowed : String → Prop} (join : JoinItem)
    (hLateral : ∀ query name, join.source = .lateral query name →
      Readable d allowed (query.tokens d))
    (hConditions : ∀ e ∈ join.conditions, Readable d allowed (e.tokens d)) :
    Detached d allowed (.newline :: join.tokens d) := by
  rw [JoinItem.tokens_eq]
  obtain ⟨type, source, conditions⟩ := join
  have hSource : Readable d allowed (source.tokens d) := by
    cases source with
    | table t => exact t.readable_tokens
    | lateral query name =>
        have hQuery := readable_parenthesized (hLateral query name rfl)
        simpa [JoinSource.tokens] using hQuery.append (detached_naming (some name))
  have hOn : Readable d allowed (if conditions.isEmpty then [.keyword .true]
      else conjoined (conditions.map (Expr.tokens d))) := by
    split
    · simp
    · exact readable_conjoined (by simpa using hConditions)
  exact .cons (Token.isPlain_of_isFixed d rfl) (by simpa [-List.isEmpty_iff] using ⟨hSource, hOn⟩)

/-- A query is readable if what stands in its clauses is: each clause is set off by its own line. -/
theorem Query.readable_of_clauses {d : Dialect} {allowed : String → Prop} {query : Query}
    (hItems : ∀ item ∈ query.items, Readable d allowed (item.expr.tokens d))
    (hJoins : ∀ join ∈ query.joins, Detached d allowed (.newline :: join.tokens d))
    (hConditions : ∀ e ∈ query.conditions, Readable d allowed (e.tokens d))
    (hGroups : ∀ e ∈ query.groups, Readable d allowed (e.tokens d))
    (hOrders : ∀ order ∈ query.orders, Readable d allowed (order.expr.tokens d)) :
    Readable d allowed (query.tokens d) := by
  have hSelect : Readable d allowed ([Token.comma].intercalate (query.items.map fun item =>
      .newline :: .indent 1 :: (item.expr.tokens d ++ naming item.name))) := by
    refine Readable.intercalate
      (fun ys hy => .cons (Token.isPlain_of_isFixed d rfl) (by simpa using hy)) ?_
    intro part hMem
    obtain ⟨item, hItem, rfl⟩ := List.mem_map.mp hMem
    simpa [readable_cons (Token.isPlain_indent d)] using
      (hItems item hItem).append (detached_naming item.name)
  have hFrom : Detached d allowed (query.source.elim [] fun t => clause .fromKeyword t.tokens) := by
    cases query.source with
    | none => exact detached_nil
    | some t => exact detached_clause .fromKeyword t.readable_tokens
  have hWhere : Detached d allowed
      (clauseOver .whereKeyword conjoined (query.conditions.map (Expr.tokens d))) :=
    detached_clauseOver .whereKeyword (readable_conjoined (by simpa using hConditions))
  have hGroupBy : Detached d allowed
      (clauseOver .groupBy listed (query.groups.map (Expr.tokens d))) :=
    detached_clauseOver .groupBy (readable_listed (by simpa using hGroups))
  have hOrderBy : Detached d allowed (clauseOver .orderBy listed (query.orders.map fun order =>
      order.expr.tokens d ++ directionTokens order.direction)) := by
    refine detached_clauseOver .orderBy (readable_listed ?_)
    intro part hMem
    obtain ⟨order, hOrder, rfl⟩ := List.mem_map.mp hMem
    exact (hOrders order hOrder).append (detached_directionTokens order.direction)
  have hLimit : Detached d allowed (query.limit.elim [] fun n => .newline :: limitTokens n) := by
    cases query.limit with
    | none => exact detached_nil
    | some n =>
        refine .cons (Token.isPlain_of_isFixed d rfl) ?_
        simp [limitTokens, readable_cons (Token.isPlain_int d _)]
  rw [Query.tokens_eq, readable_cons_of_isFixed rfl]
  exact (((((hSelect.append hFrom).append (Detached.flatMap hJoins)).append hWhere).append
    hGroupBy).append hOrderBy).append hLimit

/-- The induction behind `Expr.readable_tokens` and `Query.readable_tokens`: every form of
expression sets its parts off by marks or white space. -/
theorem readable_tokens_cases (d : Dialect) (allowed : String → Prop) :
    SyntaxCases (fun e => e.AllLegible allowed → Readable d allowed (e.tokens d))
      (fun query => query.AllLegible allowed → Readable d allowed (query.tokens d)) where
  column table name _ := readable_qualifier_append table (readable_name name)
  int n _ := (readable_cons (Token.isPlain_int d n)).mpr readable_nil
  text s h := readable_text (h (.text s) (by simp [Expr.nodes]))
  param n _ := (readable_cons (Token.isPlain_placeholder d n)).mpr readable_nil
  compare _ left right hLeft hRight h := by
    simp only [Expr.AllLegible, Expr.nodes, List.forall_mem_cons, List.forall_mem_append] at h
    simpa [Expr.tokens] using ⟨hLeft h.2.1, hRight h.2.2⟩
  and left right hLeft hRight h := by
    simp only [Expr.AllLegible, Expr.nodes, List.forall_mem_cons, List.forall_mem_append] at h
    simpa [Expr.tokens] using ⟨hLeft h.2.1, hRight h.2.2⟩
  call function distinct arguments hArguments h := by
    simp only [Expr.AllLegible, Expr.nodes, List.forall_mem_cons] at h
    have hFunction : (Token.function function).IsPlain d := ⟨rfl, h.1⟩
    have hListed : Readable d allowed (listed (exprTokens d arguments)) := by
      apply readable_listed
      have hNames := allLegible_exprNodes.mp h.2
      simpa [exprTokens_eq_map] using fun e hMem => hArguments e hMem (hNames e hMem)
    refine (readable_cons hFunction).mpr (readable_parenthesized ?_)
    cases distinct <;> simpa using hListed
  cast operand kind hOperand h := by
    simp only [Expr.AllLegible, Expr.nodes, List.forall_mem_cons] at h
    exact readable_castTokens _ kind (hOperand h.2)
  nonempty query hQuery h := by
    simp only [Expr.AllLegible, Expr.nodes, List.forall_mem_cons] at h
    simpa [Expr.tokens] using readable_parenthesized (hQuery h.2)
  scalar query hQuery h := by
    simp only [Expr.AllLegible, Expr.nodes, List.forall_mem_cons] at h
    exact readable_parenthesized (hQuery h.2)
  among negated operand values hOperand hValues h := by
    -- Without members there is a reserved word in place of the whole test.
    cases values with
    | nil => cases negated <;> simp [Expr.tokens]
    | cons value values =>
        simp only [Expr.AllLegible, Expr.nodes, List.forall_mem_cons, List.forall_mem_append] at h
        have hParts : ∀ part ∈ exprNodes (value :: values), part.IsLegible allowed := by
          simpa only [exprNodes, List.forall_mem_append] using h.2.2
        have hNames := allLegible_exprNodes.mp hParts
        have hListed : Readable d allowed (listed (value.tokens d :: exprTokens d values)) := by
          apply readable_listed
          rw [← exprTokens, exprTokens_eq_map]
          simpa using fun e hMem => hValues e hMem (hNames e hMem)
        have hIn := readable_parenthesized hListed
        cases negated <;> simpa [Expr.tokens, negation] using ⟨hOperand h.2.1, hIn⟩
  between negated operand low high hOperand hLow hHigh h := by
    simp only [Expr.AllLegible, Expr.nodes, List.forall_mem_cons, List.forall_mem_append] at h
    cases negated <;>
      simpa [Expr.tokens, negation] using ⟨hOperand h.2.1.1, hLow h.2.1.2, hHigh h.2.2⟩
  isNull negated operand hOperand h := by
    simp only [Expr.AllLegible, Expr.nodes, List.forall_mem_cons] at h
    simpa [Expr.tokens] using hOperand h.2
  like negated operand pattern escape hOperand hPattern h := by
    simp only [Expr.AllLegible, Expr.nodes, List.forall_mem_cons, List.forall_mem_append] at h
    have hEscape : Readable d allowed [.text (String.singleton escape)] := readable_text h.1
    cases negated <;>
      simpa [Expr.tokens, negation] using ⟨hOperand h.2.1, hPattern h.2.2, hEscape⟩
  star table _ := readable_qualifier_append table (by simp)
  paren inner hInner h := by
    simp only [Expr.AllLegible, Expr.nodes, List.forall_mem_cons] at h
    exact readable_parenthesized (hInner h.2)
  query items source joins conditions groups orders limit hItems hJoins hConditions hGroups
      hOrders h := by
    simp only [Query.AllLegible, Query.nodes, List.forall_mem_append, itemNodes_eq_flatMap,
      joinNodes_eq_flatMap, orderNodes_eq_flatMap] at h
    obtain ⟨⟨⟨⟨hItemNames, hJoinNames⟩, hConditionNames⟩, hGroupNames⟩, hOrderNames⟩ := h
    apply Query.readable_of_clauses
    · intro item hItem
      exact hItems item hItem fun part hPart =>
        hItemNames part (List.mem_flatMap.mpr ⟨item, hItem, hPart⟩)
    · intro join hJoin
      have hNames : ∀ part ∈ join.nodes, part.IsLegible allowed :=
        fun part hPart => hJoinNames part (List.mem_flatMap.mpr ⟨join, hJoin, hPart⟩)
      obtain ⟨type, joinSource, joinConditions⟩ := join
      simp only [JoinItem.nodes, List.forall_mem_append] at hNames
      refine JoinItem.detached_tokens _ ?_ ?_
      · rintro query name rfl
        exact (hJoins _ hJoin).1 query name rfl hNames.1
      · exact fun e hMem => (hJoins _ hJoin).2 e hMem (allLegible_exprNodes.mp hNames.2 e hMem)
    · intro e hMem
      exact hConditions e hMem (allLegible_exprNodes.mp hConditionNames e hMem)
    · intro e hMem
      exact hGroups e hMem (allLegible_exprNodes.mp hGroupNames e hMem)
    · intro order hOrder
      exact hOrders order hOrder fun part hPart =>
        hOrderNames part (List.mem_flatMap.mpr ⟨order, hOrder, hPart⟩)

/-- The tokens of a query can be told apart again, whatever names it uses. -/
theorem Query.readable_tokens (d : Dialect) {allowed : String → Prop} {query : Query}
    (h : query.AllLegible allowed) : Readable d allowed (query.tokens d) :=
  (readable_tokens_cases d allowed).ofQuery query h

/-- A scan of the text of a query ends outside quotes and finds its tokens, part by part. -/
theorem Query.scan_sql (d : Dialect) {allowed : String → Prop} {query : Query}
    (h : query.AllLegible allowed) :
    scan (query.sql d) =
      some (((query.tokens d).flatMap Token.parts).flatMap (Token.lexemes d)) :=
  scanFrom_written (query.readable_tokens d h)

/-- No text but an allowed one is written. -/
theorem Query.allowed_of_mem_tokens {d : Dialect} {allowed : String → Prop} {query : Query}
    (h : query.AllLegible allowed) {s : String} (hMem : .text s ∈ query.tokens d) : allowed s := by
  rcases (query.readable_tokens d h).2 _ hMem with hQuoted | hPlain
  · exact hQuoted.2 s rfl
  · simp [Token.isQuoted, Token.IsPlain] at hPlain

end Crosstab.Sql
