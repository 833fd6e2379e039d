import Crosstab.Proofs.Sql.Nesting

/-!
What a cast behind its operand applies to. A `::` binds tighter than a sign and than every
comparison, list, range, pattern, test for null and conjunction, so that of all that stands in front
of it, it takes a single primary only. The main statement says of which expressions that is the
whole: of all but the negative numbers, whose sign stays outside the cast.
-/

namespace Crosstab.Sql

/-- Names with a dot between each two. -/
inductive IsPath : List Token → Prop
  | name (s : String) : IsPath [.name s]
  | field {path : List Token} (hPath : IsPath path) (s : String) : IsPath (path ++ [.dot, .name s])

/-- What a cast binds to as a whole. A number has no sign, and the parentheses of a group or a call
belong to each other. -/
inductive IsPrimary : List Token → Prop
  | path {path : List Token} (hPath : IsPath path) : IsPrimary path
  /-- All columns of a table. -/
  | columns {path : List Token} (hPath : IsPath path) : IsPrimary (path ++ [.dot, .star])
  | int (n : Nat) : IsPrimary [.int n]
  | text (s : String) : IsPrimary [.text s]
  | placeholder (n : Nat) : IsPrimary [.placeholder n]
  | call (function : String) {inner : List Token} (hInner : Nested Token.isFlat inner) :
      IsPrimary (.function function :: parenthesized inner)
  | group {inner : List Token} (hInner : Nested Token.isFlat inner) :
    IsPrimary (parenthesized inner)
  | cast {operand : List Token} (hOperand : IsPrimary operand) (type : String) :
      IsPrimary (operand ++ [.doubleColon, .type type])

/-- The path that tokens begin with when they are read backwards. -/
def pathBack : List Token → List Token
  | .name s :: .dot :: rest => .name s :: .dot :: pathBack rest
  | .name s :: _ => [.name s]
  | _ => []

/-- The rest of a group when tokens are read backwards in it, and the function in front if it is a
call. The number says how many groups inside it have still to be opened. -/
def groupBack : Nat → List Token → List Token
  | _, [] => []
  | depth, .rightParen :: rest => .rightParen :: groupBack (depth + 1) rest
  | depth + 1, .leftParen :: rest => .leftParen :: groupBack depth rest
  | 0, .leftParen :: .function s :: _ => [.leftParen, .function s]
  | 0, .leftParen :: _ => [.leftParen]
  | depth, t :: rest => t :: groupBack depth rest

/-- The operand that tokens begin with when they are read backwards. -/
def operandBack : List Token → List Token
  | .type s :: .doubleColon :: rest => .type s :: .doubleColon :: operandBack rest
  | .rightParen :: rest => .rightParen :: groupBack 0 rest
  | .star :: .dot :: rest => .star :: .dot :: pathBack rest
  | .name s :: rest => pathBack (.name s :: rest)
  | .int n :: _ => [.int n.natAbs]
  | .text s :: _ => [.text s]
  | .placeholder n :: _ => [.placeholder n]
  | _ => []

/-- What a `::` applies to that stands behind tokens. Nothing binds tighter but the dots of a path
and the parentheses of a call, and a negative number is a sign in front of a number. -/
def castOperand (tokens : List Token) : List Token := (operandBack tokens.reverse).reverse

/-- Whether a token and the next one are read as one operand: a dot and the name behind it, a
function and what it is called with. -/
def Token.isBound : Token → Bool
  | .dot | .function _ => true
  | _ => false

/-- The sign of a negative number is a token of its own for whoever reads it. -/
theorem Token.written_int_of_neg (d : Dialect) {n : Int} (h : n < 0) :
    (Token.int n).written d = "-" ++ (Token.int n.natAbs).written d := by
  cases n with
  | ofNat n => exact absurd h (Int.not_lt.mpr (Int.natCast_nonneg n))
  | negSucc n => rfl

section Back

variable {back : List Token}

/-- A path is read back to its beginning, where no dot comes before it. -/
theorem pathBack_append {path : List Token} (h : IsPath path)
    (hBack : ∀ t ∈ back.head?, t.isBound = false) :
    pathBack (path.reverse ++ back) = path.reverse := by
  induction h with
  | name s =>
      show pathBack (.name s :: back) = [.name s]
      unfold pathBack
      split <;> simp_all [Token.isBound]
  | field _ s ih => simp [pathBack, ih]

theorem operandBack_path {path : List Token} (h : IsPath path) (back : List Token) :
    operandBack (path.reverse ++ back) = pathBack (path.reverse ++ back) := by
  cases h with
  | name s => rfl
  | field _ s => simp [operandBack]

/-- Other tokens do not close a group. -/
theorem groupBack_of_isFlat {t : Token} (h : t.isFlat) (depth : Nat) (rest : List Token) :
    groupBack depth (t :: rest) = t :: groupBack depth rest := by
  cases t with
  | leftParen => cases h
  | rightParen => cases h
  | _ => rfl

/-- Balanced tokens are passed over. -/
theorem groupBack_append {allowed : Token → Bool} {inner : List Token} (h : Nested allowed inner)
    (hAllowed : ∀ t, allowed t → t.isFlat) (depth : Nat) (back : List Token) :
    groupBack depth (inner.reverse ++ back) = inner.reverse ++ groupBack depth back := by
  induction h generalizing depth back with
  | nil => rfl
  | token hToken _ ih => simp [ih hAllowed, groupBack_of_isFlat (hAllowed _ hToken)]
  | group _ _ ihInner ihRest =>
      have hFlat (t : Token) (h : t.isFlat) : t.isFlat := h
      simp [parenthesized, ihRest hAllowed, groupBack, ihInner hFlat]

theorem groupBack_leftParen (hBack : ∀ t ∈ back.head?, t.isBound = false) :
    groupBack 0 (.leftParen :: back) = [.leftParen] := by
  unfold groupBack
  split <;> simp_all [Token.isBound]

/-- Backwards from its end, a primary is read to its beginning and no further. -/
theorem operandBack_append {operand : List Token} (h : IsPrimary operand)
    (hBack : ∀ t ∈ back.head?, t.isBound = false) :
    operandBack (operand.reverse ++ back) = operand.reverse := by
  induction h with
  | path hPath => rw [operandBack_path hPath, pathBack_append hPath hBack]
  | columns hPath => simp [operandBack, pathBack_append hPath hBack]
  | int n => rfl
  | text s => rfl
  | placeholder n => rfl
  | call s hInner =>
    simp [parenthesized, operandBack, groupBack_append hInner fun _ => id, groupBack]
  | group hInner =>
      simp [parenthesized, operandBack, groupBack_append hInner fun _ => id,
        groupBack_leftParen hBack]
  | cast _ type ih => simp [operandBack, ih]

end Back

/-- A cast behind a primary applies to all of it and to nothing in front of it. -/
theorem castOperand_append {before operand : List Token} (h : IsPrimary operand)
    (hBefore : ∀ t ∈ before.getLast?, t.isBound = false) :
    castOperand (before ++ operand) = operand := by
  have hBack : ∀ t ∈ before.reverse.head?, t.isBound = false := by simpa using hBefore
  rw [castOperand, List.reverse_append, operandBack_append h hBack, List.reverse_reverse]

/-- Of a comparison in front of it, a cast takes the right side. -/
example : castOperand ((Expr.compare .eq (.ofTable "l" "a") (.param 1)).tokens .postgres) =
    [.placeholder 1] := by decide

/-- A cast behind a cast applies to the same operand. -/
theorem castOperand_cast (operand : List Token) (type : String) :
    castOperand (operand ++ [.doubleColon, .type type]) =
      castOperand operand ++ [.doubleColon, .type type] := by
  simp [castOperand, operandBack]

/-- What is left of an expression without the casts around it. -/
def Expr.uncast : Expr → Expr
  | .cast operand _ => operand.uncast
  | e => e

/-- How a cast of `e` behind its operand is written and read. -/
structure Expr.CastsWhole (d : Dialect) (e : Expr) (kind : ValueKind) (operand : List Token) :
    Prop where
  written : (Expr.cast e kind).tokens d = operand ++ [.doubleColon, .type (d.typeName kind)]
  /-- All of `e` is in front of the cast. -/
  whole : operand = parenthesized (e.tokens d) ∨ operand = e.tokens d
  primary : IsPrimary operand
  /-- The cast applies to all of it, whatever the cast stands behind in its turn. -/
  bound : ∀ before : List Token, (∀ t ∈ before.getLast?, t.isBound = false) →
    castOperand (before ++ operand) = operand

section Cast

variable {d : Dialect}

theorem isPath_qualifier (table : Option String) (s : String) :
    IsPath (qualifier table ++ [.name s]) := by
  cases table with
  | none => exact .name s
  | some table => exact .field (.name table) s

/-- Behind an operand that is not atomic, a cast needs parentheses around it. -/
theorem tokens_cast (hPostfix : d.hasPostfixCast) (e : Expr) (kind : ValueKind) :
    (Expr.cast e kind).tokens d =
      (if e.isAtomic then e.tokens d else parenthesized (e.tokens d)) ++
        [.doubleColon, .type (d.typeName kind)] := by
  rw [Expr.tokens, castTokens, if_pos hPostfix]

/-- Whatever is atomic stays so under casts. -/
theorem Expr.isAtomic_of_uncast {e : Expr} (h : e.uncast.isAtomic) : e.isAtomic := by
  cases e with
  | cast operand kind => rfl
  | _ => exact h

/-- An operand that no cast behind it takes whole: a negative number or a lone star, under further
casts or not. -/
def Expr.IsTorn (e : Expr) : Prop := e.uncast = .star none ∨ ∃ n < 0, e.uncast = .int n

/-- What a cast tears apart is written without parentheses. -/
theorem Expr.IsTorn.isAtomic {e : Expr} (h : e.IsTorn) : e.isAtomic := by
  apply Expr.isAtomic_of_uncast
  rcases h with h | ⟨n, -, h⟩ <;> rw [h] <;> rfl

/-- An atomic expression that is not torn is read as one operand. -/
theorem Expr.isPrimary_tokens (hPostfix : d.hasPostfixCast) {e : Expr} (hAtomic : e.isAtomic)
    (h : ¬e.IsTorn) : IsPrimary (e.tokens d) := by
  induction e using Expr.uncast.induct with
  | case1 operand kind ih =>
      rw [tokens_cast hPostfix]
      apply IsPrimary.cast
      split
      next hOperand => exact ih hOperand h
      next => exact .group (operand.shaped d).nested.flat
  | case2 e hCast =>
      cases e with
      | column table name => exact .path (isPath_qualifier table name)
      | int n =>
          have hNonneg : 0 ≤ n := Int.not_lt.mp fun hNeg => h (.inr ⟨n, hNeg, rfl⟩)
          obtain ⟨k, rfl⟩ := Int.eq_ofNat_of_zero_le hNonneg
          exact .int k
      | text s => exact .text s
      | param n => exact .placeholder n
      | call function distinct arguments =>
          exact .call function
            (Expr.Shaped.nested_arguments (fun argument _ => argument.shaped d) distinct)
      | cast operand kind => exact absurd rfl (hCast operand kind)
      | scalar query => exact .group (query.shaped d).flat
      | star table =>
          cases table with
          | none => exact absurd (.inl rfl) h
          | some table => exact .columns (.name table)
      | paren inner => exact .group (inner.shaped d).nested.flat
      | _ => cases hAtomic

/-- The sign of a number stays outside a cast, and to a lone star a cast cannot be applied at
all. -/
theorem Expr.IsTorn.castOperand_ne (hPostfix : d.hasPostfixCast) {e : Expr} (h : e.IsTorn) :
    castOperand (e.tokens d) ≠ e.tokens d := by
  induction e using Expr.uncast.induct with
  | case1 operand kind ih =>
      have hOperand : operand.IsTorn := h
      rw [tokens_cast hPostfix, if_pos hOperand.isAtomic, castOperand_cast]
      intro hEq
      exact ih hOperand (List.append_cancel_right hEq)
  | case2 e hCast =>
      have hSame : e.uncast = e := by simp [Expr.uncast]
      rw [IsTorn, hSame] at h
      rcases h with rfl | ⟨n, hNeg, rfl⟩
      · show [] ≠ [Token.star]
        exact (List.cons_ne_nil _ _).symm
      · show [Token.int n.natAbs] ≠ [Token.int n]
        intro hEq
        have hAbs : (n.natAbs : Int) = n := by simpa using hEq
        omega

/-- A cast of what it tears apart applies to less than that. -/
theorem Expr.IsTorn.not_castsWhole (hPostfix : d.hasPostfixCast) {e : Expr} (h : e.IsTorn)
    (kind : ValueKind) (operand : List Token) : ¬e.CastsWhole d kind operand := by
  intro hWhole
  have hWritten := hWhole.written
  rw [tokens_cast hPostfix, if_pos h.isAtomic] at hWritten
  have hBound := hWhole.bound [] nofun
  rw [← List.append_cancel_right hWritten] at hBound
  exact h.castOperand_ne hPostfix hBound

/-- Every other cast applies to the whole of its operand. -/
theorem Expr.exists_castsWhole (hPostfix : d.hasPostfixCast) {e : Expr} (h : ¬e.IsTorn)
    (kind : ValueKind) : ∃ operand, e.CastsWhole d kind operand := by
  have hPrimary : IsPrimary (if e.isAtomic then e.tokens d else parenthesized (e.tokens d)) := by
    split
    next hAtomic => exact Expr.isPrimary_tokens hPostfix hAtomic h
    next => exact .group (e.shaped d).nested.flat
  apply Exists.intro
  constructor
  case written => exact tokens_cast hPostfix e kind
  case primary => exact hPrimary
  case bound => exact fun before hBefore => castOperand_append hPrimary hBefore
  case whole =>
    split
    next => exact .inr rfl
    next => exact .inl rfl

end Cast

/-- A cast behind its operand applies to the whole of it unless that is a negative number or a lone
star, under further casts or not. -/
theorem castsWhole_iff {d : Dialect} (hPostfix : d.hasPostfixCast) (e : Expr) (kind : ValueKind) :
    (∃ operand, e.CastsWhole d kind operand) ↔
      e.uncast ≠ .star none ∧ ∀ n < 0, e.uncast ≠ .int n := by
  have hTorn : ¬e.IsTorn ↔ e.uncast ≠ .star none ∧ ∀ n < 0, e.uncast ≠ .int n := by
    simp [Expr.IsTorn]
  rw [← hTorn]
  constructor
  · intro ⟨operand, hWhole⟩ h
    exact h.not_castsWhole hPostfix kind operand hWhole
  · intro h
    exact Expr.exists_castsWhole hPostfix h kind

/-- A comparison is cast as a whole, and what has been cast is cast again. -/
theorem castsWhole_comparison :
    Dialect.duckdb.hasPostfixCast ∧
    (Expr.cast (.cast (.compare .eq (.ofTable "l" "a") (.param 1)) .text) .numeric).sql .duckdb =
      "(\"l\".\"a\" = $1)::VARCHAR::DOUBLE" ∧
    ∃ operand,
      (Expr.cast (.compare .eq (.ofTable "l" "a") (.param 1)) .text).CastsWhole .duckdb .numeric
      operand := by
  refine ⟨rfl, by decide +kernel, (castsWhole_iff rfl _ .numeric).mpr ⟨?_, ?_⟩⟩
  · simp [Expr.uncast]
  · simp [Expr.uncast]

/-- Minus five as a text is the opposite of the text of five. -/
theorem torn_minusFive :
    (Expr.cast (.int (-5)) .text).sql .postgres = "-5::text" ∧
    castOperand ((Expr.int (-5)).tokens .postgres) = [.int 5] ∧
    (Token.int (-5)).written .postgres = "-" ++ (Token.int 5).written .postgres ∧
    ¬∃ operand, (Expr.int (-5)).CastsWhole .postgres .text operand := by
  have hTorn : (Expr.int (-5)).IsTorn := .inr ⟨-5, by decide, rfl⟩
  refine ⟨by decide +kernel, by decide, Token.written_int_of_neg .postgres (by decide), ?_⟩
  intro ⟨operand, hWhole⟩
  exact hTorn.not_castsWhole rfl .text operand hWhole

end Crosstab.Sql
