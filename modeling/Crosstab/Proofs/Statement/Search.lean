import Crosstab.Proofs.Statement.Label

/-!
Searching in texts. What a caller looks for is found just where it stands in the text of a column,
apart from the case of letters: the signs that patterns have for other characters are escaped, and
the only ones that are not are those that the operator puts in front or behind.
-/

namespace Crosstab

open Crosstab.Sql Crosstab.Text

/-- Where an operator that searches finds characters in others. -/
def FilterOperator.Finds : FilterOperator → List Char → List Char → Prop
  | .contains, wanted, cs => wanted <:+: cs
  | .startsWith, wanted, cs => wanted <+: cs
  | .endsWith, wanted, cs => wanted <:+ cs
  | _, _, _ => False

namespace Sql

variable {row : StoredRow} {values : List Value} {e p : Expr} {x : Datum}

theorem capitalizes_id : Capitalizes id fun c => [c] :=
  ⟨fun s => by simp, fun _ _ => rfl, fun _ hPlain x hMem => List.mem_singleton.mp hMem ▸ hPlain⟩

/-- The pattern of an operator, written in capitals, matches the texts in which the operator finds
what is wanted, written in capitals. -/
theorem Capitalizes.exists_parts {upper : String → String} {capital : Char → List Char}
    (h : Capitalizes upper capital) {operator : FilterOperator} {before after : String}
    (hOperator : operator.wildcards? = some (before, after)) (wanted : String) :
    ∃ parts,
      patternParts? '\\' (upper (before ++ escapePattern wanted ++ after)).toList = some parts ∧
      ∀ cs, matchesParts parts cs ↔ operator.Finds (upper wanted).toList cs := by
  have hEscaped : (escapePattern wanted).toList.flatMap capital =
      (upper wanted).toList.flatMap escapedChar := by
    rw [← h.characters, h.toList_upper_escapePattern]
  have hSign : capital '%' = ['%'] := h.signs '%' rfl
  have hText (rest : List Char) := patternParts?_escaped_append (upper wanted).toList rest
  have hRun (rest : List Char) :
      patternParts? '\\' ('%' :: rest) = (patternParts? '\\' rest).map (.run :: ·) := by
    rw [patternParts?.eq_def]
    simp
  rw [h.characters]
  simp only [String.toList_append, List.flatMap_append, hEscaped]
  cases operator <;> cases hOperator
  case contains =>
    refine ⟨.run :: ((upper wanted).toList.map .char ++ [.run]), ?_, fun cs =>
      matchesParts_run_chars_run⟩
    simp [hSign, hRun, hText, patternParts?]
  case startsWith =>
    refine ⟨(upper wanted).toList.map .char ++ [.run], ?_, fun cs => matchesParts_chars_run⟩
    simp [hSign, hText, patternParts?]
  case endsWith =>
    refine ⟨.run :: (upper wanted).toList.map .char, ?_, fun cs => matchesParts_run_chars⟩
    have hWhole := hText []
    rw [List.append_nil] at hWhole
    simp [hSign, hRun, hWhole, patternParts?]

/-- Texts are compared in capitals. -/
theorem datum?_comparedAs_text (h : e.datum? row values = some x) :
    (comparedAs .text e).datum? row values = some (.ofText? (x.text?.map row.upper)) := by
  have hCast : (Expr.cast e .text).datum? row values = some (.ofText? x.text?) := by
    simp [Expr.datum?, h]
  rw [comparedAs, datum?_upper hCast]
  cases x.text? <;> rfl

/-- A test with the pattern of an operator, whose value is bound. No escape character is left at the
end, neither of what is wanted nor of the pattern around it. -/
structure PatternTest (values : List Value) (operator : FilterOperator) (wanted : String)
    (operand test : Expr) : Prop where
  bound : ∃ n before after, operator.wildcards? = some (before, after) ∧
    values[n]? = some (.text (before ++ escapePattern wanted ++ after)) ∧
    test = .like false operand (.upper (.param (n + 1))) '\\'
  escaped : patternParts? '\\' (escapePattern wanted).toList = some (wanted.toList.map .char)
  read : ∀ before after, operator.wildcards? = some (before, after) →
    ∃ parts, patternParts? '\\' (before ++ escapePattern wanted ++ after).toList = some parts

namespace PatternTest

variable {operator : FilterOperator} {wanted : String} {test : Expr}

/-- A bound pattern is searched for. -/
theorem of_bound {n : Nat} {before after : String}
    (hOperator : operator.wildcards? = some (before, after))
    (hBound : values[n]? = some (.text (before ++ escapePattern wanted ++ after))) :
    PatternTest values operator wanted e (.like false e (.upper (.param (n + 1))) '\\') := by
  refine ⟨⟨n, before, after, hOperator, hBound, rfl⟩, ?escaped, fun before after hOther => ?read⟩
  case escaped =>
    have hWhole := patternParts?_escaped_append wanted.toList []
    simpa [toList_escapePattern, patternParts?] using hWhole
  case read =>
    obtain ⟨parts, hParts, -⟩ := capitalizes_id.exists_parts hOther wanted
    exact ⟨parts, hParts⟩

/-- Nothing is said of a missing text. -/
theorem datum?_null (h : PatternTest values operator wanted e test)
    (hText : e.datum? row values = some .null) : test.datum? row values = some .null := by
  obtain ⟨n, before, after, -, hBound, rfl⟩ := h.bound
  simp [Expr.datum?, hText, datum?_upper_param hBound, Datum.like?, Datum.negatedIf]

/-- A text is matched just if the operator finds in it what is wanted, in capitals. -/
theorem datum?_text {capital : Char → List Char} {s : String}
    (h : PatternTest values operator wanted e test) (hUpper : Capitalizes row.upper capital)
    (hText : e.datum? row values = some (.text s)) :
    ∃ b, test.datum? row values = some (.truth b) ∧
      (b ↔ operator.Finds (row.upper wanted).toList s.toList) := by
  obtain ⟨n, before, after, hOperator, hBound, rfl⟩ := h.bound
  obtain ⟨parts, hParts, hMatch⟩ := hUpper.exists_parts hOperator wanted
  refine ⟨matchesParts parts s.toList, ?_, hMatch s.toList⟩
  simp [Expr.datum?, hText, datum?_upper_param hBound, Datum.like?, hParts, Datum.negatedIf]

end PatternTest

end Sql

/-- Searches are tests with `LIKE`. -/
theorem FilterOperator.Tests.eq_like {operator : FilterOperator} {kind : ValueKind}
    {column test : Expr} {first size : Nat} (h : operator.Tests kind column first size test)
    (hOperator : operator ∈ [.contains, .startsWith, .endsWith]) :
    test = .like false (comparedAs .text column) (.upper (.param first)) '\\' := by
  cases h with
  | like => rfl
  | compare hOther => cases operator <;> simp [FilterOperator.comparison?] at hOperator hOther
  | _ => simp at hOperator

/-- The wildcards that an operator that searches puts in front and behind. -/
theorem FilterOperator.exists_wildcards {operator : FilterOperator}
    (h : operator ∈ [.contains, .startsWith, .endsWith]) :
    ∃ before after, operator.wildcards? = some (before, after) := by
  cases operator <;> first | exact ⟨_, _, rfl⟩ | simp at h

/-- What a test that searches says of a row in which the column has a given value. -/
structure SearchTest (row : StoredRow) (values : List Value) (x : Datum) (operator : FilterOperator)
    (wanted : String) (test : Expr) : Prop where
  missing : x = .null → test.datum? row values = some .null
  found : ∀ text, x.text? = some text → ∃ b, test.datum? row values = some (.truth b) ∧
    (b ↔ operator.Finds (row.upper wanted).toList (row.upper text).toList)

/-- A pattern test finds the wanted text in a row. -/
theorem Sql.PatternTest.searchTest {row : StoredRow} {values : List Value}
    {operator : FilterOperator} {wanted : String} {column test : Expr} {x : Datum}
    {capital : Char → List Char}
    (h : PatternTest values operator wanted (comparedAs .text column) test)
    (hUpper : Capitalizes row.upper capital) (hColumn : column.datum? row values = some x) :
    SearchTest row values x operator wanted test := by
  have hOperand := datum?_comparedAs_text hColumn
  refine ⟨?missing, ?found⟩
  case missing =>
    rintro rfl
    exact h.datum?_null hOperand
  case found =>
    intro text hText
    rw [hText] at hOperand
    exact h.datum?_text hUpper hOperand

/-- A kept search tests a pattern around the escaped text. -/
theorem PlannedFilter.Kept.patternTest {f : PlannedFilter} {kind : ValueKind} {given : Option Json}
    {column test : Expr} {values : List Value} (hKept : f.Kept column values test)
    (hOperator : f.operator ∈ [.contains, .startsWith, .endsWith])
    (hReads : FilterValue.Reads kind f.operator given f.value) :
    ∃ raw text, given = some raw ∧ verbatim? raw = some text ∧ ¬isBlankText text ∧
      PatternTest values f.operator (trim text) (comparedAs .text column) test := by
  obtain ⟨before, after, hWildcards⟩ := f.operator.exists_wildcards hOperator
  obtain ⟨raw, text, hGiven, hText, hBlank, hValue⟩ := hReads.eq_pattern hWildcards
  obtain ⟨n, hBound, hTests⟩ := hKept.exists_bound
  rw [hValue] at hBound
  refine ⟨raw, text, hGiven, hText, hBlank, ?_⟩
  rw [hTests.eq_like hOperator]
  exact .of_bound hWildcards (getElem?_of_bound hBound)

/-- The values of a column are narrowed down by what they begin with, unless nothing is given but
blanks. -/
theorem Statement.conditions_distinctValues (column : Column) (start : Option String)
    (limit : UInt64) (names : Naming) (d : Dialect) :
    let s := distinctValues column start limit names d
    let value := groupLabel (.ofTable leftName (names.column column.entity column.field))
    ((∀ text, start = some text → isBlankText text) → s.query.conditions = []) ∧
    ∀ text, start = some text → ¬isBlankText text →
      ∃ test, s.query.conditions = [test] ∧
        PatternTest s.values .startsWith (trim text) value test := by
  dsimp only [distinctValues]
  constructor
  · intro hBlank
    cases start with
    | none => rfl
    | some text => simp [trim_eq_empty.mpr (hBlank text rfl)]
  · rintro text rfl hGiven
    have hWanted : ((some (trim text)).filter (· ≠ "")).toList = [trim text] := by
      rw [Option.filter_some_pos (by simpa using mt trim_eq_empty.mp hGiven)]
      rfl
    rw [Option.map_some, hWanted]
    exact ⟨_, rfl, @PatternTest.of_bound [.text (escapePattern (trim text) ++ "%")] _ .startsWith
      (trim text) 0 "" "%" rfl (by simp)⟩

/-- Texts are searched literally. A filter that searches finds the text of the caller, without blank
ends and apart from case, just where it stands in a column: anywhere, at the beginning or at the
end. The values of a column that begin with a text are found in the same way by their labels. -/
theorem texts_found_literally {spec : Spec} {c : Catalog} {maxLimit : UInt64} {plan : Plan}
    (hSpec : spec.resolve c maxLimit = .ok plan) (names : Naming) (d : Dialect)
    (sourceLimit : UInt64) :
    (∃ s clauses tests, plan.clauses names d = .ok clauses ∧
      plan.compile names d sourceLimit = .ok s ∧ s.query.conditions = clauses.2 ++ tests ∧
      spec.filters.length = tests.length ∧
      ∀ given test, (given, test) ∈ spec.filters.zip tests →
        given.operator ∈ [.contains, .startsWith, .endsWith] →
          ∃ column raw text, c.column? given.column.entity given.column.field = some column ∧
            given.value = some raw ∧ verbatim? raw = some text ∧ ¬isBlankText text ∧
            PatternTest s.values given.operator (trim text)
              (comparedAs .text (plan.columnExpr names column)) test ∧
            ∀ row capital, Capitalizes row.upper capital →
              SearchTest row s.values (plan.datum names row column) given.operator
                (trim text) test) ∧
    ∀ column start limit names d, ∃ s item,
      Statement.distinctValues column start limit names d = s ∧ item ∈ s.query.items ∧
      item.name = some "value" ∧
      ((∀ text, start = some text → isBlankText text) → s.query.conditions = []) ∧
      ∀ text, start = some text → ¬isBlankText text →
        ∃ test, s.query.conditions = [test] ∧
          PatternTest s.values .startsWith (trim text) item.expr test ∧
          ∀ row capital, Capitalizes row.upper capital →
            ∃ label b, item.expr.datum? row s.values = some (.text label) ∧
              test.datum? row s.values = some (.truth b) ∧
              (b ↔ (row.upper (trim text)).toList <+: label.toList) := by
  constructor
  · have hPlan := Spec.resolve_ok hSpec
    obtain ⟨s, clauses, tests, hClauses, hCompile, -, hConditions, hTested⟩ :=
      hPlan.tested names d sourceLimit
    refine ⟨s, clauses, tests, hClauses, hCompile, hConditions, hTested.length_eq, ?_⟩
    intro given test hPair hOperator
    obtain ⟨f, hSame, hColumn, hReads, hKept⟩ := List.forall₂_zip hTested hPair
    rw [← hSame] at hOperator hReads ⊢
    obtain ⟨raw, text, hGiven, hText, hBlank, hPattern⟩ := hKept.patternTest hOperator hReads
    refine ⟨f.column, raw, text, hColumn, hGiven, hText, hBlank, hPattern, ?_⟩
    intro row capital hUpper
    apply hPattern.searchTest hUpper
    exact plan.datum?_columnExpr names row s.values f.column
  · intro column start limit names d
    obtain ⟨hNone, hSome⟩ := Statement.conditions_distinctValues column start limit names d
    refine ⟨_, ⟨groupLabel (.ofTable leftName (names.column column.entity column.field)),
      some "value"⟩, rfl, .head _, rfl, hNone, ?_⟩
    intro text hStart hGiven
    obtain ⟨test, hConditions, hPattern⟩ := hSome text hStart hGiven
    refine ⟨test, hConditions, hPattern, ?_⟩
    intro row capital hUpper
    have hLabel :=
      @datum?_groupLabel row (Statement.distinctValues column start limit names d).values
      (.ofTable leftName (names.column column.entity column.field)) _ rfl
    obtain ⟨b, hTest, hFinds⟩ := hPattern.datum?_text hUpper hLabel
    exact ⟨_, b, hLabel, hTest, hFinds⟩

/-- The refunds for each reason that contains a text. -/
def Spec.refundsMentioning (text : String) : Spec :=
  { Spec.refundsByReason with
    filters := [⟨{ entity := "returns", field := "reason" }, .contains, some (.text text)⟩] }

/-- Wildcards in the text that is searched for are found as characters. -/
theorem texts_found_refunds : ∃ c plan s probe test,
    (Spec.refundsMentioning " 50% \\_ ").resolve c 10 = .ok plan ∧
    plan.compile {} .sqlite 100 = .ok s ∧ s.query.conditions = [probe, test] ∧
    ∀ row reason, row.upper = String.toUpper → row.column (some "l") "reason" = .text reason →
      ∃ b, test.datum? row s.values = some (.truth b) ∧
        (b ↔ ['5', '0', '%', ' ', '\\', '_'] <:+: reason.toUpper.toList) := by
  let c : Catalog := ⟨Builtin.entities, [("inventory", Builtin.inventoryColumns),
    ("returns", Builtin.returnColumns)], Builtin.joins⟩
  obtain ⟨⟨s, clauses, tests, hClauses, hCompile, hConditions, -, hTested⟩, -⟩ :=
    @texts_found_literally (.refundsMentioning " 50% \\_ ") c 10 _ rfl {} .sqlite 100
  cases hClauses
  cases hCompile
  obtain rfl := List.append_cancel_left hConditions
  refine ⟨c, _, _, _, _, rfl, rfl, rfl, ?_⟩
  intro row reason hUpper hReason
  obtain ⟨_, _, _, hColumn, hValue, hText, -, -, hSearch⟩ := hTested _ _ (.head _) (by decide)
  cases hColumn
  cases hValue
  cases hText
  have hFound := (hSearch row _ (hUpper ▸ capitalizes_toUpper)).found reason
  rw [hUpper, toList_toUpper] at hFound
  apply hFound
  show (row.column (some "l") "reason").text? = some reason
  rw [hReason]
  rfl

end Crosstab
