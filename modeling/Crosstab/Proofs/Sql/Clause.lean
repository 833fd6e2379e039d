import Crosstab.Proofs.Sql.Nodes
import Mathlib.Data.List.DropRight

/-!
The clauses of a statement, found in its tokens. Outside all parentheses, a word such as `WHERE`
starts a clause, and `AND` separates two conditions unless it belongs to a `BETWEEN`. Whatever
stands in parentheses stays together.
-/

namespace Crosstab.Sql

/-- Where a token stands. -/
structure Place where
  /-- The number of parentheses around it. -/
  depth : Nat := 0
  /-- The number of `BETWEEN` outside parentheses whose `AND` is still to come. -/
  ranges : Nat := 0
deriving DecidableEq

namespace Place

def step (p : Place) : Token → Place
  | .leftParen => { p with depth := p.depth + 1 }
  | .rightParen => { p with depth := p.depth - 1 }
  | .keyword .between => if p.depth = 0 then { p with ranges := p.ranges + 1 } else p
  | .keyword .and => if p.depth = 0 then { p with ranges := p.ranges - 1 } else p
  | _ => p

end Place

def clauseWords : List Keyword :=
  [.select, .fromKeyword, .inner, .left, .right, .onKeyword, .whereKeyword,
    .groupBy, .orderBy, .limit]

def Token.startsClause : Token → Bool
  | .keyword word => word ∈ clauseWords
  | _ => false

/-- Whether a token starts a clause of the statement itself, not of a sub-select. -/
def Place.startsClause (p : Place) (t : Token) : Bool := p.depth = 0 && t.startsClause

def Place.separates (p : Place) (t : Token) : Bool :=
  p.depth = 0 && p.ranges = 0 && t = .keyword .and

/-- What stands in front of the first cut, and behind each cut the token that is cut at and what
stands behind it. -/
def cutFrom (cuts : Place → Token → Bool) :
    Place → List Token → List Token × List (Token × List Token)
  | _, [] => ([], [])
  | p, t :: rest =>
    let (first, others) := cutFrom cuts (p.step t) rest
    if cuts p t then ([], (t, first) :: others) else (t :: first, others)

def Token.isWhite : Token → Bool
  | .space | .newline | .indent _ => true
  | _ => false

def trimmed (tokens : List Token) : List Token :=
  (tokens.dropWhile Token.isWhite).rdropWhile Token.isWhite

/-- The conditions that tokens consist of. -/
def conjuncts (tokens : List Token) : List (List Token) :=
  let (first, others) := cutFrom Place.separates {} tokens
  (first :: others.map Prod.snd).map trimmed

/-- What stands in the clauses that start with a word. -/
def clauseBodies (word : Keyword) (tokens : List Token) : List (List Token) :=
  ((cutFrom Place.startsClause {} tokens).2.filter fun part =>
    part.1 = .keyword word).map fun part => trimmed part.2

/-- The conditions in the clauses that start with a word, for each of the clauses. -/
def clauseConjuncts (word : Keyword) (tokens : List Token) : List (List (List Token)) :=
  (clauseBodies word tokens).map conjuncts

def Token.isFlat (t : Token) : Bool := t ≠ .leftParen && t ≠ .rightParen

/-- Tokens whose parentheses are balanced and whose other tokens, as far as they stand outside all
parentheses, are allowed. -/
inductive Nested : (Token → Bool) → List Token → Prop
  | nil {allowed : Token → Bool} : Nested allowed []
  | token {allowed : Token → Bool} {t : Token} {rest : List Token} (hAllowed : allowed t)
      (hRest : Nested allowed rest) : Nested allowed (t :: rest)
  | group {allowed : Token → Bool} {inner rest : List Token} (hInner : Nested Token.isFlat inner)
      (hRest : Nested allowed rest) : Nested allowed (parenthesized inner ++ rest)

namespace Nested

variable {allowed other : Token → Bool} {xs ys : List Token}

theorem mono (h : Nested allowed xs) (hAllowed : ∀ t, allowed t → other t) : Nested other xs := by
  induction h with
  | nil => exact .nil
  | token hToken _ ih => exact .token (hAllowed _ hToken) (ih hAllowed)
  | group hInner _ _ ih => exact .group hInner (ih hAllowed)

/-- What is nested can be put together. -/
theorem append (hLeft : Nested allowed xs) (hRight : Nested allowed ys) :
    Nested allowed (xs ++ ys) := by
  induction hLeft with
  | nil => exact hRight
  | token hToken _ ih => exact .token hToken (ih hRight)
  | group hInner _ _ ih =>
      rw [List.append_assoc]
      exact .group hInner (ih hRight)

theorem of_all (h : xs.all allowed) : Nested allowed xs := by
  induction xs with
  | nil => exact .nil
  | cons t xs ih =>
      obtain ⟨hToken, hRest⟩ : allowed t ∧ xs.all allowed := by simpa using h
      exact .token hToken (ih hRest)

theorem parenthesized (h : Nested Token.isFlat xs) : Nested allowed (parenthesized xs) := by
  have hNil : Nested allowed [] := .nil
  simpa using Nested.group h hNil

/-- Nested parts with nested separators are nested. -/
theorem intercalate {parts : List (List Token)} (hSeparator : Nested allowed xs)
    (hParts : ∀ part ∈ parts, Nested allowed part) : Nested allowed (xs.intercalate parts) := by
  induction parts with
  | nil => exact .nil
  | cons part rest ih =>
      obtain ⟨hPart, hRest⟩ := List.forall_mem_cons.mp hParts
      cases rest with
      | nil => simpa [List.intercalate] using hPart
      | cons next rest =>
          rw [List.intercalate_cons_cons, List.append_assoc]
          exact hPart.append (hSeparator.append (ih hRest))

end Nested

section Cut

variable {cuts : Place → Token → Bool} {p q r : Place} {t : Token} {xs ys : List Token}

/-- A cut begins a part of its own. -/
theorem cutFrom_of_cut (h : cuts p t) :
    cutFrom cuts p (t :: xs) =
      ([], (t, (cutFrom cuts (p.step t) xs).1) :: (cutFrom cuts (p.step t) xs).2) := by
  simp [cutFrom, h]

/-- Tokens that stay together with what is in front of them and behind them, and lead from a place
to another. -/
def Whole (cuts : Place → Token → Bool) (p q : Place) (xs : List Token) : Prop :=
  ∀ ys, cutFrom cuts p (xs ++ ys) = (xs ++ (cutFrom cuts q ys).1, (cutFrom cuts q ys).2)

namespace Whole

theorem nil : Whole cuts p p [] := fun _ => rfl

theorem token (h : cuts p t = false) : Whole cuts p (p.step t) [t] := fun ys => by
  simp [cutFrom, h]

theorem append (hLeft : Whole cuts p q xs) (hRight : Whole cuts q r ys) :
    Whole cuts p r (xs ++ ys) := fun zs => by
  rw [List.append_assoc, hLeft, hRight, List.append_assoc]

/-- Where nothing cuts, there is one part. -/
theorem cutFrom_eq (h : Whole cuts p q xs) : cutFrom cuts p xs = (xs, []) := by
  simpa [cutFrom] using h []

end Whole

/-- Inside parentheses a place is left by a parenthesis only. -/
theorem Place.step_of_flat (h : 0 < p.depth) (hFlat : t.isFlat) : p.step t = p := by
  unfold step
  split
  · simp [Token.isFlat] at hFlat
  · simp [Token.isFlat] at hFlat
  · exact if_neg (by omega)
  · exact if_neg (by omega)
  · rfl

/-- Nested tokens stay together if nothing is cut in parentheses, and nothing at the tokens that are
allowed outside. -/
theorem Nested.whole {allowed : Token → Bool} (h : Nested allowed xs)
    (hDeep : ∀ p t, 0 < p.depth → cuts p t = false) (hParen : ∀ p, cuts p .leftParen = false)
    (hAllowed : ∀ t, allowed t → Whole cuts p p [t]) : Whole cuts p p xs := by
  induction h generalizing p with
  | nil => exact .nil
  | token hToken _ ih => exact (hAllowed _ hToken).append (ih hAllowed)
  | @group _ inner rest _ _ ihInner ihRest =>
      let deep : Place := { p with depth := p.depth + 1 }
      have hOpen : Whole cuts p deep [.leftParen] := .token (hParen p)
      have hInner : Whole cuts deep deep inner := ihInner fun t hFlat => by
        have hToken := Whole.token (hDeep deep t (Nat.succ_pos _))
        rwa [Place.step_of_flat (Nat.succ_pos _) hFlat] at hToken
      have hClose : Whole cuts deep p [.rightParen] := .token (hDeep deep _ (Nat.succ_pos _))
      have hGroup := ((hOpen.append hInner).append hClose).append (ihRest hAllowed)
      simpa [Sql.parenthesized] using hGroup

end Cut

/-- Tokens that begin with something else than white space. -/
def Starts (xs : List Token) : Prop := ∃ t rest, xs = t :: rest ∧ t.isWhite = false

/-- Tokens that end with something else than white space. -/
def Ends (xs : List Token) : Prop := ∃ front t, xs = front ++ [t] ∧ t.isWhite = false

/-- Tokens without white space around them. -/
structure Solid (xs : List Token) : Prop where
  starts : Starts xs
  ends : Ends xs

section Solid

variable {xs ys zs : List Token} {t : Token}

theorem Starts.append (h : Starts xs) (ys : List Token) : Starts (xs ++ ys) := by
  obtain ⟨t, rest, rfl, hToken⟩ := h
  exact ⟨t, rest ++ ys, rfl, hToken⟩

theorem Ends.append (xs : List Token) (h : Ends ys) : Ends (xs ++ ys) := by
  obtain ⟨front, t, rfl, hToken⟩ := h
  exact ⟨xs ++ front, t, by rw [List.append_assoc], hToken⟩

theorem Solid.singleton (h : t.isWhite = false) : Solid [t] := ⟨⟨t, [], rfl, h⟩, ⟨[], t, rfl, h⟩⟩

/-- Tokens are solid if the first and the last of them are. -/
theorem Solid.of_ends (hFirst : xs.head?.any fun t => !t.isWhite)
    (hLast : xs.getLast?.any fun t => !t.isWhite) : Solid xs := by
  constructor
  · cases xs with
    | nil => simp at hFirst
    | cons t rest => exact ⟨t, rest, rfl, by simpa using hFirst⟩
  · cases List.eq_nil_or_concat xs with
    | inl hNil => simp [hNil] at hLast
    | inr hSome =>
        obtain ⟨front, t, rfl⟩ := hSome
        exact ⟨front, t, by simp, by simpa using hLast⟩

/-- What stands between two solid parts may be anything. -/
theorem Solid.append (hLeft : Solid xs) (hRight : Solid zs) : Solid (xs ++ (ys ++ zs)) :=
  ⟨hLeft.starts.append _, .append xs (.append ys hRight.ends)⟩

theorem Solid.parenthesized (xs : List Token) : Solid (parenthesized xs) :=
  .append (.singleton rfl) (.singleton rfl)

/-- Solid parts are solid together, whatever separates them. -/
theorem Solid.intercalate {parts : List (List Token)} (hSome : parts ≠ [])
    (h : ∀ part ∈ parts, Solid part) : Solid (xs.intercalate parts) := by
  induction parts with
  | nil => exact absurd rfl hSome
  | cons part rest ih =>
      obtain ⟨hPart, hRest⟩ := List.forall_mem_cons.mp h
      cases rest with
      | nil => simpa [List.intercalate] using hPart
      | cons next rest =>
          rw [List.intercalate_cons_cons, List.append_assoc]
          exact hPart.append (ih (List.cons_ne_nil _ _) hRest)

/-- White space is dropped up to the first other token. -/
theorem dropWhile_white (hWhite : ∀ t ∈ xs, t.isWhite) (h : Starts ys) :
    (xs ++ ys).dropWhile Token.isWhite = ys := by
  obtain ⟨t, rest, rfl, hToken⟩ := h
  rw [List.dropWhile_append_of_pos hWhite, List.dropWhile_cons_of_neg (by simp [hToken])]

/-- White space is dropped down to the last other token. -/
theorem rdropWhile_white (hWhite : ∀ t ∈ ys, t.isWhite) (h : Ends xs) :
    (xs ++ ys).rdropWhile Token.isWhite = xs := by
  have hStarts : Starts xs.reverse := by
    obtain ⟨front, t, rfl, hToken⟩ := h
    exact ⟨t, front.reverse, by simp, hToken⟩
  rw [List.rdropWhile, List.reverse_append, dropWhile_white (by simpa using hWhite) hStarts,
    List.reverse_reverse]

theorem isWhite_of_space : ∀ t ∈ [Token.space], t.isWhite := by simp [Token.isWhite]

/-- White space around solid tokens is what is trimmed. -/
theorem trimmed_eq (hFront : ∀ t ∈ xs, t.isWhite) (h : Solid ys) (hBack : ∀ t ∈ zs, t.isWhite) :
    trimmed (xs ++ (ys ++ zs)) = ys := by
  rw [trimmed, dropWhile_white hFront (h.starts.append zs), rdropWhile_white hBack h.ends]

end Solid

/-- Whether a token may stand in a clause without ending it. -/
def Token.isPart (t : Token) : Bool := t.isFlat && !t.startsClause

/-- How deep a token stands depends on how deep the one before it stood, and on nothing else. -/
theorem Place.depth_step {p q : Place} (h : p.depth = q.depth) (t : Token) :
    (p.step t).depth = (q.step t).depth := by
  unfold step
  split <;> simp [h] <;> split <;> simp [h]

/-- Clauses are found by the parentheses alone. -/
theorem cutFrom_startsClause {p q : Place} (h : p.depth = q.depth) (xs : List Token) :
    cutFrom Place.startsClause p xs = cutFrom Place.startsClause q xs := by
  induction xs generalizing p q with
  | nil => rfl
  | cons t xs ih =>
      simp only [cutFrom, ih (Place.depth_step h t), Place.startsClause, h]
      rfl

/-- No clause of the statement starts inside the parts of another one. -/
theorem Nested.whole_clause {xs : List Token} (h : Nested Token.isPart xs) :
    Whole Place.startsClause {} {} xs := by
  refine h.whole (fun p t hDeep => ?_) (fun p => ?_) fun t hPart => ?_
  · simp [Place.startsClause, Nat.ne_of_gt hDeep]
  · simp [Place.startsClause, Token.startsClause]
  · obtain ⟨hFlat, hOther⟩ : t.isFlat ∧ t.startsClause = false := by
      simpa [Token.isPart] using hPart
    have hToken : Whole Place.startsClause {} (({} : Place).step t) [t] :=
      .token (by simp [Place.startsClause, hOther])
    have hDepth : (({} : Place).step t).depth = ({} : Place).depth := by
      unfold Place.step
      split <;> simp [Token.isFlat] at hFlat ⊢
    intro ys
    rw [hToken ys, cutFrom_startsClause hDepth]

theorem isPart_of_isWhite {t : Token} (h : t.isWhite) : t.isPart := by
  cases t <;> first | rfl | simp [Token.isWhite] at h

/-- A clause, and the white space in front of it. -/
structure Section where
  gap : Token
  word : Keyword
  body : List Token

namespace Section

def tokens (part : Section) : List Token :=
  part.gap :: .keyword part.word :: .space :: part.body

/-- A clause that is found again. -/
structure Proper (part : Section) : Prop where
  gap : part.gap.isWhite
  word : (Token.keyword part.word).startsClause
  body : Nested Token.isPart part.body
  solid : Solid part.body

end Section

/-- A clause begins with its word and ends where the next one begins. -/
theorem Section.Proper.cutFrom_append {part : Section} (h : part.Proper) (rest : List Token) :
    cutFrom Place.startsClause {} (part.tokens ++ rest) =
      ([part.gap], (.keyword part.word,
        [.space] ++ (part.body ++ (cutFrom Place.startsClause {} rest).1)) ::
          (cutFrom Place.startsClause {} rest).2) := by
  have hGap : Whole Place.startsClause {} {} [part.gap] :=
    (Nested.of_all (by simp [isPart_of_isWhite h.gap])).whole_clause
  have hCut : Place.startsClause {} (.keyword part.word) := by
    simpa [Place.startsClause] using h.word
  have hStep : ({} : Place).step (.keyword part.word) = {} := by
    have hWord : part.word ∈ clauseWords := by simpa [Token.startsClause] using h.word
    simp only [clauseWords, List.mem_cons, List.not_mem_nil, or_false] at hWord
    rcases hWord with h | h | h | h | h | h | h | h | h | h <;> rw [h] <;> rfl
  have hSpace : Whole Place.startsClause {} {} [.space] := .token rfl
  have hTokens : part.tokens ++ rest =
      [part.gap] ++ (.keyword part.word :: ([.space] ++ part.body ++ rest)) := by
    simp [Section.tokens]
  rw [hTokens, hGap, cutFrom_of_cut hCut, hStep, hSpace.append h.body.whole_clause, List.append_nil,
    List.append_assoc]

/-- Clauses one after the other are found again, each with what stands in it. -/
theorem cutFrom_sections {parts : List Section} (h : ∀ part ∈ parts, part.Proper) :
    (∀ t ∈ (cutFrom Place.startsClause {} (parts.flatMap Section.tokens)).1, t.isWhite) ∧
      (cutFrom Place.startsClause {} (parts.flatMap Section.tokens)).2.map
          (fun found => (found.1, trimmed found.2)) =
        parts.map fun part => (.keyword part.word, part.body) := by
  induction parts with
  | nil => simp [cutFrom]
  | cons part parts ih =>
      obtain ⟨hPart, hParts⟩ := List.forall_mem_cons.mp h
      obtain ⟨hWhite, hFound⟩ := ih hParts
      have hTrimmed := trimmed_eq isWhite_of_space hPart.solid hWhite
      rw [List.flatMap_cons, hPart.cutFrom_append]
      refine ⟨by simpa using hPart.gap, ?_⟩
      rw [List.map_cons, hTrimmed, hFound, List.map_cons]

/-- What stands in the clauses of a statement, behind what it selects. -/
theorem clauseBodies_eq {items : List Token} {parts : List Section} {word : Keyword}
    (hItems : Nested Token.isPart items) (h : ∀ part ∈ parts, part.Proper)
    (hWord : word ≠ .select) :
    clauseBodies word (.keyword .select :: (items ++ parts.flatMap Section.tokens)) =
      (parts.filter fun part => part.word = word).map Section.body := by
  obtain ⟨-, hFound⟩ := cutFrom_sections h
  have hSelect : Place.startsClause {} (.keyword .select) := rfl
  have hOther : Token.keyword .select ≠ .keyword word := by simpa using hWord.symm
  have hMap (found : List (Token × List Token)) :
      (found.filter fun part => part.1 = .keyword word).map (fun part => trimmed part.2) =
        ((found.map fun part => (part.1, trimmed part.2)).filter
          fun part => part.1 = .keyword word).map Prod.snd := by
    simp [List.filter_map, Function.comp_def]
  rw [clauseBodies, cutFrom_of_cut hSelect]
  rw [show ({} : Place).step (.keyword .select) = {} from rfl, hItems.whole_clause,
    List.filter_cons_of_neg (by simpa using hOther), hMap, hFound]
  simp [List.filter_map, Function.comp_def]

/-- Conditions are separated where they were joined, if none of them holds an `AND` of its own
outside parentheses that does not belong to a `BETWEEN`. -/
theorem cutFrom_conjoined {part : List Token} {rest : List (List Token)}
    (hWhole : ∀ piece ∈ part :: rest, Whole Place.separates {} {} piece)
    (hSolid : ∀ piece ∈ rest, Solid piece) :
    ∃ back, (∀ t ∈ back, t.isWhite) ∧
      (cutFrom Place.separates {} (conjoined (part :: rest))).1 = part ++ back ∧
      (cutFrom Place.separates {} (conjoined (part :: rest))).2.map (fun found => trimmed found.2) =
        rest := by
  obtain ⟨hPart, hRest⟩ := List.forall_mem_cons.mp hWhole
  induction rest generalizing part with
  | nil =>
      have hAlone : conjoined [part] = part := by simp [conjoined, List.intercalate]
      rw [hAlone, hPart.cutFrom_eq]
      exact ⟨[], by simp, by simp, rfl⟩
  | cons next rest ih =>
      obtain ⟨hNext, hOthers⟩ := List.forall_mem_cons.mp hRest
      obtain ⟨hNextSolid, hOthersSolid⟩ := List.forall_mem_cons.mp hSolid
      obtain ⟨back, hWhite, hFirst, hFound⟩ := ih hRest hOthersSolid hNext hOthers
      have hSpace : Whole Place.separates {} {} [.space] := .token rfl
      have hCut : Place.separates {} (.keyword .and) := rfl
      have hStep : ({} : Place).step (.keyword .and) = {} := rfl
      have hTokens : conjoined (part :: next :: rest) =
          part ++ [.space] ++ (.keyword .and :: ([.space] ++ conjoined (next :: rest))) := by
        simp [conjoined]
      refine ⟨[.space], isWhite_of_space, ?_⟩
      rw [hTokens, hPart.append hSpace, cutFrom_of_cut hCut, hStep, hSpace, hFirst, List.map_cons,
        hFound, trimmed_eq isWhite_of_space hNextSolid hWhite]
      exact ⟨List.append_nil _, rfl⟩

/-- Conditions that are joined are told apart again. -/
theorem conjuncts_conjoined {parts : List (List Token)} (hSome : parts ≠ [])
    (hWhole : ∀ part ∈ parts, Whole Place.separates {} {} part)
    (hSolid : ∀ part ∈ parts, Solid part) : conjuncts (conjoined parts) = parts := by
  cases parts with
  | nil => exact absurd rfl hSome
  | cons part rest =>
      obtain ⟨hPart, hRest⟩ := List.forall_mem_cons.mp hSolid
      obtain ⟨back, hWhite, hFirst, hFound⟩ := cutFrom_conjoined hWhole hRest
      have hTrimmed : trimmed (part ++ back) = part := by
        simpa using @trimmed_eq [] part back (by simp) hPart hWhite
      rw [conjuncts]
      simp only [List.map_cons, List.map_map, Function.comp_def, hFirst, hFound, hTrimmed]

end Crosstab.Sql
