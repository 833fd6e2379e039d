import Crosstab.Proofs.Except
import Crosstab.Proofs.Text.Run
import Crosstab.Settings.Resolve
import Mathlib.Data.List.Infix

/-!
References in settings. A text without an open brace that is never closed can be cut into plain
runs, references and single dollar signs in one way only, and it is expanded piece by piece: what a
variable stands for is put in its place as it is, and the first variable that is not set is the one
reported.
-/

namespace Crosstab

open Crosstab.Text

inductive Piece where
  /-- Text without a dollar sign. -/
  | run (text : List Char)
  /-- A reference written `${NAME}`. -/
  | braced (name : List Char)
  /-- A reference written `$NAME`. -/
  | bare (name : List Char)
  /-- A dollar sign that stands for itself. -/
  | dollar

namespace Piece

def written : Piece → List Char
  | .run text => text
  | .braced name => '$' :: '{' :: (name ++ ['}'])
  | .bare name => '$' :: name
  | .dollar => ['$']

/-- The variable that a piece refers to. -/
def reference? : Piece → Option String
  | .braced name | .bare name => some (String.ofList name)
  | .run _ | .dollar => none

/-- What a piece is replaced by. -/
def shown (env : Environment) : Piece → String
  | .run text => String.ofList text
  | .braced name | .bare name => (env (String.ofList name)).getD ""
  | .dollar => "$"

def segments : Piece → List Segment
  | .run text => text.map .char
  | .braced name | .bare name => [.variable name]
  | .dollar => [.char '$']

/-- A text begins with a piece, behind which it goes on. Runs and names without braces are as long
as they can be, names in braces end at the first closing brace, and a dollar sign stands for itself
only where no reference can begin. -/
inductive Begins : List Char → Piece → List Char → Prop
  | run {text rest : List Char} (hGiven : text ≠ []) (hPlain : ∀ c ∈ text, c ≠ '$')
      (hStop : Stops (· != '$') rest) : Begins (text ++ rest) (.run text) rest
  | braced {name rest : List Char} (hName : ∀ c ∈ name, c ≠ '}') :
      Begins ('$' :: '{' :: (name ++ '}' :: rest)) (.braced name) rest
  | bare {name rest : List Char} (hGiven : name ≠ []) (hName : ∀ c ∈ name, Segment.isNameChar c)
      (hStop : Stops Segment.isNameChar rest) : Begins ('$' :: (name ++ rest)) (.bare name) rest
  | dollar {rest : List Char} (hStop : Stops (fun c => c == '{' || Segment.isNameChar c) rest) :
      Begins ('$' :: rest) .dollar rest

/-- A text cut into pieces. -/
inductive IsCut : List Char → List Piece → Prop
  | nil : IsCut [] []
  | cons {cs rest : List Char} {piece : Piece} {pieces : List Piece} (hFirst : Begins cs piece rest)
      (hRest : IsCut rest pieces) : IsCut cs (piece :: pieces)

/-- A text that begins with a piece is the piece and the rest. -/
theorem Begins.eq_append {cs rest : List Char} {piece : Piece} (h : Begins cs piece rest) :
    cs = piece.written ++ rest := by
  cases h <;> simp [written]

/-- The pieces of a text, one behind the other, are the text. -/
theorem IsCut.eq_flatMap {cs : List Char} {pieces : List Piece} (h : IsCut cs pieces) :
    cs = pieces.flatMap written := by
  induction h with
  | nil => rfl
  | cons hFirst _ ih => rw [hFirst.eq_append, List.flatMap_cons, ← ih]

theorem not_isNameChar_brace : ¬Segment.isNameChar '{' := by decide +kernel

/-- The piece that a text begins with, told from its first characters, and what follows it. -/
def leading? : List Char → Option (Piece × List Char)
  | [] => none
  | '$' :: '{' :: rest =>
    some (.braced (rest.takeWhile (· != '}')), (rest.dropWhile (· != '}')).drop 1)
  | '$' :: rest =>
    if rest.takeWhile Segment.isNameChar = [] then some (.dollar, rest)
    else some (.bare (rest.takeWhile Segment.isNameChar), rest.dropWhile Segment.isNameChar)
  | c :: rest => some (.run ((c :: rest).takeWhile (· != '$')), (c :: rest).dropWhile (· != '$'))

/-- Behind a dollar sign without a brace stands the longest name, if there is any. -/
theorem leading?_dollar {rest : List Char} (h : rest.head? ≠ some '{') : leading? ('$' :: rest) =
    if rest.takeWhile Segment.isNameChar = [] then some (.dollar, rest)
    else some (.bare (rest.takeWhile Segment.isNameChar), rest.dropWhile Segment.isNameChar) := by
  rw [leading?]
  rintro tail rfl
  exact h rfl

/-- Other characters run on to the next dollar sign. -/
theorem leading?_plain {c : Char} (h : c ≠ '$') (rest : List Char) : leading? (c :: rest) =
    some (.run ((c :: rest).takeWhile (· != '$')), (c :: rest).dropWhile (· != '$')) := by
  simp [leading?, h]

variable {cs rest : List Char} {piece : Piece}

/-- The piece that a text begins with is told from its first characters. -/
theorem Begins.leading?_eq (h : Begins cs piece rest) : leading? cs = some (piece, rest) := by
  cases h with
  | @run text rest hGiven hPlain hStop =>
      have hRun : ∀ c ∈ text, c != '$' := by simpa using hPlain
      obtain ⟨c, text, rfl⟩ := List.exists_cons_of_ne_nil hGiven
      rw [List.cons_append, leading?_plain (hPlain c List.mem_cons_self), ← List.cons_append,
        takeWhile_run hRun hStop, dropWhile_run hRun hStop]
  | @braced name rest hName =>
      have hRun : ∀ c ∈ name, c != '}' := by simpa using hName
      have hStop : Stops (· != '}') ('}' :: rest) := by simp [Stops]
      rw [leading?, takeWhile_run hRun hStop, dropWhile_run hRun hStop]
      rfl
  | @bare name rest hGiven hName hStop =>
      have hHead : (name ++ rest).head? ≠ some '{' := by
        obtain ⟨c, name, rfl⟩ := List.exists_cons_of_ne_nil hGiven
        rintro hBrace
        obtain rfl : c = '{' := by simpa using hBrace
        exact not_isNameChar_brace (hName _ List.mem_cons_self)
      rw [leading?_dollar hHead, takeWhile_run hName hStop,
        dropWhile_run hName hStop, if_neg hGiven]
  | dollar hStop =>
      have hHead : rest.head? ≠ some '{' := fun hBrace => hStop '{' hBrace rfl
      have hNone : Stops Segment.isNameChar rest :=
        fun c hFirst hName => hStop c hFirst (Bool.or_eq_true_iff.mpr (.inr hName))
      rw [leading?_dollar hHead, if_pos (takeWhile_of_stops hNone)]

/-- A text is cut in one way only. -/
theorem IsCut.unique {pieces others : List Piece} (h : IsCut cs pieces) (hOther : IsCut cs others) :
    others = pieces := by
  induction h generalizing others with
  | nil =>
      cases hOther with
      | nil => rfl
      | cons hFirst => cases hFirst.leading?_eq
  | cons hFirst _ ih =>
      cases hOther with
      | nil => cases hFirst.leading?_eq
      | cons hFirst' hRest' =>
          cases hFirst.leading?_eq.symm.trans hFirst'.leading?_eq
          rw [ih hRest']

end Piece

/-- Every brace that is opened behind a dollar sign is closed again. -/
def Terminated (cs : List Char) : Prop := ∀ rest, '$' :: '{' :: rest <:+ cs → '}' ∈ rest

/-- Cutting off the front leaves all braces closed. -/
theorem Terminated.of_suffix {cs tail : List Char} (h : Terminated cs) (hSuffix : tail <:+ cs) :
    Terminated tail :=
  fun rest hOpen => h rest (hOpen.trans hSuffix)

instance (cs : List Char) : Decidable (Terminated cs) :=
  decidable_of_iff (∀ tail ∈ cs.tails, tail.take 2 = ['$', '{'] → '}' ∈ tail.drop 2) <| by
    constructor
    · intro h rest hSuffix
      exact h _ ((List.mem_tails _ _).mpr hSuffix) rfl
    · intro h tail hTail hOpen
      have hSplit : '$' :: '{' :: tail.drop 2 = tail := by
        simpa [hOpen] using List.take_append_drop 2 tail
      exact h _ (hSplit.symm ▸ (List.mem_tails _ _).mp hTail)

namespace Piece

variable {cs rest : List Char} {piece : Piece}

/-- Something can always be cut off, unless a brace is open. -/
theorem exists_begins (h : Terminated cs) (hGiven : cs ≠ []) :
    ∃ piece rest, Begins cs piece rest := by
  obtain ⟨c, tail, rfl⟩ := List.exists_cons_of_ne_nil hGiven
  by_cases hDollar : c = '$'
  · subst hDollar
    by_cases hBrace : tail.head? = some '{'
    · obtain ⟨rest, rfl⟩ := List.head?_eq_some_iff.mp hBrace
      obtain ⟨name, rest, rfl, hName⟩ := List.eq_append_cons_of_mem (h rest (List.suffix_refl _))
      exact ⟨_, _, .braced fun c hMem hClose => hName (hClose ▸ hMem)⟩
    · by_cases hName : tail.takeWhile Segment.isNameChar = []
      · refine ⟨_, _, .dollar fun c hFirst hStarts => ?_⟩
        obtain ⟨rest, rfl⟩ := List.head?_eq_some_iff.mp hFirst
        rcases Bool.or_eq_true_iff.mp hStarts with hOpen | hNamed
        · exact hBrace (by simpa using hOpen)
        · rw [List.takeWhile_cons_of_pos hNamed] at hName
          cases hName
      · have hBegins := Begins.bare hName (fun c hMem => List.mem_takeWhile_imp hMem)
          (stops_dropWhile Segment.isNameChar tail)
        rw [List.takeWhile_append_dropWhile] at hBegins
        exact ⟨_, _, hBegins⟩
  · have hRun : (c :: tail).takeWhile (· != '$') ≠ [] := by simp [hDollar]
    have hBegins := Begins.run hRun (fun d hMem => by simpa using List.mem_takeWhile_imp hMem)
      (stops_dropWhile (· != '$') (c :: tail))
    rw [List.takeWhile_append_dropWhile] at hBegins
    exact ⟨_, _, hBegins⟩

/-- Every piece takes something away. -/
theorem Begins.length_lt (h : Begins cs piece rest) : rest.length < cs.length := by
  cases h with
  | run hGiven => simpa using List.length_pos_iff.mpr hGiven
  | braced =>
      simp only [List.length_cons, List.length_append]
      omega
  | bare =>
      simp only [List.length_cons, List.length_append]
      omega
  | dollar => exact Nat.lt_succ_self _

/-- A text in which every brace is closed can be cut into pieces. -/
theorem exists_isCut (h : Terminated cs) : ∃ pieces, IsCut cs pieces := by
  induction hLength : cs.length using Nat.strong_induction_on generalizing cs with
  | _ n ih =>
      by_cases hGiven : cs = []
      · exact ⟨[], hGiven ▸ .nil⟩
      · obtain ⟨piece, rest, hFirst⟩ := exists_begins h hGiven
        have hRest : Terminated rest := h.of_suffix (hFirst.eq_append ▸ List.suffix_append _ _)
        obtain ⟨pieces, hCut⟩ := ih rest.length (hLength ▸ hFirst.length_lt) hRest rfl
        exact ⟨piece :: pieces, .cons hFirst hCut⟩

end Piece

namespace Segment

variable {cs rest : List Char} {piece : Piece} {env : Environment}

theorem ofChars_plain {c : Char} (h : c ≠ '$') (rest : List Char) :
    ofChars (c :: rest) = .char c :: ofChars rest := by
  rw [ofChars] <;> simp [h]

/-- A run without dollar signs stands for itself. -/
theorem ofChars_run {text : List Char} (h : ∀ c ∈ text, c ≠ '$') (rest : List Char) :
    ofChars (text ++ rest) = text.map .char ++ ofChars rest := by
  induction text with
  | nil => rfl
  | cons c text ih =>
      obtain ⟨hFirst, hText⟩ := List.forall_mem_cons.mp h
      rw [List.cons_append, ofChars_plain hFirst, ih hText, List.map_cons, List.cons_append]

/-- The segments of a text are those of the piece that it begins with, and those of the rest. -/
theorem ofChars_of_begins (h : Piece.Begins cs piece rest) :
    ofChars cs = piece.segments ++ ofChars rest := by
  have hLeading := h.leading?_eq
  unfold Piece.leading? at hLeading
  split at hLeading
  next => cases hLeading
  next tail =>
      cases hLeading
      rw [ofChars]
      rfl
  next tail hBrace =>
      rw [ofChars]
      · split at hLeading
        next hNone =>
          cases hLeading
          rw [if_pos (by simpa using hNone)]
          rfl
        next hName =>
          cases hLeading
          rw [if_neg (by simpa using hName)]
          rfl
      · exact hBrace
  next c tail _ hPlain =>
      cases hLeading
      have hRun : ∀ d ∈ (c :: tail).takeWhile (· != '$'), d ≠ '$' :=
        fun d hMem => by simpa using List.mem_takeWhile_imp hMem
      have hSegments := ofChars_run hRun ((c :: tail).dropWhile (· != '$'))
      rwa [List.takeWhile_append_dropWhile] at hSegments

/-- The expander finds the segments of the pieces. -/
theorem ofChars_of_isCut {pieces : List Piece} (h : Piece.IsCut cs pieces) :
    ofChars cs = pieces.flatMap Piece.segments := by
  induction h with
  | nil => rw [ofChars, List.flatMap_nil]
  | cons hFirst _ ih => rw [ofChars_of_begins hFirst, ih, List.flatMap_cons]

/-- What a segment is replaced by. -/
def shown (env : Environment) : Segment → List Char
  | .char c => [c]
  | .variable name => ((env (String.ofList name)).getD "").toList

/-- If all variables are set, every segment has a value. -/
theorem mapM_value_of_set {segments : List Segment}
    (h : ∀ name ∈ segments.filterMap name?, (env name).isSome) :
    segments.mapM (value env) = .ok (segments.map (shown env)) := by
  rw [mapM_eq_ok, List.forall₂_map_right_iff, List.forall₂_same]
  rintro (c | name) hMem
  · rfl
  · have hSet := h _ (List.mem_filterMap.mpr ⟨_, hMem, rfl⟩)
    obtain ⟨text, hText⟩ := Option.isSome_iff_exists.mp hSet
    simp [value, shown, hText]

/-- The variables in front of the first one that is not set do not matter. -/
theorem mapM_value_of_unset {segments : List Segment} {before after : List String} {name : String}
    (h : segments.filterMap name? = before ++ name :: after)
    (hSet : ∀ earlier ∈ before, (env earlier).isSome) (hUnset : env name = none) :
    segments.mapM (value env) = .error name := by
  induction segments generalizing before with
  | nil => simp at h
  | cons segment segments ih =>
      rw [List.mapM_cons, bind_eq_error]
      rcases segment with c | first
      · exact .inr ⟨[c], rfl, bind_eq_error.mpr (.inl (ih h hSet))⟩
      · cases before with
        | nil =>
            obtain ⟨rfl, -⟩ := List.cons.inj h
            simp [value, hUnset]
        | cons earlier before =>
            obtain ⟨rfl, hRest⟩ := List.cons.inj h
            obtain ⟨hFirst, hSet⟩ := List.forall_mem_cons.mp hSet
            obtain ⟨text, hText⟩ := Option.isSome_iff_exists.mp hFirst
            refine .inr ⟨text.toList, ?_, bind_eq_error.mpr (.inl (ih hRest hSet))⟩
            simp [value, hText]

end Segment

namespace Piece

/-- The variables that pieces refer to, from left to right. -/
def references (pieces : List Piece) : List String := pieces.filterMap reference?

/-- Segments refer to the variables that their pieces refer to. -/
theorem filterMap_name?_segments (pieces : List Piece) :
    (pieces.flatMap segments).filterMap Segment.name? = references pieces := by
  have hPiece (piece : Piece) : piece.segments.filterMap Segment.name? =
      piece.reference?.toList := by
    cases piece with
    | run text => simp [segments, reference?, Segment.name?, Function.comp_def]
    | _ => rfl
  rw [references, List.filterMap_flatMap, List.filterMap_eq_flatMap_toList]
  simp only [hPiece]

/-- Segment by segment, a text becomes what its pieces are replaced by. -/
theorem map_shown_segments (env : Environment) (pieces : List Piece) :
    String.ofList ((pieces.flatMap segments).map (Segment.shown env)).flatten =
      String.join (pieces.map (shown env)) := by
  have hPiece (piece : Piece) :
      String.ofList (piece.segments.map (Segment.shown env)).flatten = piece.shown env := by
    cases piece with
    | run text =>
        rw [segments, shown, List.map_map, ← List.flatMap_def]
        exact congrArg String.ofList (List.flatMap_singleton' text)
    | _ => simp [segments, shown, Segment.shown]
  induction pieces with
  | nil => rfl
  | cons piece pieces ih =>
      calc String.ofList (((piece :: pieces).flatMap segments).map (Segment.shown env)).flatten
        _ = String.ofList (piece.segments.map (Segment.shown env)).flatten ++
              String.ofList ((pieces.flatMap segments).map (Segment.shown env)).flatten := by
            rw [List.flatMap_cons, List.map_append, List.flatten_append, String.ofList_append]
        _ = piece.shown env ++ String.join (pieces.map (shown env)) := by rw [hPiece, ih]
        _ = String.join ((piece :: pieces).map (shown env)) := by
            rw [List.map_cons, String.join_cons]

end Piece

namespace Environment

open Piece

variable {env : Environment} {s : String} {pieces : List Piece}

/-- If all variables are set, each reference is replaced. -/
theorem resolve_of_set (hCut : IsCut s.toList pieces)
    (hSet : ∀ name ∈ references pieces, (env name).isSome) :
    env.resolve s = .ok (String.join (pieces.map (shown env))) := by
  rw [← filterMap_name?_segments] at hSet
  rw [resolve, expand, Segment.ofChars_of_isCut hCut, Segment.mapM_value_of_set hSet,
    ← map_shown_segments]
  rfl

/-- The first variable that is not set is named. -/
theorem resolve_of_unset {before after : List String} {name : String} (hCut : IsCut s.toList pieces)
    (hFirst : references pieces = before ++ name :: after)
    (hSet : ∀ earlier ∈ before, (env earlier).isSome) (hUnset : env name = none) :
    env.resolve s = .error (.missingVariable name) := by
  rw [← filterMap_name?_segments] at hFirst
  rw [resolve, expand, Segment.ofChars_of_isCut hCut,
    Segment.mapM_value_of_unset hFirst hSet hUnset]
  rfl

/-- Pieces put together with their references replaced: each by the value of its variable as it is,
or there is no outcome but the first variable from the left that is not set. -/
structure Replaces (env : Environment) (pieces : List Piece)
    (outcome : Except SettingsFault String) : Prop where
  text : ∀ s, outcome = .ok s ↔
    (∀ name ∈ references pieces, (env name).isSome) ∧ s = String.join (pieces.map (shown env))
  fault : ∀ fault, outcome = .error fault ↔ ∃ before name after,
    references pieces = before ++ name :: after ∧ (∀ earlier ∈ before, (env earlier).isSome) ∧
      env name = none ∧ fault = .missingVariable name

/-- Either all variables are set, or one of them is the first that is not. -/
theorem set_or_unset (env : Environment) (names : List String) :
    (∀ name ∈ names, (env name).isSome) ∨ ∃ before name after, names = before ++ name :: after ∧
      (∀ earlier ∈ before, (env earlier).isSome) ∧ env name = none := by
  cases hFind : names.find? fun name => (env name).isNone with
  | none => exact .inl (by simpa [Option.isSome_iff_ne_none] using hFind)
  | some name =>
      obtain ⟨hUnset, before, after, hNames, hSet⟩ := List.find?_eq_some_iff_append.mp hFind
      exact .inr ⟨before, name, after, hNames, by simpa using hSet, by simpa using hUnset⟩

theorem replaces_of_isCut (env : Environment) (hCut : IsCut s.toList pieces) :
    env.Replaces pieces (env.resolve s) := by
  have hEither := env.set_or_unset (references pieces)
  constructor
  case text =>
    intro text
    constructor
    · intro h
      rcases hEither with hSet | ⟨before, name, after, hFirst, hSet, hUnset⟩
      · rw [resolve_of_set hCut hSet] at h
        exact ⟨hSet, (Except.ok.inj h).symm⟩
      · rw [resolve_of_unset hCut hFirst hSet hUnset] at h
        cases h
    · rintro ⟨hSet, rfl⟩
      exact resolve_of_set hCut hSet
  case fault =>
    intro fault
    constructor
    · intro h
      rcases hEither with hSet | ⟨before, name, after, hFirst, hSet, hUnset⟩
      · rw [resolve_of_set hCut hSet] at h
        cases h
      · rw [resolve_of_unset hCut hFirst hSet hUnset] at h
        exact ⟨before, name, after, hFirst, hSet, hUnset, (Except.error.inj h).symm⟩
    · rintro ⟨before, name, after, hFirst, hSet, hUnset, rfl⟩
      exact resolve_of_unset hCut hFirst hSet hUnset

/-- A text in which every brace is closed can be cut into pieces in one way, and whatever the
variables stand for, it is expanded piece by piece. -/
theorem replaces_resolve (env : Environment) {s : String} (h : Terminated s.toList) :
    (∃! pieces, IsCut s.toList pieces) ∧
      ∀ pieces, IsCut s.toList pieces →
        s.toList = pieces.flatMap written ∧ env.Replaces pieces (env.resolve s) := by
  obtain ⟨pieces, hCut⟩ := exists_isCut h
  exact ⟨⟨pieces, hCut, fun _ hOther => hCut.unique hOther⟩,
    fun _ hAny => ⟨hAny.eq_flatMap, env.replaces_of_isCut hAny⟩⟩

/-- Variables whose values look like references. -/
def nested : Environment where
  state
    | "USER" => .text "${HOST}"
    | "PASSWORD" => .text "$USER"
    | "HOST" => .text "db"
    | _ => .unset

/-- What variables stand for is not expanded again, and lone dollar signs stay. -/
theorem replaces_connection : Terminated "$USER:$$PASSWORD@${HOST}/$".toList ∧
    (∃! pieces, IsCut "$USER:$$PASSWORD@${HOST}/$".toList pieces) ∧
    (∀ pieces, IsCut "$USER:$$PASSWORD@${HOST}/$".toList pieces →
      "$USER:$$PASSWORD@${HOST}/$".toList = pieces.flatMap written ∧
        nested.Replaces pieces (nested.resolve "$USER:$$PASSWORD@${HOST}/$")) ∧
    nested.resolve "$USER:$$PASSWORD@${HOST}/$" = .ok "${HOST}:$$USER@db/$" := by
  have hTerminated : Terminated "$USER:$$PASSWORD@${HOST}/$".toList := by decide +kernel
  obtain ⟨hCut, hReplaces⟩ := nested.replaces_resolve hTerminated
  exact ⟨hTerminated, hCut, hReplaces, by decide +kernel⟩

end Environment

end Crosstab
