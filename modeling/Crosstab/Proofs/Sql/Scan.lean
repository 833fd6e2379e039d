import Crosstab.Sql.Scan
import Crosstab.Sql.Token
import Mathlib.Data.List.Chain

/-!
Statements read back. A quote inside a name or a text is written twice, so that a scan by the rules
for quotes finds the name or text again, provided that the next character is not one more of the
same quotes. No two quoted tokens of a statement are neighbours, which makes that so throughout.
-/

namespace Crosstab.Sql

/-- The two characters that open quotes. -/
abbrev IsQuote (c : Char) : Prop := c = '"' ∨ c = '\x27'

/-- A text that says something and has no quotes in it. -/
structure IsPlainText (s : String) : Prop where
  nonempty : s ≠ ""
  unquoted : ∀ c ∈ s.toList, ¬IsQuote c

instance (s : String) : Decidable (IsPlainText s) :=
  decidable_of_iff (s ≠ "" ∧ s.toList.all fun c => !decide (IsQuote c))
    ⟨fun h => ⟨h.1, by simpa using h.2⟩, fun h => ⟨h.nonempty, by simpa using h.unquoted⟩⟩

/-- A scan goes on from the state behind its first character. -/
theorem scanFrom_cons (state : ScanState) (c : Char) (rest : List Char) :
    scanFrom state (c :: rest) = (scanFrom (state.step c).1 rest).map ((state.step c).2 ++ ·) := by
  cases state <;> rfl

/-- Characters that are no quotes are read as they are. -/
theorem scanFrom_plain {cs : List Char} (h : ∀ c ∈ cs, ¬IsQuote c) (rest : List Char) :
    scanFrom .outside (cs ++ rest) = (scanFrom .outside rest).map (cs.map .plain ++ ·) := by
  induction cs with
  | nil => simp
  | cons c cs ih =>
      have hStep : ScanState.outside.step c = (.outside, [.plain c]) :=
        if_neg (h c List.mem_cons_self)
      rw [List.cons_append, scanFrom_cons, hStep,
        ih fun c hMem => h c (List.mem_cons_of_mem _ hMem)]
      simp [Option.map_map, Function.comp_def]

/-- Between quotes, what was doubled becomes single again. -/
theorem scanFrom_inside (quote : Char) (seen cs rest : List Char) :
    scanFrom (.inside quote seen)
      (cs.flatMap (fun c => if c = quote then [quote, quote] else [c]) ++ quote :: rest) =
      scanFrom (.closing quote (seen ++ cs)) rest := by
  induction cs generalizing seen with
  | nil => simp [scanFrom_cons, ScanState.step]
  | cons c cs ih =>
      rw [List.flatMap_cons]
      by_cases hQuote : c = quote
      · subst hQuote
        simp [scanFrom_cons, ScanState.step, ih]
      · simp [scanFrom_cons, ScanState.step, ih, hQuote]

/-- Characters between quotes are found with their quotes undone. -/
theorem scanFrom_quotedChars {quote : Char} (hQuote : IsQuote quote) (cs rest : List Char) :
    scanFrom .outside (quotedChars quote cs ++ rest) = scanFrom (.closing quote cs) rest := by
  have hStep : ScanState.outside.step quote = (.inside quote [], []) := if_pos hQuote
  calc scanFrom .outside (quotedChars quote cs ++ rest)
    _ = (scanFrom (.inside quote [])
          ((cs.flatMap fun c => if c = quote then [quote, quote] else [c]) ++
          quote :: rest)).map ([] ++ ·) := by
        rw [quotedChars, List.cons_append, List.cons_append, scanFrom_cons, hStep,
          List.append_assoc, List.singleton_append]
    _ = scanFrom (.closing quote cs) rest := by
        rw [scanFrom_inside]
        simp

/-- A quoted name or text is over unless one more quote follows. -/
theorem scanFrom_closing {quote : Char} (seen : List Char) {rest : List Char}
    (h : ∀ c ∈ rest.head?, c ≠ quote) :
    scanFrom (.closing quote seen) rest =
      (scanFrom .outside rest).map (.ofQuoted quote seen :: ·) := by
  cases rest with
  | nil => rfl
  | cons c rest =>
      have hStep : (ScanState.closing quote seen).step c =
          ((scanOutside c).1, .ofQuoted quote seen :: (scanOutside c).2) :=
        if_neg (h c rfl)
      rw [scanFrom_cons, scanFrom_cons, hStep, Option.map_map]
      rfl

/-- A quoted name is found as the name. -/
theorem scanFrom_quotedName (s : String) {rest : List Char} (h : ∀ c ∈ rest.head?, ¬IsQuote c) :
    scanFrom .outside ((quotedName s).toList ++ rest) =
      (scanFrom .outside rest).map (.name s.toList :: ·) := by
  have hName : Lexeme.ofQuoted '"' s.toList = .name s.toList := if_pos rfl
  rw [quotedName, String.toList_ofList, scanFrom_quotedChars (.inl rfl), scanFrom_closing, hName]
  exact fun c hMem hEq => h c hMem (.inl hEq)

/-- A quoted text is found as the text. -/
theorem scanFrom_quotedText (s : String) {rest : List Char} (h : ∀ c ∈ rest.head?, ¬IsQuote c) :
    scanFrom .outside ((quotedText s).toList ++ rest) =
      (scanFrom .outside rest).map (.text s.toList :: ·) := by
  have hText : Lexeme.ofQuoted '\x27' s.toList = .text s.toList := if_neg (by decide)
  rw [quotedText, String.toList_ofList, scanFrom_quotedChars (.inr rfl), scanFrom_closing, hText]
  exact fun c hMem hEq => h c hMem (.inr hEq)

def Token.isQuoted : Token → Bool
  | .name _ | .qualifiedName _ _ | .text _ => true
  | _ => false

/-- A token that is written without quotes, in at least one character. -/
def Token.IsPlain (d : Dialect) (t : Token) : Prop :=
  t.isQuoted = false ∧ IsPlainText (t.written d)

/-- The tokens that a token is written as: a schema and a table are two names with a dot between
them. -/
def Token.parts : Token → List Token
  | .qualifiedName (some schema) s => [.name schema, .dot, .name s]
  | .qualifiedName none s => [.name s]
  | t => [t]

/-- What a scan finds in a token. -/
def Token.lexemes (d : Dialect) : Token → List Lexeme
  | .name s => [.name s.toList]
  | .text s => [.text s.toList]
  | t => (t.written d).toList.map .plain

/-- A token that is plain or quoted, where texts are quoted only if they are allowed. -/
def Token.IsLegible (d : Dialect) (allowed : String → Prop) (t : Token) : Prop :=
  (t.isQuoted ∧ ∀ s, t = .text s → allowed s) ∨ t.IsPlain d

/-- Tokens that can be told apart again: no two quoted ones are neighbours, and all are legible. -/
def Readable (d : Dialect) (allowed : String → Prop) (tokens : List Token) : Prop :=
  tokens.IsChain (fun a b => ¬(a.isQuoted ∧ b.isQuoted)) ∧ ∀ t ∈ tokens, t.IsLegible d allowed

theorem toList_written_cons (d : Dialect) (t : Token) (tokens : List Token) :
    (written d (t :: tokens)).toList = (t.written d).toList ++ (written d tokens).toList := by
  simp [written]

/-- Only qualified names fall into parts. -/
theorem Token.parts_of_unquoted {t : Token} (h : t.isQuoted = false) : t.parts = [t] := by
  cases t with
  | name | qualifiedName | text => simp [Token.isQuoted] at h
  | _ => rfl

/-- Without quotes, every character is found as itself. -/
theorem Token.lexemes_of_unquoted {t : Token} (d : Dialect) (h : t.isQuoted = false) :
    t.lexemes d = (t.written d).toList.map .plain := by
  cases t with
  | name | qualifiedName | text => simp [Token.isQuoted] at h
  | _ => rfl

section Readable

variable {d : Dialect} {allowed : String → Prop} {t : Token} {tokens : List Token}

theorem Token.IsLegible.isPlain (h : t.IsLegible d allowed) (hUnquoted : ¬t.isQuoted) :
    t.IsPlain d :=
  h.resolve_left fun hQuoted => hUnquoted hQuoted.1

theorem Readable.tail (h : Readable d allowed (t :: tokens)) : Readable d allowed tokens :=
  ⟨h.1.tail, fun t hMem => h.2 t (List.mem_cons_of_mem _ hMem)⟩

/-- Behind a quoted token comes the end or a character that is no quote. -/
theorem Readable.not_isQuote_head (h : Readable d allowed (t :: tokens)) (hQuoted : t.isQuoted) :
    ∀ c ∈ (written d tokens).toList.head?, ¬IsQuote c := by
  cases tokens with
  | nil => simp [written]
  | cons next rest =>
      have hNext : ¬next.isQuoted := fun hNext => (List.isChain_cons_cons.mp h.1).1 ⟨hQuoted, hNext⟩
      obtain ⟨-, hNonempty, hChars⟩ := (h.2 next (by simp)).isPlain hNext
      cases hWritten : (next.written d).toList with
      | nil => exact absurd (String.toList_eq_nil_iff.mp hWritten) hNonempty
      | cons first others =>
          rw [toList_written_cons, hWritten]
          intro c hMem
          obtain rfl : first = c := by simpa using hMem
          exact hChars first (by simp [hWritten])

/-- What is written is what is read. -/
theorem scanFrom_written (h : Readable d allowed tokens) :
    scanFrom .outside (written d tokens).toList =
      some ((tokens.flatMap Token.parts).flatMap (Token.lexemes d)) := by
  induction tokens with
  | nil => simp [written, scanFrom]
  | cons t rest ih =>
      have hRest := ih h.tail
      rw [toList_written_cons, List.flatMap_cons, List.flatMap_append]
      by_cases hQuoted : t.isQuoted
      · have hHead := h.not_isQuote_head hQuoted
        cases t with
        | name s =>
            rw [Token.written, scanFrom_quotedName s hHead, hRest]
            simp [Token.parts, Token.lexemes]
        | text s =>
            rw [Token.written, scanFrom_quotedText s hHead, hRest]
            simp [Token.parts, Token.lexemes]
        | qualifiedName schema s =>
            cases schema with
            | none =>
                rw [Token.written, scanFrom_quotedName s hHead, hRest]
                simp [Token.parts, Token.lexemes]
            | some schema =>
                have hDot : ∀ c ∈ ['.'], ¬IsQuote c := by simp [IsQuote]
                have hWritten : ((Token.qualifiedName (some schema) s).written d).toList =
                    (quotedName schema).toList ++ (['.'] ++ (quotedName s).toList) := by
                  simp [Token.written]
                rw [hWritten, List.append_assoc, List.append_assoc,
                  scanFrom_quotedName schema (by simp [IsQuote]), scanFrom_plain hDot,
                  scanFrom_quotedName s hHead, hRest]
                simp [Token.parts, Token.lexemes, Token.written]
        | _ => simp [Token.isQuoted] at hQuoted
      · have hPlain := (h.2 t List.mem_cons_self).isPlain hQuoted
        rw [scanFrom_plain hPlain.2.unquoted, hRest, Token.parts_of_unquoted hPlain.1,
          List.flatMap_singleton, Token.lexemes_of_unquoted d hPlain.1, Option.map_some]

end Readable

end Crosstab.Sql
