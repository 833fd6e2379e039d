import Crosstab.Json.Literal

/-!
Reading JSON text. The text is first cut into lexemes, then the lexemes are assembled with a stack
of open containers, so that the depth of a text costs no depth of recursion. Nothing beyond the
grammar is accepted: no comments, no trailing commas, no second value.
-/

namespace Crosstab.Json

open Crosstab.Text

/-- The lexical parts of a text. A quoted text that holds half a surrogate pair denotes nothing. -/
inductive Lexeme where
  | openList
  | closeList
  | openRecord
  | closeRecord
  | colon
  | comma
  | quoted (s : Option String)
  | scalar (d : Document)

def hexValue? (c : Char) : Option Nat :=
  if isAsciiDigit c then some (digitValue c)
  else if 'a' ≤ c && c ≤ 'f' then some (c.toNat - 87)
  else if 'A' ≤ c && c ≤ 'F' then some (c.toNat - 55)
  else none

def hex4? (a b c d : Char) : Option Nat :=
  match hexValue? a, hexValue? b, hexValue? c, hexValue? d with
  | some i, some j, some k, some l => some (((i * 16 + j) * 16 + k) * 16 + l)
  | _, _, _, _ => none

/-- The character behind a backslash, the four-digit form apart. -/
def escaped? : Char → Option Char
  | '"' => some '"'
  | '\\' => some '\\'
  | '/' => some '/'
  | 'b' => some (Char.ofNat 8)
  | 'f' => some (Char.ofNat 12)
  | 'n' => some '\n'
  | 'r' => some '\r'
  | 't' => some '\t'
  | _ => none

def punctuation? : Char → Option Lexeme
  | '[' => some .openList
  | ']' => some .closeList
  | '\x7b' => some .openRecord
  | '\x7d' => some .closeRecord
  | ':' => some .colon
  | ',' => some .comma
  | _ => none

/-- The lexeme of a run of other characters: a name of a constant or a number. -/
def word? (cs : List Char) : Option Lexeme :=
  match String.ofList cs with
  | "null" => some (.scalar .null)
  | "true" => some (.scalar (.bool true))
  | "false" => some (.scalar (.bool false))
  | _ => (Literal.read? cs).map .scalar

/-- Where the lexer stands: between lexemes, in a run of other characters, inside quotes, or behind
a backslash inside quotes. What has been read of the present lexeme is kept in reverse, and `half`
is the first half of a surrogate pair if one has just been read. -/
inductive Position where
  | between
  | word (seen : List Char)
  | quotes (seen : List Char) (valid : Bool) (half : Option Nat)
  | escape (seen : List Char) (valid : Bool) (half : Option Nat) (digits : List Char)

def isSpace (c : Char) : Bool := c == ' ' || c == '\n' || c == '\t' || c == '\r'

/-- A character that stands inside quotes; a half pair before it stays a half. -/
def Position.plain (seen : List Char) (valid : Bool) (half : Option Nat) (c : Char) : Position :=
  .quotes (c :: seen) (valid && half.isNone) none

/-- A code unit that stands inside quotes: a character, the first half of a pair, or the second
half, which completes the pair only right after a first one. -/
def Position.unit (seen : List Char) (valid : Bool) (half : Option Nat) (n : Nat) : Position :=
  if n < 0xD800 || 0xDFFF < n then .plain seen valid half (Char.ofNat n)
  else if n < 0xDC00 then .quotes seen (valid && half.isNone) (some n)
  else
    match half with
    | some high =>
      .quotes (Char.ofNat (0x10000 + (high - 0xD800) * 0x400 + (n - 0xDC00)) :: seen) valid none
    | none => .quotes seen false none

structure Scan where
  position : Position := .between
  done : List Lexeme := []

/-- One character read between lexemes. -/
def Scan.start (done : List Lexeme) (c : Char) : Scan :=
  if isSpace c then ⟨.between, done⟩
  else if c == '"' then ⟨.quotes [] true none, done⟩
  else
    match punctuation? c with
    | some mark => ⟨.between, mark :: done⟩
    | none => ⟨.word [c], done⟩

def Scan.step (scan : Scan) (c : Char) : Option Scan :=
  match scan.position with
  | .between => some (.start scan.done c)
  | .word seen =>
    if isSpace c || c == '"' || (punctuation? c).isSome then
      (word? seen.reverse).map fun w => .start (w :: scan.done) c
    else some ⟨.word (c :: seen), scan.done⟩
  | .quotes seen valid half =>
    if c == '"' then
      let s := if valid && half.isNone then some (String.ofList seen.reverse) else none
      some ⟨.between, .quoted s :: scan.done⟩
    else if c == '\\' then some ⟨.escape seen valid half [], scan.done⟩
    else if c.toNat < 32 then none
    else some ⟨.plain seen valid half c, scan.done⟩
  | .escape seen valid half digits =>
    match digits with
    | [] =>
      if c == 'u' then some ⟨.escape seen valid half ['u'], scan.done⟩
      else (escaped? c).map fun x => ⟨.plain seen valid half x, scan.done⟩
    | [_, i, j, k] =>
      (hex4? i j k c).map fun n => ⟨.unit seen valid half n, scan.done⟩
    | _ => some ⟨.escape seen valid half (digits ++ [c]), scan.done⟩

/-- The lexemes of a text that has been read to its end. -/
def Scan.finish (scan : Scan) : Option (List Lexeme) :=
  match scan.position with
  | .between => some scan.done.reverse
  | .word seen => (word? seen.reverse).map fun w => (w :: scan.done).reverse
  | _ => none

def lex (cs : List Char) : Option (List Lexeme) :=
  (cs.foldlM Scan.step {}).bind Scan.finish

/-- A container that is still open, with its depth and what it holds so far, in reverse. A record
also knows the key whose value comes next. -/
inductive Frame where
  | list (depth : Nat) (done : List Document)
  | record (depth : Nat) (done : List (Option String × Document)) (key : Option String)

def Frame.depth : Frame → Nat
  | .list depth _ => depth
  | .record depth _ _ => depth

/-- The depth of a container opened inside these. -/
def innerDepth : List Frame → Nat
  | [] => 1
  | frame :: _ => frame.depth + 1

/-- A container is a value only if fewer than 127 others surround it. -/
def closed (depth : Nat) (d : Document) : Document :=
  if depth < 128 then d else .invalid

/-- A record of which every key denotes a text. -/
def recordOf (fields : List (Option String × Document)) : Document :=
  match fields.mapM fun field => field.1.map (·, field.2) with
  | some named => .record named
  | none => .invalid

/-- The document that lexemes describe. `ready` is the value that has just been completed, if
any. -/
def assemble : (ready : Option Document) → List Frame → List Lexeme → Option Document
  | none, frames, .openList :: .closeList :: rest =>
    assemble (some (closed (innerDepth frames) (.list []))) frames rest
  | none, frames, .openList :: rest => assemble none (.list (innerDepth frames) [] :: frames) rest
  | none, frames, .openRecord :: .closeRecord :: rest =>
    assemble (some (closed (innerDepth frames) (.record []))) frames rest
  | none, frames, .openRecord :: .quoted key :: .colon :: rest =>
    assemble none (.record (innerDepth frames) [] key :: frames) rest
  | none, frames, .scalar d :: rest => assemble (some d) frames rest
  | none, frames, .quoted (some s) :: rest => assemble (some (.text s)) frames rest
  | none, frames, .quoted none :: rest => assemble (some .invalid) frames rest
  | none, _, _ => none
  | some d, [], [] => some d
  | some d, .list depth done :: frames, .comma :: rest =>
    assemble none (.list depth (d :: done) :: frames) rest
  | some d, .list depth done :: frames, .closeList :: rest =>
    assemble (some (closed depth (.list (d :: done).reverse))) frames rest
  | some d, .record depth done key :: frames, .comma :: .quoted next :: .colon :: rest =>
    assemble none (.record depth ((key, d) :: done) next :: frames) rest
  | some d, .record depth done key :: frames, .closeRecord :: rest =>
    assemble (some (closed depth (recordOf ((key, d) :: done).reverse))) frames rest
  | some _, _, _ => none

end Crosstab.Json

namespace Crosstab

/-- The document that a JSON text describes, if the text is well formed. -/
def Document.ofJsonText? (s : String) : Option Document :=
  (Json.lex s.toList).bind fun lexemes => Json.assemble none [] lexemes

def Json.ofText (s : String) : Option Json :=
  (Document.ofJsonText? s).bind Document.toJson?

end Crosstab
