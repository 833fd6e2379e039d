import Crosstab.Toml.Quoted
import Crosstab.Toml.Scalar
import Crosstab.Toml.Tree

/-!
Reading TOML text. A text is a list of statements, one to a line, from which the tree of tables is
built. Arrays and inline tables may run over several lines and end with a comma.
-/

namespace Crosstab.Toml

open Crosstab.Text

def isSpace (c : Char) : Bool := c == ' ' || c == '\t'

def skipSpace (cs : List Char) : List Char := cs.dropWhile isSpace

/-- What follows the end of a line, which a comment may precede. The end of the text ends a line. -/
def lineEnd? (cs : List Char) : Option (List Char) :=
  let rest :=
    match cs with
    | '#' :: more => more.dropWhile isPrintable
    | _ => cs
  match rest with
  | [] => some []
  | '\n' :: more => some more
  | '\r' :: '\n' :: more => some more
  | _ => none

/-- What follows white space, comments and line breaks. The fuel is the length of the text. -/
def skipLines : (fuel : Nat) → List Char → Option (List Char)
  | 0, cs => some cs
  | fuel + 1, cs =>
    match skipSpace cs with
    | [] => some []
    | c :: rest =>
      if c == '#' || c == '\n' || c == '\r' then (lineEnd? (c :: rest)).bind (skipLines fuel)
      else some (c :: rest)

def isBare (c : Char) : Bool :=
  isAsciiDigit c || ('a' ≤ c && c ≤ 'z') || ('A' ≤ c && c ≤ 'Z') || c == '_' || c == '-'

def name? (cs : List Char) : Option (String × List Char) :=
  match cs.takeWhile isBare with
  | [] => lineText? cs
  | bare => some (String.ofList bare, cs.dropWhile isBare)

def names? : (fuel : Nat) → List Char → Option (List String × List Char)
  | 0, _ => none
  | fuel + 1, cs => do
    let (name, rest) ← name? (skipSpace cs)
    match skipSpace rest with
    | '.' :: more =>
      let (names, rest) ← names? fuel more
      some (name :: names, rest)
    | rest => some ([name], rest)

def key? (cs : List Char) : Option (Key × List Char) := do
  let (names, rest) ← names? cs.length cs
  let name ← names.getLast?
  some (⟨names.dropLast, name⟩, rest)

/-- Where a value without quotes and brackets ends. -/
def endsScalar (c : Char) : Bool :=
  isSpace c || c == '\n' || c == '\r' || c == ',' || c == ']' || c == '\x7d' || c == '#'

/-- A value without quotes and brackets, and what follows it. Only between a date and a time may a
space stand. -/
def bareValue? (cs : List Char) : Option (Document × List Char) :=
  let first := cs.takeWhile (!endsScalar ·)
  let rest := cs.dropWhile (!endsScalar ·)
  let plain := (scalar? first).map (·, rest)
  match rest with
  | ' ' :: d :: more =>
    if date? first == some [] && isAsciiDigit d then
      let second := (d :: more).takeWhile (!endsScalar ·)
      (scalar? (first ++ ' ' :: second)).map (·, (d :: more).dropWhile (!endsScalar ·))
    else plain
  | _ => plain

mutual

def value? : (fuel : Nat) → List Char → Option (Document × List Char)
  | 0, _ => none
  | fuel + 1, cs =>
    match cs with
    | '[' :: rest => (items? fuel rest).map fun (items, rest) => (.list items, rest)
    | '\x7b' :: rest => do
      let (statements, rest) ← assignments? fuel rest
      some (← build? statements, rest)
    | _ =>
      match text? cs with
      | some (s, rest) => some (.text s, rest)
      | none => bareValue? cs

def items? : (fuel : Nat) → List Char → Option (List Document × List Char)
  | 0, _ => none
  | fuel + 1, cs => do
    match ← skipLines cs.length cs with
    | ']' :: rest => some ([], rest)
    | cs =>
      let (item, rest) ← value? fuel cs
      match ← skipLines rest.length rest with
      | ',' :: rest =>
        let (items, rest) ← items? fuel rest
        some (item :: items, rest)
      | ']' :: rest => some ([item], rest)
      | _ => none

def assignments? : (fuel : Nat) → List Char → Option (List Statement × List Char)
  | 0, _ => none
  | fuel + 1, cs => do
    match ← skipLines cs.length cs with
    | '\x7d' :: rest => some ([], rest)
    | cs =>
      let (key, rest) ← key? cs
      let rest ← after? '=' rest
      let (value, rest) ← value? fuel (skipSpace rest)
      match ← skipLines rest.length rest with
      | ',' :: rest =>
        let (statements, rest) ← assignments? fuel rest
        some (.assign key value :: statements, rest)
      | '\x7d' :: rest => some ([.assign key value], rest)
      | _ => none

end

def statement? (cs : List Char) : Option (Statement × List Char) := do
  match cs with
  | '[' :: '[' :: rest =>
    let (key, rest) ← key? rest
    some (.openElement key, ← after? ']' (← after? ']' rest))
  | '[' :: rest =>
    let (key, rest) ← key? rest
    some (.openTable key, ← after? ']' rest)
  | _ =>
    let (key, rest) ← key? cs
    let rest := skipSpace (← after? '=' rest)
    let (value, rest) ← value? (2 * rest.length + 2) rest
    some (.assign key value, rest)

/-- The statements of a text. The fuel is the length of the text. -/
def statements? : (fuel : Nat) → List Char → Option (List Statement)
  | 0, _ => some []
  | fuel + 1, cs => do
    match ← skipLines cs.length cs with
    | [] => some []
    | cs =>
      let (statement, rest) ← statement? cs
      let rest ← lineEnd? (skipSpace rest)
      let others ← statements? fuel rest
      some (statement :: others)

end Crosstab.Toml

namespace Crosstab

/-- The document that a TOML text describes, if the text is well formed. A byte order mark at the
front is skipped. -/
def Document.ofTomlText? (s : String) : Option Document :=
  let cs :=
    match s.toList with
    | '\ufeff' :: rest => rest
    | cs => cs
  (Toml.statements? cs.length cs).bind Toml.build?

end Crosstab
