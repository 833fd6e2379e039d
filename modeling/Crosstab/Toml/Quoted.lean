import Crosstab.Json.Reader

/-!
Texts in TOML: in double quotes with escapes or in single quotes as they stand, on one line or, in
tripled quotes, over several.
-/

namespace Crosstab.Toml

/-- Whether a character may stand in a text or a comment: no control character but the tab. -/
def isPrintable (c : Char) : Bool := c == '\t' || (32 ≤ c.toNat && c.toNat != 127)

/-- The character behind a backslash, the forms with hexadecimal digits apart. -/
def escaped? : Char → Option Char
  | '"' => some '"'
  | '\\' => some '\\'
  | 'b' => some (Char.ofNat 8)
  | 't' => some '\t'
  | 'n' => some '\n'
  | 'f' => some (Char.ofNat 12)
  | 'r' => some '\r'
  | 'e' => some (Char.ofNat 27)
  | _ => none

def hexDigits? : Char → Option Nat
  | 'x' => some 2
  | 'u' => some 4
  | 'U' => some 8
  | _ => none

def charOf? (n : Nat) : Option Char :=
  if n.isValidChar then some (Char.ofNat n) else none

/-- Where the reader of a text in double quotes stands: among plain characters, behind a backslash,
among hexadecimal digits of which some are left, or in the white space that a backslash at the end
of a line removes, before and after the first line break. -/
inductive Place where
  | plain
  | escape
  | hex (left value : Nat)
  | toLineEnd
  | blank

/-- White space that a backslash at the end of a line removes. -/
def isRemoved (c : Char) : Bool := c == ' ' || c == '\t' || c == '\n' || c == '\r'

/-- The place for the next character: removed white space ends where anything else stands. -/
def Place.before (c : Char) : Place → Place
  | .blank => if isRemoved c then .blank else .plain
  | place => place

/-- The rest of a text in double quotes, and what follows it. `seen` is what has been read, in
reverse, and `multi` says whether the quotes are tripled. Up to two quotes may stand before the
closing three. -/
def doubleQuoted (multi : Bool) : Place → List Char → List Char → Option (String × List Char)
  | _, _, [] => none
  | place, seen, c :: rest =>
    match place.before c with
    | .plain =>
      if c == '"' then
        if multi then
          match rest with
          | '"' :: '"' :: '"' :: '"' :: '"' :: _ => none
          | '"' :: '"' :: '"' :: _ => doubleQuoted multi .plain (c :: seen) rest
          | '"' :: '"' :: after => some (String.ofList seen.reverse, after)
          | _ => doubleQuoted multi .plain (c :: seen) rest
        else some (String.ofList seen.reverse, rest)
      else if c == '\\' then doubleQuoted multi .escape seen rest
      else if multi && c == '\n' then doubleQuoted multi .plain (c :: seen) rest
      else if multi && c == '\r' && rest.head? == some '\n' then doubleQuoted multi .plain seen rest
      else if isPrintable c then doubleQuoted multi .plain (c :: seen) rest
      else none
    | .escape =>
      match escaped? c, hexDigits? c with
      | some x, _ => doubleQuoted multi .plain (x :: seen) rest
      | none, some digits => doubleQuoted multi (.hex digits 0) seen rest
      | none, none =>
        if !multi || !isRemoved c then none
        else if c == '\n' then doubleQuoted multi .blank seen rest
        else doubleQuoted multi .toLineEnd seen rest
    | .hex left value =>
      match Json.hexValue? c with
      | none => none
      | some digit =>
        if 1 < left then doubleQuoted multi (.hex (left - 1) (16 * value + digit)) seen rest
        else
          match charOf? (16 * value + digit) with
          | some x => doubleQuoted multi .plain (x :: seen) rest
          | none => none
    | .toLineEnd =>
      if c == '\n' then doubleQuoted multi .blank seen rest
      else if isRemoved c then doubleQuoted multi .toLineEnd seen rest
      else none
    | .blank => doubleQuoted multi .blank seen rest

def singleQuoted (multi : Bool) : List Char → List Char → Option (String × List Char)
  | _, [] => none
  | seen, c :: rest =>
    if c == '\x27' then
      if multi then
        match rest with
        | '\x27' :: '\x27' :: '\x27' :: '\x27' :: '\x27' :: _ => none
        | '\x27' :: '\x27' :: '\x27' :: _ => singleQuoted multi ('\x27' :: seen) rest
        | '\x27' :: '\x27' :: after => some (String.ofList seen.reverse, after)
        | _ => singleQuoted multi ('\x27' :: seen) rest
      else some (String.ofList seen.reverse, rest)
    else if multi && c == '\n' then singleQuoted multi (c :: seen) rest
    else if multi && c == '\r' && rest.head? == some '\n' then singleQuoted multi seen rest
    else if isPrintable c then singleQuoted multi (c :: seen) rest
    else none

/-- A text that begins with tripled quotes loses the line break right behind them. -/
def dropLineBreak : List Char → List Char
  | '\n' :: rest => rest
  | '\r' :: '\n' :: rest => rest
  | cs => cs

def lineText? : List Char → Option (String × List Char)
  | '"' :: rest => doubleQuoted false .plain [] rest
  | '\x27' :: rest => singleQuoted false [] rest
  | _ => none

def text? : List Char → Option (String × List Char)
  | '"' :: '"' :: '"' :: rest => doubleQuoted true .plain [] (dropLineBreak rest)
  | '\x27' :: '\x27' :: '\x27' :: rest => singleQuoted true [] (dropLineBreak rest)
  | cs => lineText? cs

end Crosstab.Toml
