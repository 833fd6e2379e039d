import Crosstab.Sql.Dialect

/-!
Scanning the text of a statement by the rules for quotes: outside quotes a quote opens a name or a
text, and inside, two of the opening quote stand for one and a single one closes.
-/

namespace Crosstab.Sql

inductive Lexeme where
  /-- A character outside quotes. -/
  | plain (c : Char)
  | name (cs : List Char)
  | text (cs : List Char)
deriving DecidableEq

inductive ScanState where
  | outside
  /-- Between quotes, with the characters since the opening one. -/
  | inside (quote : Char) (seen : List Char)
  /-- Behind a quote that closes, unless another one follows. -/
  | closing (quote : Char) (seen : List Char)
deriving DecidableEq

def Lexeme.ofQuoted (quote : Char) (cs : List Char) : Lexeme :=
  if quote = '"' then .name cs else .text cs

/-- The state at a character outside quotes, and what the character is. -/
def scanOutside (c : Char) : ScanState × List Lexeme :=
  if c = '"' ∨ c = '\x27' then (.inside c [], []) else (.outside, [.plain c])

/-- The state after one more character, and what has been found. -/
def ScanState.step : ScanState → Char → ScanState × List Lexeme
  | .outside, c => scanOutside c
  | .inside quote seen, c =>
    if c = quote then (.closing quote seen, []) else (.inside quote (seen ++ [c]), [])
  | .closing quote seen, c =>
    if c = quote then (.inside quote (seen ++ [c]), [])
    else ((scanOutside c).1, .ofQuoted quote seen :: (scanOutside c).2)

/-- What is found from a state on; none if the text ends inside quotes. -/
def scanFrom : ScanState → List Char → Option (List Lexeme)
  | .outside, [] => some []
  | .inside _ _, [] => none
  | .closing quote seen, [] => some [.ofQuoted quote seen]
  | state, c :: rest => (scanFrom (state.step c).1 rest).map ((state.step c).2 ++ ·)

/-- What is found in a statement. -/
def scan (sql : String) : Option (List Lexeme) := scanFrom .outside sql.toList

end Crosstab.Sql
