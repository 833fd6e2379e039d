import Crosstab.Text.Letter

/-!
References to environment variables in settings, written `${NAME}` or `$NAME`. A text is cut into
segments from left to right, and each reference is replaced by the value of its variable, in which
nothing is replaced again.
-/

namespace Crosstab

open Crosstab.Text

/-- What a variable is set to. -/
inductive Variable where
  | unset
  /-- It is set to something that is no text. -/
  | undecodable
  | text (s : String)

/-- A variable that is unset or a text. -/
def Variable.ofText? : Option String → Variable
  | some s => .text s
  | none => .unset

/-- The variables around a program. -/
structure Environment where
  state : (name : String) → Variable

namespace Environment

/-- The text that a variable is set to. What is no text cannot be used, as if it were not set. -/
def text? (env : Environment) (name : String) : Option String :=
  match env.state name with
  | .text s => some s
  | .unset | .undecodable => none

instance : CoeFun Environment fun _ => String → Option String := ⟨text?⟩

end Environment

/-- A part of a text with references. -/
inductive Segment where
  /-- A character that stands for itself. -/
  | char (c : Char)
  /-- The value of a variable. -/
  | variable (name : List Char)
deriving DecidableEq

namespace Segment

/-- Whether a character can be part of a name without braces around it. -/
def isNameChar (c : Char) : Bool := isAlphanumeric c || c == '_'

/-- The segments of a text. A name in braces ends before the closing brace or, without one, with the
text; a name without braces is as long as it can be. A dollar sign that neither follows stands for
itself. -/
def ofChars : List Char → List Segment
  | [] => []
  | '$' :: '{' :: rest =>
    .variable (rest.takeWhile (· != '}')) :: ofChars ((rest.dropWhile (· != '}')).drop 1)
  | '$' :: rest =>
    if (rest.takeWhile isNameChar).isEmpty then .char '$' :: ofChars rest
    else .variable (rest.takeWhile isNameChar) :: ofChars (rest.dropWhile isNameChar)
  | c :: rest => .char c :: ofChars rest
termination_by cs => cs.length
decreasing_by
  all_goals
    have brace := (List.dropWhile_sublist (· != '}') (l := rest)).length_le
    have name := (List.dropWhile_sublist isNameChar (l := rest)).length_le
    simp only [List.length_cons, List.length_drop]
    omega

def name? : Segment → Option String
  | .char _ => none
  | .variable name => some (String.ofList name)

/-- What a segment stands for, or the name of the variable if it is not set. -/
def value (env : Environment) : Segment → Except String (List Char)
  | .char c => .ok [c]
  | .variable name =>
    match env (String.ofList name) with
    | some s => .ok s.toList
    | none => .error (String.ofList name)

end Segment

def referencedVariables (s : String) : List String :=
  (Segment.ofChars s.toList).filterMap Segment.name?

/-- The text with the references replaced, or the name of the first variable that is not set. -/
def Environment.expand (env : Environment) (s : String) : Except String String := do
  let parts ← (Segment.ofChars s.toList).mapM (Segment.value env)
  return String.ofList parts.flatten

end Crosstab
