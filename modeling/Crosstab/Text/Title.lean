import Crosstab.Text.Letter

/-!
Titles, the form in which names become labels. Which form that is may be chosen; unless it is, names
are written in title case: `unitCost` and `unit-cost` both read "Unit Cost".
-/

namespace Crosstab.Text

/-- How names become labels. -/
class Titling where
  title : (name : String) → String

/-- An ASCII letter as a capital; every other character as it is. -/
def capitalAscii (c : Char) : Char :=
  if 'a' ≤ c && c ≤ 'z' then Char.ofNat (c.toNat - 32) else c

/-- An ASCII letter as a small one; every other character as it is. -/
def smallAscii (c : Char) : Char :=
  if 'A' ≤ c && c ≤ 'Z' then Char.ofNat (c.toNat + 32) else c

/-- What has been learnt of a name while it is read from the left. -/
structure TitleState where
  /-- The next letter begins a word. -/
  atWord : Bool := true
  /-- A letter or number has been met. -/
  started : Bool := false
  /-- A word has begun, so that the next one is set off by a space. -/
  inTitle : Bool := false
  /-- The last letter that continued a word. -/
  last : Char := ' '

/-- The title of the remaining characters. A letter begins a word after a number, after a separator,
and where a capital follows a small letter; separators themselves are dropped. -/
def titleFrom (st : TitleState) : List Char → List Char
  | [] => []
  | c :: rest =>
    if !isAlphanumeric c then titleFrom { st with atWord := st.atWord || st.started } rest
    else if isNumeric c then c :: titleFrom { st with started := true, atWord := true } rest
    else if st.atWord || (isLowercase st.last && isUppercase c) then
      let next := { st with started := true, atWord := false, inTitle := true }
      if st.inTitle then ' ' :: capitalAscii c :: titleFrom next rest
      else capitalAscii c :: titleFrom next rest
    else smallAscii c :: titleFrom { st with started := true, last := c } rest

/-- The label that a name suggests. Characters after the last letter or number are ignored. -/
def titleCase (name : String) : String :=
  let kept := (name.toList.reverse.dropWhile (!isAlphanumeric ·)).reverse
  String.ofList (titleFrom {} kept)

instance : Titling := ⟨titleCase⟩

end Crosstab.Text
