/-
JSON values and their two written forms: `compact`, without any blank, and `pretty`, with each part on a line of its
own under two blanks more than the container around it.
-/
import IncludeAudit.Text

namespace IncludeAudit

/-- a JSON value; numbers are natural -/
inductive Json
  | null
  | bool (b : Bool)
  | nat (n : Nat)
  | string (t : Text)
  | list (items : List Json)
  | object (fields : List (Text × Json))

namespace Json

def strings (ts : List Text) : Json :=
  .list (ts.map .string)

/-- a value that may be missing -/
def optional (j : Option Json) : Json :=
  j.getD .null

def escapeChar (c : Char) : Text :=
  if c = '"' then "\\\""
  else if c = '\\' then "\\\\"
  else if c = '\n' then "\\n"
  else if c = '\r' then "\\r"
  else if c = '\t' then "\\t"
  else if c = '\x08' then "\\b"
  else if c = '\x0c' then "\\f"
  else if c.toNat < 0x20 then "\\u00" ++ [Nat.digitChar (c.toNat / 16), Nat.digitChar (c.toNat % 16)]
  else [c]

def writeString (t : Text) : Text :=
  '"' :: t.flatMap escapeChar ++ ['"']

mutual

/-- a value without blanks -/
def compact : Json → Text
  | .null => "null"
  | .bool b => if b then "true" else "false"
  | .nat n => Text.ofNat n
  | .string t => writeString t
  | .list items => '[' :: compactItems items ++ [']']
  | .object fields => '{' :: compactFields fields ++ ['}']

def compactItems : List Json → Text
  | [] => []
  | [j] => compact j
  | j :: k :: r => compact j ++ ',' :: compactItems (k :: r)

def compactFields : List (Text × Json) → Text
  | [] => []
  | [(n, j)] => writeString n ++ ':' :: compact j
  | (n, j) :: f :: r => writeString n ++ ':' :: compact j ++ ',' :: compactFields (f :: r)

end

def newLine (depth : Nat) : Text :=
  '\n' :: List.replicate (2 * depth) ' '

mutual

/-- a value over several lines, at a depth -/
def prettyAt (depth : Nat) : Json → Text
  | .null => "null"
  | .bool b => if b then "true" else "false"
  | .nat n => Text.ofNat n
  | .string t => writeString t
  | .list [] => "[]"
  | .list (j :: r) => '[' :: prettyItems (depth + 1) (j :: r) ++ newLine depth ++ [']']
  | .object [] => ['{', '}']
  | .object (f :: r) => '{' :: prettyFields (depth + 1) (f :: r) ++ newLine depth ++ ['}']

def prettyItems (depth : Nat) : List Json → Text
  | [] => []
  | [j] => newLine depth ++ prettyAt depth j
  | j :: k :: r => newLine depth ++ prettyAt depth j ++ ',' :: prettyItems depth (k :: r)

def prettyFields (depth : Nat) : List (Text × Json) → Text
  | [] => []
  | [(n, j)] => newLine depth ++ writeString n ++ ": " ++ prettyAt depth j
  | (n, j) :: f :: r =>
    newLine depth ++ writeString n ++ ": " ++ prettyAt depth j ++ ',' :: prettyFields depth (f :: r)

end

/-- a value over several lines -/
def pretty (j : Json) : Text :=
  prettyAt 0 j

end Json
end IncludeAudit
