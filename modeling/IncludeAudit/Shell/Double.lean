/-
Conditions in double brackets: words are not cut, the right side of an equality is a pattern, and the conditions are
joined by signs.

- `Double.test`: the conditions as a tree, `Double.holds`: whether one of them holds.
-/
import IncludeAudit.Shell.Fields
import IncludeAudit.Shell.Pattern
import IncludeAudit.Shell.Arithmetic
import IncludeAudit.Shell.Script
import IncludeAudit.Regex.Reader
import IncludeAudit.Tool.Condition

namespace IncludeAudit.Shell.Double

/-- a word of a condition: its spelling when nothing in it is quoted or expanded, and its value -/
structure Operand where
  plain : Option Raw
  field : Field
  deriving DecidableEq, Repr

/-- the word is a certain sign -/
def Operand.is (o : Operand) (sign : Raw) : Bool :=
  o.plain = some sign

/-- the integer that an operand has been worked out to be -/
def integer (t : Raw) : Int :=
  (Raw.int? t).getD 0

/-- operators that compare integers -/
def ofIntegers : List Raw :=
  ["-eq", "-ne", "-lt", "-le", "-gt", "-ge"]

/-- the expression that a word spells; what is quoted in it stands for itself -/
def expression (f : Field) : Raw :=
  f.flatMap fun m => if m.2 ∧ !m.1.isAlphanum ∧ m.1 ≠ '_' ∧ m.1 ≠ '\n' then ['\\', m.1] else [m.1]

/-- how words are compared: patterns, and what is done to bytes before -/
structure Manner where
  pattern : Pattern.Manner := { groups := true }
  deriving DecidableEq, Repr

/-- bytes as they are compared -/
def Manner.inward (m : Manner) (r : Raw) : Text :=
  if m.pattern.wide then Raw.characters r else r

/-- what is compared as bytes -/
def Manner.outward (m : Manner) (t : Text) : Raw :=
  if m.pattern.wide then Raw.ofCharacters t else t

/-- how regular expressions are compared -/
def Manner.regexMode (m : Manner) : Regex.Mode :=
  { wide := m.pattern.wide, folded := m.pattern.folded }

/-- the regular expression that a word spells -/
def regex? (m : Manner) (f : Field) : Option Regex :=
  match Regex.readAll { extended := true } (m.inward (expression f)) with
  | .ok (r, _) => some r
  | .error _ => none

/-- a regular expression of the condition cannot be read -/
def misspelled (m : Manner) : List Operand → Bool
  | o :: b :: rest => (o.is "=~" && (regex? m b.field).isNone) || misspelled m (b :: rest)
  | _ => false

/-- the part of a text that fits a regular expression, and its groups -/
def parts? (m : Manner) (text : Raw) (r : Regex) : Option (List Raw) :=
  let text := m.inward text
  (Regex.find? m.regexMode r text).map fun found =>
    let whole := (text.drop found.1.position).take (found.2.position - found.1.position)
    (whole :: (List.range r.groupCount).map fun n => (found.2.group? (n + 1)).getD []).map m.outward

/-- a comparison of two words -/
def compare (m : Manner) (c : Tool.Call) (operator : Raw) (a b : Operand) : Bool :=
  let x := a.field.text
  let y := b.field.text
  let fits (_ : Unit) : Bool := (Pattern.ofMarked m.pattern (if m.pattern.wide then markedCharacters b.field else b.field)).accepts (m.inward x)
  if operator = "=" ∨ operator = "==" then fits ()
  else if operator = "!=" then !fits ()
  else if operator = "<" then x ≠ y && Raw.le x y
  else if operator = ">" then x ≠ y && Raw.le y x
  else if operator = "-eq" then integer x = integer y
  else if operator = "-ne" then integer x ≠ integer y
  else if operator = "-lt" then integer x < integer y
  else if operator = "-le" then integer x ≤ integer y
  else if operator = "-gt" then integer y < integer x
  else if operator = "-ge" then integer y ≤ integer x
  else (Tool.Condition.binary c x operator y).toOption.getD false

/-- operators between two words -/
def operators : List Raw :=
  Tool.Condition.binaryOperators ++ [("=~" : Raw)]

/-- one condition with its words expanded; `k` knows the shell, and `fits` compares with a regular expression -/
def holds (m : Manner) (c : Tool.Call) (k : Tool.Condition.Facts) (fits : Raw → Field → Bool) : List Operand → Bool
  | [a, o, b] =>
    match o.plain with
    | some operator => if operator = "=~" then fits a.field.text b.field else compare m c operator a b
    | none => false
  | [a, b] => Tool.Condition.single k c (a.plain.getD []) b.field.text
  | [a] => a.field.text ≠ []
  | _ => false

/-! ## Conditions as trees -/

inductive Test
  /-- one condition: an operator in front of a word, or between two, or a word alone -/
  | term (words : List Word)
  | both (a b : Test)
  | either (a b : Test)
  | opposite (a : Test)

/-- the text of a word in which nothing is quoted or expanded -/
def plainOf? (w : Word) : Option Raw :=
  w.foldr (fun part rest =>
    match part, rest with
    | .text t false, some r => some (t ++ r)
    | _, _ => none) (some [])

/-- the words of the first condition, and how many they are -/
def termOf (ws : List Word) : List Word :=
  match ws with
  | a :: b :: r =>
    if ((plainOf? a).map Tool.Condition.isSingle).getD false then [a, b]
    else
      match plainOf? b, r with
      | some o, c :: _ => if operators.contains o then [a, b, c] else [a]
      | _, _ => [a]
  | ws => ws

/-- the level of signs that join conditions: each of them binds more than the one before -/
inductive Level
  | any
  | all
  | one
  deriving DecidableEq, Repr

def read : (fuel : Nat) → Level → List Word → Test × List Word
  | 0, _, ws => (.term [], ws)
  | fuel + 1, level, ws =>
    match level, ws with
    | .one, [] => (.term [], [])
    | .one, a :: r =>
      if plainOf? a = some ['!'] then
        let (t, r) := read fuel .one r
        (.opposite t, r)
      else if plainOf? a = some ['('] then
        let (t, r) := read fuel .any r
        (t, r.tail)
      else
        let words := termOf (a :: r)
        (.term words, (a :: r).drop words.length)
    | level, ws =>
      let (a, rest) := read fuel (if level = .any then .all else .one) ws
      let sign : Raw := if level = .any then "||" else "&&"
      match rest with
      | o :: r =>
        if plainOf? o = some sign then
          let (b, r) := read fuel level r
          (if level = .any then .either a b else .both a b, r)
        else (a, rest)
      | [] => (a, [])

/-- the tree that the words of a condition spell -/
def test (ws : List Word) : Test :=
  (read (4 * ws.length + 8) .any ws).1

/-! ## Conditions as they are shown -/

/-- a word whose quoted characters have backslashes, all of them or only those that an expression knows -/
def guarded (all : Bool) (f : Field) : Raw :=
  f.flatMap fun m => if m.2 ∧ (all ∨ m.1 ∈ (".[()*+?\x7b|^$\\" : Raw)) then ['\\', m.1] else [m.1]

/-- one condition as it is shown before it is worked out -/
def shown (inverted : Bool) (os : List Operand) : Raw :=
  let word (t : Raw) : Raw := if t = [] then "''" else t
  let body : Raw :=
    match os with
    | [a, o, b] =>
      let operator := o.plain.getD []
      let isPattern : Bool := operator = "==" || operator = "!=" || operator = "="
      let right := if operator = "=~" then guarded false b.field else if isPattern then guarded true b.field else b.field.text
      word a.field.text ++ ' ' :: operator ++ ' ' :: word right
    | [a, b] => a.plain.getD [] ++ ' ' :: word b.field.text
    | os => "-n " ++ word (os.flatMap fun o => o.field.text)
  "[[ " ++ (if inverted then ("! " : Raw) else []) ++ body ++ " ]]"

end IncludeAudit.Shell.Double
