/-
The words of a program that works through records. A slash starts an expression to be searched for, unless a value is
in front of it.

- `tokens`: all words of a program.
-/
import IncludeAudit.Tool.Format
import IncludeAudit.Tool.Awk.Syntax

namespace IncludeAudit.Tool.Awk

/-- a word of a program -/
inductive Token
  | number (x : Float)
  | text (t : Raw)
  | regex (t : Raw)
  | name (n : Raw)
  /-- a name right in front of a parenthesis -/
  | called (n : Raw)
  | keyword (n : Raw)
  | builtIn (n : Raw)
  | sign (s : Raw)
  | newline
  | finish

/-- a word, its line and how it is spelled -/
structure Placed where
  token : Token
  line : Nat
  spelling : Raw := []

/-- words with a meaning of their own -/
def keywords : List Raw :=
  Raw.words ("BEGIN END function return if else while for do break continue next nextfile exit delete in getline " ++
    "print printf")

/-- functions that are always there -/
def builtIns : List Raw :=
  Raw.words ("length substr index split sub gsub match sprintf sin cos atan2 exp log sqrt int rand srand tolower " ++
    "toupper system close fflush systime strftime mktime")

/-- signs, longer ones first -/
def signs : List Raw :=
  Raw.words ("&& || ++ -- += -= *= /= %= ^= == <= >= != !~ >> \x7b \x7d ( ) [ ] ; , + - * / % ^ ! > < | ? : ~ $ =")

def startsName (c : Char) : Bool :=
  c.isAlpha || c = '_'

/-- a value may end with the word, and a slash behind it divides -/
def Token.endsValue : Token → Bool
  | .number _ | .text _ | .regex _ | .name _ => true
  | .builtIn n => n = ("length" : Raw)
  | .keyword n => n = ("getline" : Raw)
  | .sign s => s ∈ ([[')'], [']'], "++", "--"] : List Raw)
  | _ => false

/-- a text up to its closing quote: the text, and what is behind the quote; none when the line ends first -/
def readText : (fuel : Nat) → Raw → Raw → Option (Raw × Raw)
  | 0, _, _ => none
  | _, [], _ => none
  | fuel + 1, c :: r, t =>
    if c = '"' then some (t.reverse, r)
    else if c = '\n' then none
    else if c = '\\' then
      match r with
      | '\n' :: r => readText fuel r t
      | '"' :: r => readText fuel r ('"' :: t)
      | [] => none
      | d :: r' =>
        if d = 'c' ∨ d = 'e' then readText fuel r' (d :: '\\' :: t)
        else
          match escape { hex := true } r with
          | .text e r => readText fuel r (e.reverse ++ t)
          | _ => readText fuel r t
    else readText fuel r (c :: t)

/-- the escapes in a text from outside -/
def unescaped (t : Raw) : Raw :=
  (readText (t.length + 2) ((t.flatMap fun c => if c = '"' then "\\\"" else if c = '\n' then "\\n" else [c]) ++ ['"'])
    []).elim t (·.1)

/-- an expression up to its closing slash; a slash in brackets does not count -/
def readPattern : (fuel : Nat) → (inSet : Bool) → Raw → Raw → Option (Raw × Raw)
  | 0, _, _, _ => none
  | _, _, [], _ => none
  | fuel + 1, inSet, c :: r, t =>
    if c = '\n' then none
    else if c = '/' ∧ inSet = false then some (t.reverse, r)
    else if c = '\\' then
      match r with
      | '/' :: r => readPattern fuel inSet r ('/' :: t)
      | '\n' :: r => readPattern fuel inSet r t
      | d :: r => readPattern fuel inSet r (d :: '\\' :: t)
      | [] => none
    else if c = '[' ∧ inSet = false then
      -- a bracket right at the start of a set stands for itself
      match r with
      | '^' :: ']' :: r => readPattern fuel true r (']' :: '^' :: c :: t)
      | ']' :: r => readPattern fuel true r (']' :: c :: t)
      | r => readPattern fuel true r (c :: t)
    else if c = '[' ∧ r.head? = some ':' then
      let name := r.tail.takeWhile Char.isAlpha
      match r.tail.drop name.length with
      | ':' :: ']' :: r => readPattern fuel inSet r (']' :: ':' :: name.reverse ++ ':' :: c :: t)
      | _ => readPattern fuel inSet r (c :: t)
    else if c = ']' then readPattern fuel false r (c :: t)
    else readPattern fuel inSet r (c :: t)

/-- the start of a text that does not end, as it is told -/
def runaway (kind : Raw) (r : Raw) : Raw :=
  let lead := r.takeWhile fun c => c = '"' || c = '/'
  let shown := ((r.drop lead.length).takeWhile (· ≠ '\n')).take 10
  "runaway " ++ kind ++ ' ' :: lead ++ shown ++ " ..."

/-- a fault with its line; what no word can start with is told in a way of its own -/
structure Fault where
  line : Nat
  message : Raw
  strange : Bool := false
  /-- more that is wrong on the line -/
  also : Option Raw := none

/-- as it is told, with the file of the program if there is one -/
def Fault.texts (file : Option Raw) (f : Fault) : List Raw :=
  if f.strange then [Text.ofNat f.line ++ ": " ++ f.message]
  else
    let lead : Raw := file.elim [] fun n => n ++ ": "
    let placed (m : Raw) : Raw := lead ++ "line " ++ Text.ofNat f.line ++ ": " ++ m
    placed f.message :: (f.also.map placed).toList

/-- the number at the start of a text -/
def readNumber (r : Raw) : Option (Float × Raw) :=
  (decimalNumeral r).map fun p => (toFloat p.1 p.2.1, p.2.2)

/-- the word at the start of a text that starts with no blank -/
def readToken (before : Token) (line : Nat) (r : Raw) : Except Fault (Token × Raw) :=
  match r with
  | [] => .ok (.finish, [])
  | c :: rest =>
    let divides : Bool := c = '/' && before.endsValue
    let division : Bool :=
      match before with
      | .sign s => divides && !(s = ("++" : Raw) || s = ("--" : Raw)) || divides && rest.head? ≠ some '='
      | _ => divides
    if c = '\n' then .ok (.newline, rest)
    else if c = '"' then
      match readText (rest.length + 1) rest [] with
      | some (t, rest) => .ok (.text t, rest)
      | none => .error { line, message := runaway "string constant" r }
    else if c = '/' ∧ division = false then
      match readPattern (rest.length + 1) false rest [] with
      | some (t, rest) => .ok (.regex t, rest)
      | none => .error { line, message := runaway "regular expression" r }
    else if c.isDigit ∨ c = '.' ∧ (rest.head?.any Char.isDigit) then
      match readNumber r with
      | some (x, rest) => .ok (.number x, rest)
      | none => .error { line, message := "unexpected character '.'", strange := true }
    else if startsName c then
      let n := r.takeWhile fun c => startsName c || c.isDigit
      let rest := r.drop n.length
      if n ∈ keywords then .ok (.keyword n, rest)
      else if n ∈ builtIns then .ok (.builtIn n, rest)
      else if rest.head? = some '(' then .ok (.called n, rest)
      else .ok (.name n, rest)
    else
      match signs.find? (·.isPrefixOf r) with
      | some s => .ok (.sign s, r.drop s.length)
      | none => .error { line, message := "unexpected character '" ++ [c, '\''], strange := true }

/-- all words of a program, the latest first -/
def tokensFrom : (fuel : Nat) → (line : Nat) → Raw → List Placed → Except Fault (List Placed)
  | 0, _, _, found => .ok found
  | fuel + 1, line, r, found =>
    match r with
    | ' ' :: r | '\t' :: r | '\r' :: r | '\x0c' :: r | '\x0b' :: r => tokensFrom fuel line r found
    | '\\' :: '\n' :: r => tokensFrom fuel (line + 1) r found
    | '\\' :: '\r' :: '\n' :: r => tokensFrom fuel (line + 1) r found
    | '#' :: r => tokensFrom fuel line (r.dropWhile (· ≠ '\n')) found
    | r => do
      let before := (found.head?.map (·.token)).getD .newline
      let (token, rest) ← readToken before line r
      let spelling := r.take (r.length - rest.length)
      let p : Placed := { token, line, spelling }
      match token with
      | .finish => return p :: found
      | .newline => tokensFrom fuel (line + 1) rest (p :: found)
      | _ => tokensFrom fuel (line + spelling.count '\n') rest (p :: found)

/-- all words of a program -/
def tokens (r : Raw) : Except Fault (List Placed) :=
  (tokensFrom (2 * r.length + 2) 1 r []).map List.reverse

end IncludeAudit.Tool.Awk
