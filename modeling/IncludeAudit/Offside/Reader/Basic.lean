/-
Taking the words of a source one by one, and the complaints about words that cannot follow.

- `Reader`: reading that takes words, or finds a fault.
-/
import IncludeAudit.Offside.Lexer

namespace IncludeAudit.Offside

/-- words that are left, and the last one that was taken -/
structure Source where
  rest : List Placed
  /-- no less than the number of words that are left -/
  left : Nat := rest.length
  last : Placed := { token := .newline, line := 1, first := 0, lastLine := 1, last := 0 }
  /-- brackets that are open around the place -/
  depth : Nat := 0
  /-- a fault that counts only when the whole source can be read otherwise -/
  late : Option Fault := none

/-- reading that takes words, or finds a fault -/
abbrev Reader := StateT Source (Except Fault)

namespace Reader

/-- the word that comes next -/
def peek : Reader Placed := do
  let s ← get
  return s.rest.headD { s.last with token := .finish }

/-- the word behind the next one -/
def peekSecond : Reader Placed := do
  let s ← get
  return s.rest.tail.headD { s.last with token := .finish }

/-- takes the next word -/
def take : Reader Placed := do
  let p ← peek
  modify fun s => { s with rest := s.rest.tail, left := s.left - 1, last := p }
  return p

/-- the spot of a word; the end of a source is no place in a line -/
def spotOf (p : Placed) : Spot :=
  if p.token matches .finish then { line := p.line } else
  let last := if p.lastLine = p.line ∧ p.first < p.last then p.last else p.first + 1
  { line := p.line, first := p.first, last := some last }

/-- the line that has been looked at with a word; the end of a source lies behind its lines -/
def reachedBy (p : Placed) : Nat :=
  if p.token matches .finish then p.line + 1 else p.line

/-- gives up at the next word -/
def refuse {α : Type} (message : Text) : Reader α := do
  let p ← peek
  let fault : Fault :=
    match p.token with
    | .indent => { kind := "IndentationError", message := "unexpected indent", spot := { line := p.line } }
    | .dedent => { kind := "IndentationError", message := "unexpected unindent", spot := { line := p.line } }
    | _ => { message, spot := spotOf p, reached := reachedBy p }
  throw fault

/-- gives up since no words can follow one another like this -/
def invalid {α : Type} : Reader α :=
  refuse "invalid syntax"

/-- the word is a certain sign -/
def Token.isSign (t : Token) (sign : Text) : Bool :=
  match t with
  | .sign s => s = sign
  | _ => false

/-- the word is a certain name -/
def Token.isName (t : Token) (name : Text) : Bool :=
  match t with
  | .name n => n = name
  | _ => false

/-- a sign comes next -/
def seesSign (sign : Text) : Reader Bool := do
  return (← peek).token |> (Token.isSign · sign)

/-- a name comes next -/
def seesName (name : Text) : Reader Bool := do
  return (← peek).token |> (Token.isName · name)

/-- takes a sign if it comes next -/
def acceptSign (sign : Text) : Reader Bool := do
  if ← seesSign sign then
    let _ ← take
    return true
  else return false

/-- takes a name if it comes next -/
def acceptName (name : Text) : Reader Bool := do
  if ← seesName name then
    let _ ← take
    return true
  else return false

/-- takes a sign that has to come next -/
def expectSign (sign : Text) : Reader Unit := do
  if ← acceptSign sign then return ()
  else if sign = ([':'] : Text) then refuse "expected ':'"
  else if sign = (['('] : Text) then refuse "expected '('"
  else invalid

/-- notes a fault for the end of reading; the first one counts -/
def postpone (f : Fault) : Reader Unit :=
  modify fun s => { s with late := s.late.or (some f) }

/-- takes the colon in front of a block; some words ask for it wherever it is missing, others at the end of a line -/
def expectColon (always : Bool) : Reader Unit := do
  if ← acceptSign ":" then return ()
  else
    match (← peek).token with
    | .newline => refuse "expected ':'"
    | _ => if always then refuse "expected ':'" else invalid

/-- takes a closing bracket that has to come next -/
def expectClose (sign : Text) : Reader Unit := do
  if ← acceptSign sign then modify fun s => { s with depth := s.depth - 1 } else invalid

/-- takes a closing bracket if it comes next -/
def acceptClose (sign : Text) : Reader Bool := do
  if ← acceptSign sign then
    modify fun s => { s with depth := s.depth - 1 }
    return true
  else return false

def takeOpen : Reader Placed := do
  modify fun s => { s with depth := s.depth + 1 }
  take

/-- takes a name that has to come next -/
def expectName (name : Text) : Reader Unit := do
  if ← acceptName name then return () else invalid

/-- names with a meaning of their own -/
def keywords : List Text :=
  Raw.words ("False None True and as assert async await break class continue def del elif else except finally for " ++
    "from global if import in is lambda nonlocal not or pass raise return try while with yield")

/-- takes a name -/
def identifier : Reader Text := do
  match (← peek).token with
  | .name n =>
    if n ∈ keywords then invalid
    else
      let _ ← take
      return n
  | _ => invalid

def dotted : (fuel : Nat) → Reader Text
  | 0 => invalid
  | fuel + 1 => do
    let n ← identifier
    if ← acceptSign "." then
      let rest ← dotted fuel
      return n ++ '.' :: rest
    else return n

/-- the spot from a word to the last one that was taken -/
def spotFrom (start : Placed) (anchor : Option (Nat × Nat)) : Reader Spot := do
  let last := (← get).last
  return { line := start.line, first := start.first
           last := if last.lastLine = start.line then some last.last else none, anchor }

def placed (start : Placed) (anchor : Option (Nat × Nat)) (e : Expr) : Reader Expr := do
  return .at (← spotFrom start anchor) e

def Token.beginsExpression : Token → Bool
  | .name n => n ∉ keywords || n ∈ (["lambda", "not", "None", "True", "False", "await", "yield"] : List Text)
  | .int _ | .float _ | .imaginary _ | .str _ | .bytes _ | .template _ _ _ | .spoilt _ => true
  | .sign s => s ∈ (["(", "[", "\x7b", "-", "+", "~", "*", "..."] : List Text)
  | _ => false

/-- an operand can follow right behind another one only by mistake -/
def Token.beginsOperand : Token → Bool
  | .sign s => s ∈ (["(", "[", "\x7b", "~", "..."] : List Text)
  | .name n => n ∉ keywords || n ∈ (["lambda", "None", "True", "False"] : List Text)
  | t => Token.beginsExpression t

/-- operators that bind alike, the weakest first -/
def levels : List (List (Text × Operator)) :=
  let level (signs : List Text) := Operator.signs.filter (·.1 ∈ signs)
  [level ["|"], level ["^"], level ["&"], level ["<<", ">>"], level ["+", "-"], level ["*", "/", "//", "%", "@"]]

def operator? (level : List (Text × Operator)) : Reader (Option Operator) := do
  match (← peek).token with
  | .sign s => return (level.find? (·.1 = s)).map (·.2)
  | _ => return none

/-- a comparison that comes next, taken -/
def comparison? : Reader (Option Comparison) := do
  let found (c : Comparison) : Reader (Option Comparison) := do
    let _ ← take
    return some c
  match (← peek).token with
  | .sign s =>
    let table : List (Text × Comparison) :=
      [("==", .equal), ("!=", .different), ("<", .less), ("<=", .lessOrEqual), (">", .greater), (">=", .greaterOrEqual)]
    match table.find? (·.1 = s) with
    | some (_, c) => found c
    | none => return none
  | .name n =>
    if n = ("in" : Text) then found .within
    else if n = ("is" : Text) then
      let _ ← take
      if ← acceptName "not" then return some .other else return some .same
    else if n = ("not" : Text) then
      if Token.isName (← peekSecond).token "in" then
        let _ ← take
        found .outside
      else return none
    else return none
  | _ => return none

/-- goes on for as long as a reader finds something -/
def collect {α : Type} (one : Reader (Option α)) : (fuel : Nat) → Reader (List α)
  | 0 => return []
  | fuel + 1 => do
    match ← one with
    | some a => return a :: (← collect one fuel)
    | none => return []

def wordsLeft : Reader Nat := do
  return (← get).left + 1

/-! ## Texts with values in them -/

/-- gives up at the start of the next word -/
def complainHere {α : Type} (message : Text) : Reader α := do
  let p ← peek
  throw { message, spot := { line := p.line, first := p.first, last := some (p.first + 1) } }

/-- gives up since texts and bytes stand one behind another -/
def mixed {α : Type} : Reader α :=
  complainHere "cannot mix bytes and nonbytes literals"

/-- a piece of a text with values -/
inductive Piece
  | plain (t : Text)
  /-- a value: the characters in front of its source, the source, what is shown of the source itself, the way it is turned
  into text, and its layout -/
  | value (front : Nat) (source : Text) (echo : Option Text) (conversion : Option Char) (layout : Option (List Piece))
  /-- something is wrong -/
  | fault (message : Text)
  deriving Repr

def closing (c : Char) : Char :=
  if c = '(' then ')' else if c = '[' then ']' else '\x7d'

/-- the source of a value up to what ends it, with the brackets that are open and the quotes around; or a complaint -/
def valueSource : (fuel : Nat) → Text → (open_ : List Char) → (quotes : Text) → Text → Except Text (Text × Text)
  | 0, r, _, _, before => .ok (before.reverse, r)
  | _, [], brackets, quotes, before =>
    if quotes ≠ [] then .error "f-string: unterminated string"
    else
      match brackets with
      | b :: _ => .error ("f-string: unmatched '" ++ [b, '\''])
      | [] => .ok (before.reverse, [])
  | fuel + 1, c :: r, brackets, quotes, before =>
    if c = '\\' then .error "f-string expression part cannot include a backslash"
    else if quotes ≠ [] then
      if quotes.isPrefixOf (c :: r) then
        valueSource fuel (r.drop (quotes.length - 1)) brackets [] (quotes ++ before)
      else valueSource fuel r brackets quotes (c :: before)
    else if c = '\'' ∨ c = '"' then
      let quotes := if [c, c].isPrefixOf r then [c, c, c] else [c]
      valueSource fuel (r.drop (quotes.length - 1)) brackets quotes (quotes ++ before)
    else if c = '(' ∨ c = '[' ∨ c = '\x7b' then valueSource fuel r (c :: brackets) [] (c :: before)
    else if c = '#' then .error "f-string expression part cannot include '#'"
    else if brackets.isEmpty ∧ c ∈ ("!:\x7d=<>" : Text) then
      if c ∈ ("!=<>" : Text) ∧ r.head? = some '=' then valueSource fuel (r.drop 1) [] [] ('=' :: c :: before)
      else if c = '<' ∨ c = '>' then valueSource fuel r [] [] (c :: before)
      else .ok (before.reverse, c :: r)
    else if c = ')' ∨ c = ']' ∨ c = '\x7d' then
      match brackets with
      | [] => .error ("f-string: unmatched '" ++ [c, '\''])
      | b :: rest =>
        if closing b = c then valueSource fuel r rest [] (c :: before)
        else
          .error ("f-string: closing parenthesis '" ++ [c] ++ "' does not match opening parenthesis '" ++ [b, '\''])
    else valueSource fuel r brackets [] (c :: before)

/-- the pieces of a text with values, and what is left of it; `level` is one inside of a layout -/
def pieces : (fuel : Nat) → (level place : Nat) → Text → Text → List Piece × Text
  | 0, _, _, r, before => ([.plain before.reverse], r)
  | _, _, _, [], before => ([.plain before.reverse], [])
  | fuel + 1, level, place, c :: r, before =>
    let plain := Piece.plain before.reverse
    let wrong (message : Text) : List Piece × Text := ([plain, .fault message], [])
    if level = 0 ∧ c = '\x7b' ∧ r.head? = some '\x7b' then pieces fuel level (place + 2) (r.drop 1) (c :: before)
    else if level = 0 ∧ c = '\x7d' ∧ r.head? = some '\x7d' then pieces fuel level (place + 2) (r.drop 1) (c :: before)
    else if c = '\x7d' then
      if level = 0 then wrong "f-string: single '\x7d' is not allowed" else ([plain], c :: r)
    else if c = '\\' ∧ ("N\x7b" : Text).isPrefixOf r then
      let name := r.takeWhile (· ≠ '\x7d')
      pieces fuel level (place + name.length + 2) (r.drop (name.length + 1)) ('\x7d' :: name.reverse ++ c :: before)
    else if c = '\\' ∧ r.head?.any fun d => d ≠ '\x7b' && d ≠ '\x7d' then
      pieces fuel level (place + 2) (r.drop 1) (r.take 1 ++ c :: before)
    else if c ≠ '\x7b' then pieces fuel level (place + 1) r (c :: before)
    else if 2 ≤ level then wrong "f-string: expressions nested too deeply"
    else
      match valueSource (2 * r.length + 2) r [] [] [] with
      | .error message => wrong message
      | .ok (source, rest) =>
        match rest with
        | [] => wrong "f-string: expecting '\x7d'"
        | e :: _ =>
          if source.all fun c => c ∈ (" \t\n\x0c\r" : Text) then
            if e = '!' ∨ e = ':' ∨ e = '=' then wrong ("f-string: expression required before '" ++ [e, '\''])
            else wrong "f-string: empty expression not allowed"
          else
            let front := place + 1
            let (echo, rest) : Option Text × Text :=
              if e = '=' then
                let after := (rest.drop 1).dropWhile Raw.isSpace
                (some (source ++ (rest.take (rest.length - after.length))), after)
              else (none, rest)
            let stop (conversion : Option Char) (layout : Option (List Piece)) (message : Text) : List Piece × Text :=
              ([plain, .value front source echo conversion layout, .fault message], [])
            let (conversion, rest, isWrong) : Option Char × Text × Bool :=
              match rest with
              | '!' :: k :: rest => (some k, rest, !(k = 's' || k = 'r' || k = 'a'))
              | rest => (none, rest, false)
            if isWrong then stop none none "f-string: invalid conversion character: expected 's', 'r', or 'a'"
            else
              let (layout, rest) : Option (List Piece) × Text :=
                match rest with
                | ':' :: rest =>
                  let place := front + (r.length - rest.length)
                  let (ps, rest) := pieces fuel (level + 1) place rest []
                  (some ps, rest)
                | rest => (none, rest)
              match rest with
              | '\x7d' :: rest =>
                let place := front + (r.length - rest.length)
                let (ps, last) := pieces fuel level place rest []
                (plain :: .value front source echo conversion layout :: ps, last)
              | _ => stop conversion layout "f-string: expecting '\x7d'"

def placeAfter (line column n : Nat) (t : Text) : Nat × Nat :=
  (t.take n).foldl (fun p c => if c = '\n' then (p.1 + 1, 0) else (p.1, p.2 + 1)) (line, column)

end Reader
end IncludeAudit.Offside
