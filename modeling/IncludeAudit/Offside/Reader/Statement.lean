/-
Reading statements, and the blocks that they stand in.

- `Reader.script`: the statements of a source, `Reader.single`: one expression.
-/
import IncludeAudit.Offside.Reader.Expression

namespace IncludeAudit.Offside.Reader

/-- the operator of an update such as `+=` -/
def update? (t : Token) : Option Operator :=
  match t with
  | .sign s => if s.getLast? = some '=' then (Operator.signs.find? (·.1 = s.dropLast)).map (·.2) else none
  | _ => none

/-- names behind an import, each with the name it is given; `isWhole` says that they are modules -/
def aliases (isWhole : Bool) (one : Reader Text) : (fuel : Nat) → Reader (List (Text × Option Text))
  | 0 => invalid
  | fuel + 1 => do
    let n ← one
    let given ← do
      if ← acceptName "as" then
        let g ← identifier
        pure (some g)
      else pure none
    if ← seesSign "," then
      let _ ← take
      match (← peek).token with
      | .sign [')'] => return [(n, given)]
      | .newline =>
        if isWhole then invalid else refuse "trailing comma not allowed without surrounding parentheses"
      | _ => return (n, given) :: (← aliases isWhole one fuel)
    else return [(n, given)]

def names : (fuel : Nat) → Reader (List Text)
  | 0 => invalid
  | fuel + 1 => do
    let n ← identifier
    if ← acceptSign "," then return n :: (← names fuel) else return [n]

/-- nothing can be assigned to the expression, or to a part of it -/
def badTarget? : (fuel : Nat) → Spot → Expr → Option (Text × Spot)
  | 0, _, _ => none
  | fuel + 1, spot, e =>
    match e with
    | .at s e => badTarget? fuel s e
    | .tuple es | .list es => es.findSome? (badTarget? fuel spot)
    | .spread e => badTarget? fuel spot e
    | e => (untargetable? e).map fun what => (what, spot)

/-- targets and the value that is assigned to them -/
def assignment (fuel : Nat) : (count : Nat) → (start : Placed) → List Expr → Expr → Reader Stmt
  | 0, _, _, _ => invalid
  | n + 1, start, targets, e => do
    let spot ← spotFrom start none
    if ← acceptSign "=" then
      match badTarget? 100 spot e with
      | some (what, place) =>
        let hint : Text ← hinted fuel targets.isEmpty start e
        let isYield : Bool := what = ("yield expression" : Text)
        let message : Text :=
          if isYield then "assignment to yield expression not possible" else "cannot assign to " ++ what ++ hint
        throw { message, spot := place }
      | none =>
        if e matches .spread _ then
          postpone { message := "starred assignment target must be in a list or tuple", spot }
        let start ← peek
        let value ← if ← seesName "yield" then yielding fuel else
          match (← peek).token with
          | .newline => invalid
          | _ => expressionsWithSpread fuel
        assignment fuel n start (e :: targets) value
    else if targets = [] then
      match e with
      | .spread _ => throw { message := "can't use starred expression here", spot }
      | e => return .expr e
    else
      match e with
      | .spread _ => throw { message := "can't use starred expression here", spot }
      | e => return .assign targets.reverse e
where
  /-- a hint that a comparison has been meant: what has been read last is an operand of one, and another one follows -/
  hinted (fuel : Nat) (isFirst : Bool) (start : Placed) (e : Expr) : Reader Text := do
    let last : Expr :=
      match e with
      | .at _ (.tuple es) => if Token.isSign start.token "(" then e else es.getLast?.getD e
      | e => e
    let isOperand : Bool :=
      match last.bare with
      | .none | .truth _ | .yield _ | .yieldFrom _ | .lambda _ _ | .choose _ _ _ | .unary '!' _ | .both _ _ | .either _ _
      | .compare _ _ | .spread _ | .list _ | .tuple _ | .each .stream _ _ _ => false
      | e => (untargetable? e).isSome
    if isFirst && isOperand then
      let follows ← (do
        let _ ← levelled (signed fuel) levels
        return !((← seesSign "=") || (← seesSign ":="))) <|> (return true)
      return if follows then " here. Maybe you meant '==' instead of '='?" else []
    else return []
  /-- expressions of which the only one may be spread, as in a target -/
  expressionsWithSpread (fuel : Nat) : Reader Expr := do
    let start ← peek
    match ← elements fuel with
    | ([e], false) => return e
    | (es, _) => placed start none (.tuple es)

/-- the fault of a word that was a statement of its own once -/
def wasStatement (fuel : Nat) (start : Placed) (e : Expr) : Reader Unit := do
  let p ← peek
  match e.bare with
  | .name n =>
    if (n = ("print" : Text) ∨ n = ("exec" : Text)) ∧ Token.beginsExpression p.token then
      let _ ← expressions fuel
      throw { message := "Missing parentheses in call to '" ++ n ++ "'. Did you mean " ++ n ++ "(...)?"
              spot := ← spotFrom start none }
    else return ()
  | _ => return ()

/-- a statement on a line of its own -/
def simple (fuel : Nat) : Reader Stmt := do
  let start ← peek
  let done (s : Stmt) : Reader Stmt := do
    return .at (← spotFrom start none) s
  let ends : Reader Bool := do
    match (← peek).token with
    | .newline | .finish => return true
    | t => return Token.isSign t ";"
  if ← acceptName "pass" then done .pass
  else if ← acceptName "break" then done .leave
  else if ← acceptName "continue" then done .next
  else if ← acceptName "return" then
    if ← ends then done (.give .absent)
    else
      let e ← expressions fuel
      done (.give e)
  else if ← acceptName "raise" then
    if ← ends then done (.fail .absent .absent)
    else
      let e ← expression fuel
      if ← acceptName "from" then
        let cause ← expression fuel
        done (.fail e cause)
      else done (.fail e .absent)
  else if ← acceptName "import" then
    let ms ← aliases true (dotted (← wordsLeft)) (← wordsLeft)
    done (.load ms)
  else if ← acceptName "from" then
    let dots ← collect (do
      if ← acceptSign "." then return some 1 else if ← acceptSign "..." then return some 3 else return none) (← wordsLeft)
    let m ← if (← seesName "import") && !dots.isEmpty then pure [] else dotted (← wordsLeft)
    expectName "import"
    let dots := dots.foldl (· + ·) 0
    if ← acceptSign "*" then done (.loadFrom dots m [(['*'], none)])
    else
      let inBrackets ← acceptSign "("
      let ns ← aliases false identifier (← wordsLeft)
      if inBrackets then expectSign ")"
      done (.loadFrom dots m ns)
  else if ← acceptName "assert" then
    let c ← expression fuel
    if ← acceptSign "," then
      let m ← expression fuel
      done (.check c m)
    else done (.check c .absent)
  else if ← acceptName "del" then
    let first ← peek
    let t ← expressions fuel
    let spot ← spotFrom first none
    match badTarget? 100 spot t with
    | some (what, place) => throw { message := "cannot delete " ++ what, spot := place }
    | none =>
      match t with
      | .at _ (.tuple es) => done (.delete es)
      | e => done (.delete [e])
  else if ← acceptName "global" then
    let ns ← names (← wordsLeft)
    done (.global ns)
  else if ← acceptName "nonlocal" then
    let ns ← names (← wordsLeft)
    done (.nonlocal ns)
  else
    if (start.token matches .name _) && Token.isSign (← peekSecond).token ":=" then
      let _ ← take
      invalid
    let e ← if ← seesName "yield" then yielding fuel else assignment.expressionsWithSpread fuel
    wasStatement fuel start e
    let p ← peek
    match update? p.token with
    | some o =>
      match e.bare with
      | .name _ | .attribute _ _ | .index _ _ =>
        let _ ← take
        let value ← if ← seesName "yield" then yielding fuel else expressions fuel
        done (.update e o value)
      | other =>
        let what : Text :=
          match other with
          | .tuple _ => "tuple"
          | .list _ => "list"
          | other => (untargetable? other).getD "expression"
        throw { message := "'" ++ what ++ "' is an illegal expression for augmented assignment"
                spot := ← spotFrom start none }
    | none =>
      if Token.isSign p.token ":" then
        match e.bare with
        | .name _ | .attribute _ _ | .index _ _ =>
          let _ ← take
          let annotation ← expression fuel
          if ← acceptSign "=" then
            let value ← if ← seesName "yield" then yielding fuel else expressions fuel
            done (.annotate e annotation value)
          else done (.annotate e annotation .absent)
        | .tuple es =>
          let whole ← spotFrom start none
          let first? := if Token.isSign start.token "(" then none else es.head?.bind (·.spot?)
          throw { message := "only single target (not tuple) can be annotated", spot := first?.getD whole }
        | .list _ => throw { message := "only single target (not list) can be annotated", spot := ← spotFrom start none }
        | _ => throw { message := "illegal target for annotation", spot := ← spotFrom start none }
      else
        let s ← assignment fuel (← wordsLeft) start [] e
        done s

/-- the statements up to the end of a line -/
def simpleLine (fuel : Nat) : (count : Nat) → Reader (List Stmt)
  | 0 => invalid
  | n + 1 => do
    let s ← simple fuel
    if ← acceptSign ";" then
      match (← peek).token with
      | .newline =>
        let _ ← take
        return [s]
      | _ => return s :: (← simpleLine fuel n)
    else
      match (← peek).token with
      | .newline =>
        let _ ← take
        return [s]
      | .finish => return [s]
      | _ => invalid

/-! ## Patterns -/

mutual

/-- one pattern, with alternatives and a name -/
def pattern : (fuel : Nat) → Reader Pattern
  | 0 => tooDeep
  | fuel + 1 => do
    let first ← closedPattern fuel
    let more ← collect (do
      if ← acceptSign "|" then return some (← closedPattern fuel) else return none) (← wordsLeft)
    let p := if more.isEmpty then first else Pattern.oneOf (first :: more)
    if ← acceptName "as" then
      let n ← identifier
      return .under p n
    else return p

/-- a pattern that may have commas, and then is a sequence -/
def openPattern : (fuel : Nat) → Reader Pattern
  | 0 => tooDeep
  | fuel + 1 => do
    let first ← starPattern fuel
    if ← seesSign "," then
      let more ← collect (do
        if ← acceptSign "," then
          if (← seesSign ":") || (← seesName "if") then return none else return some (← starPattern fuel)
        else return none) (← wordsLeft)
      return .sequence (first :: more)
    else
      match first with
      | .rest _ => return .sequence [first]
      | p => return p

/-- a pattern, or the rest of a sequence -/
def starPattern : (fuel : Nat) → Reader Pattern
  | 0 => tooDeep
  | fuel + 1 => do
    if ← acceptSign "*" then
      let n ← identifier
      return .rest (if n = (['_'] : Text) then none else some n)
    else pattern fuel

def closedPattern : (fuel : Nat) → Reader Pattern
  | 0 => tooDeep
  | fuel + 1 => do
    let start ← peek
    match start.token with
    | .sign ['['] => do
      let _ ← takeOpen
      let ps ← collect (do
        if ← seesSign "]" then return none
        else
          let p ← starPattern fuel
          let _ ← acceptSign ","
          return some p) (← wordsLeft)
      expectClose "]"
      return .sequence ps
    | .sign ['('] => do
      let _ ← takeOpen
      let ps ← collect (do
        if ← seesSign ")" then return none
        else
          let p ← starPattern fuel
          let comma ← acceptSign ","
          return some (p, comma)) (← wordsLeft)
      expectClose ")"
      match ps with
      | [(p, false)] => return p
      | ps => return .sequence (ps.map (·.1))
    | .sign ['\x7b'] => do
      let _ ← takeOpen
      let ps ← collect (do
        if (← seesSign "\x7d") || (← seesSign "**") then return none
        else
          let k ← levelled (signed fuel) levels
          expectSign ":"
          let p ← pattern fuel
          let _ ← acceptSign ","
          return some (k, p)) (← wordsLeft)
      let rest ← do
        if ← acceptSign "**" then
          let n ← identifier
          let _ ← acceptSign ","
          pure (some n)
        else pure none
      expectClose "\x7d"
      return .mapping ps rest
    | .name n => do
      let constants : List Text := ["None", "True", "False"]
      if n ∈ constants then return .constant (← atom fuel)
      else
        let n ← identifier
        let isPlain := !(← seesSign ".") && !(← seesSign "(")
        if isPlain then return if n = (['_'] : Text) then .anything else .capture n
        else
          let head ← placed start none (.name n)
          let parts ← collect (do
            if ← acceptSign "." then return some (← identifier) else return none) (← wordsLeft)
          let e ← placed start none (parts.foldl (fun e n => Expr.attribute e n) head)
          if ← seesSign "(" then
            let _ ← takeOpen
            let ps ← collect (do
              if ← seesSign ")" then return none
              else
                let p ← peek
                match p.token with
                | .name n =>
                  if Token.isSign (← peekSecond).token "=" then
                    let _ ← take
                    let _ ← take
                    let p ← pattern fuel
                    let _ ← acceptSign ","
                    return some (some n, p)
                  else
                    let p ← pattern fuel
                    let _ ← acceptSign ","
                    return some (none, p)
                | _ =>
                  let p ← pattern fuel
                  let _ ← acceptSign ","
                  return some (none, p)) (← wordsLeft)
            expectClose ")"
            let plain := ps.filterMap fun p => if p.1.isNone then some p.2 else none
            let named := ps.filterMap fun p => p.1.map fun n => (n, p.2)
            return .instance_ e plain named
          else return .value e
    | _ => return .value (← levelled (signed fuel) [[("+", .add), ("-", .sub)]])

end

/-! ## Blocks -/

/-- a word begins a statement that chooses between patterns, since a colon ends its line -/
def beginsSelect : Reader Bool := do
  if ← seesName "match" then
    let s ← get
    let line := s.rest.takeWhile fun p =>
      match p.token with
      | .newline | .finish => false
      | _ => true
    let second := (line.drop 1).head?
    let follows : Bool := (second.map fun p =>
      match p.token with
      | .sign t => t ∈ (["(", "[", "\x7b", "-", "*", "~", "..."] : List Text)
      | .name n => n ∉ (["in", "is", "and", "or", "if", "else", "for"] : List Text)
      | .newline | .finish => false
      | _ => true).getD false
    let ending : Bool := (line.getLast?.map fun p => Token.isSign p.token ":").getD false
    let next := ((s.rest.drop (line.length + 2)).head?.map fun p => Token.isName p.token "case").getD false
    return follows && ending && next
  else return false

mutual

def statement : (fuel : Nat) → Reader (List Stmt)
  | 0 => invalid
  | fuel + 1 => do
    let start ← peek
    let done (s : Stmt) : Reader (List Stmt) := do
      return [.at { line := start.line, first := start.first, last := none } s]
    match start.token with
    | .name _ =>
      if ← acceptName "if" then
        let s ← branches fuel "'if' statement" start
        done s
      else if ← acceptName "while" then
        let c ← condition fuel
        let body ← block fuel "'while' statement" start
        let other ← orElse fuel "else"
        done (.loop c body other)
      else if ← acceptName "for" then done (← looping fuel false start)
      else if ← acceptName "def" then done (← definition fuel false start [])
      else if ← acceptName "class" then done (← classDefinition fuel start [])
      else if ← acceptName "try" then
        let body ← block fuel "'try' statement" start
        let hs ← handlers fuel
        let other ← if hs.isEmpty then pure [] else orElse fuel "else"
        let hasFinal ← seesName "finally"
        let final ← orElse fuel "finally"
        if hs.isEmpty ∧ !hasFinal then refuse "expected 'except' or 'finally' block"
        else done (.attempt body hs other final)
      else if ← acceptName "with" then done (← using_ fuel false start)
      else if (← seesName "async") && (match (← peekSecond).token with | .name _ => true | _ => false) then
        let _ ← take
        if ← acceptName "def" then done (← definition fuel true start [])
        else if ← acceptName "for" then done (← looping fuel true start)
        else if ← acceptName "with" then done (← using_ fuel true start)
        else invalid
      else if ← beginsSelect then
        let _ ← take
        let subject ← expressions fuel
        expectColon false
        match (← peek).token with
        | .newline =>
          let _ ← take
        | _ => invalid
        match (← peek).token with
        | .indent =>
          let _ ← take
        | _ =>
          let p ← peek
          throw { kind := "IndentationError", message := "expected an indented block after 'match' statement on line " ++
                    Text.ofNat start.line, spot := { spotOf p with last := some (p.first + 1) } }
        let cs ← collect (caseOf fuel) (← wordsLeft)
        match (← peek).token with
        | .dedent =>
          let _ ← take
          done (.select subject cs)
        | _ => invalid
      else simpleLine fuel (← wordsLeft)
    | .sign ['@'] => do
      let ds ← collect (do
        if ← acceptSign "@" then
          let e ← expression fuel
          match (← peek).token with
          | .newline =>
            let _ ← take
            return some e
          | _ => invalid
        else return none) (← wordsLeft)
      let start ← peek
      if ← acceptName "def" then
        return [.at { line := start.line, first := start.first, last := none } (← definition fuel false start ds)]
      else if ← acceptName "class" then
        return [.at { line := start.line, first := start.first, last := none } (← classDefinition fuel start ds)]
      else if ← acceptName "async" then
        expectName "def"
        return [.at { line := start.line, first := start.first, last := none } (← definition fuel true start ds)]
      else invalid
    | _ => simpleLine fuel (← wordsLeft)

def caseOf : (fuel : Nat) → Reader (Option (Pattern × Expr × List Stmt))
  | 0 => invalid
  | fuel + 1 => do
    let start ← peek
    if ← acceptName "case" then
      let p ← openPattern fuel
      let guard ← if ← acceptName "if" then expression fuel else pure Expr.absent
      let body ← block fuel "'case' statement" start
      return some (p, guard, body)
    else return none

def looping : (fuel : Nat) → (waits : Bool) → (start : Placed) → Reader Stmt
  | 0, _, _ => invalid
  | fuel + 1, waits, start => do
    let t ← targets fuel
    expectName "in"
    let source ← expressions fuel
    let body ← block fuel "'for' statement" start
    let other ← orElse fuel "else"
    return .forEach waits t source body other

/-- a function behind its word -/
def definition : (fuel : Nat) → (waits : Bool) → (start : Placed) → (decorators : List Expr) → Reader Stmt
  | 0, _, _, _ => invalid
  | fuel + 1, waits, start, ds => do
    let n ← identifier
    expectSign "("
    modify fun s => { s with depth := s.depth + 1 }
    let ps ← parameters fuel ")"
    expectClose ")"
    let result ← if ← acceptSign "->" then expression fuel else pure Expr.absent
    let body ← block fuel "function definition" start
    return .define waits n ps result body ds

def classDefinition : (fuel : Nat) → (start : Placed) → (decorators : List Expr) → Reader Stmt
  | 0, _, _ => invalid
  | fuel + 1, start, ds => do
    let n ← identifier
    let args ← do
      if ← seesSign "(" then
        let _ ← takeOpen
        arguments fuel []
      else pure []
    let body ← block fuel "class definition" start
    return .classOf n args body ds

/-- a statement with values to be left in order, behind its word -/
def using_ : (fuel : Nat) → (waits : Bool) → (start : Placed) → Reader Stmt
  | 0, _, _ => invalid
  | fuel + 1, waits, start => do
    let item : Reader (Expr × Expr) := do
      let e ← expression fuel
      if ← acceptName "as" then
        let first ← peek
        let t ← if ← acceptSign "*" then invalid else levelled (signed fuel) levels
        match badTarget? 100 (← spotFrom first none) t with
        | some (what, place) => throw { message := "cannot assign to " ++ what, spot := place }
        | none => return (e, t)
      else return (e, .absent)
    let list : Reader (List (Expr × Expr)) := do
      let first ← item
      let more ← collect (do
        if ← acceptSign "," then
          if ← seesSign ")" then return none else return some (← item)
        else return none) (← wordsLeft)
      return first :: more
    let bracketed : Reader (List (Expr × Expr)) := do
      let _ ← takeOpen
      let items ← list
      expectClose ")"
      if ← seesSign ":" then return items else invalid
    let items ← if ← seesSign "(" then bracketed <|> list else list
    let body ← block fuel "'with' statement" start
    return .using waits items body

/-- a condition in front of a colon -/
def condition : (fuel : Nat) → Reader Expr
  | 0 => invalid
  | fuel + 1 => do
    let start ← peek
    let e ← expression fuel
    refuseBinding start e
    if ← seesSign "=" then
      let spot ← spotFrom start none
      match e.bare with
      | .name _ =>
        let _ ← take
        let _ ← levelled (signed fuel) levels
        let message : Text := "invalid syntax. Maybe you meant '==' or ':=' instead of '='?"
        throw { message, spot := ← spotFrom start none }
      | .list _ | .tuple _ | .truth _ | .none | .each _ _ _ _ => invalid
      | other =>
        let what : Text :=
          match other with
          | .attribute _ _ => "attribute"
          | .index _ _ => "subscript"
          | other => (untargetable? other).getD "expression"
        throw { message := "cannot assign to " ++ what ++ " here. Maybe you meant '==' instead of '='?", spot }
    else return e

/-- what follows `if`: a condition, its block, and further branches -/
def branches : (fuel : Nat) → (owner : Text) → (start : Placed) → Reader Stmt
  | 0, _, _ => invalid
  | fuel + 1, owner, start => do
    let c ← condition fuel
    let yes ← block fuel owner start
    let next ← peek
    if ← acceptName "elif" then
      let other ← branches fuel "'elif' statement" next
      return .branch c yes [.at { line := next.line, first := next.first, last := none } other]
    else return .branch c yes (← orElse fuel "else")

def orElse : (fuel : Nat) → (word : Text) → Reader (List Stmt)
  | 0, _ => invalid
  | fuel + 1, word => do
    let start ← peek
    if ← acceptName word then block fuel ('\'' :: word ++ "' statement") start else return []

/-- blocks for failures -/
def handlers : (fuel : Nat) → Reader (List (Spot × Expr × Option Text × List Stmt))
  | 0 => invalid
  | fuel + 1 => do
    let start ← peek
    if ← acceptName "except" then
      if (← peek).token matches .newline then refuse "expected ':'"
      if ← seesSign ":" then
        let spot ← spotFrom start none
        let body ← block fuel "'except' statement" start
        let whole ← spotFrom start none
        let more ← handlers fuel
        if !more.isEmpty then postpone { message := "default 'except:' must be last", spot := whole }
        return (spot, .absent, none, body) :: more
      else
        let _ ← acceptSign "*"
        let first ← peek
        let kind ← expression fuel
        if ← seesSign "," then
          let _ ← collect (do
            if ← acceptSign "," then return some (← expression fuel) else return none) (← wordsLeft)
          if ← acceptName "as" then
            let _ ← identifier
          throw { message := "multiple exception types must be parenthesized", spot := ← spotFrom first none }
        let given ← do
          if ← acceptName "as" then
            let n ← identifier
            pure (some n)
          else pure none
        let spot ← spotFrom start none
        let body ← block fuel "'except' statement" start
        return (spot, kind, given, body) :: (← handlers fuel)
    else return []

/-- a block behind a colon; what it belongs to is named when it is missing -/
def block : (fuel : Nat) → (owner : Text) → (start : Placed) → Reader (List Stmt)
  | 0, _, _ => invalid
  | fuel + 1, owner, start => do
    let asks : List Text := ["'try' statement", "'else' statement", "'finally' statement", "function definition"]
    expectColon (owner ∈ asks)
    match (← peek).token with
    | .newline =>
      let _ ← take
      match (← peek).token with
      | .indent =>
        let _ ← take
        statements fuel
      | _ =>
        let p ← peek
        let message : Text := "expected an indented block after " ++ owner ++ " on line " ++ Text.ofNat start.line
        let spot := spotOf p
        throw { kind := "IndentationError", message, spot := { spot with last := spot.last.map fun _ => p.first + 1 } }
    | .finish => invalid
    | _ => simpleLine fuel (← wordsLeft)

/-- statements up to the end of their block -/
def statements : (fuel : Nat) → Reader (List Stmt)
  | 0 => invalid
  | fuel + 1 => do
    match (← peek).token with
    | .dedent =>
      let _ ← take
      return []
    | .finish => return []
    | _ =>
      let s ← statement fuel
      return s ++ (← statements fuel)

end

/-- a fault of the words goes in front of one of their order, and so does a bracket that is never closed when the
order is wrong behind its line -/
def settled {α : Type} (found : Lexer.Found) (r : Except Fault (α × Source)) : Except Fault α :=
  match found.fault with
  | some e => .error e
  | none =>
    let unclosed (c : Char) (line column : Nat) : Fault :=
      { message := "'" ++ [c] ++ "' was never closed", spot := { line, first := column, last := some (column + 1) } }
    match r, found.isOpen with
    | .ok _, some (c, line, column) => .error (unclosed c line column)
    | .ok (a, s), none => s.late.elim (.ok a) .error
    | .error e, some (c, line, column) =>
      .error (if line < max e.spot.line e.reached then unclosed c line column else e)
    | .error e, none => .error e

def script (source : Text) : Except Fault (List Stmt) :=
  let found := Lexer.tokens source
  let whole : Reader (List Stmt) := do
    let fuel := 60 * found.tokens.length + 1000
    let ss ← statements fuel
    match (← peek).token with
    | .finish => return ss
    | _ => refuse "invalid syntax"
  settled found (whole.run { rest := found.tokens })

def single (source : Text) : Except Fault Expr :=
  let found := Lexer.tokens (source.dropWhile fun c => c = ' ' || c = '\t')
  let whole : Reader Expr := do
    let e ← expressions (60 * found.tokens.length + 1000)
    let _ ← collect (do
      match (← peek).token with
      | .newline =>
        let _ ← take
        return some ()
      | _ => return none) (← wordsLeft)
    match (← peek).token with
    | .finish => return e
    | _ => invalid
  settled found (whole.run { rest := found.tokens })

end IncludeAudit.Offside.Reader
