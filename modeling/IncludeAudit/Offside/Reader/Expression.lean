/-
Reading expressions. Every function that calls itself takes the depth that is still allowed, which the number of words
bounds.

- `Reader.expressions`: one expression or several with commas between them.
-/
import IncludeAudit.Offside.Reader.Basic

namespace IncludeAudit.Offside.Reader

/-- joins a chain of operands from the left -/
def chain (one : Reader Expr) (level : List (Text × Operator)) (start : Placed) :
    (fuel : Nat) → Expr → Reader Expr
  | 0, e => return e
  | fuel + 1, e => do
    match ← operator? level with
    | none => return e
    | some o =>
      let sign ← take
      let b ← one
      let e ← placed start (some (sign.first, sign.last)) (.binary o e b)
      chain one level start fuel e

/-- operands of several levels -/
def levelled (one : Reader Expr) : List (List (Text × Operator)) → Reader Expr
  | [] => one
  | level :: tighter => do
    let start ← peek
    let e ← levelled one tighter
    chain (levelled one tighter) level start (← wordsLeft) e

def tooDeep {α : Type} : Reader α :=
  refuse "too many nested parentheses"

/-- what an expression is that nothing can be assigned to -/
def untargetable? : Expr → Option Text
  | .at _ e => untargetable? e
  | .call _ _ => some "function call"
  | .binary _ _ _ | .unary _ _ | .both _ _ | .either _ _ => some "expression"
  | .compare _ _ => some "comparison"
  | .int _ | .float _ | .imaginary _ | .str _ | .bytes _ => some "literal"
  | .none => some "None"
  | .truth b => some (if b then "True" else "False")
  | .dots => some "ellipsis"
  | .joined _ => some "f-string expression"
  | .lambda _ _ => some "lambda"
  | .choose _ _ _ => some "conditional expression"
  | .set _ => some "set display"
  | .dictionary _ => some "dict literal"
  | .each .list _ _ _ => some "list comprehension"
  | .each .set _ _ _ => some "set comprehension"
  | .each .dictionary _ _ _ => some "dict comprehension"
  | .each .stream _ _ _ => some "generator expression"
  | .yield _ | .yieldFrom _ => some "yield expression"
  | .await _ => some "await expression"
  | .bind _ _ => some "named expression"
  | _ => none

/-- what an expression is called in complaints -/
def titleOf (e : Expr) : Text :=
  match e.bare with
  | .attribute _ _ => "attribute"
  | .index _ _ => "subscript"
  | .tuple _ => "tuple"
  | .list _ => "list"
  | .name _ => "name"
  | e => (untargetable? e).getD "expression"

/-- gives up at a sign that binds a name when there is no name in front of it -/
def refuseBinding (start : Placed) (e : Expr) : Reader Unit := do
  if ← seesSign ":=" then
    match e.bare with
    | .name _ => return ()
    | _ => throw { message := "cannot use assignment expressions with " ++ titleOf e, spot := ← spotFrom start none }

/-- arguments that come one behind another cannot stand in this order -/
def outOfOrder {α : Type} (unpacked : Bool) : Reader α := do
  let last := (← get).last
  let message : Text := "positional argument follows keyword argument"
  throw { message := if unpacked then message ++ " unpacking" else message, spot := spotOf last }

/-- notes a name that two parameters have -/
def noteTwice : List (Placed × Taking × Text) → Reader Unit
  | [] => return ()
  | (_, _, n) :: more => do
    match if n = [] then none else more.find? (·.2.2 = n) with
    | some (p, kind, _) =>
      let signs := match kind with
        | .restNamed => 2
        | .rest => 1
        | _ => 0
      let first := p.first + signs
      postpone { message := "duplicate argument '" ++ n ++ "' in function definition"
                 spot := { line := p.line, first, last := some (first + n.length) } }
    | none => noteTwice more

def isBareName (e : Expr) : Bool :=
  match e.bare with
  | .name _ => true
  | _ => false

mutual

def expression : (fuel : Nat) → Reader Expr
  | 0 => tooDeep
  | fuel + 1 => do
    let start ← peek
    if Token.isName start.token "lambda" then
      let _ ← take
      let ps ← parameters fuel ":"
      expectSign ":"
      let e ← expression fuel
      placed start none (.lambda ps e)
    else if Token.isName start.token "yield" then yielding fuel
    else
      match start.token with
      | .name n =>
        if Token.isSign (← peekSecond).token ":=" then
          let _ ← take
          let _ ← take
          return .bind n (← expression fuel)
        else conditional fuel start
      | _ => conditional fuel start

def conditional : (fuel : Nat) → (start : Placed) → Reader Expr
  | 0, _ => tooDeep
  | fuel + 1, start => do
    let a ← disjunction fuel
    let next ← peek
    if Token.isName next.token "if" then
      let _ ← take
      let c ← disjunction fuel
      if ← acceptName "else" then
        let other ← expression fuel
        placed start none (.choose c a other)
      else
        let p ← peek
        match p.token with
        | .sign [':'] => invalid
        | _ =>
          throw { message := "expected 'else' after 'if' expression", spot := ← spotFrom start none }
    else if 0 < (← get).depth ∧ Token.beginsOperand next.token then
      let isPrefix : Bool :=
        match a.bare, next.token with
        | .name _, .str _ | .name _, .template _ _ _ | .name _, .bytes _ => true
        | _, _ => false
      let before ← get
      let second ← (do return (some (← disjunction fuel))) <|> (return none)
      match second with
      | some _ =>
        if isPrefix then
          set before
          return a
        else
          let reached := reachedBy (← peek)
          throw { message := "invalid syntax. Perhaps you forgot a comma?", spot := ← spotFrom start none, reached }
      | none =>
        set before
        return a
    else return a

/-- an expression that hands a value out -/
def yielding : (fuel : Nat) → Reader Expr
  | 0 => tooDeep
  | fuel + 1 => do
    let start ← peek
    let _ ← take
    if ← acceptName "from" then
      let e ← expression fuel
      placed start none (.yieldFrom e)
    else if Token.beginsExpression (← peek).token then
      let e ← expressions fuel
      placed start none (.yield e)
    else placed start none (.yield .absent)

/-- operands of `or`, `and`, `not` and comparisons -/
def disjunction : (fuel : Nat) → Reader Expr
  | 0 => tooDeep
  | fuel + 1 => do
    let start ← peek
    let a ← conjunction fuel
    if ← acceptName "or" then
      let b ← disjunction fuel
      placed start none (.either a b)
    else return a

/-- operands of `and`, `not` and comparisons -/
def conjunction : (fuel : Nat) → Reader Expr
  | 0 => tooDeep
  | fuel + 1 => do
    let start ← peek
    let a ← inversion fuel
    if ← acceptName "and" then
      let b ← conjunction fuel
      placed start none (.both a b)
    else return a

/-- operands of `not` and comparisons -/
def inversion : (fuel : Nat) → Reader Expr
  | 0 => tooDeep
  | fuel + 1 => do
    let start ← peek
    if ← acceptName "not" then
      let e ← inversion fuel
      placed start none (.unary '!' e)
    else
      let a ← levelled (signed fuel) levels
      let rest ← collect (do
        match ← comparison? with
        | none => return none
        | some c => return some (c, ← levelled (signed fuel) levels)) (← wordsLeft)
      if rest.isEmpty then return a else placed start none (.compare a rest)

/-- an operand with signs in front of it, or raised to a power -/
def signed : (fuel : Nat) → Reader Expr
  | 0 => tooDeep
  | fuel + 1 => do
    let start ← peek
    match start.token with
    | .sign [c] =>
      if c = '-' ∨ c = '+' ∨ c = '~' then
        let _ ← take
        let e ← signed fuel
        placed start none (.unary c e)
      else power fuel start
    | _ => power fuel start

/-- an operand, perhaps raised to a power -/
def power : (fuel : Nat) → (start : Placed) → Reader Expr
  | 0, _ => tooDeep
  | fuel + 1, start => do
    let waits : Bool := Token.isName start.token "await"
    if waits then
      let _ ← take
    let first ← peek
    let a ← atom fuel
    let a ← trailers fuel first a
    let a ← if waits then placed start none (.await a) else pure a
    if ← seesSign "**" then
      let sign ← take
      let b ← signed fuel
      placed start (some (sign.first, sign.last)) (.binary .pow a b)
    else return a

/-- what stands behind an operand: attributes, arguments and indices -/
def trailers : (fuel : Nat) → (start : Placed) → Expr → Reader Expr
  | 0, _, e => return e
  | fuel + 1, start, e => do
    let p ← peek
    match p.token with
    | .sign ['.'] =>
      let _ ← take
      match (← peek).token with
      | .name n =>
        if n ∈ keywords then invalid
        else
          let _ ← take
          let e ← placed start none (.attribute e n)
          trailers fuel start e
      | _ => invalid
    | .sign ['('] =>
      let _ ← takeOpen
      let args ← arguments fuel []
      let e ← placed start none (.call e args)
      trailers fuel start e
    | .sign ['['] =>
      let bracket ← takeOpen
      let i ← indices fuel
      expectClose "]"
      let last := (← get).last
      let e ← placed start (some (bracket.first, last.last)) (.index e i)
      trailers fuel start e
    | _ => return e

/-- arguments up to the closing bracket, with those that stand in front of them, the last one first -/
def arguments : (fuel : Nat) → (before : List Passing) → Reader (List (Passing × Expr))
  | 0, _ => tooDeep
  | fuel + 1, before => do
    let isNamed (k : Passing) : Bool :=
      match k with
      | .named _ | .spreadNamed => true
      | _ => false
    let named := before.any isNamed
    let unpacked := before.any (· = .spreadNamed)
    if ← acceptClose ")" then return []
    else
      let comma := (← get).last
      let start ← peek
      let one ← do
        if ← acceptSign "**" then
          let e ← expression fuel
          pure (Passing.spreadNamed, e)
        else if ← acceptSign "*" then
          let e ← expression fuel
          if unpacked then
            let behind ← peek
            let message : Text := "iterable argument unpacking follows keyword argument unpacking"
            throw { message, spot := { line := comma.line, first := comma.first, last := some behind.first } }
          pure (Passing.spread, e)
        else
          let second ← peekSecond
          match start.token with
          | .name n =>
            if Token.isSign second.token "=" then
              if n ∈ (["None", "True", "False"] : List Text) then
                let _ ← take
                let _ ← take
                throw { message := "cannot assign to " ++ n, spot := ← spotFrom start none }
              else
                let _ ← take
                let sign ← take
                let e ← expression fuel
                if ← seesName "for" then
                  let message : Text := "invalid syntax. Maybe you meant '==' or ':=' instead of '='?"
                  throw { message, spot := { line := start.line, first := start.first, last := some sign.last } }
                if before.any (· = .named n) then
                  postpone { message := "keyword argument repeated: " ++ n, spot := ← spotFrom start none }
                pure (Passing.named n, e)
            else plainArgument fuel start before.isEmpty
          | _ => plainArgument fuel start before.isEmpty
      let isPlain : Bool := one.1 = .plain
      if ← acceptSign "," then
        let more ← arguments fuel (one.1 :: before)
        if isPlain ∧ named then outOfOrder unpacked
        return one :: more
      else if ← acceptClose ")" then
        if isPlain ∧ named then outOfOrder unpacked
        return [one]
      else invalid

/-- an argument without a name; a stream of elements needs brackets unless it is the only one -/
def plainArgument : (fuel : Nat) → (start : Placed) → (isFirst : Bool) → Reader (Passing × Expr)
  | 0, _, _ => tooDeep
  | fuel + 1, start, isFirst => do
    let e ← expression fuel
    refuseBinding start e
    if (← seesName "for") || (← seesName "async") then
      let cs ← clauses fuel
      if !isFirst || (← seesSign ",") then
        throw { message := "Generator expression must be parenthesized", spot := ← spotFrom start none }
      let e ← placed start none (.each .stream e .none cs)
      return (Passing.plain, e)
    else if ← seesSign "=" then
      let _ ← take
      let message : Text := "expression cannot contain assignment, perhaps you meant \"==\"?"
      throw { message, spot := ← spotFrom start none }
    else return (Passing.plain, e)

/-- what stands between the brackets of an index -/
def indices : (fuel : Nat) → Reader Expr
  | 0 => tooDeep
  | fuel + 1 => do
    let start ← peek
    let one ← slice fuel
    if ← seesSign "," then
      let more ← collect (do
        if ← acceptSign "," then
          if ← seesSign "]" then return none else return some (← slice fuel)
        else return none) (← wordsLeft)
      placed start none (.tuple (one :: more))
    else return one

/-- one index, or two ends of a part with a step -/
def slice : (fuel : Nat) → Reader Expr
  | 0 => tooDeep
  | fuel + 1 => do
    let ends : Reader Bool := do
      return (← seesSign ":") || (← seesSign "]") || (← seesSign ",")
    let start ← peek
    let low ← do
      if ← ends then pure Expr.absent
      else if ← acceptSign "*" then
        let e ← expression fuel
        pure (Expr.spread e)
      else expression fuel
    if ← acceptSign ":" then
      let high ← do
        if ← ends then pure Expr.absent else expression fuel
      let step ← do
        if ← acceptSign ":" then
          if ← ends then pure Expr.absent else expression fuel
        else pure Expr.absent
      placed start none (.slice low high step)
    else if low.isAbsent then invalid
    else return low

/-- the clauses behind an element that is collected -/
def clauses : (fuel : Nat) → Reader (List (Bool × Expr × Expr × List Expr))
  | 0 => tooDeep
  | fuel + 1 => do
    let waits : Bool := (← seesName "async") && Token.isName (← peekSecond).token "for"
    if waits then
      let _ ← take
    if ← acceptName "for" then
      let target ← targets fuel
      expectName "in"
      let source ← disjunction fuel
      let conditions ← collect (do
        if ← acceptName "if" then return some (← disjunction fuel) else return none) (← wordsLeft)
      return (waits, target, source, conditions) :: (← clauses fuel)
    else return []

/-- what a loop assigns to -/
def targets : (fuel : Nat) → Reader Expr
  | 0 => tooDeep
  | fuel + 1 => do
    let start ← peek
    let one : Reader Expr := do
      let first ← peek
      let e ← do
        if ← acceptSign "*" then pure (Expr.spread (← levelled (signed fuel) levels))
        else levelled (signed fuel) levels
      match untargetable? e with
      | some what => throw { message := "cannot assign to " ++ what, spot := ← spotFrom first none }
      | none => return e
    let first ← one
    if ← seesSign "," then
      let more ← collect (do
        if ← acceptSign "," then
          if (← peek).token |> Token.beginsExpression then return some (← one) else return none
        else return none) (← wordsLeft)
      placed start none (.tuple (first :: more))
    else return first

/-- expressions with commas between them, and whether there is a comma -/
def elements : (fuel : Nat) → Reader (List Expr × Bool)
  | 0 => tooDeep
  | fuel + 1 => do
    let one : Reader Expr := do
      let start ← peek
      if ← acceptSign "*" then return .spread (← levelled (signed fuel) levels)
      else
        match ← expression fuel with
        | .at s e => return .at s e
        | e => placed start none e
    let first ← one
    if ← seesSign "," then
      let more ← collect (do
        if ← acceptSign "," then
          if (← peek).token |> Token.beginsExpression then return some (← one) else return none
        else return none) (← wordsLeft)
      return (first :: more, true)
    else return ([first], false)

/-- expressions with commas between them, which make a tuple -/
def expressions : (fuel : Nat) → Reader Expr
  | 0 => tooDeep
  | fuel + 1 => do
    let start ← peek
    match ← elements fuel with
    | ([e], false) =>
      match e with
      | .spread _ => throw { message := "can't use starred expression here", spot := ← spotFrom start none }
      | e => return e
    | (es, _) => placed start none (.tuple es)

/-- the parameters of a function up to a sign that is not taken -/
def parameters : (fuel : Nat) → (stop : Text) → Reader Parameters
  | 0, _ => tooDeep
  | fuel + 1, stop => do
    let annotated : Reader Expr := do
      if stop ≠ ([':'] : Text) then
        if ← acceptSign ":" then
          if ← acceptSign "*" then return .spread (← expression fuel) else expression fuel
        else return Expr.absent
      else return Expr.absent
    let found ← collect (do
      if ← seesSign stop then return none
      else
        let start ← peek
        let one ← do
          if ← acceptSign "**" then
            let n ← identifier
            pure (Taking.restNamed, n, Expr.absent, ← annotated)
          else if ← acceptSign "*" then
            if ← seesSign "," then
              if Token.isSign (← peekSecond).token stop then
                throw { message := "named arguments must follow bare *", spot := spotOf start }
              else pure (Taking.rest, ([] : Text), Expr.absent, Expr.absent)
            else if ← seesSign stop then
              throw { message := "named arguments must follow bare *", spot := spotOf start }
            else
              let n ← identifier
              pure (Taking.rest, n, Expr.absent, ← annotated)
          else if ← acceptSign "/" then pure (Taking.placed, ([] : Text), Expr.absent, Expr.absent)
          else
            let n ← identifier
            let annotation ← annotated
            if ← acceptSign "=" then
              let e ← expression fuel
              pure (Taking.plain, n, e, annotation)
            else pure (Taking.plain, n, Expr.absent, annotation)
        if ← acceptSign "," then return some (start, one)
        else if ← seesSign stop then return some (start, one)
        else invalid) (← wordsLeft)
    let isMark (k : Taking) (n : Text) : Bool := k = .placed && n.isEmpty
    let hasMark := found.any fun p => isMark p.2.1 p.2.2.1
    let front := found.takeWhile fun p => p.2.1 ≠ .rest
    let marked : List (Placed × Taking × Text × Expr × Expr) :=
      if hasMark then
        let before := front.takeWhile fun p => !isMark p.2.1 p.2.2.1
        let behind := front.drop (before.length + 1)
        (before.map fun (p, k, n, d, a) => (p, if k = .plain then .placed else k, n, d, a)) ++ behind
      else front
    let hasUsual := fun (p : Placed × Taking × Text × Expr × Expr) => !p.2.2.2.1.isAbsent
    let lacking := (marked.dropWhile fun p => !hasUsual p).find? fun p =>
      !hasUsual p && (p.2.1 = .plain || p.2.1 = .placed)
    match lacking with
    | some (p, _, _) =>
      throw { message := "non-default argument follows default argument", spot := spotOf p }
    | none => pure ()
    noteTwice (found.map fun p => (p.1, p.2.1, p.2.2.1))
    let behind : List (Placed × Taking × Text × Expr × Expr) :=
      (found.drop front.length).map fun (p, k, n, d, a) => (p, if k = Taking.plain then Taking.named else k, n, d, a)
    return (marked ++ behind).map (·.2)

/-- an operand without signs -/
def atom : (fuel : Nat) → Reader Expr
  | 0 => tooDeep
  | fuel + 1 => do
    let start ← peek
    match start.token with
    | .int n =>
      let _ ← take
      return .int n
    | .float x =>
      let _ ← take
      return .float x
    | .imaginary x =>
      let _ ← take
      return .imaginary x
    | .bytes r =>
      let _ ← take
      let more ← collect (do
        match (← peek).token with
        | .bytes r =>
          let _ ← take
          return some r
        | _ => return none) (← wordsLeft)
      match (← peek).token with
      | .spoilt message =>
        let _ ← take
        complainHere message
      | .str _ | .template _ _ _ =>
        let _ ← collect (do
          match (← peek).token with
          | .str _ | .template _ _ _ | .bytes _ =>
            let _ ← take
            return some ()
          | _ => return none) (← wordsLeft)
        mixed
      | _ => placed start none (.bytes (r ++ more.flatten))
    | .str _ | .template _ _ _ | .spoilt _ => texts fuel start
    | .name n =>
      let constants : List (Text × Expr) := [("None", .none), ("True", .truth true), ("False", .truth false)]
      match constants.find? (·.1 = n) with
      | some (_, e) =>
        let _ ← take
        return e
      | none =>
        let n ← identifier
        placed start none (.name n)
    | .sign ['('] =>
      let _ ← takeOpen
      if ← acceptClose ")" then placed start none (.tuple [])
      else
        let e ← expressionsIn fuel
        if (← seesName "for") || (← seesName "async") then
          let cs ← clauses fuel
          expectClose ")"
          placed start none (.each .stream e .none cs)
        else
          expectClose ")"
          match e with
          | .at _ (.tuple es) => placed start none (.tuple es)
          | e => return e
    | .sign ['['] =>
      let _ ← takeOpen
      if ← acceptClose "]" then placed start none (.list [])
      else
        let (es, comma) ← elements fuel
        match es, comma with
        | [e], false =>
          if (← seesName "for") || (← seesName "async") then
            let cs ← clauses fuel
            expectClose "]"
            placed start none (.each .list e .none cs)
          else
            expectClose "]"
            placed start none (.list [e])
        | es, _ =>
          expectClose "]"
          placed start none (.list es)
    | .sign ['\x7b'] =>
      let _ ← takeOpen
      let e ← braces fuel
      placed start none e
    | .sign ['.', '.', '.'] =>
      let _ ← take
      return .dots
    | _ => invalid

/-- expressions in round brackets: a tuple, or a single one -/
def expressionsIn : (fuel : Nat) → Reader Expr
  | 0 => tooDeep
  | fuel + 1 => do
    let start ← peek
    match ← elements fuel with
    | ([e], false) =>
      match e with
      | .spread _ => throw { message := "cannot use starred expression here", spot := ← spotFrom start none }
      | e =>
        refuseBinding start e
        if (← seesSign "=") && isBareName e then
          let _ ← take
          let _ ← levelled (signed fuel) levels
          let message : Text := "invalid syntax. Maybe you meant '==' or ':=' instead of '='?"
          throw { message, spot := ← spotFrom start none }
        else return e
    | (es, _) => placed start none (.tuple es)

def texts : (fuel : Nat) → (start : Placed) → Reader Expr
  | 0, _ => tooDeep
  | fuel + 1, start => do
    let words ← collect (do
      let p ← peek
      match p.token with
      | .str _ | .template _ _ _ | .bytes _ | .spoilt _ =>
        let _ ← take
        return some p
      | _ => return none) (← wordsLeft)
    let spoilt? := words.findSome? fun p => match p.token with
      | .spoilt message => some message
      | _ => none
    if let some message := spoilt? then complainHere message
    let isBytes (p : Placed) : Bool :=
      match p.token with
      | .bytes _ => true
      | _ => false
    if words.any isBytes then mixed
    let parts ← words.mapM fun p => do
      match p.token with
      | .str t => return [Expr.str t]
      | .template raw front t => template fuel p.line (p.first + front) raw t (pieces (2 * t.length + 2) 0 0 t []).1
      | _ => return []
    let joinedParts := parts.flatten
    let isPlain := joinedParts.all fun p =>
      match p with
      | .str _ => true
      | _ => false
    if isPlain then
      let whole := joinedParts.flatMap fun p =>
        match p with
        | .str t => t
        | _ => []
      placed start none (.str whole)
    else placed start none (.joined joinedParts)

/-- what stands between curly brackets -/
def braces : (fuel : Nat) → Reader Expr
  | 0 => tooDeep
  | fuel + 1 => do
    if ← acceptClose "\x7d" then return .dictionary []
    else
      let entry (isCrowd : Bool) : Reader (Expr × Option Expr) := do
        if ← acceptSign "**" then
          let e ← levelled (signed fuel) levels
          return (.spread e, some e)
        else if ← acceptSign "*" then
          let e ← levelled (signed fuel) levels
          return (.spread e, none)
        else
          let k ← expression fuel
          if isCrowd then if ← seesSign ":" then invalid
          if ← acceptSign ":" then
            let colon := (← get).last
            if (← seesSign "\x7d") || (← seesSign ",") then
              throw { message := "expression expected after dictionary key and ':'", spot := spotOf colon }
            let start ← peek
            if ← acceptSign "*" then
              let _ ← levelled (signed fuel) levels
              throw { message := "cannot use a starred expression in a dictionary value", spot := ← spotFrom start none }
            let v ← expression fuel
            return (k, some v)
          else return (k, none)
      let first ← entry false
      if (← seesName "for") || (← seesName "async") then
        let cs ← clauses fuel
        expectClose "\x7d"
        match first with
        | (k, some v) => return .each .dictionary k v cs
        | (e, none) => return .each .set e .none cs
      else
        let more ← collect (do
          if ← acceptSign "," then
            if ← seesSign "\x7d" then return none
            else
              let e ← entry first.2.isNone
              if first.2.isSome ∧ e.2.isNone then
                let last ← peek
                if Token.isSign last.token "\x7d" ∨ Token.isSign last.token "," then
                  throw { message := "':' expected after dictionary key", spot := spotOf (← get).last }
                else invalid
              else if first.2.isNone ∧ e.2.isSome then invalid
              else return some e
          else return none) (← wordsLeft)
        expectClose "\x7d"
        let all := first :: more
        if first.2.isSome then return .dictionary (all.map fun (k, v) => (k, v.getD .none))
        else return .set (all.map (·.1))

def template : (fuel : Nat) → (line column : Nat) → (raw : Bool) → (whole : Text) → List Piece → Reader (List Expr)
  | 0, _, _, _, _, _ => tooDeep
  | fuel + 1, line, column, raw, whole, ps => do
    let parts ← ps.mapM fun p => do
      match p with
      | .plain t =>
        if raw then return [Expr.str t]
        match Lexer.escapeFault? true (t.length + 1) 0 t with
        | some message => complainHere message
        | none => return [Expr.str (Lexer.unescape true (t.length + 1) t)]
      | .fault message => complainHere message
      | .value front source echo conversion layout =>
        let (l, c) := placeAfter line column front whole
        let inBrackets := '(' :: source ++ [')']
        -- a complaint shows the source in brackets, with columns that are counted from there
        let shift (e : Fault) : Fault :=
          if e.spot.line = l then
            { e with
              shown := some (inBrackets.takeWhile (· ≠ '\n'))
              spot := { e.spot with first := e.spot.first + 1 - c, last := e.spot.last.map fun n => n + 1 - c } }
          else e
        let found := Lexer.innerTokens inBrackets l (c - 1)
        match found.fault with
        | some e => throw (shift e)
        | none =>
          let inner : Reader Expr := do
            let e ← expressions fuel
            match (← peek).token with
            | .finish => return e
            | _ => invalid
          match inner.run { rest := found.tokens } with
          | .error e => throw (shift { e with message := "f-string: " ++ e.message })
          | .ok (e, _) =>
            let conversion := if echo.isSome ∧ conversion.isNone ∧ layout.isNone then some 'r' else conversion
            let value ← match layout with
              | none => pure (.shown e conversion .absent)
              | some l => do
                let laid ← template fuel line column raw whole l
                pure (.shown e conversion (.joined laid))
            return match echo with
            | some t => [.str t, value]
            | none => [value]
    return (parts.flatten.filter fun p =>
      match p with
      | .str [] => false
      | _ => true)

end

end IncludeAudit.Offside.Reader
