/-
Reading a program: its words become rules and functions. Names become places on the way; whether a variable of all
rules is an array shows where it is used first. Every function that calls itself takes the depth that is still allowed,
which the number of words bounds.

- `read`: the program that a text spells.
-/
import IncludeAudit.Tool.Awk.Lexer
import IncludeAudit.Tool.Awk.Search

namespace IncludeAudit.Tool.Awk

/-- a program while it is read -/
structure Source where
  rest : List Placed
  /-- the line of the last word -/
  line : Nat := 1
  names : Array Raw := specialNames
  functions : Array Function := #[]
  parameters : List Raw := []
  /-- whether variables of all rules are arrays, as far as it is known -/
  kinds : List (Raw × Bool) := [("ENVIRON", true), ("ARGV", true)]
  /-- calls with their lines, functions and numbers of arguments -/
  calls : List (Nat × Nat × Nat) := []
  parentheses : Nat := 0
  braces : Nat := 0
  loops : Nat := 0
  inFunction : Bool := false
  /-- inside a rule that runs without a record -/
  outside : Bool := false

/-- reading that takes words, or finds a fault -/
abbrev Reader := StateT Source (Except Fault)

namespace Reader

/-- the word that comes next -/
def peek : Reader Placed := do
  let s ← get
  return s.rest.headD { token := .finish, line := s.line }

/-- the word behind the next one -/
def peekSecond : Reader Placed := do
  let s ← get
  return s.rest.tail.headD { token := .finish, line := s.line }

def failAt {α : Type} (line : Nat) (message : Raw) : Reader α :=
  throw { line, message }

/-- a word as a complaint shows it -/
def Placed.shown (p : Placed) : Raw :=
  match p.token with
  | .newline => "end of line"
  | .finish => "end of file"
  | .text t => t
  | _ => p.spelling

/-- the sign that a word is; nothing for other words -/
def Token.asSign : Token → Raw
  | .sign s => s
  | _ => []

/-- the keyword that a word is; nothing for other words -/
def Token.asKeyword : Token → Raw
  | .keyword s => s
  | _ => []

def Token.endsLine : Token → Bool
  | .newline | .finish => true
  | _ => false

/-- gives up at the next word -/
def refuse {α : Type} : Reader α := do
  let p ← peek
  let s ← get
  let near : Raw := Placed.shown p
  let sign := Token.asSign p.token
  let ends := Token.endsLine p.token
  let atEnd : Bool := match p.token with | .finish => true | _ => false
  let unlikely : Raw := "syntax error at or near " ++ near
  let behind : Option Raw :=
    if s.braces = 0 ∧ Token.endsLine (s.rest.tail.headD p).token then some "syntax error at or near end of line" else none
  if sign = [')'] ∧ s.parentheses = 0 then throw { line := p.line, message := "extra ')'", also := behind }
  else if sign = ['\x7d'] ∧ s.braces = 0 then throw { line := p.line, message := "extra '\x7d'", also := behind }
  else if (sign = ['\x7d'] ∨ ends) ∧ 0 < s.parentheses then failAt p.line ("missing ) near " ++ near)
  else if atEnd ∧ 0 < s.braces then failAt p.line ("missing \x7d near " ++ near)
  else failAt p.line unlikely

/-- takes the next word -/
def take : Reader Placed := do
  let p ← peek
  let sign := Token.asSign p.token
  modify fun s =>
    { s with
      rest := s.rest.tail, line := p.line
      parentheses := if sign = ['('] then s.parentheses + 1 else if sign = [')'] then s.parentheses - 1 else s.parentheses
      braces := if sign = ['\x7b'] then s.braces + 1 else if sign = ['\x7d'] then s.braces - 1 else s.braces }
  return p

/-- a sign comes next -/
def sees (sign : Raw) : Reader Bool := do
  return Token.asSign (← peek).token = sign

/-- a keyword comes next -/
def seesKeyword (word : Raw) : Reader Bool := do
  return Token.asKeyword (← peek).token = word

/-- takes a sign if it comes next -/
def accept (sign : Raw) : Reader Bool := do
  if ← sees sign then
    let _ ← take
    return true
  else return false

/-- takes a keyword if it comes next -/
def acceptKeyword (word : Raw) : Reader Bool := do
  if ← seesKeyword word then
    let _ ← take
    return true
  else return false

/-- takes a sign that has to come next -/
def expect (sign : Raw) : Reader Unit := do
  if ← accept sign then return () else refuse

/-- takes line feeds -/
def skipLines : (fuel : Nat) → Reader Unit
  | 0 => return ()
  | fuel + 1 => do
    match (← peek).token with
    | .newline =>
      let _ ← take
      skipLines fuel
    | _ => return ()

/-- takes line feeds and semicolons -/
def skipEnds : (fuel : Nat) → Reader Unit
  | 0 => return ()
  | fuel + 1 => do
    let t := (← peek).token
    let isLine : Bool :=
      match t with
      | .newline => true
      | _ => false
    if isLine || Token.asSign t = [';'] then
      let _ ← take
      skipEnds fuel
    else return ()

/-- more words than a program has -/
def many : Nat := 1000000

/-! ## Names -/

/-- the place of a variable, with what it is used for if that is known -/
def place (n : Raw) (isArray : Option Bool) : Reader Name := do
  let s ← get
  match s.parameters.findIdx? (· = n) with
  | some i => return .parameter i
  | none =>
    match isArray, (s.kinds.find? (·.1 = n)).map (·.2) with
    | some true, some false => failAt s.line ("illegal reference to variable " ++ n)
    | some false, some true => failAt s.line ("illegal reference to array " ++ n)
    | some k, none => modify fun s => { s with kinds := (n, k) :: s.kinds }
    | _, _ => pure ()
    match s.names.findIdx? (· = n) with
    | some i => return .global i
    | none =>
      modify fun s => { s with names := s.names.push n }
      return .global s.names.size

/-- the name is known as a variable -/
def isVariable (n : Raw) : Reader Bool := do
  let s ← get
  return s.parameters.contains n || s.names.contains n

def functionPlace (n : Raw) : Reader Nat := do
  let s ← get
  match s.functions.findIdx? (·.name = n) with
  | some i => return i
  | none =>
    set { s with functions := s.functions.push { name := n } }
    return s.functions.size

/-! ## Expressions -/

/-- the least and greatest numbers of arguments of functions that are always there -/
def arities : List (Raw × Nat × Nat) :=
  [("length", 0, 1), ("substr", 2, 3), ("index", 2, 2), ("split", 2, 3), ("sub", 2, 3), ("gsub", 2, 3),
   ("match", 2, 2), ("sprintf", 1, 255), ("sin", 1, 1), ("cos", 1, 1), ("atan2", 2, 2), ("exp", 1, 1), ("log", 1, 1),
   ("sqrt", 1, 1), ("int", 1, 1), ("rand", 0, 0), ("srand", 0, 1), ("tolower", 1, 1), ("toupper", 1, 1),
   ("system", 1, 1), ("close", 1, 1), ("fflush", 0, 1), ("systime", 0, 0), ("strftime", 0, 3), ("mktime", 1, 2)]

def assignments : List (Raw × Option Arithmetic) :=
  [("=", none), ("+=", some .add), ("-=", some .sub), ("*=", some .mul), ("/=", some .div), ("%=", some .mod),
   ("^=", some .pow)]

def comparisons : List (Raw × Comparison) :=
  [("<", .less), ("<=", .lessOrSame), ("==", .same), ("!=", .other), (">", .more), (">=", .moreOrSame)]

def Token.startsOperand : Token → Bool
  | .number _ | .text _ | .regex _ | .name _ | .called _ | .builtIn _ => true
  | .sign s => s ∈ ([['('], ['$'], ['!'], "++", "--"] : List Raw)
  | _ => false

/-- the operator of an assignment that comes next -/
def assignment? : Reader (Option (Option Arithmetic)) := do
  let s := Token.asSign (← peek).token
  return (assignments.find? (·.1 = s)).map (·.2)

/-- the comparison that comes next -/
def comparison? (free : Bool) : Reader (Option Comparison) := do
  let s := Token.asSign (← peek).token
  return if s = ['>'] ∧ free = false then none else (comparisons.find? (·.1 = s)).map (·.2)

/-- the sum or product sign that comes next -/
def operator? (signs : List (Char × Arithmetic)) : Reader (Option Arithmetic) := do
  let s := Token.asSign (← peek).token
  return (signs.find? fun p => [p.1] = s).map (·.2)

def bareName? : Reader (Option Raw) := do
  let second := Token.asSign (← peekSecond).token
  match (← peek).token with
  | .name n => return if second = [','] ∨ second = [')'] then some n else none
  | _ => return none

def arrayName : Reader Name := do
  match (← peek).token with
  | .name n =>
    let _ ← take
    place n (some true)
  | _ => refuse

def searched (line : Nat) (t : Raw) : Reader Expr := do
  match readSearch t with
  | .ok r => return .regex r
  | .error e => failAt line ("regular expression compile failed (" ++ e ++ ")\n" ++ t)

def asSearch (line : Nat) (e : Expr) : Reader Expr :=
  match e with
  | .text t => searched line t
  | e => return e

/-- arguments with the ones that are searched for -/
def asSearches (line : Nat) (n : Raw) (es : List Expr) : Reader (List Expr) := do
  if n = ("sub" : Raw) ∨ n = ("gsub" : Raw) then
    match es with
    | e :: es =>
      let e ← asSearch line e
      return e :: es
    | [] => return []
  else if n = ("match" : Raw) then
    match es with
    | [a, e] =>
      let e ← asSearch line e
      return [a, e]
    | es => return es
  else return es

/-- the function that is always there takes so many arguments -/
def takes (n : Raw) (count : Nat) : Bool :=
  match (arities.find? (·.1 = n)).map (·.2) with
  | some (least, most) => least ≤ count && count ≤ most
  | none => true

/-- a function that is always there, with its arguments -/
def builtInCall (line : Nat) (n : Raw) (es : List Expr) : Reader Expr := do
  if takes n es.length then
    let es ← asSearches line n es
    return .builtIn n es
  else failAt line ("wrong number of arguments in call to " ++ n)

/-- what an expression can be assigned to, if it can -/
def target? : Expr → Option Target
  | .value t => some t
  | _ => none

/-- operators at their levels, one level of operators that go from the left -/
def leftward (operand : Reader Expr) (step : Expr → Reader (Option Expr)) : (fuel : Nat) → Expr → Reader Expr
  | 0, _ => refuse
  | fuel + 1, e => do
    match ← step e with
    | some e => leftward operand step fuel e
    | none => return e

mutual

/-- an expression; without `free`, a greater-than sign is none of its operators -/
def expression : (fuel : Nat) → (free : Bool) → Reader Expr
  | 0, _ => refuse
  | fuel + 1, free => do
    let a ← choice fuel free
    match target? a with
    | none => return a
    | some t =>
      match ← assignment? with
      | none => return a
      | some o =>
        let _ ← take
        let e ← expression fuel free
        return .assign t o e

/-- one of two values by a condition -/
def choice : (fuel : Nat) → (free : Bool) → Reader Expr
  | 0, _ => refuse
  | fuel + 1, free => do
    let c ← anyOf fuel free
    if ← accept "?" then
      let a ← expression fuel free
      expect ":"
      let b ← expression fuel free
      return .choice c a b
    else return c

/-- conditions of which one has to hold -/
def anyOf : (fuel : Nat) → (free : Bool) → Reader Expr
  | 0, _ => refuse
  | fuel + 1, free => do
    let a ← allOf fuel free
    leftward (allOf fuel free) (fun a => do
      if ← accept "||" then
        skipLines many
        let b ← allOf fuel free
        return some (.either a b)
      else return none) many a

/-- conditions that all have to hold -/
def allOf : (fuel : Nat) → (free : Bool) → Reader Expr
  | 0, _ => refuse
  | fuel + 1, free => do
    let a ← membership fuel free
    leftward (membership fuel free) (fun a => do
      if ← accept "&&" then
        skipLines many
        let b ← membership fuel free
        return some (.both a b)
      else return none) many a

/-- an index that is looked up in an array -/
def membership : (fuel : Nat) → (free : Bool) → Reader Expr
  | 0, _ => refuse
  | fuel + 1, free => do
    let a ← matching fuel free
    leftward (matching fuel free) (fun a => do
      if ← acceptKeyword "in" then
        let n ← arrayName
        return some (.member [a] n)
      else return none) many a

/-- a text that is searched -/
def matching : (fuel : Nat) → (free : Bool) → Reader Expr
  | 0, _ => refuse
  | fuel + 1, free => do
    let a ← comparing fuel free
    leftward (comparing fuel free) (fun a => do
      let negated ← sees "!~"
      let plain ← sees "~"
      if plain || negated then
        let p ← take
        let e ← comparing fuel free
        let b ← asSearch p.line e
        return some (.matches_ negated a b)
      else return none) many a

def comparing : (fuel : Nat) → (free : Bool) → Reader Expr
  | 0, _ => refuse
  | fuel + 1, free => do
    let a ← joined fuel free
    leftward (joined fuel free) (fun a => do
      match ← comparison? free with
      | some o =>
        let _ ← take
        let b ← joined fuel free
        return some (.compare o a b)
      | none => return none) many a

/-- values that stand side by side -/
def joined : (fuel : Nat) → (free : Bool) → Reader Expr
  | 0, _ => refuse
  | fuel + 1, free => do
    let a ← sum fuel free
    leftward (sum fuel free) (fun a => do
      let p ← peek
      if Token.startsOperand p.token then
        let b ← sum fuel free
        return some (.concat a b)
      else return none) many a

def sum : (fuel : Nat) → (free : Bool) → Reader Expr
  | 0, _ => refuse
  | fuel + 1, free => do
    let a ← product fuel free
    leftward (product fuel free) (fun a => do
      match ← operator? [('+', .add), ('-', .sub)] with
      | some o =>
        let _ ← take
        let b ← product fuel free
        return some (.arithmetic o a b)
      | none => return none) many a

def product : (fuel : Nat) → (free : Bool) → Reader Expr
  | 0, _ => refuse
  | fuel + 1, free => do
    let a ← signed fuel free
    leftward (signed fuel free) (fun a => do
      match ← operator? [('*', .mul), ('/', .div), ('%', .mod)] with
      | some o =>
        let _ ← take
        let b ← signed fuel free
        return some (.arithmetic o a b)
      | none => return none) many a

/-- signs in front of a value -/
def signed : (fuel : Nat) → (free : Bool) → Reader Expr
  | 0, _ => refuse
  | fuel + 1, free => do
    if ← accept "!" then
      let e ← signed fuel free
      return .not e
    else if ← accept "-" then
      let e ← signed fuel free
      return .negative e
    else if ← accept "+" then
      let e ← signed fuel free
      return .positive e
    else
      let a ← power fuel free
      leftward (power fuel free) (fun a => do
        let second := Token.asKeyword (← peekSecond).token
        if (← sees "|") && second = ("getline" : Raw) then
          let _ ← take
          let _ ← take
          let into ← readTarget fuel
          return some (.read (.command a) into)
        else return none) many a

/-- powers -/
def power : (fuel : Nat) → (free : Bool) → Reader Expr
  | 0, _ => refuse
  | fuel + 1, free => do
    let a ← counted fuel
    if ← accept "^" then
      let b ← powerOperand fuel free
      return .arithmetic .pow a b
    else return a

def powerOperand : (fuel : Nat) → (free : Bool) → Reader Expr
  | 0, _ => refuse
  | fuel + 1, free => do
    if ← accept "-" then
      let e ← powerOperand fuel free
      return .negative e
    else if ← accept "+" then
      let e ← powerOperand fuel free
      return .positive e
    else if ← accept "!" then
      let e ← powerOperand fuel free
      return .not e
    else power fuel free

/-- a value that may be counted up or down -/
def counted : (fuel : Nat) → Reader Expr
  | 0 => refuse
  | fuel + 1 => do
    let e ← operand fuel
    match target? e with
    | none => return e
    | some t =>
      if ← accept "++" then return .count t .add false
      else if ← accept "--" then return .count t .sub false
      else return e

def readTarget : (fuel : Nat) → Reader (Option Target)
  | 0 => refuse
  | fuel + 1 => do
    let t := (← peek).token
    let isName : Bool :=
      match t with
      | .name _ => true
      | _ => false
    if isName || Token.asSign t = ['$'] then
      let e ← operand fuel
      return target? e
    else return none

def expressions : (fuel : Nat) → (free : Bool) → Reader (List Expr)
  | 0, _ => refuse
  | fuel + 1, free => do
    let e ← expression fuel free
    if ← accept "," then
      skipLines many
      let es ← expressions fuel free
      return e :: es
    else return [e]

/-- arguments of a call behind the opening parenthesis; a bare name may be an array -/
def callArguments : (fuel : Nat) → Reader (List Expr)
  | 0 => refuse
  | fuel + 1 => do
    let e : Expr ←
      match ← bareName? with
      | some n => do
        let _ ← take
        let k ← place n none
        pure (.value (.variable_ k))
      | none => expression fuel true
    if ← accept "," then
      skipLines many
      let es ← callArguments fuel
      return e :: es
    else return [e]

def argumentsOf : (fuel : Nat) → Reader (List Expr)
  | 0 => refuse
  | fuel + 1 => do
    expect "("
    if ← accept ")" then return []
    else
      let es ← callArguments fuel
      expect ")"
      return es

/-- the argument of the function that measures -/
def lengthOf : (fuel : Nat) → Reader Expr
  | 0 => refuse
  | fuel + 1 => do
    expect "("
    if ← accept ")" then return .builtIn "length" []
    else
      let e : Expr ←
        match ← bareName? with
        | some n => do
          let _ ← take
          let k ← place n none
          pure (.value (.variable_ k))
        | none => expression fuel true
      expect ")"
      return .builtIn "length" [e]

/-- a variable or an element behind its name -/
def named : (fuel : Nat) → Raw → Reader Expr
  | 0, _ => refuse
  | fuel + 1, n => do
    if ← accept "[" then
      let k ← place n (some true)
      let es ← expressions fuel true
      expect "]"
      return .value (.element k es)
    else
      let k ← place n (some false)
      return .value (.variable_ k)

/-- an expression in parentheses, or an index with several parts -/
def grouped : (fuel : Nat) → Reader Expr
  | 0 => refuse
  | fuel + 1 => do
    expect "("
    let es ← expressions fuel true
    expect ")"
    match es with
    | [e] => return .group e
    | es =>
      if ← acceptKeyword "in" then
        let n ← arrayName
        return .member es n
      else refuse

def fieldOf : (fuel : Nat) → Reader Expr
  | 0 => refuse
  | fuel + 1 => do
    if ← accept "-" then
      let e ← operand fuel
      return .value (.field (.negative e))
    else
      let e ← operand fuel
      return .value (.field e)

def signedOperand : (fuel : Nat) → Reader Expr
  | 0 => refuse
  | fuel + 1 => do
    if ← sees "(" then grouped fuel
    else if ← accept "$" then fieldOf fuel
    else
      let up ← sees "++"
      let down ← sees "--"
      if up || down then
        let _ ← take
        let t? ← readTarget fuel
        match t? with
        | some t => return .count t (if up then .add else .sub) true
        | none => refuse
      else refuse

def reading : (fuel : Nat) → Reader Expr
  | 0 => refuse
  | fuel + 1 => do
    let into ← readTarget fuel
    if ← accept "<" then
      let e ← counted fuel
      return .read (.file e) into
    else return .read .main into

def operand : (fuel : Nat) → Reader Expr
  | 0 => refuse
  | fuel + 1 => do
    let p ← peek
    match p.token with
    | .number x =>
      let _ ← take
      return .number x
    | .text t =>
      let _ ← take
      return .text t
    | .regex t =>
      let _ ← take
      searched p.line t
    | .sign _ => signedOperand fuel
    | .keyword n =>
      if n = ("getline" : Raw) then
        let _ ← take
        reading fuel
      else refuse
    | .builtIn n =>
      let _ ← take
      let given ← sees "("
      if n = ("length" : Raw) then
        if given then lengthOf fuel else return .builtIn n []
      else
        let es ← argumentsOf fuel
        builtInCall p.line n es
    | .called n =>
      let _ ← take
      if ← isVariable n then named fuel n
      else
        let k ← functionPlace n
        let es ← argumentsOf fuel
        modify fun s => { s with calls := s.calls ++ [(p.line, k, es.length)] }
        return .call k es
    | .name n =>
      let _ ← take
      named fuel n
    | _ => refuse

end

/-! ## Statements -/

/-- a simple statement ends here: a semicolon, a line feed, or in front of a closing brace -/
def endOfStatement : Reader Unit := do
  let t := (← peek).token
  let isLine : Bool :=
    match t with
    | .newline => true
    | _ => false
  if isLine || Token.asSign t = [';'] then
    let _ ← take
    skipLines many
  else if Token.asSign t = ['\x7d'] then return ()
  else refuse

def Token.endsPrinting (t : Token) : Bool :=
  Token.endsLine t || Token.asSign t ∈ ([[';'], ['\x7d'], ['>'], ">>", ['|']] : List Raw)

/-- what is printed: expressions, or a list of them in parentheses -/
def printed : Reader (List Expr) := do
  let start ← get
  if Token.endsPrinting (← peek).token then return []
  else
    let inParentheses : Reader (Option (List Expr)) := do
      if ← accept "(" then
        if ← accept ")" then return some []
        else
          let es ← expressions many true
          expect ")"
          if Token.endsPrinting (← peek).token then return some es else return none
      else return none
    match inParentheses.run start with
    | .ok (some es, s) =>
      set s
      return es
    | _ => expressions many false

/-- where output goes, if it is said -/
def outlet : Reader (Option (Outlet × Expr)) := do
  let s := Token.asSign (← peek).token
  let outlets : List (Raw × Outlet) := [(['>'], .file), (">>", .append), (['|'], .command)]
  match (outlets.find? (·.1 = s)).map (·.2) with
  | none => return none
  | some o =>
    let _ ← take
    let e ← expression many false
    return some (o, e)

def deleting : Reader Statement := do
  let paren ← accept "("
  let n ← arrayName
  let index : Option (List Expr) ←
    if ← accept "[" then
      let es ← expressions many true
      expect "]"
      pure (some es)
    else pure none
  if paren then expect ")"
  return .delete n index

def simple : Reader Statement := do
  let p ← peek
  if ← acceptKeyword "print" then
    let es ← printed
    let o ← outlet
    return .print es o
  else if ← acceptKeyword "printf" then
    let es ← printed
    if es.isEmpty then failAt p.line "no arguments in call to printf"
    else
      let o ← outlet
      return .printf es o
  else if ← acceptKeyword "delete" then deleting
  else
    let e ← expression many true
    return .expr e

def condition : Reader Expr := do
  expect "("
  let e ← expression many true
  expect ")"
  return e

/-- the value that a statement gives back, if there is one -/
def givenBack : Reader (Option Expr) := do
  let t := (← peek).token
  let sign := Token.asSign t
  if Token.endsLine t || sign = [';'] || sign = ['\x7d'] then return none
  else
    let e ← expression many true
    return some e

/-- a word that leaves something -/
def leaving (line : Nat) : Reader (Option Statement) := do
  let s ← get
  if ← acceptKeyword "next" then
    if s.outside then failAt line "improper use of next" else return some .next
  else if ← acceptKeyword "nextfile" then
    if s.outside then failAt line "improper use of nextfile" else return some .nextFile
  else if ← acceptKeyword "break" then
    if s.loops = 0 then failAt line "break statement outside of loop" else return some .break_
  else if ← acceptKeyword "continue" then
    if s.loops = 0 then failAt line "continue statement outside of loop" else return some .continue_
  else if ← acceptKeyword "exit" then
    let e ← givenBack
    return some (.exit e)
  else if ← acceptKeyword "return" then
    if s.inFunction then
      let e ← givenBack
      return some (.return_ e)
    else failAt line "return outside function body"
  else return none

def looping {α : Type} (r : Reader α) : Reader α := do
  modify fun s => { s with loops := s.loops + 1 }
  let a ← r
  modify fun s => { s with loops := s.loops - 1 }
  return a

def loopNames : Reader (Option (Name × Name)) := do
  match (← peek).token with
  | .name n =>
    let _ ← take
    if ← acceptKeyword "in" then
      let k ← place n (some false)
      let a ← arrayName
      if ← accept ")" then return some (k, a) else return none
    else return none
  | _ => return none

def loopParts : Reader (Statement × Option Expr × Statement) := do
  let first : Statement ← if ← sees ";" then pure .nothing else simple
  expect ";"
  skipLines many
  let c : Option Expr ←
    if ← sees ";" then pure none
    else do
      let e ← expression many true
      pure (some e)
  expect ";"
  skipLines many
  let step : Statement ← if ← sees ")" then pure .nothing else simple
  expect ")"
  return (first, c, step)

mutual

/-- statements up to a closing brace -/
def statements : (fuel : Nat) → Reader Statement
  | 0 => refuse
  | fuel + 1 => do
    skipEnds many
    if ← sees "\x7d" then return .nothing
    else
      let a ← statement fuel
      let b ← statements fuel
      return .sequence a b

def block : (fuel : Nat) → Reader Statement
  | 0 => refuse
  | fuel + 1 => do
    expect "\x7b"
    let b ← statements fuel
    expect "\x7d"
    return b

def inner : (fuel : Nat) → Reader Statement
  | 0 => refuse
  | fuel + 1 => do
    skipLines many
    if ← accept ";" then
      skipLines many
      return .nothing
    else statement fuel

def loopBody : (fuel : Nat) → Reader Statement
  | 0 => refuse
  | fuel + 1 => looping (inner fuel)

/-- a loop behind the keyword that counts -/
def counting : (fuel : Nat) → Reader Statement
  | 0 => refuse
  | fuel + 1 => do
    expect "("
    let start ← get
    match loopNames.run start with
    | .ok (some (k, a), s) =>
      set s
      let b ← loopBody fuel
      return .each k a b
    | _ =>
      let (first, c, step) ← loopParts
      let b ← loopBody fuel
      return .count first c step b

/-- a statement behind a condition, with what is done otherwise -/
def choosing : (fuel : Nat) → Reader Statement
  | 0 => refuse
  | fuel + 1 => do
    let c ← condition
    let a ← inner fuel
    if ← acceptKeyword "else" then
      let b ← inner fuel
      return .choice c a b
    else return .choice c a .nothing

def statement : (fuel : Nat) → Reader Statement
  | 0 => refuse
  | fuel + 1 => do
    let p ← peek
    if ← sees "\x7b" then
      let b ← block fuel
      skipLines many
      return b
    else if ← acceptKeyword "if" then choosing fuel
    else if ← acceptKeyword "while" then
      let c ← condition
      let b ← loopBody fuel
      return .while_ c b
    else if ← acceptKeyword "do" then
      let b ← loopBody fuel
      if ← acceptKeyword "while" then
        let c ← condition
        endOfStatement
        return .until_ b c
      else refuse
    else if ← acceptKeyword "for" then counting fuel
    else if ← accept ";" then
      skipLines many
      return .nothing
    else
      match ← leaving p.line with
      | some b =>
        endOfStatement
        return b
      | none =>
        let b ← simple
        endOfStatement
        return b

end

/-! ## Programs -/

def parameterNames : (fuel : Nat) → Reader (List Raw)
  | 0 => refuse
  | fuel + 1 => do
    match (← peek).token with
    | .name n =>
      let _ ← take
      if ← accept "," then
        skipLines many
        let ns ← parameterNames fuel
        return n :: ns
      else return [n]
    | _ => refuse

def function : Reader Unit := do
  let p ← peek
  let define (n : Raw) : Reader Unit := do
    let _ ← take
    let k ← functionPlace n
    let s ← get
    if (s.functions[k]?.bind (·.body)).isSome then failAt p.line ("redefinition of " ++ n)
    else
      expect "("
      let ns ← if ← sees ")" then pure [] else parameterNames many
      expect ")"
      if n ∈ ns then
        throw { line := p.line, message := "function parameter cannot be the function"
                also := some ("syntax error at or near " ++ n) }
      else
        skipLines many
        modify fun s => { s with parameters := ns, inFunction := true, outside := true }
        let b ← block many
        modify fun s =>
          { s with
            parameters := [], inFunction := false, outside := false
            functions := s.functions.setIfInBounds k { name := n, parameters := ns.length, body := some b } }
  match p.token with
  | .name n | .called n => define n
  | _ => refuse

/-- the statements of a rule, or none when the rule ends without them -/
def action (outside : Bool) : Reader (Option Statement) := do
  if ← sees "\x7b" then
    modify fun s => { s with outside }
    let b ← block many
    modify fun s => { s with outside := false }
    return some b
  else return none

/-- the pattern of a rule with an expression -/
def patternOf : Reader Pattern := do
  let a ← expression many true
  if ← accept "," then
    skipLines many
    let b ← expression many true
    return .range a b
  else return .holds a

def rule : Reader Rule := do
  let atStart ← acceptKeyword "BEGIN"
  let atEnd ← if atStart then pure false else acceptKeyword "END"
  if atStart || atEnd then
    match ← action true with
    | some b => return { pattern := if atStart then .start else .finish, body := b }
    | none => refuse
  else
    let pattern : Pattern ← if ← sees "\x7b" then pure .always else patternOf
    match ← action false with
    | some b => return { pattern, body := b }
    | none =>
      let t := (← peek).token
      if Token.endsLine t || Token.asSign t = [';'] then return { pattern, body := .print [] none } else refuse

/-- the rules and functions of a program -/
def rules : (fuel : Nat) → List Rule → Reader (List Rule)
  | 0, _ => refuse
  | fuel + 1, found => do
    skipLines many
    let p ← peek
    match p.token with
    | .finish => return found.reverse
    | _ =>
      if ← acceptKeyword "function" then
        function
        let _ ← accept ";"
        rules fuel found
      else
        let r ← rule
        let _ ← accept ";"
        rules fuel (r :: found)

/-- calls that no function is there for, or with too many arguments -/
def checkCalls (lastLine : Nat) (s : Source) : Except Fault Unit :=
  s.calls.forM fun (line, k, n) =>
    match s.functions[k]? with
    | some f =>
      if f.body.isNone then .error { line := lastLine, message := "function " ++ f.name ++ " never defined" }
      else if f.parameters < n then .error { line, message := "too many arguments in call to " ++ f.name }
      else .ok ()
    | none => .ok ()

end Reader

def read (text : Raw) : Except Fault Program := do
  let words ← tokens (text ++ ['\n'])
  let (rules, s) ← (Reader.rules Reader.many []).run { rest := words }
  Reader.checkCalls (text.count '\n' + 2) s
  return { rules, functions := s.functions, names := s.names }

end IncludeAudit.Tool.Awk
