/-
The grammar of scripts. Commands are read one complete line at a time, so that the lines before a mistake can still be
carried out.

- `readCommand`: the next complete command of a text.
-/
import IncludeAudit.Shell.Lexer
import IncludeAudit.Tool.Condition

namespace IncludeAudit.Shell

def endsList : Token → Bool
  | .finish => true
  | .sign t => t ∈ ([[')'], [';', ';'], [';', '&'], ";;&"] : List Raw)
  | .keyword t => t ∈ (["do", "done", "elif", "else", "esac", "fi", "then", "\x7d"] : List Raw)
  | _ => false

/-- cuts the text of an index at the bracket that closes it and the sign that assigns, which may add to what there is;
else the number of brackets that are open -/
def cutIndex : (depth : Nat) → (before : Raw) → Raw → Nat × Option (Raw × Bool × Raw)
  | depth, _, [] => (depth, none)
  | depth, before, c :: rest =>
    if c = '[' then cutIndex (depth + 1) (c :: before) rest
    else if c = ']' then
      match depth, rest with
      | 0, '=' :: v => (0, some (before.reverse, false, v))
      | 0, '+' :: '=' :: v => (0, some (before.reverse, true, v))
      | 0, _ => cutIndex 0 (c :: before) rest
      | depth + 1, _ => cutIndex depth (c :: before) rest
    else cutIndex depth (c :: before) rest

/-- the parts of an index up to the bracket that closes it and the sign that assigns; the sign may add to what there
is, and then comes the value -/
def splitIndex : (depth : Nat) → Word → (front : Word) → Option (Word × Bool × Word)
  | _, [], _ => none
  | depth, .text t false :: r, front =>
    match cutIndex depth [] t with
    | (_, some (before, added, v)) =>
      let index : Word := front ++ (if before = [] then [] else [.text before false])
      some (if index.isEmpty then [.text [] false] else index, added, if v = [] then r else .text v false :: r)
    | (depth, none) => splitIndex depth r (front ++ [.text t false])
  | depth, p :: r, front => splitIndex depth r (front ++ [p])

/-- an element of an array with its index, and whether it is added to what there is -/
def element? : Word → Option (Word × Bool × Word)
  | .text ('[' :: t) false :: r => splitIndex 0 (.text t false :: r) []
  | _ => none

/-- a word that assigns: the name, and what is assigned -/
def assignment? (wide : Bool) : Word → Option Assignment
  | .text t false :: r =>
    let name := t.takeWhile isNameChar
    let behind := t.drop name.length
    let value (v : Raw) : Word := if v = [] then r else .text v false :: r
    if isName name then
      match behind with
      | '=' :: v => some { name, value := value v }
      | '+' :: '=' :: v => if wide then some { name, added := true, value := value v } else none
      | '[' :: r' =>
        if wide then
          (splitIndex 0 (.text r' false :: r) []).map fun (index, added, value) => { name, index := some index, added, value }
        else none
      | _ => none
    else none
  | _ => none

/-- commands that end the shell when they fail; they cannot be the name of a function -/
def isSpecialCommand (name : Raw) : Bool :=
  name ∈ ([".", ":", "break", "continue", "eval", "exec", "exit", "export", "readonly", "return", "set", "shift",
    "times", "trap", "unset"] : List Raw)

/-- puts one command behind another -/
def Script.andThen : Script → Script → Script
  | .nothing, b => b
  | a, b => .sequence a b

/-- `quoted` says that the sign is shown in quotes -/
def named (t : Raw) : Option Raw :=
  some ('"' :: t ++ ['"'])

/-- the words of a condition do not fit together: why, if it can be said -/
def misfit {α : Type} (reason : Option Raw) : Reader α := do
  let p ← get
  -- a line feed belongs to the line that it ends
  let ends := (p.start.take (p.start.length - p.rest.length)).getLast? = some '\n'
  throw { line := if ends then p.line - 1 else p.line, message := [], reason, left := some p.rest.length }

/-- a token that has no place in a condition: what is said of it -/
def misplaced {α : Type} (t : Token) (front behind : Raw) : Reader α := do
  let shown := t.spelled []
  match t with
  | .finish =>
    let p ← get
    throw { line := p.line, message := [], reason := some (front ++ "\x60EOF'" ++ behind), token := some [] }
  | .redirect _ _ _ =>
    let p ← get
    let number := p.start.takeWhile Char.isDigit
    if number = [] then misfit (some (front ++ '\x60' :: p.start.takeWhile (fun c => c = '<' || c = '>') ++ '\'' :: behind))
    else
      set { p with rest := p.start.drop number.length }
      misfit (some (front ++ "284" ++ behind))
  | _ => misfit (some (front ++ '\x60' :: shown ++ '\'' :: behind))

/-- what has been read from one place to another, as it is spelled -/
def writtenBetween (before after : Pos) : Raw :=
  before.rest.take (before.rest.length - after.rest.length)

/-- the token that comes now could not be the name of a function's body -/
def startsGroup : Token → Bool
  | .keyword t => t ∈ (["if", "while", "until", "for", "select", "case", "\x7b", "[["] : List Raw)
  | .sign t => t = "("
  | _ => false

/-- a keyword as the word that it is elsewhere -/
def Token.asWord : Token → Token
  | .keyword k => .word [.text k false] (some k) k
  | t => t

mutual

/-- moves over an inner script and the bracket that closes it -/
def skipNested : (fuel : Nat) → Reader Unit
  | 0 => Reader.fail "too deep"
  | fuel + 1 => do
    let before ← get
    set { before with pushed := none }
    let _ ← readList fuel 2 .nothing
    match ← nextToken (skipNested fuel) fuel true false with
    | .sign [')'] => return
    | t => unexpected t (named [')'])

/-- commands up to a token that ends them. With an odd `kind` a line end is such a token; with kind 2 the list may be
empty -/
def readList : (fuel : Nat) → (kind : Nat) → Script → Reader Script
  | 0, _, _ => Reader.fail "too deep"
  | fuel + 1, kind, soFar => do
    let next := nextToken (skipNested fuel) fuel
    let wholeLine := kind % 2 = 1
    let t ← next (!wholeLine) true
    match t with
    | .sign ['\n'] => return soFar
    | .finish =>
      pushBack t
      return soFar
    | _ =>
      pushBack t
      if kind = 2 ∧ endsList t then return soFar
      let kind := kind ||| 2
      let one ← readAndOr fuel
      let t ← next false false
      match t with
      | .sign ['&'] => readList fuel kind (soFar.andThen (.background one))
      | .sign [';'] => readList fuel kind (soFar.andThen one)
      | .sign ['\n'] =>
        pushBack t
        readList fuel kind (soFar.andThen one)
      | .finish =>
        pushBack t
        return soFar.andThen one
      | _ =>
        if wholeLine then unexpected t none
        pushBack t
        return soFar.andThen one

/-- pipelines joined by `&&` and `||` -/
def readAndOr : (fuel : Nat) → Reader Script
  | 0 => Reader.fail "too deep"
  | fuel + 1 => do
    readAndOrTail fuel (← readPipeline fuel false)

/-- what follows a pipeline -/
def readAndOrTail : (fuel : Nat) → Script → Reader Script
  | 0, _ => Reader.fail "too deep"
  | fuel + 1, first => do
    let t ← nextToken (skipNested fuel) fuel false false
    match t with
    | .sign ['&', '&'] => readAndOrTail fuel (.both first (← readPipeline fuel true))
    | .sign ['|', '|'] => readAndOrTail fuel (.either first (← readPipeline fuel true))
    | _ =>
      pushBack t
      return first

/-- commands joined by pipes -/
def readPipeline : (fuel : Nat) → (lineEnds : Bool) → Reader Script
  | 0, _ => Reader.fail "too deep"
  | fuel + 1, lineEnds => do
    let next := nextToken (skipNested fuel) fuel
    let t ← next lineEnds true
    match t with
    | .keyword ['!'] =>
      if (← get).wide then return .negated (← readRest fuel)
      else return .negated (← readPipes fuel (← readCommandOf fuel false))
    | .keyword ['t', 'i', 'm', 'e'] =>
      match ← next false true with
      | .word _ (some ['-', 'p']) _ => return .timed true (← readRest fuel)
      | t =>
        pushBack t
        return .timed false (← readRest fuel)
    | _ =>
      pushBack t
      readPipes fuel (← readCommandOf fuel false)

/-- what a word in front of a pipeline is about; there may be nothing -/
def readRest : (fuel : Nat) → Reader Script
  | 0 => Reader.fail "too deep"
  | fuel + 1 => do
    let t ← nextToken (skipNested fuel) fuel false true
    pushBack t
    match t with
    | .finish | .sign ['\n'] | .sign [';'] => return .nothing
    | _ => readPipeline fuel false

/-- what follows the first command of a pipeline -/
def readPipes : (fuel : Nat) → Script → Reader Script
  | 0, _ => Reader.fail "too deep"
  | fuel + 1, first => do
    let t ← nextToken (skipNested fuel) fuel false false
    match t with
    | .sign ['|'] =>
      let second ← readCommandOf fuel true
      return .pipe first (← readPipes fuel second)
    | .sign ['|', '&'] =>
      let second ← readCommandOf fuel true
      let both : Redirection := { fd := 2, direction := .copyOutput, target := [.text ['1'] false], spelled := ['1'] }
      return .pipe (.redirected 0 first [both]) (← readPipes fuel second)
    | _ =>
      pushBack t
      return first

/-- the alternatives of an `if` behind its word -/
def readChoice : (fuel : Nat) → Reader Script
  | 0 => Reader.fail "too deep"
  | fuel + 1 => do
    let next := nextToken (skipNested fuel) fuel
    let condition ← readList fuel 0 .nothing
    match ← next false true with
    | .keyword ['t', 'h', 'e', 'n'] => pure ()
    | t => unexpected t (named "then")
    let yes ← readList fuel 0 .nothing
    match ← next false true with
    | .keyword ['e', 'l', 'i', 'f'] => return .choice condition yes (← readChoice fuel)
    | .keyword ['e', 'l', 's', 'e'] =>
      let no ← readList fuel 0 .nothing
      match ← next false true with
      | .keyword ['f', 'i'] => return .choice condition yes no
      | t => unexpected t (named "fi")
    | .keyword ['f', 'i'] => return .choice condition yes .nothing
    | t => unexpected t (named "fi")

/-- the body of a loop with its words -/
def readBody : (fuel : Nat) → (lineEnds : Bool) → Reader Script
  | 0, _ => Reader.fail "too deep"
  | fuel + 1, lineEnds => do
    let next := nextToken (skipNested fuel) fuel
    match ← next lineEnds true with
    | .keyword ['d', 'o'] => pure ()
    | t => unexpected t (named "do")
    let body ← readList fuel 0 .nothing
    match ← next false true with
    | .keyword ['d', 'o', 'n', 'e'] => return body
    | t => unexpected t (named "done")

/-- words up to the end of the line, also as they are spelled -/
def readWords : (fuel : Nat) → List (Word × Raw) → Reader (List (Word × Raw))
  | 0, _ => Reader.fail "too deep"
  | fuel + 1, soFar => do
    let t ← nextToken (skipNested fuel) fuel false false
    match t with
    | .word w _ spelled => readWords fuel (soFar ++ [(w, spelled)])
    | .sign ['\n'] | .sign [';'] => return soFar
    | _ => unexpected t none

/-- words up to a closing bracket, over line ends -/
def readElements : (fuel : Nat) → (start : Nat) → List (Word × Raw) → Reader (List (Word × Raw))
  | 0, _, _ => Reader.fail "too deep"
  | fuel + 1, start, soFar => do
    modify fun p => { p with listing := true }
    let t ← nextToken (skipNested fuel) fuel true false
    modify fun p => { p with listing := false }
    match t with
    | .word w _ spelled => readElements fuel start (soFar ++ [(w, spelled)])
    | .sign [')'] => return soFar
    | .finish => tryCatch (Reader.cutShort "end of file unexpected" ')' start) fun e => throw { e with status := 1 }
    | _ => tryCatch (unexpected t (named [')'])) fun e => throw { e with status := 1 }

/-- one condition in double brackets, or two words that are compared; `t` is the token that it starts with -/
def readTerm : (fuel : Nat) → Token → Reader (List (Word × Raw))
  | 0, _ => Reader.fail "too deep"
  | fuel + 1, t => do
    let next := nextToken (skipNested fuel) fuel
    match t with
    | .sign ['('] =>
      let inside ← readConditions fuel (← next true false)
      match ← next true false with
      | .sign [')'] => return ([.text ['('] false], ['(']) :: inside ++ [([.text [')'] false], [')'])]
      | t =>
        let p ← get
        let shown := t.spelled (p.start.take (p.start.length - p.rest.length))
        misfit (some ("unexpected token \x60" ++ shown ++ "', expected \x60)'"))
    | .word w (some ['!']) spelled => return (w, spelled) :: (← readTerm fuel (← next true false))
    | .word _ (some [']', ']']) _ => misfit none
    | .word w plain spelled =>
      let isUnary : Bool := plain.any fun u => Tool.Condition.isSingle u
      if isUnary then
        match ← next false false with
        | .word _ (some [']', ']']) _ => misfit (some "unexpected argument \x60]]' to conditional unary operator")
        | .word x _ shown => return [(w, spelled), (x, shown)]
        | t =>
          let shown := t.spelled []
          misfit (some ("unexpected argument \x60" ++ shown ++ "' to conditional unary operator"))
      else
        modify fun p => { p with groups := false }
        let o ← next false false
        let operand (o : Word) (spelledOperator : Raw) : Reader (List (Word × Raw)) := do
          let operator := (plain? o).getD []
          if operator = "=~" then
            skipBlanks fuel
            let before ← get
            let x ← parts (skipNested fuel) fuel .pattern
            let after ← get
            return [(w, spelled), (o, spelledOperator), (x, before.rest.take (before.rest.length - after.rest.length))]
          else
            let outer := (← get).groups
            modify fun p => { p with groups := outer || operator = "==" || operator = "=" || operator = "!=" }
            let found ← next false false
            modify fun p => { p with groups := outer }
            match found with
            | .word _ (some [']', ']']) _ => misfit (some "unexpected argument \x60]]' to conditional binary operator")
            | .word x _ shown => return [(w, spelled), (o, spelledOperator), (x, shown)]
            | t =>
              let shown := t.spelled []
              misfit (some ("unexpected argument \x60" ++ shown ++ "' to conditional binary operator"))
        match o with
        | .word _ (some [']', ']']) _ =>
          pushBack o
          return [(w, ("-n " : Raw) ++ spelled)]
        | .word x (some operator) shown =>
          if operator = "=~" ∨ Tool.Condition.binaryOperators.contains operator then operand x shown
          else misfit (some "conditional binary operator expected")
        | .redirect _ _ .input => operand [.text ['<'] false] ['<']
        | .redirect _ _ .output => operand [.text ['>'] false] ['>']
        | .sign ['&', '&'] | .sign ['|', '|'] | .sign [')'] =>
          pushBack o
          return [(w, ("-n " : Raw) ++ spelled)]
        | .word _ none _ => misfit (some "conditional binary operator expected")
        | t => misplaced t "unexpected token " ", conditional binary operator expected"
    | t => misplaced t "unexpected token " " in conditional command"

def readConditions : (fuel : Nat) → Token → Reader (List (Word × Raw))
  | 0, _ => Reader.fail "too deep"
  | fuel + 1, t => do
    let next := nextToken (skipNested fuel) fuel
    let sign (t : Raw) : Word × Raw := ([.text t false], t)
    let one ← readTerm fuel t
    match ← next true false with
    | .sign ['&', '&'] => return one ++ sign "&&" :: (← readConditions fuel (← next true false))
    | .sign ['|', '|'] => return one ++ sign "||" :: (← readConditions fuel (← next true false))
    | t =>
      pushBack t
      return one

/-- the words and signs of a condition up to the brackets that close it -/
def readCondition : (fuel : Nat) → Reader (List (Word × Raw))
  | 0 => Reader.fail "too deep"
  | fuel + 1 => do
    let next := nextToken (skipNested fuel) fuel
    let before ← get
    let found ← readConditions fuel (← next true false)
    modify fun p => { p with groups := before.groups }
    match ← next true false with
    | .word _ (some [']', ']']) _ => return found
    | .finish =>
      throw { line := before.line, message := [], reason := some "unexpected EOF while looking for \x60]]'", token := some [] }
    | .word _ _ _ => misfit (some "syntax error in conditional expression")
    | t => misplaced t "syntax error in conditional expression: unexpected token " []

/-- the patterns of one case, also as they are spelled -/
def readPatterns : (fuel : Nat) → Token → List (Word × Raw) → Reader (List (Word × Raw))
  | 0, _, _ => Reader.fail "too deep"
  | fuel + 1, t, soFar => do
    let next := nextToken (skipNested fuel) fuel
    let w : Word × Raw ←
      match t.asWord with
      | .word w _ spelled => pure (w, spelled)
      | _ => if (← get).wide then unexpected t none else pure ([], [])
    match ← next false false with
    | .sign ['|'] => readPatterns fuel (← next false false) (soFar ++ [w])
    | .sign [')'] => return soFar ++ [w]
    | t => unexpected t (named [')'])

def readCases : (fuel : Nat) → Reader (List (List Word × Raw × Script × After))
  | 0 => Reader.fail "too deep"
  | fuel + 1 => do
    let next := nextToken (skipNested fuel) fuel
    match ← next true true with
    | .keyword ['e', 's', 'a', 'c'] => return []
    | t =>
      let t ← match t with
        | .sign ['('] => next false false
        | t => pure t
      let patterns ← readPatterns fuel t []
      let body ← readList fuel 2 .nothing
      let one (after : After) : List Word × Raw × Script × After :=
        (patterns.map (·.1), Text.paste " | " (patterns.map (·.2)), body, after)
      match ← next true true with
      | .keyword ['e', 's', 'a', 'c'] => return [one .stop]
      | .sign [';', ';'] => return one .stop :: (← readCases fuel)
      | .sign [';', '&'] => return one .next :: (← readCases fuel)
      | .sign [';', ';', '&'] => return one .others :: (← readCases fuel)
      | t => unexpected t (named ";;")

def readTarget : (fuel : Nat) → Token → Reader Redirection
  | 0, _ => Reader.fail "too deep"
  | fuel + 1, t => do
    match t with
    | .redirect fd holder direction =>
      match ← nextToken (skipNested fuel) fuel false false with
      | .word w _ spelled => return { fd, direction, target := w, holder, spelled }
      | t => unexpected t none
    | .document fd holder noTabs =>
      match ← nextToken (skipNested fuel) fuel false false with
      | .word w _ _ =>
        let p ← get
        let line := p.rest.takeWhile (· ≠ '\n')
        let behind := (p.rest.drop (line.length + 1)).drop p.taken
        let mark := spelling w
        let (text, size, isEnded) := documentLines mark noTabs (behind.length + 1) behind
        let warning : List (Nat × Nat × Raw) :=
          if p.wide ∧ !isEnded then
            let before := (p.rest.drop (line.length + 1)).take p.taken
            [(p.line + before.count '\n' + text.count '\n', p.line, mark)]
          else []
        set { p with taken := p.taken + size, unended := p.unended ++ warning }
        let document := some { mark, quoted := hasQuotes w, noTabs, body := text }
        if hasQuotes w then return { fd, direction := .here, target := [.text text true], holder, document }
        else
          let inner : Pos := { rest := text, line := p.line + 1, wide := p.wide, byCharacters := p.byCharacters }
          match (parts (skipNested fuel) fuel .here).run inner with
          | .ok (w, _) => return { fd, direction := .here, target := w, holder, document }
          | .error e => throw e
      | t => unexpected t none
    | t => unexpected t none

def readRedirections : (fuel : Nat) → List Redirection → Reader (List Redirection)
  | 0, _ => Reader.fail "too deep"
  | fuel + 1, soFar => do
    let t ← nextToken (skipNested fuel) fuel false true
    match t with
    | .redirect _ _ _ | .document _ _ _ => readRedirections fuel (soFar ++ [← readTarget fuel t])
    | _ =>
      pushBack t
      return soFar

def readFunction : (fuel : Nat) → (name : Raw) → Reader Script
  | 0, _ => Reader.fail "too deep"
  | fuel + 1, name => do
    let line := (← get).line
    if (← get).wide then
      let t ← nextToken (skipNested fuel) fuel true true
      pushBack t
      if !startsGroup t then unexpected t none
    return .define name line (← readCommandOf fuel true)

/-- a command made of words, which are kept as they are spelled as well -/
def readSimple : (fuel : Nat) → (line : Nat) → List Assignment → List Word → List Redirection → (shown : List Raw) →
    Reader Script
  | 0, _, _, _, _, _ => Reader.fail "too deep"
  | fuel + 1, line, as, ws, rs, shown => do
    let next := nextToken (skipNested fuel) fuel
    let wide := (← get).wide
    let declares : Bool :=
      match ws with
      | [.text c false] :: _ =>
        (["declare", "local", "export", "readonly", "typeset"] : List Raw).contains c
      | _ => false
    modify fun p => { p with assigning := ws.isEmpty || declares }
    let t ← next false false
    let whole : Script := .simple line as ws rs (Text.paste [' '] shown)
    match t with
    | .word w _ spelled =>
      match (if ws.isEmpty ∨ (wide ∧ declares) then assignment? wide w else none) with
      | some a =>
        let p ← get
        if wide ∧ a.value.isEmpty ∧ p.rest.head? = some '(' then
          Reader.skip
          let elements ← readElements fuel p.line []
          let listed : Raw := '(' :: Text.paste [' '] (elements.map (·.2)) ++ [')']
          let a := { a with elements := some (elements.map (·.1)), spelled := listed }
          let shown := shown ++ [spelled ++ listed]
          if ws.isEmpty then readSimple fuel line (as ++ [a]) ws rs shown
          else readSimple fuel line (as ++ [a]) (ws ++ [[.text a.name false]]) rs shown
        else if ws.isEmpty then readSimple fuel line (as ++ [a]) ws rs (shown ++ [spelled])
        else readSimple fuel line as (ws ++ [w]) rs (shown ++ [spelled])
      | none => readSimple fuel line as (ws ++ [w]) rs (shown ++ [spelled])
    | .redirect _ _ _ | .document _ _ _ => readSimple fuel line as ws (rs ++ [← readTarget fuel t]) shown
    | .sign ['('] =>
      match as, ws, rs with
      | [], [w], [] =>
        match ← next false false with
        | .sign [')'] =>
          match plain? w with
          | some name =>
            if (isName name || wide) && !(isSpecialCommand name && !wide) then readFunction fuel name
            else Reader.fail "Bad function name"
          | none =>
            if wide then throw { line, message := '\x60' :: Text.paste [' '] shown ++ "': not a valid identifier", status := 1 }
            else Reader.fail "Bad function name"
        | t => unexpected t (named [')'])
      | _, _, _ =>
        pushBack t
        return whole
    | _ =>
      pushBack t
      return whole

/-- the variable, the words and the commands of a loop over words -/
def readRounds : (fuel : Nat) → (make : Raw → List Word → Script → Raw → Script) → Reader Script
  | 0, _ => Reader.fail "too deep"
  | fuel + 1, make => do
    let next := nextToken (skipNested fuel) fuel
    let wide := (← get).wide
    match ← next false false with
    | .word _ plain spelled =>
      let name := plain.getD spelled
      if !wide ∧ !isName name then Reader.fail "Bad for loop variable"
      match ← next true true with
      | .keyword ['i', 'n'] =>
        let ws ← readWords fuel []
        return make name (ws.map (·.1)) (← readBody fuel true) (Text.paste [' '] (ws.map (·.2)))
      | t =>
        match t with
        | .sign [';'] => pure ()
        | t => pushBack t
        return make name [[.parameter ['@'] none .value [] true]] (← readBody fuel true) "\"$@\""
    | t => if wide then unexpected t none else Reader.fail "Bad for loop variable"

def readCommandOf : (fuel : Nat) → (lineEnds : Bool) → Reader Script
  | 0, _ => Reader.fail "too deep"
  | fuel + 1, lineEnds => do
    let next := nextToken (skipNested fuel) fuel
    let t ← next lineEnds true
    let p ← get
    let line := p.line
    let close (body : Script) : Reader Script := do
      let rs ← readRedirections fuel []
      return if rs.isEmpty then body else .redirected line body rs
    match t with
    | .keyword ['i', 'f'] => close (← readChoice fuel)
    | .keyword ['w', 'h', 'i', 'l', 'e'] =>
      let condition ← readList fuel 0 .nothing
      close (.loop false condition (← readBody fuel false))
    | .keyword ['u', 'n', 't', 'i', 'l'] =>
      let condition ← readList fuel 0 .nothing
      close (.loop true condition (← readBody fuel false))
    | .keyword ['f', 'o', 'r'] =>
      skipBlanks fuel
      let p ← get
      if p.wide ∧ ("((" : Raw).isPrefixOf p.rest then
        set { p with rest := p.rest.drop 2 }
        let part (stops : Raw) : Reader (Word × Raw) := do
          let before ← get
          let w ← parts (skipNested fuel) fuel (.sums 0 stops)
          let written := writtenBetween before (← get)
          return (w, (written.take (written.length - if stops = [] then 2 else 1)).dropWhile Raw.isSpace)
        let start ← part [';']
        let condition ← part [';']
        let step ← part []
        match ← next true true with
        | .sign [';'] => pure ()
        | t => pushBack t
        let t ← next true true
        let body ← match t with
          | .keyword ['\x7b'] => do
            let body ← readList fuel 0 .nothing
            match ← next false true with
            | .keyword ['\x7d'] => pure body
            | t => unexpected t (named ['\x7d'])
          | t => do
            pushBack t
            readBody fuel true
        close (.count line start.1 condition.1 step.1 body [start.2, condition.2, step.2])
      else close (← readRounds fuel (fun name ws body spelled => .forEach line name ws body spelled))
    | .keyword ['s', 'e', 'l', 'e', 'c', 't'] =>
      close (← readRounds fuel (fun name ws body spelled => .menu line name ws body spelled))
    | .keyword ['c', 'a', 's', 'e'] =>
      match ← next false false with
      | .word w _ spelled =>
        match ← next true true with
        | .keyword ['i', 'n'] => close (.select line w (← readCases fuel) spelled)
        | t => unexpected t (named "in")
      | t => unexpected t (some "word")
    | .keyword ['\x7b'] =>
      let body ← readList fuel 0 .nothing
      match ← next false true with
      | .keyword ['\x7d'] => close (.group body)
      | t => unexpected t (named ['\x7d'])
    | .keyword ['[', '['] =>
      let words ← readCondition fuel
      close (.condition line (words.map (·.1)) (Text.paste [' '] (words.map (·.2))))
    | .keyword ['f', 'u', 'n', 'c', 't', 'i', 'o', 'n'] =>
      match ← next false false with
      | .word w _ _ =>
        match ← next false false with
        | .sign ['('] => let _ ← next false false
        | t => pushBack t.asWord
        readFunction fuel (spelling w)
      | t => unexpected t none
    | .keyword ['c', 'o', 'p', 'r', 'o', 'c'] =>
      let t ← next false true
      match t with
      | .word w (some name) spelled =>
        let t ← next false true
        if startsGroup t then
          pushBack t
          return .partner line name (← readCommandOf fuel false)
        else
          pushBack t.asWord
          return .partner line "COPROC" (← readSimple fuel line [] [w] [] [spelled])
      | t =>
        pushBack t
        return .partner line "COPROC" (← readCommandOf fuel false)
    | .sign ['('] =>
      let subshell : Reader Script := do
        let body ← readList fuel 0 .nothing
        match ← next false true with
        | .sign [')'] => return .apart body (← readRedirections fuel [])
        | t => unexpected t (named [')'])
      if p.wide ∧ p.rest.head? = some '(' then
        let sum : Reader (Option (Word × Raw)) := do
          Reader.skip
          let before ← get
          let e ← parts (skipNested fuel) fuel (.sums 0 [])
          let written := writtenBetween before (← get)
          return some (e, written.take (written.length - 2))
        -- what looks like a sum may be commands in brackets
        match ← tryCatch sum fun e => if e.missing.isNone ∧ e.reason.isNone then return none else throw e with
        | some (e, written) => close (.compute line e written)
        | none => subshell
      else subshell
    | .word _ _ _ | .redirect _ _ _ | .document _ _ _ =>
      pushBack t
      readSimple fuel line [] [] [] []
    | t => unexpected t none

end

/-- the next complete command of a text, none at its end; a command takes no more steps than its text has
characters, some times over -/
def readCommand (p : Pos) : Except Mistake (Option Script × Pos) :=
  let fuel := 20 * p.rest.length + 40
  match (nextToken (skipNested fuel) fuel true true).run p with
  | .error e => .error e
  | .ok (.finish, p) => .ok (none, p)
  | .ok (t, p) =>
    match (readList fuel 1 .nothing).run { p with pushed := some t } with
    | .error e => .error e
    | .ok (s, p) => .ok (some s, p)

def readText (wide byCharacters : Bool) (line : Nat) (text : Raw) : Except Mistake Word :=
  let fuel := 20 * text.length + 40
  ((parts (skipNested fuel) fuel .here).run { rest := text, line, wide, byCharacters }).map (·.1)

end IncludeAudit.Shell
