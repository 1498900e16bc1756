/-
Numbers: rows of numbers, and expressions on numbers and texts.

- `seq`: numbers in equal steps, `expr`: the value of an expression.
-/
import IncludeAudit.Regex.Reader
import IncludeAudit.Tool.Format

namespace IncludeAudit.Tool

/-! ## Rows -/

namespace Row

/-- a decimal number: `top / 10 ^ places`, as it is spelled in `width` characters -/
structure Number where
  top : Int
  /-- digits behind the point that are shown -/
  places : Nat
  width : Nat
  /-- digits behind the point in `top` -/
  scale : Nat
  /-- shown with as few digits as need be -/
  general : Bool := false
  deriving DecidableEq, Repr

/-- the number that digits in base sixteen spell -/
def hex? (r : Raw) : Option Nat :=
  if r ≠ [] ∧ r.all (fun c => c.isDigit || ('a' ≤ c.toLower && c.toLower ≤ 'f')) then
    some (r.foldl (fun n c =>
      let c := c.toLower
      n * 16 + if c.isDigit then c.toNat - 48 else c.toNat - 87) 0)
  else none

/-- the number that a word spells -/
def read? (w : Raw) : Option Number :=
  let w := w.dropWhile Raw.isSpace
  let w := if w.head? = some '+' then w.tail else w
  let negative := w.head? = some '-'
  let body := if negative then w.tail else w
  let sign (n : Nat) : Int := if negative then -(n : Int) else n
  let hexed : Option Nat :=
    match body with
    | '0' :: 'x' :: r | '0' :: 'X' :: r => hex? r
    | _ => none
  match hexed with
  | some n => some { top := sign n, places := 0, width := 0, scale := 0, general := true }
  | none =>
    let whole := body.takeWhile Char.isDigit
    let rest := body.drop whole.length
    let fraction : Raw := if rest.head? = some '.' then rest.tail.takeWhile Char.isDigit else []
    let rest := if rest.head? = some '.' then rest.drop (fraction.length + 1) else rest
    let exponent : Option Int :=
      match rest with
      | [] => some 0
      | e :: r => if e.toLower = 'e' then Raw.int? r else none
    if whole = [] ∧ fraction = [] then none
    else
      match exponent with
      | none => none
      | some e =>
        let digits := Raw.toNat (whole ++ fraction)
        let scale : Int := (fraction.length : Int) - e
        let width := w.length + (if whole = [] then 1 else 0) - (if rest = [] ∧ w.getLast? = some '.' then 1 else 0)
        if 0 ≤ scale then
          some { top := sign digits, places := scale.toNat, width, scale := scale.toNat }
        else some { top := sign (digits * Nat.pow 10 (-scale).toNat), places := 0, width, scale := 0 }

/-- a number with a fixed number of digits behind the point -/
def shown (top : Int) (scale places : Nat) : Raw :=
  let r : Decimal.Ratio := { top := top.natAbs, bottom := Nat.pow 10 scale }
  let body : Raw := if top = 0 then (if places = 0 then ['0'] else '0' :: '.' :: List.replicate places '0') else Decimal.fixedRatio r places
  if top < 0 then '-' :: body else body

/-- a text brought to a width with zeros behind its sign -/
def zeroFilled (width : Nat) (t : Raw) : Raw :=
  let gap := List.replicate (width - t.length) '0'
  match t with
  | '-' :: r => '-' :: gap ++ r
  | r => gap ++ r

/-- the numbers from one to another in steps, as far as `most` -/
def values (first step last : Int) : List Int :=
  if step = 0 then []
  else
    let n : Int := (last - first) / step
    let count : Nat := if 0 < step then (if last < first then 0 else n.toNat + 1) else (if first < last then 0 else (first - last).toNat / step.natAbs + 1)
    (List.range count).map fun (i : Nat) => first + (i : Int) * step

/-- the format of a number: what is in front of its only directive, the directive, and what is behind it -/
def readFormat (f : Raw) : Except Raw (Raw × Directive × Raw) :=
  let isDirective : Piece → Bool := fun p =>
    match p with
    | .text _ => false
    | _ => true
  let lead (t : Raw) : Raw := "format " ++ quote t
  let pieces := Format.pieces none "eEfFgGaA" ['L'] (f.length + 1) f
  let text (ps : List Piece) : Raw :=
    ps.flatMap fun p =>
      match p with
      | .text t => t
      | _ => []
  match pieces.dropWhile (fun p => !isDirective p) with
  | [] => .error (lead f ++ " has no % directive")
  | .directive d :: rest =>
    if rest.any isDirective then .error (lead f ++ " has too many % directives")
    else .ok (text (pieces.takeWhile fun p => !isDirective p), d, text rest)
  | .dangling _ :: _ => .error (lead f ++ " ends in %")
  | _ => .error (lead f ++ " has unknown %" ++ ((f.dropWhile (· ≠ '%')).tail.take 1) ++ " directive")

end Row

/-- whether a word that starts with a dash is a number -/
def isNegativeNumber (w : Raw) : Bool :=
  match w with
  | '-' :: c :: _ => c.isDigit || c = '.'
  | _ => false

/-- prints numbers in equal steps -/
def seq (c : Call) : Answer :=
  -- a negative number ends the options
  let isOption (w : Raw) : Bool := w.head? = some '-' && !isNegativeNumber w && w ≠ ['-']
  let rec front : List Raw → List Raw
    | [] => []
    | w :: rest =>
      if isOption w = false then []
      else
        match w, rest with
        | ['-', 'f'], v :: rest | ['-', 's'], v :: rest => w :: v :: front rest
        | w, rest => if w = "--" then [w] else w :: front rest
  let own := front c.arguments
  let known := [valuedOption 'f' "format", valuedOption 's' "separator", option 'w' "equal-width"]
  match options known true own with
  | .error e => c.misused e 1
  | .ok p =>
    let operands := p.operands ++ c.arguments.drop own.length
    let misread (w : Raw) : Answer := c.misused ("invalid floating point argument: " ++ quote w) 1
    match operands with
    | [] => c.misused "missing operand" 1
    | _ :: _ :: _ :: extra :: _ => c.misused ("extra operand " ++ quote extra) 1
    | ws =>
      let numbers := ws.map fun w => (w, Row.read? w)
      match numbers.find? fun n => n.2.isNone with
      | some (w, _) => misread w
      | none =>
        let one : Row.Number := { top := 1, places := 0, width := 1, scale := 0 }
        let ns := numbers.filterMap (·.2)
        let (first, step, last) : Row.Number × Row.Number × Row.Number :=
          match ns with
          | [a, b, d] => (a, b, d)
          | [a, d] => (a, one, d)
          | [d] => (one, one, d)
          | _ => (one, one, one)
        if step.top = 0 then
          c.misused ("invalid Zero increment value: " ++ quote ((ws[1]?).getD [])) 1
        else if p.has 'f' ∧ p.has 'w' then
          c.misused "format string may not be specified when printing equal width strings" 1
        else
          let scale := max first.scale (max step.scale last.scale)
          let up (n : Row.Number) : Int := n.top * Nat.pow 10 (scale - n.scale)
          let values := Row.values (up first) (up step) (up last)
          let places := max first.places step.places
          let widthOf (n : Row.Number) : Nat :=
            n.width + (places - n.places) + (if n.places = 0 ∧ 0 < places then 1 else 0)
          let lastWidth := widthOf last - (if 0 < last.places then (last.places - places) + (if places = 0 then 1 else 0) else 0)
          let width := if p.has 'w' then max (widthOf first) lastWidth else 0
          let format : Except Raw (Int → Raw) :=
            match p.value? 'f' with
            | some f =>
              (Row.readFormat f).map fun (before, d, behind) => fun v =>
                let x := toFloat v.natAbs (-(scale : Int))
                before ++ d.showFloat (if v < 0 then -x else x) ++ behind
            | none => .ok fun v => Row.zeroFilled width (Row.shown v scale places)
          match format with
          | .error e => c.fail e 1
          | .ok show_ =>
            let separator := (p.value? 's').getD ['\n']
            let shown := values.map show_
            let (out, _) := shown.foldl (fun (acc : List Raw × Bool) t =>
              ((if acc.2 then t else separator ++ t) :: acc.1, false)) ([], true)
            if shown = [] then {} else .print ((['\n'] :: out).reverse.flatten)

/-! ## Expressions -/

namespace Expression

structure Fault where
  message : Raw
  status : Nat := 2
  deriving DecidableEq, Repr

structure Words where
  rest : List Raw
  previous : Raw := []
  deriving DecidableEq, Repr

abbrev Reader := StateT Words (Except Fault)

def next? (words : List Raw) : Reader (Option Raw) := do
  let s ← get
  match s.rest with
  | w :: r =>
    if words.contains w then
      set { s with rest := r, previous := w }
      return some w
    else return none
  | [] => return none

/-- the next word, whatever it is -/
def take : Reader Raw := do
  let s ← get
  match s.rest with
  | w :: r =>
    set { s with rest := r, previous := w }
    return w
  | [] =>
    throw { message := "syntax error: missing argument after " ++ quote (Raw.ofCharacters s.previous) }

/-- the integer that a value spells -/
def integer? (v : Raw) : Option Int :=
  match v with
  | '-' :: r => (Raw.nat? r).map fun n => -(n : Int)
  | r => (Raw.nat? r).map fun n => (n : Int)

/-- an empty value or a zero -/
def isNull (v : Raw) : Bool :=
  let digits := if v.head? = some '-' then v.tail else v
  v = [] || (digits ≠ [] && digits.all (· = '0'))

/-- the integer that a value has to spell -/
def integer (v : Raw) : Reader Int :=
  match integer? v with
  | some n => return n
  | none => throw { message := "non-integer argument" }

/-- what an expression matches at the start of a text: its first group, or the length of the match -/
def matching (wide : Bool) (v pattern : Text) : Reader Text := do
  match Regex.read {} pattern with
  | .error e => throw { message := e.message }
  | .ok r =>
    let grouped := hasGroup r
    match Regex.prefixLength? { wide } r v with
    | none => return if grouped then [] else ['0']
    | some t => return if grouped then (t.group? 1).getD [] else Text.ofNat t.position
where
  /-- the expression has a group -/
  hasGroup : Regex → Bool
    | .group _ _ => true
    | .seq a b | .alt a b => hasGroup a || hasGroup b
    | .rep a _ _ => hasGroup a
    | _ => false

/-- the place of the first character of a text that is in a set -/
def index (v set : Raw) : Raw :=
  let n := (v.takeWhile fun c => !(set.any (· = c))).length
  Text.ofNat (if n < v.length then n + 1 else 0)

/-- a part of a text -/
def substring (v position length : Raw) : Raw :=
  match integer? position, integer? length with
  | some p, some n => if 0 < p ∧ 0 < n then (v.drop (p.toNat - 1)).take n.toNat else []
  | _, _ => []

/-- two values in their order -/
def compared (operator : Raw) (a b : Raw) : Raw :=
  let (less, same) : Bool × Bool :=
    match integer? a, integer? b with
    | some m, some n => (m < n, m = n)
    | _, _ => (a ≠ b && Raw.le a b, a = b)
  let holds : Bool :=
    if operator = "<" then less
    else if operator = "<=" then less || same
    else if operator = "=" ∨ operator = "==" then same
    else if operator = "!=" then !same
    else if operator = ">=" then !less
    else !(less || same)
  if holds then ['1'] else ['0']

/-- two numbers brought together; nothing is computed for a value that does not count -/
def computed (counts : Bool) (operator : Raw) (a b : Raw) : Reader Raw := do
  if !counts then return a
  let m ← integer a
  let n ← integer b
  if operator = "+" then return Text.ofInt (m + n)
  else if operator = "-" then return Text.ofInt (m - n)
  else if operator = "*" then return Text.ofInt (m * n)
  else if n = 0 then throw { message := "division by zero" }
  else if operator = "/" then return Text.ofInt (m.tdiv n)
  else return Text.ofInt (m.tmod n)

/-- the operators from the loosest to the tightest -/
def levels : List (List Raw) :=
  [["|"], ["&"], ["<", "<=", "=", "==", "!=", ">=", ">"], ["+", "-"], ["*", "/", "%"], [":"]]

mutual

/-- operands of the operators of a level, from left to right -/
def level (wide : Bool) : (fuel : Nat) → (counts : Bool) → (n : Nat) → Reader Raw
  | 0, _, _ => return []
  | fuel + 1, counts, n => do
    match levels[n]? with
    | none => operand wide fuel counts
    | some operators =>
      let a ← level wide fuel counts (n + 1)
      more wide fuel counts n operators a

/-- further operands of a level -/
def more (wide : Bool) : (fuel : Nat) → (counts : Bool) → (n : Nat) → List Raw → Raw → Reader Raw
  | 0, _, _, _, a => return a
  | fuel + 1, counts, n, operators, a => do
    match ← next? operators with
    | none => return a
    | some o =>
      let inner : Bool := if o = "|" then counts && isNull a else if o = "&" then counts && !isNull a else counts
      let b ← level wide fuel inner (n + 1)
      let value : Raw ←
        if o = "|" then pure (if !isNull a then a else if isNull b then ['0'] else b)
        else if o = "&" then pure (if isNull a || isNull b then ['0'] else a)
        else if o = ":" then (if counts then matching wide a b else pure a)
        else if n = 2 then pure (compared o a b)
        else computed counts o a b
      more wide fuel counts n operators value

def operand (wide : Bool) : (fuel : Nat) → (counts : Bool) → Reader Raw
  | 0, _ => return []
  | fuel + 1, counts => do
    match ← next? ["+", "length", "match", "index", "substr"] with
    | some o =>
      if o = "+" then take
      else
        let a ← operand wide fuel counts
        if o = "length" then return Text.ofNat a.length
        else
          let b ← operand wide fuel counts
          if o = "match" then (if counts then matching wide a b else return a)
          else if o = "index" then return index a b
          else return substring a b (← operand wide fuel counts)
    | none =>
      match ← next? ["(", ")"] with
      | some o =>
        if o = ")" then throw { message := "syntax error: unexpected ')'" }
        let a ← level wide fuel counts 0
        match ← next? [")"] with
        | some _ => return a
        | none =>
          let s ← get
          match s.rest with
          | [] => throw { message := "syntax error: expecting ')' after " ++ quote (Raw.ofCharacters s.previous) }
          | w :: _ => throw { message := "syntax error: expecting ')' instead of " ++ quote (Raw.ofCharacters w) }
      | none => take

end

def value (wide : Bool) (words : List Text) : Except Fault Text := do
  let (v, s) ← (level wide (16 * words.length + 64) true 0).run { rest := words }
  match s.rest with
  | [] => return v
  | w :: _ => throw { message := "syntax error: unexpected argument " ++ quote (Raw.ofCharacters w) }

end Expression

/-- prints the value of an expression -/
def expr (c : Call) : Answer :=
  let words : List Raw := if c.arguments.head? = some "--" then c.arguments.tail else c.arguments
  if words = [] then c.misused "missing operand" 2
  else
    let wide := c.isWide
    match Expression.value wide (if wide then words.map Raw.characters else words) with
    | .ok v => { Answer.print ((if wide then Raw.ofCharacters v else v) ++ ['\n']) with status := if Expression.isNull v then 1 else 0 }
    | .error f => c.fail f.message f.status

end IncludeAudit.Tool
