/-
Expressions to be searched for, as programs spell them: every part needs something to match, and a backslash and a
letter stand for a character.

- `readSearch`: the expression that a text spells.
-/
import IncludeAudit.Regex.Reader
import IncludeAudit.Tool.Format

namespace IncludeAudit.Tool.Awk

inductive Branch
  | empty
  | anchor
  | operand
  deriving DecidableEq, Repr

/-- a character that stands for itself, as it is spelled; the latest character comes first -/
def literal (c : Char) : Raw :=
  if c ∈ (".[]*+?()\x7b\x7d|^$\\" : Raw) then [c, '\\'] else [c]

def literalInSet (c : Char) : Raw :=
  if c ∈ ("\\]^-[" : Raw) then [c, '\\'] else [c]

def escaped (r : Raw) : Char × Raw :=
  match r with
  | [] => ('\\', [])
  | c :: r' =>
    if c = 'c' ∨ c = 'e' then (c, r')
    else
      match escape { hex := true } r with
      | .text [d] r => (d, r)
      | _ => (c, r')

/-- a set up to its closing bracket, in the usual spelling with the latest character first -/
def readSearchSet : (fuel : Nat) → (first : Bool) → Raw → Raw → Option (Raw × Raw)
  | 0, _, _, _ => none
  | _, _, [], _ => none
  | fuel + 1, first, c :: r, t =>
    if c = ']' ∧ first = false then some (c :: t, r)
    else if c = ']' then readSearchSet fuel false r (']' :: '\\' :: t)
    else if c = '\\' then
      let (d, r) := escaped r
      readSearchSet fuel false r (literalInSet d ++ t)
    else if c = '[' ∧ r.head? = some ':' then
      let name := r.tail.takeWhile Char.isAlpha
      match r.tail.drop name.length with
      | ':' :: ']' :: r => readSearchSet fuel false r (']' :: ':' :: name.reverse ++ ':' :: c :: t)
      | _ => readSearchSet fuel false r (c :: '\\' :: t)
    else readSearchSet fuel false r (c :: t)

/-- an expression in the usual spelling, with the latest character first -/
def spelled : (fuel depth : Nat) → Branch → Raw → Raw → Except Raw Raw
  | 0, _, _, _, t => .ok t
  | fuel + 1, depth, b, r, t =>
    match r with
    | [] =>
      if 0 < depth then .error "missing ')'"
      else if b = .empty ∧ t ≠ [] then .error "missing operand"
      else .ok t
    | c :: r =>
      match c with
      | '\\' =>
        let (d, r) := escaped r
        spelled fuel depth .operand r (literal d ++ t)
      | '[' =>
        let (first, r) : Raw × Raw := if r.head? = some '^' then (['^', '['], r.tail) else (['['], r)
        match readSearchSet (r.length + 1) true r (first ++ t) with
        | some (t, r) => spelled fuel depth .operand r t
        | none => .error "bad class -- [], [^] or ["
      | '(' =>
        spelled fuel (depth + 1) .empty r (c :: t)
      | ')' =>
        if depth = 0 then spelled fuel depth .operand r (literal c ++ t)
        else if b = .empty then .error "missing operand"
        else spelled fuel (depth - 1) .operand r (c :: t)
      | '|' => if b = .empty then .error "missing operand" else spelled fuel depth .empty r (c :: t)
      | '^' => spelled fuel depth (if b = .empty then .anchor else .operand) r (c :: t)
      | '*' | '+' | '?' =>
        match b with
        | .empty => .error "missing operand"
        | .anchor => .error "syntax error ^* or ^+"
        | .operand => spelled fuel depth b r (c :: t)
      | '\x7b' =>
        if b = .empty ∨ (r.head?.any fun d => d.isDigit || d = ',') = false then spelled fuel depth .operand r (literal c ++ t)
        else spelled fuel depth b r (c :: t)
      | c => spelled fuel depth .operand r (c :: t)

/-- the expression that a text spells -/
def readSearch (t : Raw) : Except Raw Regex := do
  let r ← spelled (t.length + 1) 0 .empty t []
  match Regex.read { extended := true, plainBrackets := false } r.reverse with
  | .ok e => return e
  | .error _ => throw ("syntax error" : Raw)

end IncludeAudit.Tool.Awk
