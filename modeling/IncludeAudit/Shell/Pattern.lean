/-
Patterns with stars and question marks, as they stand in scripts, and groups of patterns behind one of the signs
`?`, `*`, `+`, `@` and `!`. A pattern leads from a text to what can be left of it, and a text fits when nothing has to
be left.

- `Pattern.accepts`: whether a text fits a pattern, `Pattern.cutFront` and `Pattern.cutBack`: what is left of a text.
-/
import IncludeAudit.Text.Characters

namespace IncludeAudit.Shell

/-- one element of a pattern -/
inductive Glob
  | char (c : Char)
  | any
  | many
  /-- a character of a set; with `wide` letters are not only those of ASCII -/
  | set (wide folded : Bool) (s : CharSet)
  /-- some of several patterns: how often they stand there is said by the sign in front -/
  | group (sign : Char) (choices : List (List Glob))
  deriving Repr

abbrev Pattern := List Glob

namespace Pattern

structure Manner where
  /-- the signs for everything else in brackets -/
  signs : Raw := "!^"
  /-- there are groups of patterns -/
  groups : Bool := false
  /-- the pattern goes by characters and not by bytes -/
  wide : Bool := false
  /-- small and capital letters are the same -/
  folded : Bool := false
  deriving DecidableEq, Repr

/-- the choices of a group up to the bracket that closes it, cut at the bars, and what is behind it -/
def choices : (depth : Nat) → List CharSet.Marked → (current : List CharSet.Marked) →
    (done : List (List CharSet.Marked)) → Option (List (List CharSet.Marked) × List CharSet.Marked)
  | _, [], _, _ => none
  | depth, m :: r, current, done =>
    if m = ('(', false) then choices (depth + 1) r (m :: current) done
    else if m = (')', false) then
      match depth with
      | 0 => some ((current.reverse :: done).reverse, r)
      | depth + 1 => choices depth r (m :: current) done
    else if m = ('|', false) ∧ depth = 0 then choices depth r [] (current.reverse :: done)
    else choices depth r (m :: current) done

def single (m : Manner) (c : Char) : Glob :=
  if m.folded ∧ (Raw.smallChar c ≠ c ∨ Raw.capitalChar c ≠ c) ∧ (m.wide ∨ c.toNat < 128) then
    let small := Raw.smallChar c
    let capital := Raw.capitalChar c
    .set m.wide true { ranges := [(small, small), (capital, capital)] }
  else .char c

def read (m : Manner) : (fuel : Nat) → List CharSet.Marked → Pattern
  | 0, _ => []
  | _, [] => []
  | fuel + 1, (c, quoted) :: r =>
    if quoted then single m c :: read m fuel r
    else
      let plain (_ : Unit) : Pattern :=
        if c = '*' then .many :: read m fuel r
        else if c = '?' then .any :: read m fuel r
        else if c = '\\' then
          match r with
          | (d, _) :: r => single m d :: read m fuel r
          | [] => [single m c]
        else if c = '[' then
          match CharSet.read m.signs true r with
          | some (s, r) => .set m.wide m.folded s :: read m fuel r
          | none => single m c :: read m fuel r
        else single m c :: read m fuel r
      if m.groups ∧ c ∈ ("?*+@!" : Raw) ∧ r.head? = some ('(', false) then
        match choices 0 r.tail [] [] with
        | some (cs, behind) => .group c (cs.map (read m fuel)) :: read m fuel behind
        | none => plain ()
      else plain ()

def ofMarked (m : Manner) (ms : List CharSet.Marked) : Pattern :=
  read m (ms.length + 1) ms

def ofText (m : Manner) (t : Text) : Pattern :=
  ofMarked m (t.map fun c => (c, false))

/-- ends of one text in two lists put together, the longest first -/
def merge (a b : List Text) : List Text :=
  let all := (a ++ b).mergeSort fun x y => y.length ≤ x.length
  all.foldr (fun t acc => if acc.head?.map (·.length) = some t.length then acc else t :: acc) []

/-- all ends of a text, the longest first -/
def tails : Text → List Text
  | [] => [[]]
  | c :: r => (c :: r) :: tails r

/-- what rounds of a step lead to, what there was at first among it -/
def rounds (f : List Text → List Text) : (fuel : Nat) → (fresh found : List Text) → List Text
  | 0, _, found => found
  | fuel + 1, fresh, found =>
    let next := (f fresh).filter fun t => found.all fun u => u.length ≠ t.length
    if next = [] then found else rounds f fuel next (merge found next)

def dropOne (test : Char → Bool) (ts : List Text) : List Text :=
  ts.filterMap fun t =>
    match t with
    | c :: r => if test c then some r else none
    | [] => none

/-- what can be left of some ends of a text behind an element of a pattern; both lists start with the longest -/
def step : (fuel : Nat) → Glob → List Text → List Text
  | 0, _, _ => []
  | fuel + 1, g, ts =>
    let through (p : Pattern) (ts : List Text) : List Text := p.foldl (fun ts g => step fuel g ts) ts
    let once (cs : List Pattern) (ts : List Text) : List Text := cs.foldl (fun found p => merge found (through p ts)) []
    match g with
    | .char c => dropOne (· = c) ts
    | .any => dropOne (fun _ => true) ts
    | .set wide folded s =>
      match wide, folded with
      | false, false => dropOne s.has ts
      | false, true => dropOne s.hasFolded ts
      | true, false => dropOne s.hasWide ts
      | true, true => dropOne s.hasWideFolded ts
    | .many =>
      match ts with
      | t :: _ => tails t
      | [] => []
    | .group sign cs =>
      let size := (ts.head?.map (·.length)).getD 0
      if sign = '@' then once cs ts
      else if sign = '?' then merge ts (once cs ts)
      else if sign = '*' then rounds (once cs) (size + 1) ts ts
      else if sign = '+' then
        let first := once cs ts
        rounds (once cs) (size + 1) first first
      else
        ts.foldl (fun found t =>
          let whole := once cs [t]
          merge found ((tails t).filter fun u => whole.all fun w => w.length ≠ u.length)) []

/-- how deep groups stand in one another, at most -/
def maxDepth : Nat := 64

def left (p : Pattern) (t : Text) : List Text :=
  p.foldl (fun ts g => if ts = [] then [] else step maxDepth g ts) [t]

def accepts (p : Pattern) (t : Text) : Bool :=
  ((left p t).getLast?.map List.isEmpty).getD false

/-- the pattern has an element that stands for more than one text -/
def isOpen (p : Pattern) : Bool :=
  p.any fun g =>
    match g with
    | .char _ => false
    | _ => true

/-- the character that every text which fits starts with -/
def start? (p : Pattern) : Option Char :=
  match p.head? with
  | some (.char c) => some c
  | _ => none

/-- the text without the shortest or longest start that fits -/
def cutFront (longest : Bool) (p : Pattern) (t : Text) : Text :=
  let ends := left p t
  ((if longest then ends.getLast? else ends.head?)).getD t

/-- the text without the shortest or longest end that fits -/
def cutBack (longest : Bool) (p : Pattern) (t : Text) : Text :=
  let lengths := List.range (t.length + 1)
  match (if longest then lengths else lengths.reverse).find? fun n => accepts p (t.drop n) with
  | some n => t.take n
  | none => t

def longestFit? (p : Pattern) (t : Text) : Option Nat :=
  (left p t).getLast?.map fun u => t.length - u.length

/-- the text with the first, or every, part that fits replaced by what `new` makes of it -/
def replace (all : Bool) (p : Pattern) (new : Text → Text) : (fuel : Nat) → Text → Text
  | 0, t => t
  | fuel + 1, t =>
    match t with
    | [] => []
    | c :: r =>
      match longestFit? p t with
      | some (n + 1) =>
        let behind := t.drop (n + 1)
        new (t.take (n + 1)) ++ if all then replace all p new fuel behind else behind
      | _ => c :: replace all p new fuel r

/-- a name fits a pattern in brackets, stars and question marks -/
def fitsName (wide folded : Bool) (glob name : Raw) : Bool :=
  let inward : Raw → Text := if wide then Raw.characters else fun t => t
  (ofText { wide, folded } (inward glob)).accepts (inward name)

end Pattern

def markedCharacters (ms : List CharSet.Marked) : List CharSet.Marked :=
  if ms.all fun m => m.1.toNat < 128 then ms
  else
    let (done, run, mark) := ms.foldl (fun (acc : List CharSet.Marked × Raw × Bool) m =>
      let (done, run, mark) := acc
      if m.2 = mark then (done, m.1 :: run, mark)
      else (((Raw.characters run.reverse).map fun c => (c, mark)).reverse ++ done, [m.1], m.2)) ([], [], false)
    (((Raw.characters run.reverse).map fun c => (c, mark)).reverse ++ done).reverse

end IncludeAudit.Shell
