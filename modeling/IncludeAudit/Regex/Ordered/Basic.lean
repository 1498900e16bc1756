/-
Regular expressions whose alternatives are tried in order. A match is found by going back: a part tells what comes
behind it where it may end, and tries another end when that fails. So the first way that works counts, and not the
longest one.

- `Ordered`: expressions, `Ordered.run`: matching from a place on, `Ordered.search`: the first match.
-/
import IncludeAudit.Text.Letters

namespace IncludeAudit

inductive CharClass
  | digit
  | space
  | word
  deriving DecidableEq, Repr

/-- members of a set of characters -/
inductive Member
  | char (c : Char)
  | range (a b : Char)
  | kind (k : CharClass) (negated : Bool)
  deriving DecidableEq, Repr

inductive CharTest
  | char (c : Char)
  | any
  | anyInLine
  | members (negated : Bool) (ms : List Member)
  deriving DecidableEq, Repr

/-- how a part is repeated: as often as it can be first, or as rarely, or without going back -/
inductive Greed
  | greedy
  | lazy
  | possessive
  deriving DecidableEq, Repr

/-- places between characters -/
inductive Anchor
  | start
  | lineStart
  | finish
  /-- the end, or in front of a line feed at the end -/
  | nearFinish
  | lineFinish
  | edge (negated : Bool)
  deriving DecidableEq, Repr

/-- expressions whose alternatives are tried in order -/
inductive Ordered
  | empty
  | never
  /-- one character; the case of letters may not matter -/
  | one (folds narrow : Bool) (t : CharTest)
  | anchor (narrow : Bool) (a : Anchor)
  | seq (a b : Ordered)
  | alt (a b : Ordered)
  | rep (g : Greed) (least : Nat) (most : Option Nat) (a : Ordered)
  | group (n : Nat) (a : Ordered)
  /-- what a group has matched, once more -/
  | again (folds : Bool) (n : Nat)
  | ahead (negated : Bool) (a : Ordered)
  /-- in front of the place, in so many characters -/
  | behind (negated : Bool) (width : Nat) (a : Ordered)
  /-- one or the other, as a group has matched or not -/
  | choose (n : Nat) (yes no : Ordered)
  /-- the first way to match it, without going back -/
  | atomic (a : Ordered)
  deriving Inhabited, Repr

namespace Ordered

/-- the character is of a class; with `narrow` only characters of ASCII are -/
def ofClass (narrow : Bool) (k : CharClass) (c : Char) : Bool :=
  let wide := !narrow || c.toNat < 128
  wide && match k with
  | .digit => Text.isDecimal c
  | .space => Text.isBlankChar c || (0x1c ≤ c.toNat && c.toNat ≤ 0x1f && !narrow)
  | .word => Text.isAlnum c || c = '_'

def Member.has (narrow : Bool) (c : Char) : Member → Bool
  | .char d => c = d
  | .range a b => a ≤ c && c ≤ b
  | .kind k negated => ofClass narrow k c != negated

def otherCase (narrow : Bool) (c : Char) : Char :=
  if narrow ∧ 128 ≤ c.toNat then c
  else
    let l := Text.smallChar c
    if l ≠ c then l
    else
      match Text.capital c with
      | [u] => u
      | _ => c

def passes (folds narrow : Bool) (t : CharTest) (c : Char) : Bool :=
  match t with
  | .char d => c = d || (folds && otherCase narrow c = d)
  | .any => true
  | .anyInLine => c ≠ '\n'
  | .members negated ms =>
    let has (c : Char) : Bool := ms.any (Member.has narrow c)
    (has c || (folds && has (otherCase narrow c))) != negated

/-- what groups have matched, the latest first -/
abbrev Groups := List (Nat × Nat × Nat)

def Groups.get? (g : Groups) (n : Nat) : Option (Nat × Nat) :=
  (g.find? (·.1 = n)).map (·.2)

/-- a text that is searched, up to a place -/
structure Subject where
  chars : Array Char
  stop : Nat

/-- the end of a match, with its groups -/
abbrev Found := Option (Nat × Groups)

/-- what comes behind a part -/
abbrev Next := Nat → Groups → Found

/-- a character of a word lies at a place -/
def Subject.isWordAt (s : Subject) (narrow : Bool) (n : Nat) : Bool :=
  n < s.stop && ((s.chars[n]?).map (ofClass narrow .word)).getD false

def Subject.fits (s : Subject) (narrow : Bool) (a : Anchor) (n : Nat) : Bool :=
  let isBreak (n : Nat) : Bool := s.chars[n]? = some '\n'
  match a with
  | .start => n = 0
  | .lineStart => n = 0 || isBreak (n - 1)
  | .finish => n = s.stop
  | .nearFinish => n = s.stop || (n + 1 = s.stop && isBreak n)
  | .lineFinish => n = s.stop || isBreak n
  | .edge negated => ((0 < n && s.isWordAt narrow (n - 1)) != s.isWordAt narrow n) != negated

/-- how many characters in a row pass a test, counted on from `acc` -/
def Subject.countFrom (s : Subject) (p : Char → Bool) : (most : Nat) → (n : Nat) → (acc : Nat) → Nat
  | 0, _, acc => acc
  | most + 1, n, acc =>
    if n < s.stop then
      match s.chars[n]? with
      | some c => if p c then countFrom s p most (n + 1) (acc + 1) else acc
      | none => acc
    else acc

/-- goes on behind so many characters or fewer, most of them first -/
def backOff (k : Nat → Found) (least : Nat) : (n : Nat) → Found
  | 0 => if least = 0 then k 0 else none
  | n + 1 =>
    if n + 1 < least then none
    else
      match k (n + 1) with
      | some r => some r
      | none => backOff k least n

/-- goes on behind so many characters or more, fewest of them first -/
def goOn (k : Nat → Found) : (left : Nat) → (n : Nat) → Found
  | 0, n => k n
  | left + 1, n =>
    match k n with
    | some r => some r
    | none => goOn k left (n + 1)

/-- a part several times, most often first -/
def often (body : Nat → Groups → Next → Found) (least : Nat) (most : Option Nat) :
    (fuel : Nat) → (count : Nat) → Nat → Groups → Next → Found
  | 0, _, n, g, k => k n g
  | fuel + 1, count, n, g, k =>
    let further : Found :=
      if most.any (· ≤ count) then none
      else body n g fun m h => if m = n ∧ least ≤ count then none else often body least most fuel (count + 1) m h k
    match further with
    | some r => some r
    | none => if least ≤ count then k n g else none

/-- a part several times, most rarely first -/
def rarely (body : Nat → Groups → Next → Found) (least : Nat) (most : Option Nat) :
    (fuel : Nat) → (count : Nat) → Nat → Groups → Next → Found
  | 0, _, _, _, _ => none
  | fuel + 1, count, n, g, k =>
    let here : Found := if least ≤ count then k n g else none
    match here with
    | some r => some r
    | none =>
      if most.any (· ≤ count) then none
      else body n g fun m h => if m = n ∧ least ≤ count then none else rarely body least most fuel (count + 1) m h k

/-- the characters of a text at a place are those between two other places -/
def Subject.repeats (s : Subject) (folds : Bool) (a : Nat) : (length : Nat) → (n : Nat) → Bool
  | 0, _ => true
  | length + 1, n =>
    let fold (c : Char) : Char := if folds then Text.smallChar c else c
    n < s.stop && (s.chars[n]?).map fold = (s.chars[a]?).map fold && repeats s folds (a + 1) length (n + 1)

/-- matches from a place on, with what comes behind -/
def run (s : Subject) : Ordered → Nat → Groups → Next → Found
  | .empty, n, g, k => k n g
  | .never, _, _, _ => none
  | .one folds narrow t, n, g, k =>
    if n < s.stop then
      match s.chars[n]? with
      | some c => if passes folds narrow t c then k (n + 1) g else none
      | none => none
    else none
  | .anchor narrow a, n, g, k => if s.fits narrow a n then k n g else none
  | .seq a b, n, g, k => run s a n g fun m h => run s b m h k
  | .alt a b, n, g, k =>
    match run s a n g k with
    | some r => some r
    | none => run s b n g k
  | .rep greed least most a, n, g, k =>
    match a with
    | .one folds narrow t =>
      let room := s.stop - n
      let most := (most.map (min room)).getD room
      let count := s.countFrom (passes folds narrow t) most n 0
      if count < least then none
      else
        match greed with
        | .greedy => backOff (fun m => k (n + m) g) least count
        | .possessive => k (n + count) g
        | .lazy => goOn (fun m => k (n + m) g) (count - least) least
    | a =>
      let fuel := s.stop - n + least + 2
      match greed with
      | .greedy => often (run s a) least most fuel 0 n g k
      | .lazy => rarely (run s a) least most fuel 0 n g k
      | .possessive =>
        match often (run s a) least most fuel 0 n g (fun m h => some (m, h)) with
        | some (m, h) => k m h
        | none => none
  | .group i a, n, g, k => run s a n g fun m h => k m ((i, n, m) :: h)
  | .again folds i, n, g, k =>
    match Groups.get? g i with
    | some (a, b) => if s.repeats folds a (b - a) n then k (n + (b - a)) g else none
    | none => none
  | .ahead negated a, n, g, k =>
    match run s a n g (fun m h => some (m, h)) with
    | some (_, h) => if negated then none else k n h
    | none => if negated then k n g else none
  | .behind negated width a, n, g, k =>
    let found : Found :=
      if n < width then none
      else run { s with stop := n } a (n - width) g fun m h => if m = n then some (m, h) else none
    match found with
    | some (_, h) => if negated then none else k n h
    | none => if negated then k n g else none
  | .choose i yes no, n, g, k =>
    if (Groups.get? g i).isSome then run s yes n g k else run s no n g k
  | .atomic a, n, g, k =>
    match run s a n g (fun m h => some (m, h)) with
    | some (m, h) => k m h
    | none => none

/-- the least and the greatest number of characters that are matched -/
def width : Ordered → Nat × Option Nat
  | .one _ _ _ => (1, some 1)
  | .seq a b =>
    let (l, h) := width a
    let (l', h') := width b
    (l + l', h.bind fun x => h'.map (x + ·))
  | .alt a b =>
    let (l, h) := width a
    let (l', h') := width b
    (min l l', h.bind fun x => h'.map (max x))
  | .rep _ least most a =>
    let (l, h) := width a
    (least * l, if h = some 0 then some 0 else h.bind fun x => most.map (· * x))
  | .group _ a | .atomic a => width a
  | .again _ _ => (0, none)
  | .choose _ a b =>
    let (l, h) := width a
    let (l', h') := width b
    (min l l', h.bind fun x => h'.map (max x))
  | _ => (0, some 0)

/-- the first match at a place or behind it: where it begins and ends, and its groups -/
def search (s : Subject) (e : Ordered) (accept : Nat → Nat → Bool) : (left : Nat) → (n : Nat) → Option (Nat × Nat × Groups)
  | 0, n => (run s e n [] fun m g => if accept n m then some (m, g) else none).map fun r => (n, r)
  | left + 1, n =>
    match run s e n [] fun m g => if accept n m then some (m, g) else none with
    | some r => some (n, r)
    | none => search s e accept left (n + 1)

end Ordered
end IncludeAudit
