/-
Regular expressions and what they match. A match from a given spot is a list of spots where it can end, each only once
and with the groups on the way to it; of all matches the leftmost one counts, and of those the longest.

- `Regex.ends`: where a match can end, `Regex.find?`: the match that counts.
-/
import IncludeAudit.Text.Characters

namespace IncludeAudit

/-- a regular expression; anchors match between characters -/
inductive Regex
  | empty
  | char (c : Char)
  | any
  | set (s : CharSet)
  | seq (a b : Regex)
  | alt (a b : Regex)
  | group (n : Nat) (a : Regex)
  | rep (a : Regex) (least : Nat) (most : Option Nat)
  /-- what a group has matched, once more -/
  | again (n : Nat)
  | lineStart
  | lineEnd
  | textStart
  | textEnd
  | wordStart
  | wordEnd
  /-- the edge of a word, or with `false` anything else -/
  | edge (isEdge : Bool)
  deriving DecidableEq, Repr

namespace Regex

/-- how characters are compared -/
structure Mode where
  /-- small and capital letters are the same -/
  folded : Bool := false
  /-- lines start and end at line feeds as well, and nothing but a line feed matches one -/
  lines : Bool := false
  /-- the text goes by characters and not by bytes -/
  wide : Bool := false
  deriving DecidableEq, Repr

/-- a place in a text: what follows, what is just in front, and the groups matched so far -/
structure Spot where
  rest : Raw
  previous : Option Char := none
  position : Nat := 0
  /-- numbers of groups with where they start and what they match -/
  groups : List (Nat × Nat × Raw) := []
  deriving DecidableEq, Repr

def groupCount : Regex → Nat
  | .seq a b | .alt a b => max (groupCount a) (groupCount b)
  | .group n a => max n (groupCount a)
  | .rep a _ _ => groupCount a
  | _ => 0

def Spot.group? (s : Spot) (n : Nat) : Option Raw :=
  (s.groups.find? (·.1 = n)).map (·.2.2)

def Spot.over (s : Spot) (test : Char → Bool) : List Spot :=
  match s.rest with
  | c :: r => if test c then [{ s with rest := r, previous := some c, position := s.position + 1 }] else []
  | [] => []

/-- the spot behind some characters that are known to follow -/
def Spot.skip (s : Spot) (n : Nat) : Spot :=
  if n = 0 then s
  else
    { s with rest := s.rest.drop n, previous := (s.rest.drop (n - 1)).head?, position := s.position + n }

def isWord (m : Mode) (c : Char) : Bool :=
  c.isAlphanum || c = '_' || (m.wide && 128 ≤ c.toNat && Text.isAlnum c)

def sameChar (m : Mode) (a b : Char) : Bool :=
  a = b || (m.folded && if m.wide then Raw.smallChar a = Raw.smallChar b else a.toLower = b.toLower)

def isAny (m : Mode) (c : Char) : Bool :=
  !(m.lines && c = '\n') && !(m.wide && Raw.isStray c)

def inSet (m : Mode) (s : CharSet) (c : Char) : Bool :=
  let inside : Bool :=
    match m.wide, m.folded with
    | false, false => s.has c
    | false, true => s.hasFolded c
    | true, false => s.hasWide c
    | true, true => s.hasWideFolded c
  inside && !(m.lines && s.negated && c = '\n')

/-- the test of an expression for one character -/
def single? (m : Mode) : Regex → Option (Char → Bool)
  | .char c => some (sameChar m c)
  | .any => some (isAny m)
  | .set s => some (inSet m s)
  | _ => none

def holds (m : Mode) (s : Spot) : Regex → Bool
  | .lineStart => s.previous.isNone || (m.lines && s.previous = some '\n')
  | .lineEnd => s.rest.isEmpty || (m.lines && s.rest.head? = some '\n')
  | .textStart => s.previous.isNone
  | .textEnd => s.rest.isEmpty
  | .wordStart => !s.previous.any (isWord m) && s.rest.head?.any (isWord m)
  | .wordEnd => s.previous.any (isWord m) && !s.rest.head?.any (isWord m)
  | .edge isEdge => (s.previous.any (isWord m) != s.rest.head?.any (isWord m)) = isEdge
  | _ => true

/-- the first of the spots at each position; groups matter as well when a later part repeats them -/
def distinct (exact : Bool) (ss : List Spot) : List Spot :=
  (ss.foldl (fun (acc : List Spot) s =>
    if acc.any fun t => t.position = s.position && (!exact || t.groups = s.groups) then acc else s :: acc) []).reverse

def furthest (ss : List Spot) : List Spot :=
  ss.mergeSort fun a b => b.position ≤ a.position

/-- all spots that rounds of a match lead to, the start among them; rounds that do not move are not counted -/
def closure (exact : Bool) (f : Spot → List Spot) : (fuel : Nat) → (waiting found : List Spot) → List Spot
  | 0, _, found => found
  | _, [], found => found
  | fuel + 1, s :: waiting, found =>
    if found.any fun t => t.position = s.position && (!exact || t.groups = s.groups) then
      closure exact f fuel waiting found
    else closure exact f fuel (f s ++ waiting) (s :: found)

/-- one round after another, a fixed number of times -/
def roundsOf (exact : Bool) (f : Spot → List Spot) : (n : Nat) → List Spot → List Spot
  | 0, ss => ss
  | n + 1, ss => roundsOf exact f n (distinct exact (ss.flatMap f))

/-- up to a number of further rounds -/
def upTo (exact : Bool) (f : Spot → List Spot) : (n : Nat) → List Spot → List Spot
  | 0, ss => ss
  | n + 1, ss => distinct exact (upTo exact f n (distinct exact (ss.flatMap f)) ++ ss)

/-- spots behind more and more characters that pass a test, the furthest first -/
def run (test : Char → Bool) (most : Option Nat) : (rest : Raw) → Spot → List Spot → List Spot
  | [], _, found => found
  | c :: r, s, found =>
    if test c ∧ most ≠ some 0 then
      let next := { s with rest := r, previous := some c, position := s.position + 1 }
      run test (most.map (· - 1)) r next (next :: found)
    else found

def ends (m : Mode) (exact : Bool) : Regex → Spot → List Spot
  | .empty, s => [s]
  | .char c, s => s.over (sameChar m c)
  | .any, s => s.over (isAny m)
  | .set k, s => s.over (inSet m k)
  | .seq a b, s => distinct exact ((ends m exact a s).flatMap (ends m exact b))
  | .alt a b, s => distinct exact (furthest (ends m exact a s ++ ends m exact b s))
  | .group n a, s =>
    (ends m exact a s).map fun t =>
      let text := s.rest.take (t.position - s.position)
      { t with groups := (n, s.position, text) :: t.groups.filter (·.1 ≠ n) }
  | .rep a least most, s =>
    match single? m a with
    | some test =>
      let all := run test most s.rest s [s]
      all.filter fun t => s.position + least ≤ t.position
    | none =>
      let first := roundsOf exact (ends m exact a) least [s]
      match most with
      | some n => furthest (upTo exact (ends m exact a) (n - least) first)
      | none =>
        let size := s.rest.length + 2
        furthest (closure exact (ends m exact a) (8 * size * size + 64) first [])
  | .again n, s =>
    match s.group? n with
    | none => []
    | some t =>
      let next := s.rest.take t.length
      if t.length = next.length ∧ (t.zip next).all fun p => sameChar m p.1 p.2 then [s.skip t.length] else []
  | a, s => if holds m s a then [s] else []

/-- a part of the expression repeats what a group has matched -/
def repeats : Regex → Bool
  | .again _ => true
  | .seq a b | .alt a b => repeats a || repeats b
  | .group _ a | .rep a _ _ => repeats a
  | _ => false

/-- the expression matches the empty text somewhere -/
def mayBeEmpty : Regex → Bool
  | .char _ | .any | .set _ => false
  | .seq a b => mayBeEmpty a && mayBeEmpty b
  | .alt a b => mayBeEmpty a || mayBeEmpty b
  | .group _ a => mayBeEmpty a
  | .rep a least _ => least = 0 || mayBeEmpty a
  | _ => true

/-- a test that the first character of every match passes -/
def starts? (m : Mode) : Regex → Option (Char → Bool)
  | .seq a _ => if mayBeEmpty a then none else starts? m a
  | .alt a b =>
    match starts? m a, starts? m b with
    | some f, some g => some fun c => f c || g c
    | _, _ => none
  | .group _ a => starts? m a
  | .rep a least _ => if least = 0 then none else starts? m a
  | a => single? m a

/-- the longest match from a spot: where it ends -/
def longest? (m : Mode) (r : Regex) (s : Spot) : Option Spot :=
  (ends m (repeats r) r s).foldl (fun (best : Option Spot) t =>
    match best with
    | some b => if b.position < t.position then some t else best
    | none => some t) none

/-- the leftmost match from a place on: where it starts and where it ends -/
def findFrom? (m : Mode) (first : Option (Char → Bool)) (r : Regex) : (rest : Raw) → (previous : Option Char) →
    (position : Nat) → Option (Spot × Spot)
  | [], previous, position =>
    let s : Spot := { rest := [], previous, position }
    (longest? m r s).map fun t => (s, t)
  | c :: rest, previous, position =>
    let tried : Option (Spot × Spot) :=
      if (first.map fun f => f c).getD true then
        let s : Spot := { rest := c :: rest, previous, position }
        (longest? m r s).map fun t => (s, t)
      else none
    match tried with
    | some found => some found
    | none => findFrom? m first r rest (some c) (position + 1)

/-- the match that counts in a text: where it starts and where it ends -/
def find? (m : Mode) (r : Regex) (text : Raw) : Option (Spot × Spot) :=
  findFrom? m (starts? m r) r text none 0

/-- the expression matches somewhere in the text -/
def occursIn (m : Mode) (r : Regex) (text : Raw) : Bool :=
  (find? m r text).isSome

/-- the length of a match that starts at the start of the text -/
def prefixLength? (m : Mode) (r : Regex) (text : Raw) : Option Spot :=
  longest? m r { rest := text }

/-- all matches one after another; an empty match right behind another match does not count -/
def findAll (m : Mode) (r : Regex) (text : Raw) : List (Spot × Spot) :=
  go (text.length + 2) text none 0 none
where
  /-- matches from a place on; `last` is where the one before has ended -/
  go : (fuel : Nat) → (rest : Raw) → (previous : Option Char) → (position : Nat) → (last : Option Nat) →
      List (Spot × Spot)
    | 0, _, _, _, _ => []
    | fuel + 1, rest, previous, position, last =>
      match findFrom? m (starts? m r) r rest previous position with
      | none => []
      | some (s, t) =>
        if s.position = t.position then
          let kept := if last = some s.position then [] else [(s, t)]
          match s.rest with
          | [] => kept
          | c :: rest => kept ++ go fuel rest (some c) (s.position + 1) last
        else (s, t) :: go fuel t.rest t.previous t.position (some t.position)

end Regex
end IncludeAudit
