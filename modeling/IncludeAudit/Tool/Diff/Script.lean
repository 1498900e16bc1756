/-
Which lines of two files differ. Lines go by the numbers of their classes: lines of one class count as the same. The
search runs from both ends at once, one step of change after another, and splits the problem where the two meet; lines
without a partner are left out beforehand, and runs of changes are moved as far down as they go.

- `changed`: for both files, which lines have changed, `changes`: the same as a list of changes in order.
-/
import IncludeAudit.Text.Utf8

namespace IncludeAudit.Tool.Diff

/-- classes of the lines of a file -/
abbrev Classes := Array Nat

/-- which lines have changed -/
abbrev Marks := Array Bool

/-- an element of an array that may be asked for with a number below zero -/
def at_ {α : Type} (default_ : α) (xs : Array α) (i : Int) : α :=
  if i < 0 then default_ else xs.getD i.toNat default_

/-! ## Lines without a partner -/

/-- how a line is treated -/
inductive Fate
  | kept
  | dropped
  /-- dropped if the lines around it are -/
  | doubtful
  deriving DecidableEq, Repr, Inhabited

/-- how often each class occurs -/
def counts (size : Nat) (cs : Classes) : Array Nat :=
  cs.foldl (fun (ns : Array Nat) c => ns.modify c (· + 1)) (Array.replicate size 0)

/-- twice as many for every two bits of a number -/
def doubled : (fuel : Nat) → (n result : Nat) → Nat
  | 0, _, r => r
  | fuel + 1, n, r => if n / 4 = 0 then r else doubled fuel (n / 4) (2 * r)

/-- the first idea of the fates of lines: a class that is not in the other file is dropped -/
def firstFates (others : Array Nat) (cs : Classes) : Array Fate :=
  let many := doubled 64 (cs.size / 64) 5
  cs.map fun c =>
    let n := others.getD c 0
    if n = 0 then .dropped else if many < n then .doubtful else .kept

/-- keeps a doubtful line -/
def keepAt (fs : Array Fate) (i : Nat) : Array Fate :=
  if fs.getD i .kept = .doubtful then fs.setIfInBounds i .kept else fs

/-- keeps doubtful lines in a long row inside a run; `i` is where the run starts -/
def keepRows (i length least : Nat) : (fuel : Nat) → (j consecutive : Nat) → Array Fate → Array Fate
  | 0, _, _, fs => fs
  | fuel + 1, j, n, fs =>
    if length ≤ j then fs
    else if fs.getD (i + j) .kept ≠ .doubtful then keepRows i length least fuel (j + 1) 0 fs
    else
      let n := n + 1
      if n = least then keepRows i length least fuel (j + 1 - n) n fs
      else if least < n then keepRows i length least fuel (j + 1) n (fs.setIfInBounds (i + j) .kept)
      else keepRows i length least fuel (j + 1) n fs

/-- keeps doubtful lines at one end of a run, up to three dropped lines in a row -/
def keepEnd (place : Nat → Nat) (length : Nat) : (fuel : Nat) → (j consecutive : Nat) → Array Fate → Array Fate
  | 0, _, _, fs => fs
  | fuel + 1, j, n, fs =>
    if length ≤ j then fs
    else
      let f := fs.getD (place j) .kept
      if 8 ≤ j ∧ f = .dropped then fs
      else
        match f with
        | .doubtful => keepEnd place length fuel (j + 1) 0 (fs.setIfInBounds (place j) .kept)
        | .kept => keepEnd place length fuel (j + 1) 0 fs
        | .dropped => if n + 1 = 3 then fs else keepEnd place length fuel (j + 1) (n + 1) fs

def runEnd (fs : Array Fate) : (fuel : Nat) → Nat → Nat
  | 0, j => j
  | fuel + 1, j => if j < fs.size ∧ fs.getD j .kept ≠ .kept then runEnd fs fuel (j + 1) else j

/-- keeps doubtful lines in front of a place and steps back over them -/
def keepBack (i : Nat) : (fuel : Nat) → Nat → Array Fate → Nat × Array Fate
  | 0, j, fs => (j, fs)
  | fuel + 1, j, fs =>
    if i < j ∧ fs.getD (j - 1) .kept = .doubtful then keepBack i fuel (j - 1) (fs.setIfInBounds (j - 1) .kept)
    else (j, fs)

/-- decides about doubtful lines from a place on -/
def settle : (fuel : Nat) → Nat → Array Fate → Array Fate
  | 0, _, fs => fs
  | fuel + 1, i, fs =>
    if fs.size ≤ i then fs
    else
      match fs.getD i .kept with
      | .kept => settle fuel (i + 1) fs
      | .doubtful => settle fuel (i + 1) (fs.setIfInBounds i .kept)
      | .dropped =>
        let (j, fs) := keepBack i fs.size (runEnd fs fs.size i) fs
        let length := j - i
        let inRun := (List.range length).map (i + ·)
        let doubtful := inRun.countP fun k => fs.getD k .kept = .doubtful
        if length < doubtful * 4 then settle fuel j (inRun.foldl keepAt fs)
        else
          let least := doubled 64 (length / 4) 1 + 1
          let fs := keepRows i length least (4 * length + 4) 0 0 fs
          let fs := keepEnd (i + ·) length length 0 0 fs
          let last := i + length - 1
          let fs := keepEnd (last - ·) length length 0 0 fs
          settle fuel (i + length) fs

def fates (others : Array Nat) (cs : Classes) : Array Fate :=
  settle (2 * cs.size + 2) 0 (firstFates others cs)

/-! ## The search -/

/-- furthest points on diagonals, with the range of diagonals that have been reached -/
structure Front where
  reached : Array Int
  low : Int
  high : Int

/-- what the search runs on: two files and a part of each, and where the diagonal zero is kept -/
structure Area where
  xs : Classes
  ys : Classes
  xLow : Int
  xHigh : Int
  yLow : Int
  yHigh : Int

namespace Area

/-- the place of a diagonal -/
def slot (a : Area) (d : Int) : Nat :=
  (d + a.ys.size + 2).toNat

/-- the furthest point on a diagonal -/
def point (a : Area) (f : Front) (d : Int) : Int :=
  f.reached.getD (a.slot d) 0

/-- lines at two places are the same -/
def same (a : Area) (x y : Int) : Bool :=
  a.xs.getD x.toNat 0 = a.ys.getD y.toNat 0

/-- as far forward as lines are the same -/
def slideDown (a : Area) : (fuel : Nat) → Int → Int → Int
  | 0, x, _ => x
  | fuel + 1, x, y => if x < a.xHigh ∧ y < a.yHigh ∧ a.same x y then slideDown a fuel (x + 1) (y + 1) else x

/-- as far back as lines are the same -/
def slideUp (a : Area) : (fuel : Nat) → Int → Int → Int
  | 0, x, _ => x
  | fuel + 1, x, y => if a.xLow < x ∧ a.yLow < y ∧ a.same (x - 1) (y - 1) then slideUp a fuel (x - 1) (y - 1) else x

/-- no path is longer -/
def maxSlide (a : Area) : Nat :=
  a.xs.size + a.ys.size + 2

/-- the range of diagonals, wider by one where there is room, with a mark outside it -/
def widen (a : Area) (mark : Int) (f : Front) : Front :=
  let dLow := a.xLow - a.yHigh
  let dHigh := a.xHigh - a.yLow
  let f : Front :=
    if dLow < f.low then { f with low := f.low - 1, reached := f.reached.setIfInBounds (a.slot (f.low - 2)) mark }
    else { f with low := f.low + 1 }
  if f.high < dHigh then { f with high := f.high + 1, reached := f.reached.setIfInBounds (a.slot (f.high + 2)) mark }
  else { f with high := f.high - 1 }

/-- one more change from the front on each diagonal from `d` down; a meeting point if there is one -/
def forward (a : Area) (odd : Bool) (back : Front) : (fuel : Nat) → (d : Int) → Front → Front × Option (Int × Int)
  | 0, _, f => (f, none)
  | fuel + 1, d, f =>
    if d < f.low then (f, none)
    else
      let below := a.point f (d - 1)
      let above := a.point f (d + 1)
      let x := if below < above then above else below + 1
      let x := a.slideDown a.maxSlide x (x - d)
      let f := { f with reached := f.reached.setIfInBounds (a.slot d) x }
      if odd ∧ back.low ≤ d ∧ d ≤ back.high ∧ a.point back d ≤ x then (f, some (x, x - d))
      else forward a odd back fuel (d - 2) f

/-- one more change from the back on each diagonal from `d` down; a meeting point if there is one -/
def backward (a : Area) (odd : Bool) (front : Front) : (fuel : Nat) → (d : Int) → Front → Front × Option (Int × Int)
  | 0, _, f => (f, none)
  | fuel + 1, d, f =>
    if d < f.low then (f, none)
    else
      let below := a.point f (d - 1)
      let above := a.point f (d + 1)
      let x := if below < above then below else above - 1
      let x := a.slideUp a.maxSlide x (x - d)
      let f := { f with reached := f.reached.setIfInBounds (a.slot d) x }
      if odd = false ∧ front.low ≤ d ∧ d ≤ front.high ∧ x ≤ a.point front d then (f, some (x, x - d))
      else backward a odd front fuel (d - 2) f

/-- more and more changes until front and back meet -/
def meet (a : Area) (odd : Bool) : (fuel : Nat) → Front → Front → Int × Int
  | 0, _, _ => (a.xLow, a.yLow)
  | fuel + 1, f, b =>
    let f := a.widen (-1) f
    match a.forward odd b a.maxSlide f.high f with
    | (_, some p) => p
    | (f, none) =>
      let b := a.widen (a.xs.size + a.ys.size + 5) b
      match a.backward odd f a.maxSlide b.high b with
      | (_, some p) => p
      | (b, none) => meet a odd fuel f b

/-- a point in the middle of a shortest path -/
def middle (a : Area) : Int × Int :=
  let f := a.xLow - a.yLow
  let b := a.xHigh - a.yHigh
  let room : Array Int := Array.replicate (a.xs.size + a.ys.size + 6) 0
  let front : Front := { reached := room.setIfInBounds (a.slot f) a.xLow, low := f, high := f }
  let back : Front := { reached := room.setIfInBounds (a.slot b) a.xHigh, low := b, high := b }
  a.meet ((f - b) % 2 ≠ 0) a.maxSlide front back

end Area

def markRange (ms : Marks) (low high : Int) : Marks :=
  (List.range (high - low).toNat).foldl (fun ms i => ms.setIfInBounds (low.toNat + i) true) ms

/-- marks what has changed between two parts -/
def compare (xs ys : Classes) : (fuel : Nat) → (xLow xHigh yLow yHigh : Int) → Marks × Marks → Marks × Marks
  | 0, _, _, _, _, ms => ms
  | fuel + 1, xLow, xHigh, yLow, yHigh, ms =>
    let a : Area := { xs, ys, xLow, xHigh, yLow, yHigh }
    let x := a.slideDown a.maxSlide xLow yLow
    let a := { a with xLow := x, yLow := yLow + (x - xLow) }
    let x := a.slideUp a.maxSlide xHigh yHigh
    let a := { a with xHigh := x, yHigh := yHigh - (xHigh - x) }
    if a.xLow = a.xHigh then (ms.1, markRange ms.2 a.yLow a.yHigh)
    else if a.yLow = a.yHigh then (markRange ms.1 a.xLow a.xHigh, ms.2)
    else
      let (x, y) := a.middle
      let ms := compare xs ys fuel a.xLow x a.yLow y ms
      compare xs ys fuel x a.xHigh y a.yHigh ms

/-! ## Moving runs of changes -/

/-- one file while its runs are moved: its marks, those of the other file, and places in both -/
structure Shift where
  own : Marks
  other : Marks
  start : Int := 0
  i : Int := 0
  j : Int := 0
  /-- where the run last stood beside one of the other file -/
  beside : Int := 0

namespace Shift

/-- the next unmarked line of the other file is passed -/
def passOther (s : Shift) : (fuel : Nat) → Shift
  | 0 => s
  | fuel + 1 =>
    let marked := at_ false s.other s.j
    let s := { s with j := s.j + 1 }
    if marked then passOther s fuel else s

/-- on to the next run -/
def seek (s : Shift) : (fuel : Nat) → Shift
  | 0 => s
  | fuel + 1 =>
    if s.i < s.own.size ∧ !at_ false s.own s.i then
      seek { s.passOther (s.other.size + 1) with i := s.i + 1 } fuel
    else s

def runOut (s : Shift) : (fuel : Nat) → Shift
  | 0 => s
  | fuel + 1 => if at_ false s.own s.i then runOut { s with i := s.i + 1 } fuel else s

/-- over the marked lines of the other file -/
def otherOut (s : Shift) : (fuel : Nat) → Shift
  | 0 => s
  | fuel + 1 => if at_ false s.other s.j then otherOut { s with j := s.j + 1 } fuel else s

/-- back over marked lines in front of the run -/
def startBack (s : Shift) : (fuel : Nat) → Shift
  | 0 => s
  | fuel + 1 => if at_ false s.own (s.start - 1) then startBack { s with start := s.start - 1 } fuel else s

/-- back over marked lines of the other file, and one that is not -/
def otherBack (s : Shift) : (fuel : Nat) → Shift
  | 0 => s
  | fuel + 1 =>
    let s := { s with j := s.j - 1 }
    if at_ false s.other s.j then otherBack s fuel else s

def mark (s : Shift) (i : Int) (b : Bool) : Shift :=
  { s with own := s.own.setIfInBounds i.toNat b }

/-- the run one line up -/
def up (s : Shift) : Shift :=
  let s := (s.mark (s.start - 1) true).mark (s.i - 1) false
  { s with start := s.start - 1, i := s.i - 1 }

/-- as far up as the line in front is the same as the last one of the run -/
def moveUp (cs : Classes) (s : Shift) : (fuel : Nat) → Shift
  | 0 => s
  | fuel + 1 =>
    if 0 < s.start ∧ at_ 0 cs (s.start - 1) = at_ 0 cs (s.i - 1) then
      let s := s.up.startBack (s.own.size + 1)
      moveUp cs (s.otherBack (s.other.size + 2)) fuel
    else s

/-- marked lines of the other file behind the place; the run stands beside them -/
def otherOn (s : Shift) : (fuel : Nat) → Shift
  | 0 => s
  | fuel + 1 =>
    let s := { s with j := s.j + 1 }
    if at_ false s.other s.j then otherOn { s with beside := s.i } fuel else s

/-- as far down as the first line of the run is the same as the line behind it -/
def moveDown (cs : Classes) (s : Shift) : (fuel : Nat) → Shift
  | 0 => s
  | fuel + 1 =>
    if s.i ≠ s.own.size ∧ at_ 0 cs s.start = at_ 0 cs s.i then
      let s := (s.mark s.start false).mark s.i true
      let s := { s with start := s.start + 1, i := s.i + 1 }.runOut (s.own.size + 1)
      moveDown cs (s.otherOn (s.other.size + 2)) fuel
    else s

/-- up and down until the run does not grow any more -/
def settle (cs : Classes) (s : Shift) : (fuel : Nat) → Shift
  | 0 => s
  | fuel + 1 =>
    let length := s.i - s.start
    let s := moveUp cs s (s.own.size + 1)
    let s := { s with beside := if at_ false s.other (s.j - 1) then s.i else s.own.size }
    let s := moveDown cs s (s.own.size + 1)
    if length = s.i - s.start then s else settle cs s fuel

/-- back up to where the run stood beside one of the other file -/
def align (s : Shift) : (fuel : Nat) → Shift
  | 0 => s
  | fuel + 1 => if s.beside < s.i then align (s.up.otherBack (s.other.size + 2)) fuel else s

/-- all runs of a file -/
def all (cs : Classes) (s : Shift) : (fuel : Nat) → Marks
  | 0 => s.own
  | fuel + 1 =>
    let s := s.seek (s.own.size + 1)
    if s.own.size ≤ s.i then s.own
    else
      let s := { s with start := s.i }.runOut (s.own.size + 1)
      let s := s.otherOut (s.other.size + 1)
      let s := settle cs s (s.own.size + 1)
      all cs (s.align (s.own.size + 1)) fuel

end Shift

/-! ## The result -/

/-- which lines of two files have changed -/
def changed (classes : Nat) (xs ys : Classes) : Marks × Marks :=
  let xCounts := counts classes xs
  let yCounts := counts classes ys
  let keptOf (fs : Array Fate) : Array Nat :=
    ((List.range fs.size).filter fun i => fs.getD i .kept = .kept).toArray
  let xKept := keptOf (fates yCounts xs)
  let yKept := keptOf (fates xCounts ys)
  let us := xKept.map fun i => xs.getD i 0
  let vs := yKept.map fun i => ys.getD i 0
  let fresh (n : Nat) : Marks := Array.replicate n false
  let (p, q) := compare us vs (us.size + vs.size + 2) 0 us.size 0 vs.size (fresh us.size, fresh vs.size)
  let back (size : Nat) (kept : Array Nat) (ms : Marks) : Marks :=
    (List.range kept.size).foldl (fun (all : Marks) i => all.setIfInBounds (kept.getD i 0) (ms.getD i false))
      (Array.replicate size true)
  let p := back xs.size xKept p
  let q := back ys.size yKept q
  let p := Shift.all xs { own := p, other := q } (xs.size + 2)
  let q := Shift.all ys { own := q, other := p } (ys.size + 2)
  (p, q)

/-- lines that have been taken out and put in: where they are, and how many -/
structure Change where
  left : Nat
  right : Nat
  deleted : Nat
  inserted : Nat
  deriving DecidableEq, Repr

/-- marked lines from a place on -/
def runAt (ms : Marks) : (fuel : Nat) → Nat → Nat
  | 0, i => i
  | fuel + 1, i => if ms.getD i false then runAt ms fuel (i + 1) else i

/-- changes from two places on -/
def changesFrom (p q : Marks) : (fuel : Nat) → Nat → Nat → List Change
  | 0, _, _ => []
  | fuel + 1, i, j =>
    if p.size ≤ i ∧ q.size ≤ j then []
    else
      let i' := runAt p p.size i
      let j' := runAt q q.size j
      if i' = i ∧ j' = j then changesFrom p q fuel (i + 1) (j + 1)
      else { left := i, right := j, deleted := i' - i, inserted := j' - j } :: changesFrom p q fuel i' j'

/-- the changes between two files in order -/
def changes (classes : Nat) (xs ys : Classes) : List Change :=
  let (p, q) := changed classes xs ys
  changesFrom p q (p.size + q.size + 2) 0 0

end IncludeAudit.Tool.Diff
