/-
Entries found by their keys. A table keeps its entries in the order in which they came; a crowd keeps its elements in
slots that their numbers choose, and shows them in the order of the slots. Both are asked for candidates with a number,
since whether two keys are equal may be for a script to say.

- `Table`: keys with values, `Crowd`: elements without values.
-/
import IncludeAudit.Decimal.Shortest
import IncludeAudit.Offside.Value
import Std.Data.HashMap

/-!
## Hashes

Numbers by which values are found again: equal values have equal numbers.

- `Hash.value?`: the number of a value that no script has a say in.
-/

namespace IncludeAudit.Offside.Hash

/-- the prime that numbers are taken by -/
def prime : Nat := 0x1fffffffffffffff

/-- a signed number as a word -/
def word (n : Int) : UInt64 :=
  UInt64.ofInt n

/-- a word as a signed number -/
def signed (h : UInt64) : Int :=
  let n : Int := h.toNat
  if h.toNat < 0x8000000000000000 then n else n - 0x10000000000000000

/-- minus one stands for a failure, so nothing has it -/
def allowed (n : Int) : Int :=
  if n = -1 then -2 else n

/-- the number of an integer -/
def int (n : Int) : UInt64 :=
  let m : Int := (n.natAbs % prime : Nat)
  word (allowed (if n < 0 then -m else m))

/-- the number of a number with a point: that of the integer when it is one -/
def float (x : Float) : UInt64 :=
  if x.isNaN then 0
  else if x.isInf then word (if x < 0 then -314159 else 314159)
  else
    let d := Decimal.Double.ofBits x.abs.toBits
    let shift := (d.exponent % 61 : Int).toNat
    let m : Int := (d.significand * Nat.pow 2 shift) % prime
    word (allowed (if x < 0 then -m else m))

def text (t : Text) : UInt64 :=
  t.foldl (fun h c => (h ^^^ c.toNat.toUInt64) * 0x100000001b3) 0xcbf29ce484222325

/-- the numbers of elements in a row as one -/
def row (hs : List UInt64) : UInt64 :=
  let acc := hs.foldl (fun (acc : UInt64) h =>
    let acc := acc + h * 14029467366897019727
    ((acc <<< 31) ||| (acc >>> 33)) * 11400714785074694791) 2870177450012600261
  let acc := acc + (hs.length.toUInt64 ^^^ (2870177450012600261 ^^^ 3527539))
  if acc = 0xffffffffffffffff then 1546275796 else acc

/-- the numbers of elements in no order as one -/
def crowd (hs : List UInt64) : UInt64 :=
  let mix (acc h : UInt64) : UInt64 :=
    let a : UInt64 := h ^^^ 89869747
    let b : UInt64 := h <<< 16
    acc ^^^ ((a ^^^ b) * 3644798167)
  let size : UInt64 := hs.length.toUInt64
  let scaled : UInt64 := (size + 1) * 1927868237
  let acc : UInt64 := hs.foldl mix 0 ^^^ scaled
  let spread : UInt64 := (acc >>> 11) ^^^ (acc >>> 25)
  let acc : UInt64 := (acc ^^^ spread) * 69069 + 907133923
  if acc = 0xffffffffffffffff then 590923713 else acc

/-- the number of something that is only equal to itself -/
def place (n : Nat) : UInt64 :=
  (n * 16 + 0x7f0000000000).toUInt64 >>> 4

/-- the number of a value that no script has a say in -/
def value? : Value → Option UInt64
  | .none => some 0xfca86420
  | .ellipsis => some 0xfca86421
  | .notImplemented => some 0xfca86422
  | .truth b => some (if b then 1 else 0)
  | .int n => some (int n)
  | .float x => some (float x)
  | .complex re im => some (float re + 1000003 * float im)
  | .str t => some (text t)
  | .bytes r => some (text r + 1)
  | .tuple vs => (values? vs).map row
  | .range a b c => some (row [int a, int b, int c])
  | .native o n => some (text (o ++ "." ++ n).toList)
  | .unbound o n => some (text n.toList + o.ref.toUInt64)
  | .bound self o n => (value? self).map fun h => h + text n.toList + o.ref.toUInt64
  | .slice _ _ _ | .absent | .ref _ | .method _ _ => none
where
  /-- the numbers of values in a row -/
  values? : List Value → Option (List UInt64)
    | [] => some []
    | v :: vs =>
      match value? v, values? vs with
      | some h, some hs => some (h :: hs)
      | _, _ => none

end IncludeAudit.Offside.Hash

namespace IncludeAudit.Offside

/-- keys with values, in the order in which they came -/
structure Table where
  entries : Array (Option (UInt64 × Value × Value)) := #[]
  /-- the places of the entries with a number -/
  places : Std.HashMap UInt64 (List Nat) := {}
  size : Nat := 0
  deriving Inhabited

namespace Table

/-- the places of entries with a number, with their keys -/
def candidates (t : Table) (h : UInt64) : List (Nat × Value) :=
  (t.places.getD h []).filterMap fun n =>
    match t.entries[n]? with
    | some (some (_, k, _)) => some (n, k)
    | _ => none

def valueAt? (t : Table) (n : Nat) : Option Value :=
  match t.entries[n]? with
  | some (some (_, _, v)) => some v
  | _ => none

/-- the keys and values in order -/
def toList (t : Table) : List (Value × Value) :=
  t.entries.toList.filterMap fun e => e.map fun p => (p.2.1, p.2.2)

/-- the first entry at a place or behind it -/
def nextFrom (t : Table) : (fuel : Nat) → (place : Nat) → Option (Nat × Value × Value)
  | 0, _ => none
  | fuel + 1, n =>
    match t.entries[n]? with
    | none => none
    | some (some (_, k, v)) => some (n, k, v)
    | some none => nextFrom t fuel (n + 1)

/-- the last entry in front of a place -/
def nextBefore (t : Table) : (place : Nat) → Option (Nat × Value × Value)
  | 0 => none
  | n + 1 =>
    match t.entries[n]? with
    | some (some (_, k, v)) => some (n, k, v)
    | _ => nextBefore t n

/-- a table of entries without the places of those that have gone -/
def packed (t : Table) : Table :=
  let entries := t.entries.filter Option.isSome
  let (places, _) := entries.foldl (fun (acc : Std.HashMap UInt64 (List Nat) × Nat) e =>
    match e with
    | some (h, _, _) => (acc.1.insert h ((acc.1.getD h []) ++ [acc.2]), acc.2 + 1)
    | none => (acc.1, acc.2 + 1)) ({}, 0)
  { entries, places, size := t.size }

/-- adds an entry whose key is not there yet -/
def push (t : Table) (h : UInt64) (k v : Value) : Table :=
  let t := if 2 * t.size + 32 < t.entries.size then packed t else t
  let n := t.entries.size
  match t with
  | { entries, places, size } =>
    { entries := entries.push (some (h, k, v))
      places := places.alter h fun ns => some ((ns.getD []) ++ [n])
      size := size + 1 }

def setAt (t : Table) (n : Nat) (v : Value) : Table :=
  match t with
  | { entries, places, size } =>
    { entries := entries.modify n fun e => e.map fun p => (p.1, p.2.1, v), places, size }

/-- takes away the entry at a place -/
def eraseAt (t : Table) (n : Nat) : Table :=
  match t.entries[n]? with
  | some (some (h, _, _)) =>
    { entries := t.entries.set! n none
      places := t.places.alter h fun ns => some ((ns.getD []).filter (· ≠ n))
      size := t.size - 1 }
  | _ => t

def placeOf? (t : Table) (name : Text) : Option Nat :=
  ((t.candidates (Hash.text name)).find? fun p =>
    match p.2 with
    | .str s => s = name
    | _ => false).map (·.1)

def get? (t : Table) (name : Text) : Option Value :=
  (t.placeOf? name).bind t.valueAt?

def put (t : Table) (name : Text) (v : Value) : Table :=
  match t.placeOf? name with
  | some n => t.setAt n v
  | none => t.push (Hash.text name) (.str name) v

/-- takes a key that is a text away -/
def erase (t : Table) (name : Text) : Table :=
  match t.placeOf? name with
  | some n => t.eraseAt n
  | none => t

def ofList (ps : List (Text × Value)) : Table :=
  ps.foldl (fun t p => t.put p.1 p.2) {}

end Table

inductive Slot
  | free
  /-- an element was here -/
  | left
  | taken (h : UInt64) (v : Value)
  deriving Inhabited

/-- elements in slots -/
structure Crowd where
  slots : Array Slot := Array.replicate 8 .free
  /-- slots that are not free -/
  filled : Nat := 0
  size : Nat := 0
  /-- where the search for an element to be given away goes on -/
  finger : Nat := 0
  deriving Inhabited

namespace Crowd

/-- slots that are tried in a row -/
def run : Nat := 9

/-- the slots up to the first free one that a number leads to -/
def probe (slots : Array Slot) (mask : Nat) : (fuel : Nat) → (start perturb : Nat) → (offset left : Nat) →
    (found : List (Nat × UInt64 × Value)) → List (Nat × UInt64 × Value) × Option Nat
  | 0, _, _, _, _, found => (found.reverse, none)
  | fuel + 1, start, perturb, offset, left, found =>
    let n := start + offset
    let goOn (found : List (Nat × UInt64 × Value)) : List (Nat × UInt64 × Value) × Option Nat :=
      if left = 0 then
        let perturb := perturb / 32
        let start := (start * 5 + 1 + perturb) % (mask + 1)
        probe slots mask fuel start perturb 0 (if start + run ≤ mask then run else 0) found
      else probe slots mask fuel start perturb (offset + 1) (left - 1) found
    match slots[n]? with
    | some (.taken h v) => goOn ((n, h, v) :: found)
    | some .left => goOn found
    | _ => (found.reverse, some n)

/-- elements that a number leads to, and the free slot behind them -/
def search (slots : Array Slot) (h : UInt64) : List (Nat × UInt64 × Value) × Option Nat :=
  let mask := slots.size - 1
  let start := h.toNat % slots.size
  probe slots mask (12 * slots.size + 100) start h.toNat 0 (if start + run ≤ mask then run else 0) []

/-- elements with a number, and their slots -/
def candidates (c : Crowd) (h : UInt64) : List (Nat × Value) :=
  (search c.slots h).1.filterMap fun p => if p.2.1 = h then some (p.1, p.2.2) else none

/-- the elements in the order of their slots -/
def toList (c : Crowd) : List Value :=
  c.slots.toList.filterMap fun s =>
    match s with
    | .taken _ v => some v
    | _ => none

def numbered (c : Crowd) : List (UInt64 × Value) :=
  c.slots.toList.filterMap fun s =>
    match s with
    | .taken h v => some (h, v)
    | _ => none

/-- the next size of at least eight that is greater than a count, doubled from a size on -/
def grown : (fuel : Nat) → (size count : Nat) → Nat
  | 0, size, _ => size
  | fuel + 1, size, count => if size ≤ count then grown fuel (size * 2) count else size

/-- the elements in so many slots -/
def resized (c : Crowd) (count : Nat) : Crowd :=
  let size := grown 64 8 count
  let slots := c.numbered.foldl (fun (slots : Array Slot) p =>
    match (search slots p.1).2 with
    | some n => slots.set! n (.taken p.1 p.2)
    | none => slots) (Array.replicate size .free)
  { slots, filled := c.size, size := c.size }

/-- adds an element that is not there yet -/
def push (c : Crowd) (h : UInt64) (v : Value) : Crowd :=
  match (search c.slots h).2 with
  | none => c
  | some n =>
    let { slots, filled, size, finger } := c
    let mask := slots.size - 1
    let c : Crowd := { slots := slots.set! n (.taken h v), filled := filled + 1, size := size + 1, finger }
    if (filled + 1) * 5 < mask * 3 then c else c.resized (if 50000 < c.size then c.size * 2 else c.size * 4)

/-- takes the element in a slot away -/
def eraseAt (c : Crowd) (n : Nat) : Crowd :=
  match c.slots[n]? with
  | some (.taken _ _) => { c with slots := c.slots.set! n .left, size := c.size - 1 }
  | _ => c

/-- a copy in fresh slots -/
def copied (c : Crowd) : Crowd :=
  if c.filled = c.size ∧ c.slots.size = 8 then { c with finger := 0 }
  else
    let start : Crowd := {}
    let start := if c.size * 5 ≥ 7 * 3 then start.resized (c.size * 2) else start
    if start.slots.size = c.slots.size ∧ c.filled = c.size then { c with finger := 0 }
    else
      let slots := c.numbered.foldl (fun (slots : Array Slot) p =>
        match (search slots p.1).2 with
        | some n => slots.set! n (.taken p.1 p.2)
        | none => slots) start.slots
      { slots, filled := c.size, size := c.size }

/-- room for more elements that come all at once -/
def withRoom (c : Crowd) (more : Nat) : Crowd :=
  if (c.filled + more) * 5 ≥ (c.slots.size - 1) * 3 then c.resized ((c.size + more) * 2) else c

/-- the slot of the element that is given away next -/
def first? (c : Crowd) : Option (Nat × Value) :=
  let size := c.slots.size
  ((List.range size).map fun i => (c.finger + i) % size).findSome? fun (n : Nat) =>
    match c.slots[n]? with
    | some (.taken _ v) => some (n, v)
    | _ => none

end Crowd
end IncludeAudit.Offside
