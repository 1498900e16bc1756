/-
Arrays with texts and numbers as indices. Entries stand in chains that a hash chooses, and an entry that is looked up
comes to the front of its chain. An entry with a number joins the chains of texts only when texts are asked for, so
the order of all entries depends on how they have been used.

- `Table.find`: an entry by its index, `Table.keys`: all indices in order, `Table.ofList`: pieces with their numbers.
-/
import IncludeAudit.Tool.Awk.Value

namespace IncludeAudit.Tool.Awk

structure Entry where
  key : Option Raw := none
  hash : UInt32 := 0
  number : Option Int := none
  value : Value := .unset
  deriving Inhabited

/-- an index -/
inductive Key
  | text (t : Raw)
  | number (n : Int)
  deriving DecidableEq, Repr

/-- an array; chains hold places of entries -/
structure Table where
  entries : Array Entry := #[]
  size : Nat := 0
  texts : Array (List Nat) := #[]
  numbers : Array (List Nat) := #[]
  /-- all entries are in the chains of texts -/
  spelled : Bool := false
  /-- pieces of a text with their numbers, and nothing else so far -/
  whole : Bool := false
  deriving Inhabited

namespace Table

def hashOf (t : Raw) : UInt32 :=
  t.foldl (fun h c => (h ^^^ UInt32.ofNat c.toNat) * 16777619) 2166136261

/-- chains at the start -/
def firstWidth : Nat := 64

/-- entries for each chain before there are more chains -/
def crowd : Nat := 12

def chainOf (t : Table) (h : UInt32) : Nat :=
  h.toNat % t.texts.size

def numberChainOf (t : Table) (n : Int) : Nat :=
  (n % (t.numbers.size : Int)).toNat

/-- chains for an array without any -/
def opened (t : Table) : Table :=
  if t.texts.isEmpty then
    { t with texts := Array.replicate firstWidth [], numbers := Array.replicate firstWidth [] }
  else t

/-- an entry at the front of the chain of its text -/
def pushText (t : Table) (i : Nat) (h : UInt32) : Table :=
  let c := t.chainOf h
  { t with texts := t.texts.modify c (i :: ·) }

/-- an entry at the front of the chain of its number -/
def pushNumber (t : Table) (i : Nat) (n : Int) : Table :=
  let c := t.numberChainOf n
  { t with numbers := t.numbers.modify c (i :: ·) }

/-- gives texts to all entries with numbers only -/
def spell (t : Table) : Table :=
  if t.spelled then t
  else
    let t := t.numbers.foldl (fun (t : Table) chain =>
      chain.foldl (fun (t : Table) i =>
        match t.entries[i]? with
        | some e =>
          if e.key.isNone then
            let key := Text.ofInt (e.number.getD 0)
            let h := hashOf key
            { t with entries := t.entries.setIfInBounds i { e with key := some key, hash := h } }.pushText i h
          else t
        | none => t) t) t
    { t with spelled := true, whole := false }

/-- twice as many chains, in which entries keep their order -/
def widen (t : Table) : Table :=
  let n := t.texts.size
  let split (chains : Array (List Nat)) (test : Entry → Nat) : Array (List Nat) :=
    let part (high : Bool) : Array (List Nat) := chains.mapIdx fun i chain =>
      chain.filter fun k => (test (t.entries.getD k default) % (2 * n) = i) != high
    part false ++ part true
  { t with
    texts := split t.texts fun e => e.hash.toNat
    numbers := split t.numbers fun e => ((e.number.getD 0) % ((2 * n : Nat) : Int)).toNat }

/-- room for one entry more -/
def grow (t : Table) : Table :=
  let t := { t with size := t.size + 1 }
  if t.texts.size * crowd < t.size then t.widen else t

/-- the place of an entry by its text -/
def findText (t : Table) (key : Raw) (create : Bool) : Option Nat × Table :=
  let t := t.opened.spell
  let h := hashOf key
  let chain := t.texts.getD (t.chainOf h) []
  match chain.find? fun i => (t.entries.getD i default).key = some key with
  | some i => (some i, { t with texts := t.texts.setIfInBounds (t.chainOf h) (i :: chain.erase i) })
  | none =>
    if create then
      let i := t.entries.size
      let t := { t with entries := t.entries.push { key := some key, hash := h } }.grow
      (some i, t.pushText i h)
    else (none, t)

/-- the place of an entry by its number -/
def findNumber (t : Table) (n : Int) (create : Bool) : Option Nat × Table :=
  let t := t.opened
  let c := t.numberChainOf n
  let chain := t.numbers.getD c []
  match chain.find? fun i => (t.entries.getD i default).number = some n with
  | some i =>
    if t.whole then (some i, t) else (some i, { t with numbers := t.numbers.setIfInBounds c (i :: chain.erase i) })
  | none =>
    if t.spelled then
      match t.findText (Text.ofInt n) create with
      | (some i, t) =>
        let t := { t with entries := t.entries.modify i fun e => { e with number := some n } }
        (some i, t.pushNumber i n)
      | (none, t) => (none, t)
    else if create then
      let i := t.entries.size
      let t := { t with entries := t.entries.push { number := some n }, whole := false }.grow
      (some i, t.pushNumber i n)
    else (none, t)

/-- the place of an entry -/
def find (t : Table) (k : Key) (create : Bool) : Option Nat × Table :=
  if t.size = 0 ∧ create = false then (none, t)
  else
    match k with
    | .text key => t.findText key create
    | .number n => t.findNumber n create

def get (t : Table) (i : Nat) : Value :=
  (t.entries.getD i default).value

/-- changes the value of an entry -/
def set (t : Table) (i : Nat) (v : Value) : Table :=
  { t with entries := t.entries.modify i fun e => { e with value := v } }

/-- the array without an entry -/
def delete (t : Table) (k : Key) : Table :=
  match t.find k false with
  | (none, t) => t
  | (some i, t) =>
    if t.size ≤ 1 then {}
    else
      let e := t.entries.getD i default
      let texts := if e.key.isSome then t.texts.modify (t.chainOf e.hash) (·.erase i) else t.texts
      let numbers :=
        match e.number with
        | some n => t.numbers.modify (t.numberChainOf n) (·.erase i)
        | none => t.numbers
      { t with texts, numbers, size := t.size - 1 }

/-- all indices in order -/
def keys (t : Table) : List Raw × Table :=
  let t := t.spell
  (t.texts.toList.flatMap fun chain => chain.filterMap fun i => (t.entries.getD i default).key, t)

/-- how many chains so many entries need -/
def widthFor : (fuel : Nat) → (width count : Nat) → Nat
  | 0, width, _ => width
  | fuel + 1, width, count => if width * crowd < count then widthFor fuel (2 * width) count else width

/-- pieces with their numbers from one on -/
def ofList (vs : List Value) : Table :=
  if vs.isEmpty then {}
  else
    let width := widthFor 40 firstWidth vs.length
    let t : Table := { texts := Array.replicate width [], numbers := Array.replicate width [], whole := true }
    vs.foldl (fun t v =>
      let i := t.entries.size
      { t with entries := t.entries.push { number := some (i + 1), value := v }, size := t.size + 1 }.pushNumber i (i + 1)) t

end Table
end IncludeAudit.Tool.Awk
