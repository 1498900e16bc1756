/-
Methods of what keeps values in a row: lists, tuples, ranges, and bytes that can change. Sorting compares as few values
as it can and never swaps values that are equal.

- `sorted`: values in order, `listMethod`, `tupleMethod`, `rangeMethod`, `changingMethod`: methods by name.
-/
import IncludeAudit.Offside.Method.Words

namespace IncludeAudit.Offside

/-! ## Order -/

/-- what is sorted: keys with what they stand for -/
abbrev Keyed := Array (Value × Value)

def keyBefore (a b : Value × Value) : Eval Bool :=
  lessThan a.1 b.1

/-- how far the beginning is in order, going up or strictly down -/
def runLength (vs : Keyed) : Eval (Nat × Bool) := do
  let pair (i : Nat) : (Value × Value) × (Value × Value) :=
    (vs.getD i (.none, .none), vs.getD (i - 1) (.none, .none))
  if vs.size < 2 then return (vs.size, false)
  else
    let down ← keyBefore (pair 1).1 (pair 1).2
    let rec go : (fuel place : Nat) → Eval Nat
      | 0, n => return n
      | fuel + 1, n => do
        if vs.size ≤ n then return n
        else
          let less ← keyBefore (pair n).1 (pair n).2
          if less = down then go fuel (n + 1) else return n
    return (← go vs.size 2, down)

/-- the place of a value among those in front of a place, behind those that are equal to it -/
def placeFor (vs : Keyed) (pivot : Value × Value) : (fuel low high : Nat) → Eval Nat
  | 0, low, _ => return low
  | fuel + 1, low, high => do
    if high ≤ low then return low
    else
      let mid := low + (high - low) / 2
      if ← keyBefore pivot (vs.getD mid (.none, .none)) then placeFor vs pivot fuel low mid
      else placeFor vs pivot fuel (mid + 1) high

/-- the values behind a place are put in order among those in front of them -/
def insertFrom (count : Nat) : (fuel place : Nat) → Keyed → Eval Keyed
  | 0, _, vs => return vs
  | fuel + 1, n, vs => do
    if count ≤ n then return vs
    else
      let pivot := vs.getD n (.none, .none)
      let p ← placeFor vs pivot (count + 1) 0 n
      insertFrom count fuel (n + 1) ((vs.toList.take p ++ pivot :: (vs.toList.drop p).take (n - p) ++ vs.toList.drop (n + 1)).toArray)

/-- two rows in order made into one -/
def mergeRows : (fuel : Nat) → List (Value × Value) → List (Value × Value) → List (Value × Value) →
    Eval (List (Value × Value))
  | 0, as, bs, done => return done.reverse ++ as ++ bs
  | fuel + 1, as, bs, done => do
    match as, bs with
    | [], bs => return done.reverse ++ bs
    | as, [] => return done.reverse ++ as
    | a :: as, b :: bs =>
      if ← keyBefore b a then mergeRows fuel (a :: as) bs (b :: done) else mergeRows fuel as (b :: bs) (a :: done)

/-- rows merged two by two until one is left -/
def mergeAll : (fuel : Nat) → List (List (Value × Value)) → Eval (List (Value × Value))
  | 0, rows => return rows.flatten
  | fuel + 1, rows => do
    match rows with
    | [] => return []
    | [r] => return r
    | rows =>
      let rec pairs : List (List (Value × Value)) → Eval (List (List (Value × Value)))
        | a :: b :: rest => do
          let r ← mergeRows (a.length + b.length + 1) a b []
          return r :: (← pairs rest)
        | rest => return rest
      mergeAll fuel (← pairs rows)

def sortKeyed (vs : Keyed) : Eval (List (Value × Value)) := do
  let ints? := vs.toList.mapM fun p => match p.1 with
    | .int n => some (n, p)
    | _ => none
  let texts? := if ints?.isSome then none else vs.toList.mapM fun p => match p.1 with
    | .str t => some (t, p)
    | _ => none
  match ints?, texts? with
  | some ps, _ => return (ps.mergeSort fun a b => a.1 ≤ b.1).map (·.2)
  | _, some ps => return (ps.mergeSort fun a b => !Strings.less b.1 a.1).map (·.2)
  | none, none =>
    let (n, down) ← runLength vs
    let vs := if down then ((vs.toList.take n).reverse ++ vs.toList.drop n).toArray else vs
    if vs.size ≤ n then return vs.toList
    else if vs.size < 64 then return (← insertFrom vs.size vs.size n vs).toList
    else mergeAll 64 (vs.toList.take n :: (vs.toList.drop n).map fun p => [p])

def sorted (vs : List Value) (key : Value) (reverse : Bool) : Eval (List Value) := do
  let keyed ← vs.mapM fun v => do
    if key.isNone then return (v, v) else return (← call key [v], v)
  let keyed := if reverse then keyed.reverse else keyed
  let done ← sortKeyed keyed.toArray
  let done := done.map (·.2)
  return if reverse then done.reverse else done

/-! ## Lists -/

def listAt (n : Nat) : Eval (Array Value) := do
  match (← object n).body with
  | .list vs => return vs
  | _ => return #[]

/-- the place of a value among others, behind the first ones -/
def seekValue (v : Value) : (place : Nat) → List Value → Eval (Option Nat)
  | _, [] => return none
  | n, x :: xs => do
    if ← same x v then return some n else seekValue v (n + 1) xs

/-- how often a value is among others -/
def countValue (v : Value) (xs : List Value) : Eval Nat := do
  let found ← xs.mapM fun x => same x v
  return found.count true

/-- the place of an argument among the elements between two ends that other arguments give -/
def indexAmong (xs : List Value) (g : Given) (missing : Text) : Eval Value := do
  g.between "index" 1 3
  let v := g.at_ 0
  let count : Int := xs.length
  let limit (i : Nat) (usual : Int) : Eval Int := do
    match g.args[i]? with
    | none => return usual
    | some x =>
      let n ← indexOf x (mistyped "slice indices must be integers or have an __index__ method")
      return if n < 0 then max 0 (n + count) else n
  let low ← limit 1 0
  let high ← limit 2 count
  match ← seekValue v low.toNat ((xs.take high.toNat).drop low.toNat) with
  | some n => return .int n
  | none => misvalued missing

/-- where something is put into a row of so many -/
def insertPlace (count : Nat) (i : Int) : Nat :=
  let k := if i < 0 then max 0 (i + count) else i
  min count k.toNat

/-- where something is taken from a row of so many -/
def popPlace (what : Text) (count : Nat) (g : Given) : Eval Nat := do
  g.between "pop" 0 1
  let i ← match g.args[0]? with
    | some v => wholeOf v
    | none => pure (-1)
  if count = 0 then raise .indexError ("pop from empty " ++ what)
  let k := if i < 0 then i + count else i
  if k < 0 ∨ (count : Int) ≤ k then raise .indexError "pop index out of range"
  return k.toNat

def listMethod (n : Nat) (self : Value) (name : String) (g : Given) : Eval Value := do
  match name with
  | "append" =>
    let v ← g.one "list.append"
    modifyList n fun vs => vs.push v
    return .none
  | "extend" =>
    let more ← itemsOf (← g.one "list.extend")
    modifyList n fun vs => vs ++ more.toArray
    return .none
  | "insert" =>
    g.between "insert" 2 2
    let i ← wholeOf (g.at_ 0)
    modifyList n fun vs => vs.insertIdx! (insertPlace vs.size i) (g.at_ 1)
    return .none
  | "pop" =>
    let vs ← listAt n
    let k ← popPlace "list" vs.size g
    let v := vs.getD k .none
    if k + 1 = vs.size then modifyList n Array.pop else modifyList n fun vs => vs.eraseIdx! k
    return v
  | "remove" =>
    let v ← g.one "list.remove"
    match ← seekValue v 0 (← listAt n).toList with
    | some k =>
      modifyList n fun vs => vs.eraseIdx! k
      return .none
    | none => misvalued "list.remove(x): x not in list"
  | "clear" =>
    g.nothing "list.clear"
    setBody n (.list #[])
    return .none
  | "copy" =>
    g.nothing "list.copy"
    make .list (.list (← listAt n))
  | "index" =>
    let text ← match g.args.head? with
      | some v => reprOf v
      | none => pure []
    indexAmong (← listAt n).toList g (text ++ " is not in list")
  | "count" => return .int (← countValue (← g.one "list.count") (← listAt n).toList)
  | "reverse" =>
    g.nothing "list.reverse"
    modifyList n Array.reverse
    return .none
  | "sort" =>
    if g.count ≠ 0 then mistyped "sort() takes no positional arguments"
    g.allow "sort" ["key", "reverse"]
    let reverse := ((← g.whole? 9 "reverse").getD 0) ≠ 0
    let vs := (← listAt n).toList
    setBody n (.list #[])
    let handler (s : Stop) : Eval (List Value) := do
      setBody n (.list vs.toArray)
      throw s
    let done ← tryCatch (sorted vs ((g.named? "key").getD .none) reverse) handler
    if !(← listAt n).isEmpty then
      setBody n (.list done.toArray)
      misvalued "list modified during sort"
    setBody n (.list done.toArray)
    return .none
  | "__init__" =>
    g.between "list" 0 1
    let vs ← match g.args.head? with
      | some v => itemsOf v
      | none => pure []
    setBody n (.list vs.toArray)
    return .none
  | "__reversed__" => newIter .listReverseIterator (.listBack n (← listAt n).size)
  | "__sizeof__" => return .int (40 + 8 * (← listAt n).size)
  | name => noAttribute self name.toList

def tupleMethod (vs : List Value) (self : Value) (name : String) (g : Given) : Eval Value := do
  match name with
  | "index" => indexAmong vs g "tuple.index(x): x not in tuple"
  | "count" => return .int (← countValue (← g.one "tuple.count") vs)
  | "__getnewargs__" => return .tuple [.tuple vs]
  | name => noAttribute self name.toList

def rangeMethod (low high step : Int) (name : String) (g : Given) : Eval Value := do
  let v := Value.range low high step
  match name with
  | "index" =>
    let x ← g.one "range.index"
    if ← plainContains v x then
      match integer? (← get) x with
      | some n => return .int ((n - low).tdiv step)
      | none =>
        match ← seekValue x 0 ((rangeItems low high step).map .int) with
        | some n => return .int n
        | none => misvalued "sequence.index(x): x not in sequence"
    else misvalued ((← reprOf x) ++ " is not in range")
  | "count" => return .int (if ← plainContains v (← g.one "range.count") then 1 else 0)
  | "__reversed__" =>
    let count := rangeCount low high step
    newIter .rangeIterator (.range (low + step * (count - 1 : Int)) (-step) count)
  | name => noAttribute v name.toList

def changingMethod (n : Nat) (r : Raw) (name : String) (g : Given) : Eval Value := do
  let set (r : Raw) : Eval Value := do
    setBody n (.bytes r)
    return .none
  match name with
  | "append" =>
    let c ← byteOf (← g.one "bytearray.append")
    set (r ++ [c])
  | "extend" =>
    let v ← g.one "bytearray.extend"
    match bytesOf? (← get) v with
    | some s => set (r ++ s)
    | none => set (r ++ (← (← itemsOf v).mapM byteOf))
  | "insert" =>
    g.between "insert" 2 2
    let k := insertPlace r.length (← wholeOf (g.at_ 0))
    set (r.take k ++ (← byteOf (g.at_ 1)) :: r.drop k)
  | "pop" =>
    let k ← popPlace "bytearray" r.length g
    let c := r.getD k ' '
    let _ ← set (r.eraseIdx k)
    return .int c.toNat
  | "remove" =>
    let c ← byteOf (← g.one "bytearray.remove")
    if c ∈ r then set (r.erase c) else misvalued "value not found in bytearray"
  | "clear" =>
    g.nothing "bytearray.clear"
    set []
  | "copy" =>
    g.nothing "bytearray.copy"
    make .bytearray (.bytes r)
  | "reverse" =>
    g.nothing "bytearray.reverse"
    set r.reverse
  | name => bytesMethod .changing r name g

end IncludeAudit.Offside
