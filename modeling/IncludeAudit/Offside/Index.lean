/-
Elements of values by their place or their key, parts of values, and how many elements there are.

- `lengthOf`, `getIndex`, `setIndex`, `eraseIndex`: what brackets behind a value do.
-/
import IncludeAudit.Offside.Compute

namespace IncludeAudit.Offside

/-- the number of elements of a value that no script has a say in; nothing when it has none -/
def plainLength? (v : Value) : Eval (Option Nat) := do
  let w ← get
  match w.inner v with
  | .str t => return some t.length
  | .bytes r => return some r.length
  | .tuple vs => return some vs.length
  | .range a b c => return some (rangeCount a b c)
  | .ref n =>
    match w.body n with
    | .list vs => return some vs.size
    | .dict t => return some t.size
    | .set c => return some c.size
    | .bytes r => return some r.length
    | .view _ d => return some (w.table d).size
    | .proxy (.ref d) => return some (w.table d).size
    | .class_ _ =>
      let meta_ := (w.object n).cls
      match (if meta_ = Base.type.ref then none else w.lookup? meta_ "__len__") with
      | some f =>
        match integer? (← get) (← call (← bind f v meta_) []) with
        | some n => return some n.toNat
        | none => return none
      | none => return none
    | _ => return none
  | _ => return none

/-- the number of elements of a value; nothing when it has none -/
def lengthOf? (v : Value) : Eval (Option Nat) := do
  match ← method? v "__len__" with
  | some f =>
    match integer? (← get) (← call f []) with
    | some n =>
      if n < 0 then misvalued "__len__() should return >= 0"
      return some n.toNat
    | none => mistyped "'float' object cannot be interpreted as an integer"
  | none => plainLength? v

/-- the number of elements of a value -/
def lengthOf (v : Value) : Eval Nat := do
  match ← lengthOf? v with
  | some n => return n
  | none => mistyped ("object of type '" ++ (← kindOf v) ++ "' has no len()")

/-! ## Parts -/

/-- an end of a part -/
def bound? (v : Value) : Eval (Option Int) := do
  match v with
  | .none => return none
  | v => return some (← indexOf v (mistyped "slice indices must be integers or None or have an __index__ method"))

/-- the first place, the end and the step of a part of so many elements -/
def sliceBounds (count : Nat) (low high step : Value) : Eval (Int × Int × Int) := do
  let step := (← bound? step).getD 1
  if step = 0 then misvalued "slice step cannot be zero"
  let n : Int := count
  let (least, most) : Int × Int := if 0 < step then (0, n) else (-1, n - 1)
  let clamp (x : Int) : Int := max least (min most (if x < 0 then x + n else x))
  let low := ((← bound? low).map clamp).getD (if 0 < step then 0 else n - 1)
  let high := ((← bound? high).map clamp).getD (if 0 < step then n else -1)
  return (low, high, step)

/-- the elements between two ends -/
def rangeItems (low high step : Int) : List Int :=
  (List.range (rangeCount low high step)).map fun (i : Nat) => low + (i : Int) * step

def sliced {α : Type} (xs : List α) (low high step : Value) : Eval (List α) := do
  let (a, b, s) ← sliceBounds xs.length low high step
  if s = 1 then return (xs.drop a.toNat).take (b - a).toNat
  else
    let all := xs.toArray
    return (rangeItems a b s).filterMap fun i => all[i.toNat]?

def slicedArray (xs : Array Value) (low high step : Value) : Eval (Array Value) := do
  let (a, b, s) ← sliceBounds xs.size low high step
  if s = 1 then return xs.extract a.toNat (max a b).toNat
  else return ((rangeItems a b s).filterMap fun i => xs[i.toNat]?).toArray

/-- one of several, counted from the end when the number is negative -/
def element {α : Type} (what : Text) (xs : List α) (i : Int) : Eval α := do
  let k := if i < 0 then i + xs.length else i
  match (if k < 0 then none else xs[k.toNat]?) with
  | some x => return x
  | none => raise .indexError (what ++ " index out of range")

def wrongIndex {α : Type} (what : Text) (quotes : Bool) (i : Value) : Eval α := do
  let kind ← kindOf i
  if what = ("string" : Text) then
    mistyped (what ++ " indices must be integers, not '" ++ kind ++ ['\''])
  else
    mistyped (what ++ " indices must be integers or slices, not " ++ (if quotes then '\'' :: kind ++ ['\''] else kind))

def missingKey {α : Type} (k : Value) : Eval α :=
  raiseWith .keyError [k] []

def groupSpan? (m : Match) (c : Ordered.Compiled) (v : Value) : Eval (Option (Nat × Nat)) := do
  let w ← get
  let refuse : Eval Nat := raise .indexError "no such group"
  let n ← (match w.inner v with
    | .str t =>
      match c.names.find? (·.1 = t) with
      | some (_, n) => pure n
      | none => refuse
    | v =>
      match integer? w v with
      | some n => if n < 0 ∨ (c.groups : Int) < n then refuse else pure n.toNat
      | none => refuse)
  if n = 0 then return some (m.low, m.high)
  else return Ordered.Groups.get? m.spans n

/-- a part of the subject of a match -/
def cutSubject (v : Value) (a b : Nat) : Value :=
  match v with
  | .str t => .str ((t.drop a).take (b - a))
  | .bytes r => .bytes ((r.drop a).take (b - a))
  | v => v

/-- the value at an index, as far as no script has a say in it -/
def plainIndex (v i : Value) : Eval Value := do
  let w ← get
  let notHere : Eval Value := do mistyped ("'" ++ (← kindOf v) ++ "' object is not subscriptable")
  match w.inner v with
  | .str t =>
    match i with
    | .slice a b c => return .str (← sliced t a b c)
    | i => return .str [← element "string" t (← indexOf i (wrongIndex "string" true i))]
  | .bytes r =>
    match i with
    | .slice a b c => return .bytes (← sliced r a b c)
    | i => return .int (← element "index" r (← indexOf i (wrongIndex "byte" false i))).toNat
  | .tuple vs =>
    match i with
    | .slice a b c => return .tuple (← sliced vs a b c)
    | i => element "tuple" vs (← indexOf i (wrongIndex "tuple" false i))
  | .range a b c =>
    match i with
    | .slice p q r =>
      let (x, y, s) ← sliceBounds (rangeCount a b c) p q r
      return .range (a + x * c) (a + y * c) (s * c)
    | i =>
      let k ← indexOf i (wrongIndex "range" false i)
      let n : Int := rangeCount a b c
      let j := if k < 0 then k + n else k
      if j < 0 ∨ n ≤ j then raise .indexError "range object index out of range"
      return .int (a + j * c)
  | .ref n =>
    match w.body n with
    | .list vs =>
      match i with
      | .slice a b c =>
        let part ← slicedArray vs a b c
        make .list (.list part)
      | i =>
        let k ← indexOf i (wrongIndex "list" false i)
        let k := if k < 0 then k + vs.size else k
        match (if k < 0 then none else vs[k.toNat]?) with
        | some x => return x
        | none => raise .indexError "list index out of range"
    | .dict _ =>
      match ← lookUp? n i with
      | some x => return x
      | none =>
        match ← method? v "__missing__" with
        | some f => call f [i]
        | none => missingKey i
    | .proxy (.ref d) =>
      match ← lookUp? d i with
      | some x => return x
      | none => missingKey i
    | .bytes r =>
      match i with
      | .slice a b c =>
        let part ← sliced r a b c
        make .bytearray (.bytes part)
      | i => return .int (← element "bytearray" r (← indexOf i (wrongIndex "bytearray" false i))).toNat
    | .match_ m =>
      match (← object m.pattern).body with
      | .pattern _ c =>
        match ← groupSpan? m c i with
        | some (a, b) => return cutSubject m.subject a b
        | none => return .none
      | _ => notHere
    | .class_ c =>
      let meta_ := (w.object n).cls
      match (if meta_ = Base.type.ref then none else w.lookup? meta_ "__getitem__") with
      | some f => call (← bind f v meta_) [i]
      | none =>
        match ← member? v "__class_getitem__" with
        | some f => call f [i]
        | none =>
          if c.native ∧ c.layout = .type then call (← partOfTypes "GenericAlias") [v, i]
          else mistyped ("type '" ++ c.name ++ "' is not subscriptable")
    | _ => notHere
  | _ => notHere

def getIndex (v i : Value) : Eval Value := do
  let quick? : Option Value ← (do
    match v, i with
    | .ref n, .int k =>
      let w ← get
      match w.object n with
      | { cls, body := .list vs, .. } =>
        if cls = Base.list.ref then
          let k := if k < 0 then k + vs.size else k
          return if k < 0 then none else vs[k.toNat]?
        else return none
      | _ => return none
    | _, _ => return none)
  match quick? with
  | some x => return x
  | none =>
    match ← method? v "__getitem__" with
    | some f => call f [i]
    | none => plainIndex v i

/-! ## Changes -/

def replacePart (vs : Array Value) (low high step : Value) (new : List Value) : Eval (Array Value) := do
  let (a, b, s) ← sliceBounds vs.size low high step
  if s = 1 then
    let b := max a b
    return vs.extract 0 a.toNat ++ new.toArray ++ vs.extract b.toNat vs.size
  else
    let places := rangeItems a b s
    if places.length ≠ new.length then
      misvalued ("attempt to assign sequence of size " ++ Text.ofNat new.length ++ " to extended slice of size " ++
        Text.ofNat places.length)
    return (places.zip new).foldl (fun vs (p : Int × Value) => vs.set! p.1.toNat p.2) vs

def modifyList (n : Nat) (f : Array Value → Array Value) : Eval Unit :=
  modifyObject n fun o =>
    match o with
    | { cls, attributes, body := .list vs } => { cls, attributes, body := .list (f vs) }
    | o => o

def byteOf (v : Value) : Eval Char := do
  let n ← wholeOf v
  if n < 0 ∨ 255 < n then misvalued "byte must be in range(0, 256)"
  return Char.ofNat n.toNat

/-- changes the value at an index, as far as no script has a say in it -/
def plainSetIndex (v i new : Value) : Eval Unit := do
  let notHere : Eval Unit := do mistyped ("'" ++ (← kindOf v) ++ "' object does not support item assignment")
  match v with
  | .ref n =>
    let kind : Nat ← (do
      match (← object n).body with
      | .list _ => return 1
      | .dict _ => return 2
      | .bytes _ => return 3
      | _ => return 0)
    match kind with
    | 1 =>
      match i with
      | .slice a b c =>
        let new ← catching [.typeError] (itemsOf new) fun _ => mistyped "can only assign an iterable"
        match (← object n).body with
        | .list vs => setBody n (.list (← replacePart vs a b c new))
        | _ => return ()
      | i =>
        let k ← indexOf i (wrongIndex "list" false i)
        let size : Nat ← (do
          match (← object n).body with
          | .list vs => return vs.size
          | _ => return 0)
        let k := if k < 0 then k + size else k
        if k < 0 ∨ (size : Int) ≤ k then raise .indexError "list assignment index out of range"
        modifyList n fun vs => vs.set! k.toNat new
    | 2 => putEntry n i new
    | 3 =>
      match (← object n).body with
      | .bytes r =>
        match i with
        | .slice a b c =>
          let new ← (do
            match (← get).inner new with
            | .bytes s => return s
            | x => (← itemsOf x).mapM byteOf)
          let vs ← replacePart (r.map fun c => Value.int c.toNat).toArray a b c (new.map fun c => .int c.toNat)
          setBody n (.bytes (← vs.toList.mapM byteOf))
        | i =>
          let k ← indexOf i (wrongIndex "bytearray" false i)
          let k := if k < 0 then k + r.length else k
          if k < 0 ∨ (r.length : Int) ≤ k then raise .indexError "bytearray index out of range"
          setBody n (.bytes (r.set k.toNat (← byteOf new)))
      | _ => notHere
    | _ => notHere
  | _ => notHere

def setIndex (v i new : Value) : Eval Unit := do
  match ← method? v "__setitem__" with
  | some f =>
    let _ ← call f [i, new]
  | none => plainSetIndex v i new

/-- takes away the value at an index, as far as no script has a say in it -/
def plainEraseIndex (v i : Value) : Eval Unit := do
  let notHere : Eval Unit := do mistyped ("'" ++ (← kindOf v) ++ "' object doesn't support item deletion")
  match v with
  | .ref n =>
    match (← object n).body with
    | .list vs =>
      match i with
      | .slice a b c =>
        let (x, y, s) ← sliceBounds vs.size a b c
        let places := rangeItems x y s
        setBody n (.list ((vs.toList.zipIdx.filter fun p => !places.contains (p.2 : Int)).map (·.1)).toArray)
      | i =>
        let k ← indexOf i (wrongIndex "list" false i)
        let k := if k < 0 then k + vs.size else k
        if k < 0 ∨ (vs.size : Int) ≤ k then raise .indexError "list assignment index out of range"
        setBody n (.list (vs.toList.eraseIdx k.toNat).toArray)
    | .dict _ =>
      match ← eraseEntry n i with
      | some _ => return ()
      | none => missingKey i
    | .bytes r =>
      match i with
      | .slice a b c =>
        let (x, y, s) ← sliceBounds r.length a b c
        let places := rangeItems x y s
        setBody n (.bytes ((r.zipIdx.filter fun p => !places.contains (p.2 : Int)).map (·.1)))
      | i =>
        let k ← indexOf i (wrongIndex "bytearray" false i)
        let k := if k < 0 then k + r.length else k
        if k < 0 ∨ (r.length : Int) ≤ k then raise .indexError "bytearray index out of range"
        setBody n (.bytes (r.eraseIdx k.toNat))
    | _ => notHere
  | _ => notHere

def eraseIndex (v i : Value) : Eval Unit := do
  match ← method? v "__delitem__" with
  | some f =>
    let _ ← call f [i]
  | none => plainEraseIndex v i

end IncludeAudit.Offside
