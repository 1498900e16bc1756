/-
What values are to one another: equality, order, the numbers that they are found by, truth, and the values that they
give one after another.

- `equal`, `compareValues`, `hashOf`, `truthOf`: relations, `iterOf`, `nextOf`, `itemsOf`: elements.
- `lookUp?`, `putEntry`, `eraseEntry`: dictionaries, `crowdHas`, `crowdAdd`: sets.
-/
import IncludeAudit.Offside.Files
import IncludeAudit.Offside.Numeral

namespace IncludeAudit.Offside

/-! ## Numbers -/

def integer? (w : World) (v : Value) : Option Int :=
  match w.inner v with
  | .int n => some n
  | .truth b => some (if b then 1 else 0)
  | _ => none

/-- the number with a point that a value is -/
def float? (w : World) (v : Value) : Option Float :=
  match w.inner v with
  | .float x => some x
  | v => (integer? w v).map Float.ofInt

/-- an integer in front of a number with a point, by their exact values -/
def intLessFloat (n : Int) (x : Float) : Bool :=
  if x.isNaN then false
  else if x.isInf then 0 < x
  else
    let (a, b) := Numeral.ratio x
    n * b < a

/-- an integer and a number with a point are the same number -/
def intIsFloat (n : Int) (x : Float) : Bool :=
  !x.isNaN && !x.isInf && (let (a, b) := Numeral.ratio x; n * b = a)

/-- the whole number that a value stands for as an index -/
def indexOf (v : Value) (otherwise : Eval Int) : Eval Int := do
  match integer? (← get) v with
  | some n => return n
  | none =>
    match ← method? v "__index__" with
    | some f =>
      match integer? (← get) (← call f []) with
      | some n => return n
      | none => mistyped "__index__ returned non-int"
    | none => otherwise

/-- the whole number that a value stands for, or a complaint -/
def wholeOf (v : Value) : Eval Int := do
  indexOf v (do mistyped ("'" ++ (← kindOf v) ++ "' object cannot be interpreted as an integer"))

/-! ## Truth -/

/-- the number of elements between two ends -/
def rangeCount (low high step : Int) : Nat :=
  if 0 < step then ((high - low + step - 1) / step).toNat
  else if step < 0 then ((low - high - step - 1) / (-step)).toNat
  else 0

/-- a value counts as true -/
def truthOf (v : Value) : Eval Bool := do
  match v with
  | .truth b => return b
  | .none => return false
  | .int n => return n ≠ 0
  | .float x => return x != 0
  | .complex a b => return a != 0 || b != 0
  | .str t => return t ≠ []
  | .bytes r => return r ≠ []
  | .tuple vs => return !vs.isEmpty
  | .range a b c => return rangeCount a b c ≠ 0
  | .ref n =>
    match ← method? v "__bool__" with
    | some f =>
      match ← call f [] with
      | .truth b => return b
      | x => mistyped ("__bool__ should return bool, returned " ++ (← kindOf x))
    | none =>
      match ← method? v "__len__" with
      | some f =>
        match integer? (← get) (← call f []) with
        | some n => return n ≠ 0
        | none => mistyped "'NoneType' object cannot be interpreted as an integer"
      | none =>
        let w ← get
        match w.body n with
        | .list vs => return vs.size ≠ 0
        | .dict t => return t.size ≠ 0
        | .set c => return c.size ≠ 0
        | .bytes r => return r ≠ []
        | .view _ d => return (w.table d).size ≠ 0
        | .payload v =>
          match v with
          | .int n => return n ≠ 0
          | .float x => return x != 0
          | .str t => return t ≠ []
          | .bytes r => return r ≠ []
          | .tuple vs => return !vs.isEmpty
          | _ => return true
        | _ => return true
  | _ => return true

/-! ## Identity and equality -/

/-- the two values are one and the same -/
def identical : Value → Value → Bool
  | .ref m, .ref n => m = n
  | .none, .none => true
  | .ellipsis, .ellipsis => true
  | .notImplemented, .notImplemented => true
  | .truth a, .truth b => a = b
  | .int a, .int b => a = b
  | .float x, .float y => x.toBits = y.toBits
  | .str a, .str b => a = b
  | .bytes a, .bytes b => a = b
  | .tuple as, .tuple bs => identicals as bs
  | .native a b, .native c d => a = c && b = d
  | .unbound a b, .unbound c d => a = c && b = d
  | _, _ => false
where
  /-- the same for values in a row -/
  identicals : List Value → List Value → Bool
    | [], [] => true
    | a :: as, b :: bs => identical a b && identicals as bs
    | _, _ => false

/-- the two values are equal, as far as no script has a say in it -/
def simplyEqual? : Value → Value → Option Bool
  | .str a, .str b => some (a = b)
  | .int a, .int b => some (a = b)
  | .none, .none => some true
  | .truth a, .truth b => some (a = b)
  | .truth a, .int b | .int b, .truth a => some ((if a then (1 : Int) else 0) = b)
  | .float x, .float y => some (x == y)
  | .int a, .float x | .float x, .int a => some (intIsFloat a x)
  | .truth a, .float x | .float x, .truth a => some (intIsFloat (if a then 1 else 0) x)
  | .bytes a, .bytes b => some (a = b)
  | .complex a b, .complex c d => some (a == c && b == d)
  | .complex a b, .float x | .float x, .complex a b => some (a == x && b == 0)
  | .complex a b, .int n | .int n, .complex a b => some (intIsFloat n a && b == 0)
  | .range a b c, .range d e f =>
    let n := rangeCount a b c
    some (n = rangeCount d e f && (n = 0 || (a = d && (n = 1 || c = f))))
  | .native a b, .native c d => some (a = c && b = d)
  | .unbound a b, .unbound c d => some (a = c && b = d)
  | .ref _, _ | _, .ref _ => none
  | .tuple _, .tuple _ => none
  | .slice _ _ _, .slice _ _ _ => none
  | .bound _ _ _, .bound _ _ _ => none
  | .method _ _, .method _ _ => none
  | _, _ => some false

/-- how deep values are nested -/
def maxDepth : Nat := 300

def tooDeep {α : Type} (what : Text) : Eval α :=
  raise .recursionError ("maximum recursion depth exceeded" ++ what)

/-- what a method says about two values; nothing when it is not the one to ask -/
def asked? (a : Value) (name : Text) (b : Value) : Eval (Option Value) := do
  match ← method? a name with
  | none => return none
  | some f =>
    match ← call f [b] with
    | .notImplemented => return none
    | v => return some v

/-- values in a row are the same or equal, as something else decides -/
def rowsAgree (eq : Value → Value → Eval Bool) : List Value → List Value → Eval Bool
  | a :: as, b :: bs => do
    if identical a b then rowsAgree eq as bs
    else if ← eq a b then rowsAgree eq as bs
    else return false
  | _, _ => return true

/-- something holds for all elements -/
def allHold {α : Type} (p : α → Eval Bool) : List α → Eval Bool
  | [] => return true
  | a :: as => do
    if ← p a then allHold p as else return false

def firstSame (eq : Value → Eval Bool) (v : Value) : List (Nat × Value) → Eval (Option Nat)
  | [] => return none
  | (n, x) :: rest => do
    if identical x v then return some n
    else if ← eq x then return some n
    else firstSame eq v rest

mutual

def equalAt : (fuel : Nat) → Value → Value → Eval Bool
  | 0, _, _ => tooDeep " in comparison"
  | fuel + 1, a, b => do
    match simplyEqual? a b with
    | some r => return r
    | none =>
      let w ← get
      let scripted (v : Value) : Bool :=
        match v with
        | .ref n => !(w.classAt (w.object n).cls).native
        | _ => false
      if scripted a ∨ scripted b then
        match ← richAt fuel "__eq__" "__eq__" a b with
        | some v => truthOf v
        | none => equalParts fuel a b
      else equalParts fuel a b

/-- what the methods of two values say, the one of the more special class first -/
def richAt : (fuel : Nat) → (name reflected : Text) → Value → Value → Eval (Option Value)
  | 0, _, _, _, _ => tooDeep " in comparison"
  | _ + 1, name, reflected, a, b => do
    let w ← get
    let ca := w.classOf a
    let cb := w.classOf b
    let first : Bool := ca ≠ cb && w.isBelow cb ca && hasMethod w b reflected
    if first then
      match ← asked? b reflected a with
      | some v => return some v
      | none => asked? a name b
    else
      match ← asked? a name b with
      | some v => return some v
      | none => if ca = cb ∧ name = reflected then return none else asked? b reflected a

def equalParts : (fuel : Nat) → Value → Value → Eval Bool
  | 0, _, _ => tooDeep " in comparison"
  | fuel + 1, a, b => do
    let w ← get
    match w.inner a, w.inner b with
    | .tuple as, .tuple bs => equalRows fuel as bs
    | .slice a b c, .slice d e f => equalRows fuel [a, b, c] [d, e, f]
    | .bound s o n, .bound t p m => if o = p ∧ n = m then return identical s t else return false
    | .method s f, .method t g => return identical s t && identical f g
    | .ref m, .ref n =>
      if m = n then return true
      else
        match w.body m, w.body n with
        | .list as, .list bs => if as.size = bs.size then equalRows fuel as.toList bs.toList else return false
        | .dict s, .dict t =>
          if s.size ≠ t.size then return false
          else equalTables fuel s.toList n
        | .set c, .set d => if c.size ≠ d.size then return false else crowdsWithin fuel c.numbered n
        | .bytes r, .bytes s => return r = s
        | .view .keys d, .view .keys e => tablesSame fuel d e
        | .view .keys d, .set c => keysSame fuel d n c.size
        | .set c, .view .keys e => keysSame fuel e m c.size
        | .view .items d, .view .items e => tablesSame fuel d e
        | .proxy v, .proxy x => equalAt fuel v x
        | _, _ => return false
    | .ref m, .bytes s | .bytes s, .ref m =>
      match w.body m with
      | .bytes r => return r = s
      | _ => return false
    | x, y =>
      match simplyEqual? x y with
      | some r => return r
      | none => return false

/-- the keys of a dictionary are the elements of a set -/
def keysSame : (fuel : Nat) → (table crowd size : Nat) → Eval Bool
  | 0, _, _, _ => tooDeep " in comparison"
  | fuel + 1, d, c, size => do
    let ks := ((← get).table d).toList.map (·.1)
    if ks.length ≠ size then return false
    let hs ← ks.mapM fun k => do return (← hashAt fuel k, k)
    crowdsWithin fuel hs c

/-- two dictionaries have the same keys -/
def tablesSame : (fuel : Nat) → (d e : Nat) → Eval Bool
  | 0, _, _ => tooDeep " in comparison"
  | fuel + 1, d, e => do
    let s ← dictionaryAt d
    if s.size ≠ (← dictionaryAt e).size then return false
    let all ← s.toList.mapM fun p => do return (← findAt fuel e (← hashAt fuel p.1) p.1).isSome
    return all.all fun b => b

def equalRows : (fuel : Nat) → List Value → List Value → Eval Bool
  | 0, _, _ => tooDeep " in comparison"
  | _ + 1, [], [] => return true
  | fuel + 1, as, bs => do
    if as.length ≠ bs.length then return false else rowsAgree (equalAt fuel) as bs

/-- entries are also those of a dictionary -/
def equalTables : (fuel : Nat) → List (Value × Value) → (n : Nat) → Eval Bool
  | 0, _, _ => tooDeep " in comparison"
  | fuel + 1, ps, n => do
    allHold (fun (k, v) => do
      match ← findAt fuel n (← hashAt fuel k) k with
      | none => return false
      | some place =>
        match ((← get).table n).valueAt? place with
        | none => return false
        | some x => if identical v x then return true else equalAt fuel v x) ps

/-- elements are also those of a set -/
def crowdsWithin : (fuel : Nat) → List (UInt64 × Value) → (n : Nat) → Eval Bool
  | 0, _, _ => tooDeep " in comparison"
  | fuel + 1, hs, n => do
    allHold (fun (h, v) => do
      let w ← get
      let candidates : List (Nat × Value) :=
        match w.body n with
        | .set c => c.candidates h
        | _ => []
      return (← sameAmong fuel v candidates).isSome) hs

def sameAmong : (fuel : Nat) → Value → List (Nat × Value) → Eval (Option Nat)
  | 0, _, _ => tooDeep " in comparison"
  | fuel + 1, v, cs => do
    firstSame (fun x => equalAt fuel x v) v cs

/-- the place of a key in a dictionary -/
def findAt : (fuel : Nat) → (n : Nat) → UInt64 → Value → Eval (Option Nat)
  | 0, _, _, _ => tooDeep " in comparison"
  | fuel + 1, n, h, k => do
    let candidates := ((← get).table n).candidates h
    match candidates with
    | [] => return none
    | cs => sameAmong fuel k cs

/-- the number that a value is found by -/
def hashAt : (fuel : Nat) → Value → Eval UInt64
  | 0, _ => tooDeep ""
  | fuel + 1, v => do
    match Hash.value? v with
    | some h => return h
    | none =>
      let refuse : Eval UInt64 := do
        mistyped ("unhashable type: '" ++ (← kindOf v) ++ ['\''])
      match v with
      | .tuple vs => return Hash.row (← vs.mapM (hashAt fuel))
      | .slice a b c => return Hash.row (← [a, b, c].mapM (hashAt fuel))
      | .bound s o n => return (← hashAt fuel s) + Hash.text n.toList + o.ref.toUInt64
      | .method s f =>
        let h ← (match s with
          | .ref n => return Hash.place n
          | s => hashAt fuel s)
        return h + (← hashAt fuel f)
      | .ref n =>
        let w ← get
        let o := w.object n
        if (w.classAt o.cls).native then
          match o.body with
          | .list _ | .dict _ | .bytes _ => refuse
          | .view .keys _ | .view .items _ => refuse
          | .set c => if o.cls = Base.frozenset.ref then return Hash.crowd (c.numbered.map (·.1)) else refuse
          | _ => return Hash.place n
        else
          match w.lookup? o.cls "__hash__" with
          | some .none => refuse
          | some (.unbound _ _) | none =>
            match o.body with
            | .payload v => hashAt fuel v
            | .set c => if (w.classAt o.cls).layout = .frozenset then return Hash.crowd (c.numbered.map (·.1)) else refuse
            | .list _ | .dict _ | .bytes _ => refuse
            | _ => return Hash.place n
          | some f =>
            match integer? (← get) (← call (← bind f v o.cls) []) with
            | some n => return if n.natAbs < 0x8000000000000000 then Hash.word (Hash.allowed n) else Hash.int n
            | none => mistyped "__hash__ method should return an integer"
      | _ => return 0

end

def equal (a b : Value) : Eval Bool :=
  equalAt maxDepth a b

def same (a b : Value) : Eval Bool := do
  if identical a b then return true else equal a b

/-- the number that a value is found by -/
def hashOf (v : Value) : Eval UInt64 :=
  hashAt maxDepth v

/-! ## Dictionaries and sets -/

/-- the place of a key in a dictionary -/
def placeOf? (n : Nat) (k : Value) : Eval (Option Nat) := do
  findAt maxDepth n (← hashOf k) k

/-- the value for a key of a dictionary -/
def lookUp? (n : Nat) (k : Value) : Eval (Option Value) := do
  match ← placeOf? n k with
  | none => return none
  | some p => return ((← get).table n).valueAt? p

/-- changes the table of a dictionary -/
def modifyTable (n : Nat) (f : Table → Table) : Eval Unit :=
  modifyObject n fun o =>
    match o with
    | { cls, attributes, body := .dict t } => { cls, attributes, body := .dict (f t) }
    | o => o

def putEntry (n : Nat) (k v : Value) : Eval Unit := do
  let h ← hashOf k
  match ← findAt maxDepth n h k with
  | some p => modifyTable n fun t => t.setAt p v
  | none => modifyTable n fun t => t.push h k v

/-- takes a key out of a dictionary; gives its value -/
def eraseEntry (n : Nat) (k : Value) : Eval (Option Value) := do
  match ← placeOf? n k with
  | none => return none
  | some p =>
    let v := ((← get).table n).valueAt? p
    modifyTable n fun t => t.eraseAt p
    return v

/-- a fresh dictionary of entries -/
def newDict (ps : List (Value × Value)) : Eval Value := do
  let n ← alloc { cls := Base.dict.ref, body := .dict {} }
  ps.forM fun p => putEntry n p.1 p.2
  return .ref n

/-- the elements of a set -/
def crowdAt (n : Nat) : Eval Crowd := do
  match (← object n).body with
  | .set c => return c
  | _ => return {}

/-- changes a set -/
def modifyCrowd (n : Nat) (f : Crowd → Crowd) : Eval Unit :=
  modifyObject n fun o =>
    match o with
    | { cls, attributes, body := .set c } => { cls, attributes, body := .set (f c) }
    | o => o

/-- the slot of an element of a set -/
def slotOf? (n : Nat) (h : UInt64) (v : Value) : Eval (Option Nat) := do
  match (← crowdAt n).candidates h with
  | [] => return none
  | cs => sameAmong maxDepth v cs

/-- the value is an element of a set -/
def crowdHas (n : Nat) (v : Value) : Eval Bool := do
  return (← slotOf? n (← hashOf v) v).isSome

/-- adds an element with its number to a set -/
def crowdAddAt (n : Nat) (h : UInt64) (v : Value) : Eval Unit := do
  match ← slotOf? n h v with
  | some _ => return ()
  | none => modifyCrowd n fun c => c.push h v

/-- adds an element to a set -/
def crowdAdd (n : Nat) (v : Value) : Eval Unit := do
  crowdAddAt n (← hashOf v) v

/-- takes an element out of a set; true when it was there -/
def crowdErase (n : Nat) (v : Value) : Eval Bool := do
  match ← slotOf? n (← hashOf v) v with
  | none => return false
  | some p =>
    modifyCrowd n fun c => c.eraseAt p
    return true

/-- a fresh set of elements -/
def newSet (b : Base) (vs : List Value) : Eval Value := do
  let n ← alloc { cls := b.ref, body := .set {} }
  vs.forM (crowdAdd n)
  return .ref n

/-! ## Elements -/

/-- the class of what gives the entries of a dictionary -/
def View.base (v : View) (isBack : Bool) : Base :=
  if isBack then .keyReverseIterator
  else
    match v with
    | .keys => .keyIterator
    | .values => .valueIterator
    | .items => .itemIterator

/-- something cannot give elements -/
def notIterable {α : Type} (v : Value) : Eval α := do
  mistyped ("'" ++ (← kindOf v) ++ "' object is not iterable")

/-- what gives the elements of a value one after another, as far as no script has a say in it -/
def plainIter (v : Value) : Eval Value := do
  match v with
  | .tuple vs => newIter .tupleIterator (.values vs)
  | .str t => newIter .strIterator (.values (t.map fun c => .str [c]))
  | .bytes r => newIter .bytesIterator (.values (r.map fun c => .int c.toNat))
  | .range a b c => newIter .rangeIterator (.range a c (rangeCount a b c))
  | .ref n =>
    let w ← get
    let o := w.object n
    let native := (w.classAt o.cls).native
    match o.body with
    | .list _ => newIter .listIterator (.list n 0)
    | .dict t => newIter .keyIterator (.table n 0 t.size .keys)
    | .set c => newIter .setIterator (.crowd n c.size c.toList)
    | .view k d => newIter (k.base false) (.table d 0 (w.table d).size k)
    | .bytes r => newIter .bytesIterator (.values (r.map fun c => .int c.toNat))
    | .iter _ | .file _ => return v
    | .generator _ => if o.cls = Base.generator.ref then return v else notIterable v
    | .proxy (.ref d) => newIter .keyIterator (.table d 0 (w.table d).size .keys)
    | .payload (.tuple vs) => newIter .tupleIterator (.values vs)
    | .payload (.str t) => newIter .strIterator (.values (t.map fun c => .str [c]))
    | .payload (.bytes r) => newIter .bytesIterator (.values (r.map fun c => .int c.toNat))
    | .class_ _ =>
      match (if o.cls = Base.type.ref then none else w.lookup? o.cls "__iter__") with
      | some f => call (← bind f v o.cls) []
      | none => mistyped ("'" ++ w.kindOf v ++ "' object is not iterable")
    | _ =>
      if !native ∧ (w.lookup? o.cls "__getitem__").isSome then newIter .sequenceIterator (.numbered v 0)
      else notIterable v
  | v => notIterable v

/-- what gives the elements of a value one after another -/
def iterOf (v : Value) : Eval Value := do
  match v with
  | .ref n =>
    let w ← get
    let o := w.object n
    let native := (w.classAt o.cls).native
    let scripted? : Option Value := if native then none else (w.lookup? o.cls "__iter__").filter fun v =>
      match v with
      | .unbound _ _ => false
      | _ => true
    match scripted? with
    | some .none => notIterable v
    | some f =>
      let it ← call (← bind f v o.cls) []
      let w ← get
      let isIterator : Bool :=
        match it with
        | .ref m =>
          match w.body m with
          | .iter _ | .generator _ | .file _ => true
          | _ => (w.lookup? (w.object m).cls "__next__").isSome
        | _ => false
      if isIterator then return it
      else mistyped ("iter() returned non-iterator of type '" ++ w.kindOf it ++ ['\''])
    | none => plainIter v
  | v => plainIter v

/-- another state for what gives elements -/
def setIter (n : Nat) (i : Iter) : Eval Unit :=
  setBody n (.iter i)

/-- an entry of a dictionary as it is seen -/
def View.show (v : View) (k x : Value) : Value :=
  match v with
  | .keys => k
  | .values => x
  | .items => .tuple [k, x]

/-- nothing more can be said about how far values go -/
def endless : Nat := 0xffffffff

/-- the next elements of all of several values; nothing when one has none -/
def gatherNext (next : Value → Eval (Option Value)) : List Value → Eval (Option (List Value))
  | [] => return some []
  | s :: rest => do
    match ← next s with
    | none => return none
    | some v =>
      match ← gatherNext next rest with
      | none => return none
      | some vs => return some (v :: vs)

def seekNext (next : Eval (Option Value)) (passes : Value → Eval Bool) : (left : Nat) → Eval (Option Value)
  | 0 => return none
  | left + 1 => do
    match ← next with
    | none => return none
    | some v => if ← passes v then return some v else seekNext next passes left

/-- the next elements of several values, which should all have one or none if that is wanted -/
def sideBySide (next : Value → Eval (Option Value)) (strict : Bool) (count : Nat) : List Value → Eval (Option (List Value))
  | [] => return some []
  | s :: rest => do
    match ← next s with
    | none =>
      if strict then
        let others (n : Nat) : Text := if n = 1 then " 1" else "s 1-" ++ Text.ofNat n
        if 0 < count then
          misvalued ("zip() argument " ++ Text.ofNat (count + 1) ++ " is shorter than argument" ++ others count)
        else
          let longer ← rest.zipIdx.findSomeM? fun (s, i) => do
            match ← next s with
            | some _ => return some i
            | none => return none
          match longer with
          | some i =>
            misvalued ("zip() argument " ++ Text.ofNat (i + 2) ++ " is longer than argument" ++ others (i + 1))
          | none => return none
      else return none
    | some v =>
      match ← sideBySide next strict (count + 1) rest with
      | none => return none
      | some vs => return some (v :: vs)

def nextOf : (fuel : Nat) → Value → Eval (Option Value)
  | 0, _ => tooDeep ""
  | fuel + 1, it => do
    match it with
    | .ref n =>
      let o ← object n
      match o.body with
      | .iter i =>
        let finish : Eval (Option Value) := do
          setIter n .done
          return none
        match i with
        | .done => return none
        | .values [] => finish
        | .values (v :: vs) =>
          setIter n (.values vs)
          return some v
        | .list r place =>
          match (← object r).body with
          | .list vs =>
            match vs[place]? with
            | some v =>
              setIter n (.list r (place + 1))
              return some v
            | none => finish
          | _ => finish
        | .listBack r place =>
          match place, (← object r).body with
          | k + 1, .list vs =>
            match vs[k]? with
            | some v =>
              setIter n (.listBack r k)
              return some v
            | none => finish
          | _, _ => finish
        | .range next step left =>
          match left with
          | 0 => finish
          | k + 1 =>
            setIter n (.range (next + step) step k)
            return some (.int next)
        | .table r place size view =>
          let t := (← get).table r
          if t.size ≠ size then
            setIter n .done
            raise .runtimeError "dictionary changed size during iteration"
          else
            match t.nextFrom (t.entries.size + 1) place with
            | none => finish
            | some (p, k, x) =>
              setIter n (.table r (p + 1) size view)
              return some (view.show k x)
        | .tableBack r place size view =>
          let t := (← get).table r
          if t.size ≠ size then
            setIter n .done
            raise .runtimeError "dictionary changed size during iteration"
          else
            match t.nextBefore place with
            | none => finish
            | some (p, k, x) =>
              setIter n (.tableBack r p size view)
              return some (view.show k x)
        | .crowd r size vs =>
          if (← crowdAt r).size ≠ size then
            setIter n .done
            raise .runtimeError "Set changed size during iteration"
          else
            match vs with
            | [] => finish
            | v :: vs =>
              setIter n (.crowd r size vs)
              return some v
        | .calls f stop =>
          let v ← call f []
          if ← same v stop then finish else return some v
        | .numbered v place =>
          setIter n (.numbered v (place + 1))
          catching [.indexError, .stopIteration] (do
            match ← method? v "__getitem__" with
            | some f => return some (← call f [.int place])
            | none => return none) fun _ => finish
        | .numberedBack v place =>
          match place with
          | 0 => finish
          | k + 1 =>
            setIter n (.numberedBack v k)
            match v with
            | .tuple vs => return vs[k]?
            | .str t => return (t[k]?).map fun c => .str [c]
            | .bytes r => return (r[k]?).map fun c => .int c.toNat
            | v =>
              match ← method? v "__getitem__" with
              | some f => return some (← call f [.int k])
              | none => return none
        | .map f sources =>
          match ← gatherNext (nextOf fuel) sources with
          | none => return none
          | some vs => return some (← call f vs)
        | .filter f source =>
          seekNext (nextOf fuel source) (fun v => do
            if f.isNone then truthOf v else truthOf (← call f [v])) endless
        | .zip strict sources =>
          if sources.isEmpty then return none
          else
            match ← sideBySide (nextOf fuel) strict 0 sources with
            | none => finish
            | some vs => return some (.tuple vs)
        | .count source k =>
          match ← nextOf fuel source with
          | none => return none
          | some v =>
            setIter n (.count source (k + 1))
            return some (.tuple [.int k, v])
        | .step _ _ _ => finish
      | .generator _ =>
        let (more, v) ← (fun (c : Caller) => c.resume c.waiting n .none false : Eval (Bool × Value))
        return if more then some v else none
      | .file f =>
        if f.closed then misvalued "I/O operation on closed file."
        let scripted? ← method? it "__next__"
        match scripted? with
        | some g => catching [.stopIteration] (do return some (← call g [])) fun _ => return none
        | none =>
          let line ← readLine n none
          return if line = [] then none else some (content f line)
      | _ =>
        match ← method? it "__next__" with
        | some f => catching [.stopIteration] (do return some (← call f [])) fun _ => return none
        | none => mistyped ("'" ++ (← kindOf it) ++ "' object is not an iterator")
    | it => mistyped ("'" ++ (← kindOf it) ++ "' object is not an iterator")

def next? (it : Value) : Eval (Option Value) :=
  nextOf 60 it

/-- all elements that are still to come, the latest first in front of those that are there -/
def drain (it : Value) : (fuel : Nat) → List Value → Eval (List Value)
  | 0, vs => return vs.reverse
  | fuel + 1, vs => do
    match ← next? it with
    | none => return vs.reverse
    | some v => drain it fuel (v :: vs)

def itemsOf (v : Value) : Eval (List Value) := do
  match v with
  | .tuple vs => return vs
  | .str t => return t.map fun c => .str [c]
  | .ref n =>
    let w ← get
    let o := w.object n
    if (w.classAt o.cls).native then
      match o.body with
      | .list vs => return vs.toList
      | .dict t => return t.toList.map (·.1)
      | .set c => return c.toList
      | .view k d => return (w.table d).toList.map fun p => k.show p.1 p.2
      | _ => drain (← iterOf v) endless []
    else drain (← iterOf v) endless []
  | v => drain (← iterOf v) endless []

/-- work for every element of a value -/
def eachOf (v : Value) (f : Value → Eval Unit) : Eval Unit := do
  let it ← iterOf v
  let rec go : (fuel : Nat) → Eval Unit
    | 0 => return ()
    | fuel + 1 => do
      match ← next? it with
      | none => return ()
      | some v =>
        f v
        go fuel
  go endless

/-! ## Order -/

/-- what comparisons are called, and what they are called the other way round -/
def Comparison.methods : Comparison → Text × Text
  | .less => ("__lt__", "__gt__")
  | .lessOrEqual => ("__le__", "__ge__")
  | .greater => ("__gt__", "__lt__")
  | .greaterOrEqual => ("__ge__", "__le__")
  | .different => ("__ne__", "__ne__")
  | _ => ("__eq__", "__eq__")

def Comparison.sign : Comparison → Text
  | .less => ['<']
  | .lessOrEqual => "<="
  | .greater => ['>']
  | .greaterOrEqual => ">="
  | .different => "!="
  | .equal => "=="
  | .within => "in"
  | .outside => "not in"
  | .same => "is"
  | .other => "is not"

def Comparison.holds (c : Comparison) (o : Ordering) : Bool :=
  match c, o with
  | .less, .lt | .lessOrEqual, .lt | .lessOrEqual, .eq | .greater, .gt | .greaterOrEqual, .gt | .greaterOrEqual, .eq
  | .equal, .eq | .different, .lt | .different, .gt => true
  | _, _ => false

/-- the order of two numbers; none when there is none, as for something that is no number -/
def numberOrder? (w : World) (a b : Value) : Option (Option Ordering) :=
  match w.inner a, w.inner b with
  | .float x, .float y => some (if x < y then some .lt else if x == y then some .eq else if y < x then some .gt else none)
  | .float x, v =>
    (integer? w v).map fun n =>
      if x.isNaN then none else if intIsFloat n x then some .eq else if intLessFloat n x then some .gt else some .lt
  | v, .float x =>
    (integer? w v).map fun n =>
      if x.isNaN then none else if intIsFloat n x then some .eq else if intLessFloat n x then some .lt else some .gt
  | v, x =>
    match integer? w v, integer? w x with
    | some m, some n => some (some (compare m n))
    | _, _ => none

def textOrder (s t : Text) : Ordering :=
  if Strings.less s t then .lt else if s = t then .eq else .gt

/-- the order of values in a row is that of the first two that differ -/
def orderBy (eq : Value → Value → Eval Bool) (decide : Value → Value → Eval Value) (c : Comparison) :
    List Value → List Value → Eval Value
  | a :: as, b :: bs => do
    if identical a b then orderBy eq decide c as bs
    else if ← eq a b then orderBy eq decide c as bs
    else decide a b
  | [], [] => return .truth (c.holds .eq)
  | [], _ => return .truth (c.holds .lt)
  | _, [] => return .truth (c.holds .gt)

mutual

/-- a comparison of two values by their order or equality -/
def compareAt : (fuel : Nat) → Comparison → Value → Value → Eval Value
  | 0, _, _, _ => tooDeep " in comparison"
  | fuel + 1, c, a, b => do
    match a, b with
    | .int m, .int n => return .truth (c.holds (compare m n))
    | .str s, .str t =>
      match c with
      | .equal => return .truth (s = t)
      | .different => return .truth (s ≠ t)
      | c => return .truth (c.holds (textOrder s t))
    | _, _ =>
      let w ← get
      let scripted (v : Value) : Bool :=
        match v with
        | .ref n => !(w.classAt (w.object n).cls).native
        | _ => false
      let (name, reflected) := c.methods
      let found? ← if scripted a ∨ scripted b then richAt fuel name reflected a b else pure none
      match found? with
      | some v => return v
      | none =>
        match c with
        | .equal => return .truth (← equalAt fuel a b)
        | .different => return .truth (!(← equalAt fuel a b))
        | c => orderAt fuel c a b

def orderAt : (fuel : Nat) → Comparison → Value → Value → Eval Value
  | 0, _, _, _ => tooDeep " in comparison"
  | fuel + 1, c, a, b => do
    let w ← get
    let refuse : Eval Value := do
      mistyped ("'" ++ c.sign ++ "' not supported between instances of '" ++ (← kindOf a) ++ "' and '" ++ (← kindOf b) ++
        ['\''])
    match numberOrder? w a b with
    | some o? => return .truth ((o?.map c.holds).getD false)
    | none =>
      match w.inner a, w.inner b with
      | .str s, .str t => return .truth (c.holds (textOrder s t))
      | .bytes s, .bytes t => return .truth (c.holds (textOrder s t))
      | .tuple as, .tuple bs => orderRows fuel c as bs
      | .ref m, .ref n =>
        match w.body m, w.body n with
        | .list as, .list bs => orderRows fuel c as.toList bs.toList
        | .bytes r, .bytes s => return .truth (c.holds (textOrder r s))
        | _, _ =>
          match ← setSize? a, ← setSize? b with
          | some i, some j => setOrder fuel c a i b j
          | _, _ => refuse
      | .ref m, .bytes s =>
        match w.body m with
        | .bytes r => return .truth (c.holds (textOrder r s))
        | _ => refuse
      | .bytes s, .ref m =>
        match w.body m with
        | .bytes r => return .truth (c.holds (textOrder s r))
        | _ => refuse
      | _, _ => refuse

/-- the number of elements of a set, or of what is seen of a dictionary -/
def setSize? (v : Value) : Eval (Option Nat) := do
  match v with
  | .ref n =>
    let w ← get
    match w.body n with
    | .set c => return some c.size
    | .view .keys d | .view .items d => return some (w.table d).size
    | _ => return none
  | _ => return none

def setOrder : (fuel : Nat) → Comparison → Value → Nat → Value → Nat → Eval Value
  | 0, _, _, _, _, _ => tooDeep " in comparison"
  | _ + 1, c, a, i, b, j => do
    let inside (x y : Value) : Eval Bool := do
      let vs ← itemsOf x
      let ys ← itemsOf y
      let s ← newSet .set ys
      match s with
      | .ref n =>
        let found ← vs.mapM (crowdHas n)
        return found.all fun b => b
      | _ => return false
    match c with
    | .less => if i < j then return .truth (← inside a b) else return .truth false
    | .lessOrEqual => if i ≤ j then return .truth (← inside a b) else return .truth false
    | .greater => if j < i then return .truth (← inside b a) else return .truth false
    | _ => if j ≤ i then return .truth (← inside b a) else return .truth false

def orderRows : (fuel : Nat) → Comparison → List Value → List Value → Eval Value
  | 0, _, _, _ => tooDeep " in comparison"
  | fuel + 1, c, as, bs => do
    orderBy (equalAt fuel) (compareAt fuel c) c as bs

end

def lessThan (a b : Value) : Eval Bool := do
  match a, b with
  | .int m, .int n => return m < n
  | .str s, .str t => return Strings.less s t
  | a, b => truthOf (← compareAt maxDepth .less a b)

/-! ## Membership -/

/-- a value lies in another, as far as no script has a say in it -/
def plainContains (container v : Value) : Eval Bool := do
  let search (it : Value) : Eval Bool := do
    let rec go : (fuel : Nat) → Eval Bool
      | 0 => return false
      | fuel + 1 => do
        match ← next? it with
        | none => return false
        | some x => if ← same x v then return true else go fuel
    go endless
  let w ← get
  match w.inner container with
  | .str t =>
    match w.inner v with
    | .str part => return (Strings.find? part t).isSome
    | _ => mistyped ("'in <string>' requires string as left operand, not " ++ w.kindOf v)
  | .bytes t =>
    match w.inner v with
    | .bytes part => return (Strings.find? part t).isSome
    | x =>
      match integer? w x with
      | some n =>
        if n < 0 ∨ 255 < n then misvalued "byte must be in range(0, 256)"
        return Char.ofNat n.toNat ∈ t
      | none => mistyped ("a bytes-like object is required, not '" ++ w.kindOf v ++ ['\''])
  | .tuple vs =>
    let rec among : List Value → Eval Bool
      | [] => return false
      | x :: xs => do
        if ← same x v then return true else among xs
    among vs
  | .range a b c =>
    match integer? w v with
    | some n =>
      let count := rangeCount a b c
      let k := (n - a).tdiv c
      return c * k = n - a && 0 ≤ k && k < count
    | none => search (← iterOf container)
  | .ref n =>
    match w.body n with
    | .dict _ => return (← placeOf? n v).isSome
    | .set _ =>
      -- a set is looked for by what it holds
      match v with
      | .ref m =>
        match (← object m).body with
        | .set c =>
          if (← object m).cls = Base.set.ref then
            let frozen ← alloc { cls := Base.frozenset.ref, body := .set c }
            crowdHas n (.ref frozen)
          else crowdHas n v
        | _ => crowdHas n v
      | v => crowdHas n v
    | .view .keys d => return (← placeOf? d v).isSome
    | .view .items d =>
      match v with
      | .tuple [k, x] =>
        match ← lookUp? d k with
        | some y => same y x
        | none => return false
      | _ => return false
    | .proxy (.ref d) => return (← placeOf? d v).isSome
    | .list vs =>
      let rec amongList : (fuel place : Nat) → Eval Bool
        | 0, _ => return false
        | fuel + 1, place => do
          match (← object n).body with
          | .list vs =>
            match vs[place]? with
            | none => return false
            | some x => if ← same x v then return true else amongList fuel (place + 1)
          | _ => return false
      amongList (vs.size + 100000) 0
    | .bytes t =>
      match w.inner v with
      | .bytes part => return (Strings.find? part t).isSome
      | x =>
        match integer? w x with
        | some n => return Char.ofNat n.toNat ∈ t
        | none => mistyped ("a bytes-like object is required, not '" ++ w.kindOf v ++ ['\''])
    | .class_ _ =>
      match (if (w.object n).cls = Base.type.ref then none else w.lookup? (w.object n).cls "__contains__") with
      | some f => truthOf (← call (← bind f container (w.object n).cls) [v])
      | none =>
        if (w.object n).cls = Base.type.ref then mistyped ("argument of type '" ++ w.kindOf container ++ "' is not iterable")
        else search (← iterOf container)
    | _ =>
      let it ← catching [.typeError] (iterOf container) fun _ => do
        mistyped ("argument of type '" ++ (← kindOf container) ++ "' is not iterable")
      search it
  | c => mistyped ("argument of type '" ++ w.kindOf c ++ "' is not iterable")

def contains (container v : Value) : Eval Bool := do
  match ← method? container "__contains__" with
  | some f => truthOf (← call f [v])
  | none => plainContains container v

def compareValues (c : Comparison) (a b : Value) : Eval Value := do
  match c with
  | .same => return .truth (identical a b)
  | .other => return .truth (!identical a b)
  | .within => return .truth (← contains b a)
  | .outside => return .truth (!(← contains b a))
  | c => compareAt maxDepth c a b

end IncludeAudit.Offside
