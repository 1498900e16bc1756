/-
Methods of dictionaries, of what is seen of them, and of sets.

- `dictMethod`, `viewMethod`, `setMethod`: methods by name, `updateDict`: the entries of another value put into a dictionary.
-/
import IncludeAudit.Offside.Method.Sequence

namespace IncludeAudit.Offside

/-! ## Dictionaries -/

def entriesOf (v : Value) : Eval (List (Value × Value)) := do
  let quick? : Option (List (Value × Value)) ← (do
    match v with
    | .ref m =>
      match (← object m).body with
      | .dict t =>
        if hasMethod (← get) v "keys" ∧ (← method? v "keys").isSome then return none
        return some t.toList
      | .proxy (.ref d) => return some ((← get).table d).toList
      | _ => return none
    | _ => return none)
  match quick? with
  | some ps => return ps
  | none =>
    let ks ← itemsOf (← call (← member v "keys") [])
    ks.mapM fun k => do return (k, ← getIndex v k)

def pairsOf (v : Value) : Eval (List (Value × Value)) := do
  let ps ← itemsOf v
  ps.zipIdx.mapM fun (p, i) => do
    let kv ← catching [.typeError] (itemsOf p) fun n => do
      if (← lengthOf? p).isSome then raiseRef n
      mistyped ("cannot convert dictionary update sequence element #" ++ Text.ofNat i ++ " to a sequence")
    match kv with
    | [k, x] => return (k, x)
    | kv =>
      misvalued ("dictionary update sequence element #" ++ Text.ofNat i ++ " has length " ++ Text.ofNat kv.length ++
        "; 2 is required")

/-- the entries of a value, and those with names, put into a dictionary -/
def updateDict (n : Nat) (function : Text) (g : Given) : Eval Unit := do
  if 1 < g.count then
    mistyped (function ++ " expected at most 1 argument, got " ++ Text.ofNat g.count)
  match g.args with
  | v :: _ =>
    let w ← get
    let isMapping ← (do
      match v with
      | .ref m =>
        match w.body m with
        | .dict _ | .proxy _ => return true
        | _ => return (← member? v "keys").isSome
      | _ => return false)
    mergeInto n (← if isMapping then entriesOf v else pairsOf v)
  | [] => pure ()
  mergeInto n (g.named.map fun p => (.str p.1, p.2))

def dictMethod (n : Nat) (self : Value) (name : String) (g : Given) : Eval Value := do
  let view (v : View) (b : Base) : Eval Value := do
    g.nothing ("dict." ++ name.toList)
    make b (.view v n)
  match name with
  | "get" =>
    g.between "get" 1 2
    return (← lookUp? n (g.at_ 0)).getD (g.at_ 1)
  | "setdefault" =>
    g.between "setdefault" 1 2
    match ← lookUp? n (g.at_ 0) with
    | some v => return v
    | none =>
      putEntry n (g.at_ 0) (g.at_ 1)
      return g.at_ 1
  | "pop" =>
    g.between "pop" 1 2
    match ← eraseEntry n (g.at_ 0) with
    | some v => return v
    | none =>
      match g.args[1]? with
      | some v => return v
      | none => missingKey (g.at_ 0)
  | "popitem" =>
    g.nothing "dict.popitem"
    let t := (← get).table n
    match t.nextBefore t.entries.size with
    | some (p, k, v) =>
      modifyTable n fun t => t.eraseAt p
      return .tuple [k, v]
    | none => raiseWith .keyError [.str "popitem(): dictionary is empty"] []
  | "keys" => view .keys .dictKeys
  | "values" => view .values .dictValues
  | "items" => view .items .dictItems
  | "update" =>
    updateDict n "update" g
    return .none
  | "__init__" =>
    updateDict n "dict" g
    return .none
  | "clear" =>
    g.nothing "dict.clear"
    modifyTable n fun _ => {}
    return .none
  | "copy" =>
    g.nothing "dict.copy"
    make .dict (.dict ((← get).table n))
  | "__reversed__" =>
    let t := (← get).table n
    newIter .keyReverseIterator (.tableBack n t.entries.size t.size .keys)
  | name => noAttribute self name.toList

def dictFromKeys (cls : Value) (g : Given) : Eval Value := do
  g.between "fromkeys" 1 2
  let d ← if identical cls (.base .dict) then newDict [] else call cls []
  match d with
  | .ref n =>
    eachOf (g.at_ 0) fun k => do
      match (← object n).body with
      | .dict _ => if hasMethod (← get) d "__setitem__" then setIndex d k (g.at_ 1) else putEntry n k (g.at_ 1)
      | _ => setIndex d k (g.at_ 1)
  | _ => pure ()
  return d

/-- methods of what is seen of a dictionary -/
def viewMethod (v : View) (d : Nat) (self : Value) (name : String) (g : Given) : Eval Value := do
  match name with
  | "__reversed__" =>
    let t := (← get).table d
    newIter .keyReverseIterator (.tableBack d t.entries.size t.size v)
  | "isdisjoint" =>
    let xs ← itemsOf (← g.one "isdisjoint")
    let found ← xs.mapM (plainContains self)
    return .truth (found.all fun b => !b)
  | name => noAttribute self name.toList

/-- methods of a dictionary that may not be changed through it -/
def proxyMethod (inner self : Value) (name : String) (g : Given) : Eval Value := do
  match name, inner with
  | "get", .ref n | "keys", .ref n | "values", .ref n | "items", .ref n | "copy", .ref n =>
    dictMethod n inner name g
  | name, _ => noAttribute self name.toList

/-! ## Sets -/

/-- elements of several values, one after another -/
def crowdAll (n : Nat) (f : Nat → Value → Eval Unit) (vs : List Value) : Eval Unit :=
  vs.forM (f n)

/-- a fresh set with the elements of a set -/
def crowdCopy (b : Base) (n : Nat) : Eval Nat := do
  let c ← crowdAt n
  alloc { cls := b.ref, body := .set c.copied }

/-- the elements of a set that are in another value as well -/
def crowdMeet (b : Base) (n : Nat) (v : Value) : Eval Nat := do
  let isSet : Bool ← (do
    match v with
    | .ref m =>
      match (← object m).body with
      | .set _ => return true
      | _ => return false
    | _ => return false)
  if isSet then
    match ← crowds? .bitAnd b (.ref n) v with
    | some (.ref m) => return m
    | _ => alloc { cls := b.ref, body := .set {} }
  else
    let m ← alloc { cls := b.ref, body := .set {} }
    eachOf v fun x => do
      let h ← hashOf x
      if (← slotOf? n h x).isSome then crowdAddAt m h x
    return m

/-- the elements of a set that are in all of several values -/
def crowdMeetAll (b : Base) (n : Nat) : List Value → Eval Nat
  | [] => return n
  | v :: rest => do crowdMeetAll b (← crowdMeet b n v) rest

/-- what stands for a set that may be an element of another one -/
def fixedCrowd (v : Value) : Eval Value := do
  match v with
  | .ref m =>
    let o ← object m
    match o.body with
    | .set c => if o.cls = Base.set.ref then make .frozenset (.set c) else return v
    | _ => return v
  | v => return v

/-- a set of the elements of a value -/
def asCrowd (v : Value) : Eval Nat := do
  match v with
  | .ref m =>
    match (← object m).body with
    | .set _ => return m
    | _ => crowdOf .set v
  | v => crowdOf .set v

/-- all elements of one set are in another one -/
def crowdWithin (m n : Nat) : Eval Bool := do
  let c ← crowdAt m
  let rec go : List (UInt64 × Value) → Eval Bool
    | [] => return true
    | (h, v) :: rest => do
      if (← slotOf? n h v).isSome then go rest else return false
  go c.numbered

/-- another set in place of the elements of a set -/
def becomeCrowd (n m : Nat) : Eval Unit := do
  let c ← crowdAt m
  setBody n (.set c)

def setMethod (n : Nat) (b : Base) (self : Value) (name : String) (g : Given) : Eval Value := do
  let kind : Text := if b = .frozenset then "frozenset" else "set"
  let full : Text := kind ++ '.' :: name.toList
  match name with
  | "add" =>
    crowdAdd n (← g.one full)
    return .none
  | "discard" | "remove" =>
    let v ← g.one full
    if !(← crowdErase n (← fixedCrowd v)) ∧ name = "remove" then missingKey v
    return .none
  | "pop" =>
    g.nothing full
    let c ← crowdAt n
    match c.first? with
    | none => raiseWith .keyError [.str "pop from an empty set"] []
    | some (p, v) =>
      modifyCrowd n fun c => { c.eraseAt p with finger := p + 1 }
      return v
  | "clear" =>
    g.nothing full
    setBody n (.set {})
    return .none
  | "copy" =>
    g.nothing full
    return .ref (← crowdCopy b n)
  | "update" =>
    g.unnamed full
    crowdAll n crowdUpdate g.args
    return .none
  | "union" =>
    g.unnamed full
    let m ← crowdCopy b n
    crowdAll m crowdUpdate g.args
    return .ref m
  | "difference" | "difference_update" =>
    g.unnamed full
    if name = "difference" then
      match g.args with
      | v :: rest =>
        match ← crowds? .sub b self (.ref (← asCrowd v)) with
        | some (.ref m) =>
          crowdAll m crowdRemove rest
          return .ref m
        | _ => return .none
      | [] => return .ref (← crowdCopy b n)
    else
      crowdAll n crowdRemove g.args
      return .none
  | "intersection" | "intersection_update" =>
    g.unnamed full
    let m ← match g.args with
      | [] => crowdCopy b n
      | vs => crowdMeetAll b n vs
    if name = "intersection" then return .ref m
    else
      becomeCrowd n m
      return .none
  | "symmetric_difference" | "symmetric_difference_update" =>
    let v ← g.one full
    match ← crowds? .bitXor b self (.ref (← asCrowd v)) with
    | some (.ref m) =>
      if name = "symmetric_difference" then return .ref m
      else
        becomeCrowd n m
        return .none
    | _ => return .none
  | "isdisjoint" =>
    let v ← g.one full
    let xs ← itemsOf v
    let found ← xs.mapM (crowdHas n)
    return .truth (found.all fun b => !b)
  | "issubset" =>
    let m ← asCrowd (← g.one full)
    return .truth (← crowdWithin n m)
  | "issuperset" =>
    let m ← asCrowd (← g.one full)
    return .truth (← crowdWithin m n)
  | "__init__" =>
    g.between kind 0 1
    if b = .frozenset then return .none
    setBody n (.set {})
    match g.args.head? with
    | some v => crowdUpdate n v
    | none => pure ()
    return .none
  | name => noAttribute self name.toList

end IncludeAudit.Offside
