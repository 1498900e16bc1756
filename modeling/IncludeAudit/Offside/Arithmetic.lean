/-
What operators do with two values, and what signs do with one.

- `binaryValue`: an operator, `updateValue`: an operator that may change its first value, `unaryValue`: a sign.
-/
import IncludeAudit.Offside.Show

namespace IncludeAudit.Offside

/-! ## Numbers -/

/-- what is left of a number when another one is taken away as often as it can be -/
def floatRest (x y : Float) : Float :=
  if y.isInf then x
  else
    let a := Decimal.Double.ofBits x.toBits
    let b := Decimal.Double.ofBits y.toBits
    let e := min a.exponent b.exponent
    let m := a.significand * Nat.pow 2 (a.exponent - e).toNat
    let n := b.significand * Nat.pow 2 (b.exponent - e).toNat
    let r := m % n
    let z := if 0 ≤ e then Numeral.quotient false (r * Nat.pow 2 e.toNat) 1 else Numeral.quotient false r (Nat.pow 2 e.natAbs)
    if Numeral.isNegative x then -z else z

/-- the quotient without its part behind the point, and the rest, which has the sign of the divisor -/
def floatDivMod (x y : Float) : Float × Float :=
  let rest := floatRest x y
  let quotient := (x - rest) / y
  let (quotient, rest) : Float × Float :=
    if rest != 0 then (if (y < 0) != (rest < 0) then (quotient - 1, rest + y) else (quotient, rest))
    else (quotient, if Numeral.isNegative y then -0.0 else 0.0)
  let whole :=
    if quotient != 0 then
      let f := quotient.floor
      if 0.5 < quotient - f then f + 1 else f
    else if Numeral.isNegative (x / y) then -0.0 else 0.0
  (whole, rest)

/-- nothing can be divided by zero -/
def byZero {α : Type} (message : Text) : Eval α :=
  raise .zeroDivisionError message

/-- a number with an imaginary part that a value is -/
def complex? (w : World) (v : Value) : Option (Float × Float) :=
  match w.inner v with
  | .complex a b => some (a, b)
  | v => (float? w v).map fun x => (x, 0)

/-- a product of numbers with imaginary parts -/
def complexMul (p q : Float × Float) : Float × Float :=
  (p.1 * q.1 - p.2 * q.2, p.1 * q.2 + p.2 * q.1)

/-- a quotient of numbers with imaginary parts -/
def complexDiv (p q : Float × Float) : Float × Float :=
  if q.2.abs ≤ q.1.abs then
    let ratio := q.2 / q.1
    let denom := q.1 + q.2 * ratio
    ((p.1 + p.2 * ratio) / denom, (p.2 - p.1 * ratio) / denom)
  else
    let ratio := q.1 / q.2
    let denom := q.1 * ratio + q.2
    ((p.1 * ratio + p.2) / denom, (p.2 * ratio - p.1) / denom)

/-- a power of a number with an imaginary part -/
def complexPow (p q : Float × Float) : Float × Float :=
  if q.2 == 0 ∧ q.1 == q.1.floor ∧ q.1.abs ≤ 100 then
    let n := (Numeral.truncated q.1).natAbs
    let r := (List.replicate n p).foldl complexMul (1, 0)
    if q.1 < 0 then complexDiv (1, 0) r else r
  else if p.1 == 0 ∧ p.2 == 0 then (0, 0)
  else
    let size := Float.sqrt (p.1 * p.1 + p.2 * p.2)
    let angle := Float.atan2 p.2 p.1
    let length := Float.pow size q.1 * (if q.2 == 0 then 1 else Float.exp (-(angle * q.2)))
    let turn := angle * q.1 + (if q.2 == 0 then 0 else q.2 * Float.log size)
    (length * Float.cos turn, length * Float.sin turn)

/-- a power of two numbers with a point -/
def floatPow (x y : Float) : Eval Value := do
  if x == 0 ∧ y < 0 then byZero "0.0 cannot be raised to a negative power"
  if x < 0 ∧ y != y.floor ∧ !y.isInf ∧ !x.isInf then
    let (a, b) := complexPow (x, 0) (y, 0)
    return .complex a b
  let z := Float.pow x y
  if z.isInf ∧ !x.isInf ∧ !y.isInf then
    raiseWith .overflowError [.int 34, .str "Numerical result out of range"] []
  return .float z

/-- a number with a point that an integer is, or a complaint -/
def floatOfInt (n : Int) : Eval Float := do
  match Numeral.ofInt? n with
  | some x => return x
  | none => raise .overflowError "int too large to convert to float"

def integers (o : Operator) (a b : Int) : Eval Value := do
  match o with
  | .add => return .int (a + b)
  | .sub => return .int (a - b)
  | .mul => return .int (a * b)
  | .div =>
    if b = 0 then byZero "division by zero"
    else
      let x := Numeral.quotient ((a < 0) != (b < 0)) a.natAbs b.natAbs
      if x.isInf then raise .overflowError "integer division result too large for a float"
      return .float (if a = 0 then 0.0 else x)
  | .floorDiv => if b = 0 then byZero "integer division or modulo by zero" else return .int (a.fdiv b)
  | .mod => if b = 0 then byZero "integer modulo by zero" else return .int (a.fmod b)
  | .pow =>
    if 0 ≤ b then return .int (Int.pow a b.toNat)
    else floatPow (← floatOfInt a) (← floatOfInt b)
  | .bitAnd => return .int (Numeral.bitwise (· &&& ·) a b)
  | .bitOr => return .int (Numeral.bitwise (· ||| ·) a b)
  | .bitXor => return .int (Numeral.bitwise (· ^^^ ·) a b)
  | .shiftLeft =>
    if b < 0 then misvalued "negative shift count" else return .int (a * (Nat.pow 2 b.toNat : Nat))
  | .shiftRight =>
    if b < 0 then misvalued "negative shift count"
    else return .int (if 100000 < b then (if a < 0 then -1 else 0) else a.fdiv (Nat.pow 2 b.toNat : Nat))
  | .matMul => mistyped "unsupported operand type(s) for @: 'int' and 'int'"

/-- an operator on two numbers with a point; nothing when there is no such operation -/
def floats? (o : Operator) (x y : Float) : Eval (Option Value) := do
  match o with
  | .add => return some (.float (x + y))
  | .sub => return some (.float (x - y))
  | .mul => return some (.float (x * y))
  | .div => if y == 0 then byZero "float division by zero" else return some (.float (x / y))
  | .floorDiv =>
    if y == 0 then byZero "float floor division by zero" else return some (.float (floatDivMod x y).1)
  | .mod => if y == 0 then byZero "float modulo" else return some (.float (floatDivMod x y).2)
  | .pow => return some (← floatPow x y)
  | _ => return none

/-- an operator on two numbers with imaginary parts; nothing when there is no such operation -/
def complexes? (o : Operator) (p q : Float × Float) : Eval (Option Value) := do
  let give (r : Float × Float) : Eval (Option Value) := return some (.complex r.1 r.2)
  match o with
  | .add => give (p.1 + q.1, p.2 + q.2)
  | .sub => give (p.1 - q.1, p.2 - q.2)
  | .mul => give (complexMul p q)
  | .div => if q.1 == 0 ∧ q.2 == 0 then byZero "complex division by zero" else give (complexDiv p q)
  | .pow =>
    if p.1 == 0 ∧ p.2 == 0 ∧ (q.1 < 0 ∨ q.2 != 0) then byZero "0.0 to a negative or complex power"
    else give (complexPow p q)
  | _ => return none

/-! ## Sets -/

/-- a value is a set, or what is seen of a dictionary -/
def isCrowd (w : World) (v : Value) : Bool :=
  match v with
  | .ref n =>
    match w.body n with
    | .set _ => true
    | .view .keys _ | .view .items _ => true
    | _ => false
  | _ => false

/-- the keys or the pairs of a dictionary -/
def isView (w : World) (v : Value) : Bool :=
  match v with
  | .ref n =>
    match w.body n with
    | .view .keys _ | .view .items _ => true
    | _ => false
  | _ => false

def numberedOf (v : Value) : Eval (List (UInt64 × Value)) := do
  let quick? : Option (List (UInt64 × Value)) ← (do
    match v with
    | .ref n =>
      match (← object n).body with
      | .set c => return some c.numbered
      | _ => return none
    | _ => return none)
  match quick? with
  | some hs => return hs
  | none => (← itemsOf v).mapM fun x => do return (← hashOf x, x)

/-- a fresh set with the elements of a value -/
def crowdOf (b : Base) (v : Value) : Eval Nat := do
  let quick? : Option Crowd ← (do
    match v with
    | .ref n =>
      match (← object n).body with
      | .set c => return some c
      | _ => return none
    | _ => return none)
  match quick? with
  | some c => alloc { cls := b.ref, body := .set c.copied }
  | none =>
    let n ← alloc { cls := b.ref, body := .set {} }
    eachOf v (crowdAdd n)
    return n

/-- adds the elements of a value to a set -/
def crowdUpdate (n : Nat) (v : Value) : Eval Unit := do
  let fromCrowd? : Option (List (UInt64 × Value)) ← (do
    match v with
    | .ref m =>
      match (← object m).body with
      | .set c => return some c.numbered
      | _ => return none
    | _ => return none)
  match fromCrowd? with
  | some hs =>
    modifyCrowd n fun c => c.withRoom hs.length
    hs.forM fun p => crowdAddAt n p.1 p.2
  | none => eachOf v (crowdAdd n)

/-- takes the elements of a value out of a set -/
def crowdRemove (n : Nat) (v : Value) : Eval Unit := do
  (← itemsOf v).forM fun x => do
    let _ ← crowdErase n x

/-- an operator on two sets -/
def crowds? (o : Operator) (b : Base) (x y : Value) : Eval (Option Value) := do
  let isView := isView (← get) x
  match o with
  | .bitOr =>
    let n ← crowdOf b x
    crowdUpdate n y
    return some (.ref n)
  | .bitAnd =>
    let xs ← numberedOf x
    let ys ← numberedOf y
    let (many, few) := if !isView ∧ xs.length < ys.length then (y, xs) else (x, ys)
    let s ← crowdOf b many
    let n ← alloc { cls := b.ref, body := .set {} }
    few.forM fun p => do
      if (← slotOf? s p.1 p.2).isSome then crowdAddAt n p.1 p.2
    return some (.ref n)
  | .sub =>
    let xs ← numberedOf x
    if isView then
      let n ← crowdOf b x
      crowdRemove n y
      return some (.ref n)
    else
      let s ← crowdOf b y
      let n ← alloc { cls := b.ref, body := .set {} }
      xs.forM fun p => do
        if (← slotOf? s p.1 p.2).isNone then crowdAddAt n p.1 p.2
      return some (.ref n)
  | .bitXor =>
    let n ← crowdOf b y
    (← numberedOf x).forM fun p => do
      match ← slotOf? n p.1 p.2 with
      | some k => modifyCrowd n fun c => c.eraseAt k
      | none => modifyCrowd n fun c => c.push p.1 p.2
    return some (.ref n)
  | _ => return none

/-! ## All values -/

def repeated {α : Type} (n : Int) (xs : List α) : List α :=
  if n ≤ 0 then [] else (List.replicate n.toNat xs).flatten

/-- the entries of a dictionary put into another one -/
def mergeInto (n : Nat) (ps : List (Value × Value)) : Eval Unit :=
  ps.forM fun p => putEntry n p.1 p.2

def bytesOf? (w : World) (v : Value) : Option Raw :=
  match w.inner v with
  | .bytes r => some r
  | .ref n =>
    match w.body n with
    | .bytes r => some r
    | _ => none
  | _ => none

/-- what two classes are together -/
def unionOf (a b : Value) : Eval Value := do
  call (← partOfTypes "UnionType") [.tuple [a, b]]

/-- an operator on values of classes that are always there; nothing when there is no such operation -/
def simpleBinary? (o : Operator) (a b : Value) : Eval (Option Value) := do
  let w ← get
  let kindA := w.kindOf a
  let kindB := w.kindOf b
  let times? (v : Value) : Eval (Option Int) := do
    match integer? w v with
    | some n => return some n
    | none =>
      match ← method? v "__index__" with
      | some f => return integer? (← get) (← call f [])
      | none => return none
  let isSequence (v : Value) : Bool :=
    match w.inner v with
    | .str _ | .bytes _ | .tuple _ => true
    | .ref n =>
      match w.body n with
      | .list _ | .bytes _ => true
      | _ => false
    | _ => false
  match w.inner a, w.inner b with
  | .truth p, .truth q =>
    match o with
    | .bitAnd => return some (.truth (p && q))
    | .bitOr => return some (.truth (p || q))
    | .bitXor => return some (.truth (p != q))
    | o => return some (← integers o (if p then 1 else 0) (if q then 1 else 0))
  | x, y =>
    match integer? w x, integer? w y with
    | some m, some n => if o = .matMul then return none else return some (← integers o m n)
    | i?, j? =>
      let isFloat (v : Value) : Bool :=
        match v with
        | .float _ => true
        | _ => false
      let isNumber (v : Value) (i? : Option Int) : Bool := isFloat v || i?.isSome
      let isComplex (v : Value) : Bool :=
        match v with
        | .complex _ _ => true
        | _ => false
      if isNumber x i? ∧ isNumber y j? then
        floats? o (← floatOf x) (← floatOf y)
      else if (isComplex x ∧ (isComplex y ∨ isNumber y j?)) ∨ (isComplex y ∧ isNumber x i?) then
        match complex? w x, complex? w y with
        | some p, some q => complexes? o p q
        | _, _ => return none
      else if (isCrowd w a ∧ isCrowd w b) ∨ isView w a ∨ isView w b then
        let base : Base := match a with
          | .ref n => if (w.classAt (w.object n).cls).layout = .frozenset then .frozenset else .set
          | _ => .set
        crowds? o base a b
      else
        match o, x, y with
        | .mod, .str t, _ => return some (.str (← percent false t b))
        | .mod, .bytes t, _ => return some (.bytes (← percent true t b))
        | .add, .str s, .str t => return some (.str (s ++ t))
        | .add, .tuple s, .tuple t => return some (.tuple (s ++ t))
        | .add, .str _, _ => mistyped ("can only concatenate str (not \"" ++ kindB ++ "\") to str")
        | .add, .tuple _, _ => mistyped ("can only concatenate tuple (not \"" ++ kindB ++ "\") to tuple")
        | .add, .bytes r, _ =>
          match bytesOf? w b with
          | some s => return some (.bytes (r ++ s))
          | none => mistyped ("can't concat " ++ kindB ++ " to bytes")
        | .mul, x, y =>
          -- one of the two says how often the other one is repeated
          let (s, v) : Value × Value := if isSequence a then (x, b) else (y, a)
          if !isSequence a ∧ !isSequence b then return none
          else
            match ← times? v with
            | none =>
              mistyped ("can't multiply sequence by non-int of type '" ++ (if isSequence a then kindB else kindA) ++ ['\''])
            | some n =>
              match s with
              | .str t => return some (.str (repeated n t))
              | .bytes r => return some (.bytes (repeated n r))
              | .tuple vs => return some (.tuple (repeated n vs))
              | .ref m =>
                match w.body m with
                | .list vs =>
                  let v ← newList (repeated n vs.toList)
                  return some v
                | .bytes r => return some (← make .bytearray (.bytes (repeated n r)))
                | _ => return none
              | _ => return none
        | .add, .ref m, _ =>
          match w.body m with
          | .list xs =>
            match y with
            | .ref k =>
              match w.body k with
              | .list ys => return some (← make .list (.list (xs ++ ys)))
              | _ => mistyped ("can only concatenate list (not \"" ++ kindB ++ "\") to list")
            | _ => mistyped ("can only concatenate list (not \"" ++ kindB ++ "\") to list")
          | .bytes r =>
            match bytesOf? w b with
            | some s => return some (← make .bytearray (.bytes (r ++ s)))
            | none => mistyped ("can't concat " ++ kindB ++ " to bytearray")
          | _ => return none
        | .bitOr, .ref m, .ref k =>
          match w.body m, w.body k with
          | .dict s, .dict t =>
            let n ← alloc { cls := Base.dict.ref, body := .dict s }
            mergeInto n t.toList
            return some (.ref n)
          | .class_ _, .class_ _ => return some (← unionOf a b)
          | _, _ => return none
        | .bitOr, .ref m, .none | .bitOr, .none, .ref m =>
          match w.body m with
          | .class_ _ => return some (← unionOf a b)
          | _ => return none
        | _, _, _ => return none

/-- the two values do not go together with an operator -/
def unsupportedOperands {α : Type} (sign : Text) (a b : Value) : Eval α := do
  mistyped ("unsupported operand type(s) for " ++ sign ++ ": '" ++ (← kindOf a) ++ "' and '" ++ (← kindOf b) ++ ['\''])

/-- what scripts have to say about an operator; nothing when they have nothing to say -/
def scriptedBinary? (o : Operator) (a b : Value) : Eval (Option Value) := do
  let w ← get
  let scripted (v : Value) : Bool :=
    match v with
    | .ref n => !(w.classAt (w.object n).cls).native
    | _ => false
  if !scripted a ∧ !scripted b then
    -- the class of a class may have something to say
    return none
  else
    let name : Text := "__" ++ o.word ++ "__"
    let reflected : Text := "__r" ++ o.word ++ "__"
    let ca := w.classOf a
    let cb := w.classOf b
    let first : Bool := ca ≠ cb && w.isBelow cb ca && hasMethod w b reflected
    if first then
      match ← asked? b reflected a with
      | some v => return some v
      | none => asked? a name b
    else
      match ← asked? a name b with
      | some v => return some v
      | none => if ca = cb then return none else asked? b reflected a

def binaryValue (o : Operator) (a b : Value) : Eval Value := do
  match o, a, b with
  | .add, .int m, .int n => return .int (m + n)
  | .sub, .int m, .int n => return .int (m - n)
  | .mul, .int m, .int n => return .int (m * n)
  | .add, .str s, .str t => return .str (s ++ t)
  | _, _, _ =>
    match ← scriptedBinary? o a b with
    | some v => return v
    | none =>
      match ← simpleBinary? o a b with
      | some v => return v
      | none => unsupportedOperands (if o = .pow then "** or pow()" else o.sign) a b

/-- an operator that may change its first value -/
def updateValue (o : Operator) (a b : Value) : Eval Value := do
  match ← asked? a ("__i" ++ o.word ++ "__") b with
  | some v => return v
  | none =>
    let w ← get
    let plain : Eval Value := do
      match ← scriptedBinary? o a b with
      | some v => return v
      | none =>
        match ← simpleBinary? o a b with
        | some v => return v
        | none => unsupportedOperands (o.sign ++ ['=']) a b
    match a with
    | .ref n =>
      match w.body n, o with
      | .list _, .add =>
        let more ← itemsOf b
        modifyList n fun vs => vs ++ more.toArray
        return a
      | .list vs, .mul =>
        match integer? w b with
        | some k =>
          setBody n (.list (repeated k vs.toList).toArray)
          return a
        | none => plain
      | .bytes r, .add =>
        match bytesOf? w b with
        | some s =>
          setBody n (.bytes (r ++ s))
          return a
        | none => plain
      | .dict _, .bitOr =>
        match b with
        | .ref m =>
          match w.body m with
          | .dict t =>
            mergeInto n t.toList
            return a
          | _ =>
            (← itemsOf b).forM fun p => do
              match ← itemsOf p with
              | [k, v] => putEntry n k v
              | _ => return ()
            return a
        | _ =>
          (← itemsOf b).forM fun p => do
            match ← itemsOf p with
            | [k, v] => putEntry n k v
            | _ => return ()
          return a
      | .set _, o =>
        if (w.classAt (w.object n).cls).layout = .set ∧ isCrowd w b then
          match o with
          | .bitOr =>
            crowdUpdate n b
            return a
          | .sub =>
            crowdRemove n b
            return a
          | .bitAnd | .bitXor =>
            match ← crowds? o .set a b with
            | some (.ref m) =>
              match (← object m).body with
              | .set c => setBody n (.set c)
              | _ => pure ()
              return a
            | _ => plain
          | _ => plain
        else plain
      | _, _ => plain
    | _ => plain

def unaryValue (sign : Char) (v : Value) : Eval Value := do
  if sign = '!' then return .truth (!(← truthOf v))
  else
    let name : Text := if sign = '-' then "__neg__" else if sign = '+' then "__pos__" else "__invert__"
    match ← method? v name with
    | some f => call f []
    | none =>
      let w ← get
      match w.inner v with
      | .float x =>
        if sign = '~' then mistyped "bad operand type for unary ~: 'float'"
        else return .float (if sign = '-' then -x else x)
      | .complex a b => return if sign = '-' then .complex (-a) (-b) else .complex a b
      | x =>
        match integer? w x with
        | some n => return .int (if sign = '-' then -n else if sign = '~' then -n - 1 else n)
        | none => mistyped ("bad operand type for unary " ++ [sign] ++ ": '" ++ w.kindOf v ++ ['\''])

end IncludeAudit.Offside
