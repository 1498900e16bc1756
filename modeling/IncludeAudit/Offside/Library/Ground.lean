/-
What scripts of modules stand on: functions that need the heap, the bits of numbers or the text of a source.

- `Ground.function`: a function by its name, `groundLibraries`: the modules that hold them.
-/
import IncludeAudit.Offside.Library.Basic
import IncludeAudit.Offside.Reader.Statement
import IncludeAudit.Offside.Trace

namespace IncludeAudit.Offside.Ground

/-! ## The end of a script -/

/-- a function is put off to the end -/
def register (g : Given) : Eval Value := do
  match g.args with
  | [] => mistyped "register() takes at least 1 argument (0 given)"
  | f :: args =>
    if !(← isCallable f) then mistyped "the first argument must be callable"
    modify fun w => { w with atEnd := (f, args, g.named) :: w.atEnd }
    return f

/-- the functions that are left when one is taken back -/
def without (f : Value) : List (Value × List Value × List (Text × Value)) →
    Eval (List (Value × List Value × List (Text × Value)))
  | [] => return []
  | p :: ps => do
    let same ← equal p.1 f
    let rest ← without f ps
    return if same then rest else p :: rest

/-! ## Bits of numbers -/

/-- the bits of a number with a point, in so many bytes -/
def bitsOf (x : Float) (size : Nat) : Option Nat :=
  if size = 8 then some x.toBits.toNat
  else if size = 4 then
    let y := x.toFloat32
    if y.isInf ∧ !x.isInf then none else some y.toBits.toNat
  else
    -- ten digits behind the first one, and fewer for small numbers
    let sign := if Numeral.isNegative x then 0x8000 else 0
    if x.isNaN then some 0x7e00
    else if x.isInf then some (sign + 0x7c00)
    else
      let r := Decimal.magnitudeOf x
      if r.top = 0 then some sign
      else
        let (_, e) := x.abs.frExp
        let low : Int := max (e - 11) (-24)
        let scaled : Decimal.Ratio :=
          if 0 ≤ low then ⟨r.top, r.bottom * Nat.pow 2 low.toNat⟩ else ⟨r.top * Nat.pow 2 low.natAbs, r.bottom⟩
        let n := scaled.rounded 0
        let place : Nat := (low + 24).toNat
        let bits := place * 0x400 + n
        if 0x7c00 ≤ bits then none else some (sign + bits)

/-- the number with a point that bits are -/
def realOfBits (n size : Nat) : Float :=
  if size = 8 then Float.ofBits n.toUInt64
  else if size = 4 then (Float32.ofBits n.toUInt32).toFloat
  else
    let e := n / 0x400 % 0x20
    let m := n % 0x400
    let x : Float :=
      if e = 0x1f then (if m = 0 then 1.0 / 0.0 else 0.0 / 0.0)
      else if e = 0 then Float.scaleB (Float.ofNat m) (-24)
      else Float.scaleB (Float.ofNat (0x400 + m)) ((e : Int) - 25)
    if 0x8000 ≤ n then -x else x

/-! ## Values that sources are -/

/-- stops since a source is more than a value -/
def notLiteral {α : Type} (line : Nat) : Eval α :=
  misvalued ("malformed node or string on line " ++ Text.ofNat line ++ ": <ast.Name object at 0x7f0000001000>")

def literal : (fuel line : Nat) → Expr → Eval Value
  | 0, line, _ => notLiteral line
  | fuel + 1, line, e => do
    match e with
    | .at s e => literal fuel s.line e
    | .none => return .none
    | .truth b => return .truth b
    | .int n => return .int n
    | .float x => return .float x
    | .imaginary x => return .complex 0.0 x
    | .str t => return .str t
    | .bytes r => return .bytes r
    | .dots => return .ellipsis
    | .tuple es => return .tuple (← es.mapM (literal fuel line))
    | .list es => newList (← es.mapM (literal fuel line))
    | .set es => newSet .set (← es.mapM (literal fuel line))
    | .dictionary ps =>
      newDict (← ps.mapM fun p => do
        let k ← literal fuel line p.1
        let v ← literal fuel line p.2
        return (k, v))
    | .unary sign e =>
      if sign ≠ '-' ∧ sign ≠ '+' then notLiteral line
      else
        let v ← literal fuel line e
        match v with
        | .int _ | .float _ | .complex _ _ => unaryValue sign v
        | _ => notLiteral line
    | .binary o a b =>
      if o ≠ .add ∧ o ≠ .sub then notLiteral line
      else
        let x ← literal fuel line a
        let y ← literal fuel line b
        match x, y with
        | .int _, .complex _ _ | .float _, .complex _ _ => binaryValue o x y
        | _, _ => notLiteral line
    | .call f [] =>
      match f with
      | .at _ (.name n) | .name n => if n = ("set" : Text) then newSet .set [] else notLiteral line
      | _ => notLiteral line
    | _ => notLiteral line

/-! ## Failures as text -/

/-- the entries of a way that are shown: each one's file, line, name, source, and text -/
def entriesOf (v : Value) : Eval Value := do
  match v with
  | .ref n =>
    match (← object n).body with
    | .trace es =>
      let w ← get
      newList ((visible w es).map fun e =>
        let o := w.origins.getD e.source { file := "<string>" }
        let line := (o.line? e.spot.line).getD []
        .tuple [.str o.file, .int ((o.number? e.spot.line).getD e.spot.line), .str e.name,
          .str (Strings.trimEnd Text.isBlankChar (Strings.trimStart Text.isBlankChar line)), .str (entryText w e)])
    | _ => newList []
  | _ => newList []

/-! ## Work that is taken back -/

/-- calls a function. When it stops with a failure of a class everything is as it was before, and the answer is no -/
def attempt (f cls : Value) : Eval Value := do
  let before ← get
  tryCatch (do
    let _ ← call f []
    return .truth true) fun s => do
      match s, cls with
      | .raised n, .ref c =>
        let w ← get
        if w.isBelow (w.object n).cls c then
          set before
          return .truth false
        else throw s
      | s, _ => throw s

def function (name : String) (g : Given) : Eval Value := do
  match name with
  | "register" => register g
  | "unregister" =>
    let left ← without (g.at_ 0) (← get).atEnd
    modify fun w => { w with atEnd := left }
    return .none
  | "bits" =>
    match float? (← get) (g.at_ 0) with
    | some x =>
      match bitsOf x ((← g.whole? 1 "size").getD 8).toNat with
      | some n => return .int n
      | none => return .none
    | none => return .none
  | "real" => return .float (realOfBits (← wholeOf (g.at_ 0)).toNat ((← g.whole? 1 "size").getD 8).toNat)
  | "digest" =>
    match (← get).inner (g.at_ 0), bytesOf? (← get) (g.at_ 1) with
    | .str kind, some r => make .digest (.digest kind r)
    | _, none =>
      match (← get).inner (g.at_ 1) with
      | .str _ => mistyped "Strings must be encoded before hashing"
      | _ => mistyped "object supporting the buffer API required"
    | _, _ => return .none
  | "attempt" => attempt (g.at_ 0) (g.at_ 1)
  | "literal" =>
    match Reader.single (← textArgument "expected text, not " (g.at_ 0)) with
    | .ok e => literal 10000 1 e
    | .error _ => misvalued "malformed node or string"
  | "report" =>
    match g.at_ 0 with
    | .ref n =>
      let chained ← truthOf (g.at_ 1)
      return .str (← if chained then reportOf n false else ownReport n false)
    | _ => return .str "NoneType: None\n"
  | "headline" =>
    match g.at_ 0 with
    | .ref n => return .str ((← headline n false) ++ (← notesOf n))
    | _ => return .str "NoneType: None\n"
  | "entries" => entriesOf (g.at_ 0)
  | _ => return .none

/-- the modules of these functions -/
def libraries : List Library :=
  [{ name := "_ground", functions := "attempt bits real digest literal report headline entries", run := function },
   { name := "atexit", functions := "register unregister", run := function }]

end IncludeAudit.Offside.Ground
