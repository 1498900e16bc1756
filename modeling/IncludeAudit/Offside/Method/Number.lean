/-
Methods of numbers, and numbers made of other values.

- `intMethod`, `floatMethod`, `complexMethod`: methods by name, `newInt`, `newFloat`, `newComplex`: numbers of values.
-/
import IncludeAudit.Offside.Method.Pattern

namespace IncludeAudit.Offside

/-! ## Numbers of values -/

/-- an integer that a number with a point is without what is behind the point -/
def wholePart (x : Float) : Eval Int := do
  if x.isNaN then misvalued "cannot convert float NaN to integer"
  if x.isInf then raise .overflowError "cannot convert float infinity to integer"
  return Numeral.truncated x

def spelledInt (base : Nat) (shown : Value) (t : Text) : Eval Value := do
  let digits := (t.filter Char.isDigit).length
  if maxDigits < digits ∧ base ∉ ([2, 4, 8, 16, 32] : List Nat) then
    misvalued ("Exceeds the limit (" ++ Text.ofNat maxDigits ++ " digits) for integer string conversion: value has " ++
      Text.ofNat digits ++ " digits; use sys.set_int_max_str_digits() to increase the limit")
  match Numeral.int? base t with
  | some n => return .int n
  | none => misvalued ("invalid literal for int() with base " ++ Text.ofNat base ++ ": " ++ (← reprOf shown))

def newInt (g : Given) : Eval Value := do
  g.allow "int" ["base"]
  if 2 < g.count then mistyped ("int() takes at most 2 arguments (" ++ Text.ofNat g.count ++ " given)")
  let w ← get
  match g.args.head?, g.get? 1 "base" with
  | none, none => return .int 0
  | none, some _ => mistyped "int() missing string argument"
  | some v, some b =>
    let base ← wholeOf b
    if base ≠ 0 ∧ (base < 2 ∨ 36 < base) then misvalued "int() base must be >= 2 and <= 36, or 0"
    match w.inner v with
    | .str t => spelledInt base.toNat v t
    | x =>
      match bytesOf? w x with
      | some r => spelledInt base.toNat v r
      | none => mistyped "int() can't convert non-string with explicit base"
  | some v, none =>
    let refuse : Eval Value := do
      mistyped ("int() argument must be a string, a bytes-like object or a real number, not '" ++ (← kindOf v) ++ ['\''])
    let given (f : Value) (name : Text) : Eval Value := do
      let x ← call f []
      match integer? (← get) x with
      | some n => return .int n
      | none => mistyped (name ++ " returned non-int (type " ++ (← kindOf x) ++ [')'])
    match ← method? v "__int__" with
    | some f => given f "__int__"
    | none =>
      match w.inner v with
      | .float x => return .int (← wholePart x)
      | .str t => spelledInt 10 v t
      | .complex _ _ => refuse
      | x =>
        match integer? w x with
        | some n => return .int n
        | none =>
          match bytesOf? w x with
          | some r => spelledInt 10 v r
          | none =>
            match ← method? v "__index__" with
            | some f => given f "__index__"
            | none =>
              match ← method? v "__trunc__" with
              | some f => given f "__trunc__"
              | none => refuse

def spelledFloat (shown : Value) (t : Text) : Eval Value := do
  match Numeral.float? t with
  | some x => return .float x
  | none => misvalued ("could not convert string to float: " ++ (← reprOf shown))

/-- a number with a point of a value -/
def newFloat (g : Given) : Eval Value := do
  g.unnamed "float"
  if 1 < g.count then mistyped ("float expected at most 1 argument, got " ++ Text.ofNat g.count)
  let w ← get
  match g.args with
  | [] => return .float 0
  | v :: _ =>
    match ← method? v "__float__" with
    | some f =>
      let x ← call f []
      match (← get).inner x with
      | .float x => return .float x
      | _ => mistyped ((← kindOf v) ++ ".__float__ returned non-float (type " ++ (← kindOf x) ++ [')'])
    | none =>
      match w.inner v with
      | .float x => return .float x
      | .str t => spelledFloat v t
      | x =>
        match integer? w x with
        | some n => return .float (← floatOfInt n)
        | none =>
          match bytesOf? w x with
          | some r => spelledFloat v r
          | none =>
            match ← method? v "__index__" with
            | some f => return .float (← floatOf (← call f []))
            | none =>
              mistyped ("float() argument must be a string or a real number, not '" ++ (← kindOf v) ++ ['\''])

/-- the number with an imaginary part that a text spells -/
def complexSpelled? (t : Text) : Option (Float × Float) :=
  let t := Numeral.trimmed t
  let t := if t.head? = some '(' ∧ t.getLast? = some ')' then Numeral.trimmed ((t.drop 1).dropLast) else t
  if t.any Raw.isSpace then none
  else
    match t.getLast? with
    | some c =>
      if c = 'j' ∨ c = 'J' then
        let body := t.dropLast
        -- the sign that begins the imaginary part is the last one that does not belong to an exponent
        let places := (List.range body.length).filter fun i =>
          (body.getD i ' ' = '+' || body.getD i ' ' = '-') && (i = 0 || (body.getD (i - 1) ' ').toLower ≠ 'e')
        let cut := places.getLast?.getD 0
        let re := body.take cut
        let im := body.drop cut
        let im? := if im = [] ∨ im = ['+'] then some 1 else if im = ['-'] then some (-1) else Numeral.float? im
        match (if re = [] then some 0 else Numeral.float? re), im? with
        | some a, some b => some (a, b)
        | _, _ => none
      else (Numeral.float? t).map fun x => (x, 0)
    | none => none

/-- a number with an imaginary part of values -/
def newComplex (g : Given) : Eval Value := do
  g.allow "complex" ["real", "imag"]
  let w ← get
  let part (v : Value) (place : Text) : Eval (Float × Float) := do
    match ← method? v "__complex__" with
    | some f =>
      match (← get).inner (← call f []) with
      | .complex a b => return (a, b)
      | _ => mistyped "__complex__ returned non-complex"
    | none =>
      match complex? (← get) v with
      | some p => return p
      | none =>
        match ← method? v "__float__" with
        | some _ =>
          match ← newFloat { args := [v] } with
          | .float x => return (x, 0)
          | _ => return (0, 0)
        | none => mistyped ("complex() " ++ place ++ " argument must be a " ++
            (if place = ("first" : Text) then "string or a " else "") ++ "number, not '" ++ (← kindOf v) ++ ['\''])
  match g.get? 0 "real", g.get? 1 "imag" with
  | none, none => return .complex 0 0
  | some v, none =>
    match w.inner v with
    | .str t =>
      match complexSpelled? t with
      | some (a, b) => return .complex a b
      | none => misvalued "complex() arg is a malformed string"
    | _ =>
      let (a, b) ← part v "first"
      return .complex a b
  | v?, some x =>
    let a ← match v? with
      | some v =>
        match w.inner v with
        | .str _ => mistyped "complex() can't take second arg if first is a string"
        | _ => part v "first"
      | none => pure (0, 0)
    match w.inner x with
    | .str _ => mistyped "complex() second arg can't be a string"
    | _ =>
      let b ← part x "second"
      return .complex (a.1 - b.2) (a.2 + b.1)

/-! ## Methods -/

/-- the order of bytes that an argument names -/
def bigOrder (function : Text) (g : Given) : Eval Bool := do
  match g.get? 1 "byteorder" with
  | none => return true
  | some v =>
    match (← get).inner v with
    | .str t =>
      if t = ("big" : Text) then return true
      else if t = ("little" : Text) then return false
      else misvalued "byteorder must be either 'little' or 'big'"
    | _ => mistyped (function ++ "() argument 'byteorder' must be str, not " ++ (← kindOf v))

/-- two arguments by place, and one more by its name -/
def byteArguments (function : Text) (g : Given) : Eval Unit := do
  if 2 < g.count then
    mistyped (function ++ "() takes at most 2 positional arguments (" ++ Text.ofNat g.count ++ " given)")

def intFromBytes (g : Given) : Eval Value := do
  byteArguments "from_bytes" g
  let v := g.getD 0 "bytes" .none
  let w ← get
  let r ← match bytesOf? w v with
    | some r => pure r
    | none =>
      match w.inner v with
      | .str _ | .int _ | .float _ | .none | .truth _ => mistyped ("cannot convert '" ++ (← kindOf v) ++ "' object to bytes")
      | _ => (← itemsOf v).mapM byteOf
  let big ← bigOrder "from_bytes" g
  let isSigned ← g.truth 9 "signed" false
  let n := Codec.number big r
  let top := Nat.pow 2 (8 * r.length)
  return .int (if isSigned ∧ r ≠ [] ∧ top ≤ 2 * n then (n : Int) - top else n)

/-- an integer with so many digits at least taken off, ties to the even neighbour -/
def roundedInt (n : Int) (places : Int) : Int :=
  if 0 ≤ places then n
  else
    let unit : Int := (Nat.pow 10 places.natAbs : Nat)
    let q := n.fdiv unit
    let r := n - q * unit
    let up : Bool := unit < 2 * r || (2 * r = unit && q % 2 ≠ 0)
    (q + if up then 1 else 0) * unit

def intMethod (n : Int) (self : Value) (name : String) (g : Given) : Eval Value := do
  let full : Text := "int." ++ name.toList
  match name with
  | "bit_length" =>
    g.nothing full
    return .int (Numeral.bitLength n.natAbs)
  | "bit_count" =>
    g.nothing full
    return .int (((Nat.toDigits 2 n.natAbs).filter (· = '1')).length)
  | "as_integer_ratio" =>
    g.nothing full
    return .tuple [.int n, .int 1]
  | "conjugate" | "__trunc__" | "__floor__" | "__ceil__" | "__int__" | "__index__" | "__pos__" => return .int n
  | "__round__" =>
    match g.args with
    | [] => return .int n
    | v :: _ => return .int (roundedInt n (← wholeOf v))
  | "to_bytes" =>
    byteArguments "to_bytes" g
    let length ← (do
      match g.get? 0 "length" with
      | some v => wholeOf v
      | none => return 1)
    let big ← bigOrder "to_bytes" g
    let isSigned ← g.truth 9 "signed" false
    if length < 0 then misvalued "length argument must be non-negative"
    if n < 0 ∧ !isSigned then raise .overflowError "can't convert negative int to unsigned"
    let top : Int := (Nat.pow 2 (8 * length.toNat) : Nat)
    let fits : Bool := if isSigned then (-top ≤ 2 * n && 2 * n < top) || (n = 0) else n < top
    if !fits then raise .overflowError "int too big to convert"
    return .bytes (Codec.word big length.toNat (Numeral.bitsOf (8 * length.toNat) n))
  | "__float__" => return .float (← floatOfInt n)
  | "__bool__" => return .truth (n ≠ 0)
  | "__abs__" => return .int n.natAbs
  | "__neg__" => return .int (-n)
  | "__invert__" => return .int (-n - 1)
  | "__getnewargs__" => return .tuple [.int n]
  | name => noAttribute self name.toList

/-- the number that hexadecimal digits with a point and a power of two spell -/
def hexFloat? (t : Text) : Option Float :=
  let t := (Numeral.trimmed t).map Char.toLower
  let (negative, t) : Bool × Text := match t with
    | '-' :: r => (true, r)
    | '+' :: r => (false, r)
    | r => (false, r)
  let signed (x : Float) : Float := if negative then -x else x
  match String.ofList t with
  | "inf" | "infinity" => some (signed (1.0 / 0.0))
  | "nan" => some (0.0 / 0.0)
  | _ =>
    let t := if ("0x".toList).isPrefixOf t then t.drop 2 else t
    let isHex (c : Char) : Bool := c.isDigit || ('a' ≤ c && c ≤ 'f')
    let digit (c : Char) : Nat := if c.isDigit then c.toNat - 48 else c.toNat - 87
    let whole := t.takeWhile isHex
    let rest := t.drop whole.length
    let (places, rest) : Text × Text := match rest with
      | '.' :: r => (r.takeWhile isHex, r.dropWhile isHex)
      | r => ([], r)
    let exponent? : Option Int := match rest with
      | [] => some 0
      | 'p' :: r => Numeral.int? 10 r
      | _ => none
    match exponent? with
    | none => none
    | some e =>
      let ds := whole ++ places
      if ds = [] then none
      else
        let m := ds.foldl (fun n c => n * 16 + digit c) 0
        let e := e - 4 * places.length
        let top := if 0 ≤ e then m * Nat.pow 2 (min e.toNat 5000) else m
        let bottom := if 0 ≤ e then 1 else Nat.pow 2 (min e.natAbs 5000)
        some (Numeral.quotient negative top bottom)

/-- methods of numbers with a point -/
def floatMethod (x : Float) (self : Value) (name : String) (g : Given) : Eval Value := do
  let full : Text := "float." ++ name.toList
  match name with
  | "is_integer" =>
    g.nothing full
    return .truth (!x.isNaN && !x.isInf && x == x.floor)
  | "as_integer_ratio" =>
    g.nothing full
    if x.isNaN then misvalued "cannot convert NaN to integer ratio"
    if x.isInf then raise .overflowError "cannot convert Infinity to integer ratio"
    let (a, b) := Numeral.ratio x
    return .tuple [.int a, .int b]
  | "hex" =>
    g.nothing full
    return .str (Numeral.hex x)
  | "conjugate" | "__float__" | "__pos__" => return .float x
  | "__int__" | "__trunc__" => return .int (← wholePart x)
  | "__floor__" =>
    let _ ← wholePart x
    return .int (Numeral.truncated x.floor)
  | "__ceil__" =>
    let _ ← wholePart x
    return .int (Numeral.truncated x.ceil)
  | "__round__" =>
    match g.args with
    | [] | [.none] =>
      let _ ← wholePart x
      return .int (Numeral.nearest x)
    | v :: _ => return .float (Numeral.rounded x (← wholeOf v))
  | "__bool__" => return .truth (x != 0)
  | "__abs__" => return .float x.abs
  | "__neg__" => return .float (-x)
  | "__getnewargs__" => return .tuple [.float x]
  | name => noAttribute self name.toList

/-- methods of numbers with an imaginary part -/
def complexMethod (a b : Float) (self : Value) (name : String) (g : Given) : Eval Value := do
  match name with
  | "conjugate" =>
    g.nothing "complex.conjugate"
    return .complex a (-b)
  | "__complex__" | "__pos__" => return .complex a b
  | "__neg__" => return .complex (-a) (-b)
  | "__abs__" => return .float (Float.sqrt (a * a + b * b))
  | "__bool__" => return .truth (a != 0 || b != 0)
  | name => noAttribute self name.toList

end IncludeAudit.Offside
