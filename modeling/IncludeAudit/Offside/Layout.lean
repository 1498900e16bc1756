/-
How values are laid out in a width: what follows a colon in a text with values, and what follows a percent sign.

- `Layout.read`: a layout as it is written, `Layout.int`, `Layout.float`, `Layout.str`: values as it says.
- `Layout.directive`: a layout behind a percent sign.
-/
import IncludeAudit.Offside.Numeral

namespace IncludeAudit.Offside

/-- where a text stands in its width -/
inductive Alignment
  | left
  | right
  | center
  /-- with the filling behind the sign -/
  | afterSign
  deriving DecidableEq, Repr

/-- how a value is laid out -/
structure Layout where
  fill : Option Char := none
  alignment : Option Alignment := none
  sign : Option Char := none
  /-- a zero that is rounded has no sign -/
  plainZero : Bool := false
  alternate : Bool := false
  zeros : Bool := false
  width : Nat := 0
  grouping : Option Char := none
  precision : Option Nat := none
  kind : Option Char := none
  deriving DecidableEq, Repr, Inhabited

namespace Layout

def alignment? (c : Char) : Option Alignment :=
  if c = '<' then some .left else if c = '>' then some .right else if c = '^' then some .center
  else if c = '=' then some .afterSign else none

/-- a layout as it is written, for a value of a class -/
def read (cls t : Text) : Except Text Layout :=
  let invalid : Text := "Invalid format specifier '" ++ t ++ "' for object of type '" ++ cls ++ ['\'']
  let (l, t) : Layout × Text :=
    match t with
    | f :: a :: r =>
      if (alignment? a).isSome then ({ fill := some f, alignment := alignment? a }, r)
      else if (alignment? f).isSome then ({ alignment := alignment? f }, a :: r)
      else ({}, t)
    | [a] => if (alignment? a).isSome then ({ alignment := alignment? a }, []) else ({}, t)
    | [] => ({}, t)
  let (l, t) : Layout × Text :=
    match t with
    | c :: r => if c = '+' ∨ c = '-' ∨ c = ' ' then ({ l with sign := some c }, r) else (l, t)
    | [] => (l, t)
  let (l, t) : Layout × Text :=
    match t with
    | 'z' :: r => ({ l with plainZero := true }, r)
    | _ => (l, t)
  let (l, t) : Layout × Text :=
    match t with
    | '#' :: r => ({ l with alternate := true }, r)
    | _ => (l, t)
  let (l, t) : Layout × Text :=
    match t with
    | '0' :: r =>
      if l.fill.isNone then ({ l with zeros := true, fill := some '0' }, r) else (l, r)
    | _ => (l, t)
  let digits := t.takeWhile Char.isDigit
  let l := { l with width := Raw.toNat digits }
  let t := t.drop digits.length
  let commas := t.takeWhile fun c => c = ',' || c = '_'
  let t := t.drop commas.length
  let l := { l with grouping := commas.head? }
  let (l, t, missing) : Layout × Text × Bool :=
    match t with
    | '.' :: r =>
      let digits := r.takeWhile Char.isDigit
      ({ l with precision := some (Raw.toNat digits) }, r.drop digits.length, digits = [])
    | _ => (l, t, false)
  if 1 < commas.length then
    .error (if commas.all (· = ',') then "Cannot specify ',' with ','."
      else if commas.all (· = '_') then "Cannot specify '_' with '_'." else "Cannot specify both ',' and '_'.")
  else if missing then .error "Format specifier missing precision"
  else
    match t with
    | [] => .ok l
    | [c] =>
      match l.grouping with
      | some g =>
        let allowed : Text := if g = '_' then "deEfFgG%boxX" else "deEfFgG%"
        if c ∈ allowed then .ok { l with kind := some c }
        else .error ("Cannot specify '" ++ [g] ++ "' with '" ++ [c] ++ "'.")
      | none => .ok { l with kind := some c }
    | _ => .error invalid

def place (l : Layout) (usual : Alignment) (sign body : Text) : Text :=
  let gap := l.width - (sign.length + body.length)
  let pad (n : Nat) : Text := List.replicate n (l.fill.getD ' ')
  match l.alignment.getD usual with
  | .left => sign ++ body ++ pad gap
  | .right => pad gap ++ sign ++ body
  | .center => pad (gap / 2) ++ sign ++ body ++ pad (gap - gap / 2)
  | .afterSign => sign ++ pad gap ++ body

def grouped (size : Nat) (mark : Char) (ds : Text) : Text :=
  ((ds.reverse.zipIdx).flatMap fun (c, i) => if i ≠ 0 ∧ i % size = 0 then [mark, c] else [c]).reverse

/-- digits in groups, with zeros in front up to a width -/
def groupedTo (size : Nat) (mark : Char) (width : Nat) : (fuel : Nat) → Text → Text
  | 0, ds => grouped size mark ds
  | fuel + 1, ds =>
    let t := grouped size mark ds
    if t.length < width then groupedTo size mark width fuel ('0' :: ds) else t

def signOf (l : Layout) (negative : Bool) : Text :=
  if negative then ['-']
  else
    match l.sign with
    | some '+' => ['+']
    | some ' ' => [' ']
    | _ => []

def number (l : Layout) (sign front digits behind : Text) : Text :=
  let l := if l.zeros ∧ l.alignment.isNone then { l with alignment := some .afterSign } else l
  let size := if l.kind.any fun c => c ∈ ("boxX" : Text) then 4 else 3
  let digits :=
    match l.grouping with
    | some g =>
      let zeros : Bool := l.fill = some '0' && l.alignment = some .afterSign
      let width := if zeros then l.width - (sign.length + front.length + behind.length) else 0
      groupedTo size g width l.width digits
    | none => digits
  l.place .right (sign ++ front) (digits ++ behind)

/-- the layout means nothing to a class -/
def unknown (l : Layout) (cls : Text) : Text :=
  let c := l.kind.getD ' '
  let shown : Text := if ' ' < c ∧ c.toNat < 128 then ['\'', c, '\''] else "'\\x" ++ Nat.toDigits 16 c.toNat ++ ['\'']
  "Unknown format code " ++ shown ++ " for object of type '" ++ cls ++ ['\'']

/-- a finite or infinite number without its sign, in a letter and a precision -/
def numeral (letter : Char) (precision : Nat) (alternate : Bool) (x : Float) : Text :=
  let t : Text :=
    if x.isNaN then "nan"
    else if x.isInf then "inf"
    else
      let r := Decimal.magnitudeOf x
      let pointed (t : Text) : Text :=
        if alternate ∧ '.' ∉ t then
          let front := t.takeWhile fun c => c ≠ 'e'
          front ++ '.' :: t.drop front.length
        else t
      match letter.toLower with
      | 'f' => pointed (Decimal.fixedRatio r precision)
      | 'e' => pointed (Decimal.scientificRatio r precision 'e')
      | _ => pointed (Decimal.generalRatio r precision 'e' alternate)
  if letter.isUpper then t.map Char.toUpper else t

/-- a number with a point as a layout says -/
def float (l : Layout) (cls : Text) (x : Float) : Except Text Text :=
  let finish (t : Text) : Except Text Text :=
    let zero : Bool := t.all fun c => !('1' ≤ c && c ≤ '9') && c ≠ 'n' && c ≠ 'i'
    let negative := Numeral.isNegative x && !x.isNaN && !(l.plainZero && zero)
    let digits := t.takeWhile Char.isDigit
    .ok (l.number (l.signOf negative) [] digits (t.drop digits.length))
  match l.kind with
  | some '%' => finish (numeral 'f' (l.precision.getD 6) l.alternate (x.abs * 100) ++ ['%'])
  | some 'n' => finish (numeral 'g' (l.precision.getD 6) l.alternate x.abs)
  | some c =>
    if c ∈ ("eEfFgG" : Text) then finish (numeral c (l.precision.getD 6) l.alternate x.abs)
    else .error (l.unknown cls)
  | none =>
    match l.precision with
    | some n =>
      if x.isNaN ∨ x.isInf then finish (numeral 'g' n false x.abs)
      else
        let n := max n 1
        let (_, e) := Decimal.leading (Decimal.magnitudeOf x) (n - 1)
        if e + 1 = n then finish (Decimal.trimmed ((Decimal.scientificRatio (Decimal.magnitudeOf x) (n - 1) 'e').takeWhile
          (· ≠ 'e')) ++ Decimal.exponentMark 'e' e)
        else
          let t := numeral 'g' n false x.abs
          finish (if t.any fun c => c = '.' || c = 'e' then t else t ++ ".0")
    | none => finish (Numeral.float x.abs)

/-- an integer as a layout says -/
def int (l : Layout) (cls : Text) (n : Int) : Except Text Text :=
  let body (base : Nat) (front : Text) (upper : Bool) : Except Text Text :=
    if l.precision.isSome then .error "Precision not allowed in integer format specifier"
    else
      let digits : Text := Nat.toDigits base n.natAbs
      let digits := if upper then digits.map Char.toUpper else digits
      .ok (l.number (l.signOf (n < 0)) (if l.alternate then front else []) digits [])
  match l.kind with
  | none | some 'd' | some 'n' => body 10 [] false
  | some 'x' => body 16 "0x" false
  | some 'X' => body 16 "0X" true
  | some 'o' => body 8 "0o" false
  | some 'b' => body 2 "0b" false
  | some 'c' =>
    if l.sign.isSome then .error "Sign not allowed with integer format specifier 'c'"
    else if l.alternate then .error "Alternate form (#) not allowed with integer format specifier 'c'"
    else if n < 0 ∨ 0x10FFFF < n then .error "%c arg not in range(0x110000)"
    else .ok (l.place .left [] [Char.ofNat n.natAbs])
  | some c =>
    if c ∈ ("eEfFgG%" : Text) then
      match Numeral.ofInt? n with
      | some x => l.float cls x
      | none => .error "int too large to convert to float"
    else .error (l.unknown cls)

def str (l : Layout) (cls t : Text) : Except Text Text :=
  match l.kind with
  | none | some 's' =>
    if l.sign.isSome then
      .error (if l.sign = some ' ' then "Space not allowed in string format specifier"
        else "Sign not allowed in string format specifier")
    else if l.alternate then .error "Alternate form (#) not allowed in string format specifier"
    else if l.alignment = some .afterSign then .error "'=' alignment not allowed in string format specifier"
    else
      match l.grouping with
      | some g => .error ("Cannot specify '" ++ [g] ++ "' with 's'.")
      | none => .ok (l.place .left [] (t.take (l.precision.getD t.length)))
  | _ => .error (l.unknown cls)

/-! ## Behind a percent sign -/

def padded (d : Tool.Directive) (sign front digits : Text) : Text :=
  let digits := List.replicate (d.precision.getD 0 - digits.length) '0' ++ digits
  let gap := d.width.getD 0 - (sign.length + front.length + digits.length)
  if d.left then sign ++ front ++ digits ++ List.replicate gap ' '
  else if d.zeros then sign ++ front ++ List.replicate gap '0' ++ digits
  else List.replicate gap ' ' ++ sign ++ front ++ digits

def signBehind (d : Tool.Directive) (negative : Bool) : Text :=
  if negative then ['-'] else if d.plus then ['+'] else if d.blank then [' '] else []

/-- an integer behind a percent sign -/
def directiveInt (d : Tool.Directive) (n : Int) : Text :=
  let base := if d.letter = 'o' then 8 else if d.letter.toLower = 'x' then 16 else 10
  let digits : Text := Nat.toDigits base n.natAbs
  let digits := if d.letter = 'X' then digits.map Char.toUpper else digits
  let front : Text := if d.alternate ∧ base ≠ 10 then ['0', d.letter] else []
  padded d (signBehind d (n < 0)) front digits

/-- a number with a point behind a percent sign -/
def directiveFloat (d : Tool.Directive) (x : Float) : Text :=
  let t := numeral d.letter (d.precision.getD 6) d.alternate x.abs
  padded { d with precision := none } (signBehind d (Numeral.isNegative x && !x.isNaN)) [] t

end Layout
end IncludeAudit.Offside
