/-
Arithmetic in scripts: integers of 64 bits that wrap around, variables by their names, and the operators of the
language C with assignments. An expression is first read into a tree.

- `Sum.read`: the tree of an expression, `Sum.value`: its value, with the variables that it assigns.
-/
import IncludeAudit.Text.Utf8

namespace IncludeAudit.Shell

/-- a binary operation on integers -/
inductive Operation
  | mul | div | rem | power | add | sub | left | right
  | lt | le | gt | ge | eq | ne | bitAnd | bitXor | bitOr
  deriving DecidableEq, Repr

/-- an arithmetic expression -/
inductive Sum
  | number (n : Int)
  | variable_ (name : Raw)
  /-- an element of an array: the index as it is written, and what it says as an expression -/
  | element (name key : Raw) (index : Sum)
  | negative (e : Sum)
  | opposite (e : Sum)
  | complement (e : Sum)
  /-- with the text from the second operand on -/
  | binary (o : Operation) (a b : Sum) (text : Raw)
  | both (a b : Sum)
  | either (a b : Sum)
  | choice (c a b : Sum)
  /-- assigns to a variable or an element -/
  | assign (o : Option Operation) (target : Sum) (e : Sum)
  /-- changes a variable or an element by a step, and gives the value before or behind it -/
  | bump (target : Sum) (step : Int) (before : Bool)
  | comma (a b : Sum)
  deriving Repr

namespace Sum

/-- how many integers have 64 bits -/
def modulus : Nat := 0x10000000000000000

/-- the integer of 64 bits that is left of an integer -/
def wrap (n : Int) : Int :=
  Int.bmod n modulus

def largest : Int :=
  0x7fffffffffffffff

/-- the value of a digit in bases up to 16 -/
def digit? (c : Char) : Option Nat :=
  if c.isDigit then some (c.toNat - 48)
  else if 'a' ≤ c ∧ c ≤ 'f' then some (c.toNat - 87)
  else if 'A' ≤ c ∧ c ≤ 'F' then some (c.toNat - 55)
  else none

def digits (base : Nat) (r : Raw) : Raw :=
  r.takeWhile fun c => (digit? c).any (· < base)

/-- a numeral with the usual signs for bases 8 and 16, and what is behind it; too large a number is cut off -/
def numeral (r : Raw) : Int × Raw :=
  let value (base : Nat) (ds : Raw) : Int :=
    min (ds.foldl (fun n c => n * base + (digit? c).getD 0) 0 : Nat) largest
  match r with
  | '0' :: x :: r' =>
    if (x = 'x' ∨ x = 'X') ∧ digits 16 r' ≠ [] then
      let ds := digits 16 r'
      (value 16 ds, r'.drop ds.length)
    else
      let ds := digits 8 r
      (value 8 ds, r.drop ds.length)
  | _ =>
    let ds := digits 10 r
    (value 10 ds, r.drop ds.length)

def wideDigit? (base : Nat) (c : Char) : Option Nat :=
  let n : Option Nat :=
    if c.isDigit then some (c.toNat - 48)
    else if 'a' ≤ c ∧ c ≤ 'z' then some (c.toNat - 87)
    else if 'A' ≤ c ∧ c ≤ 'Z' then some (if base ≤ 36 then c.toNat - 55 else c.toNat - 29)
    else if c = '@' then some 62
    else if c = '_' then some 63
    else none
  n.filter (· < base)

/-- why a numeral of the wider language is none -/
inductive BadNumeral
  | base
  | digit
  deriving DecidableEq, Repr

/-- the number that a numeral of the wider language spells, with a base in front of a number sign -/
def wideNumeral (t : Raw) : Except BadNumeral Int :=
  let spelled (base : Nat) (ds : Raw) : Except BadNumeral Int :=
    match ds.mapM (wideDigit? base) with
    | some ns => .ok (wrap (ns.foldl (fun n d => n * base + d) 0 : Nat))
    | none => .error .digit
  let front := t.takeWhile (· ≠ '#')
  if front.length < t.length then
    match front.all Char.isDigit, Raw.toNat front with
    | true, b => if 2 ≤ b ∧ b ≤ 64 then spelled b (t.drop (front.length + 1)) else .error .base
    | false, _ => .error .digit
  else
    match t with
    | '0' :: 'x' :: ds | '0' :: 'X' :: ds => spelled 16 ds
    | '0' :: ds => spelled 8 ds
    | ds => spelled 10 ds

/-- operators with how tightly they bind, longer ones first -/
def operators : List (Raw × Nat × Operation) :=
  [("**", 12, .power), ("<<", 9, .left), (">>", 9, .right), ("<=", 8, .le), (">=", 8, .ge), ("==", 7, .eq),
   ("!=", 7, .ne), ("*", 11, .mul), ("/", 11, .div), ("%", 11, .rem), ("+", 10, .add), ("-", 10, .sub), ("<", 8, .lt),
   (">", 8, .gt), ("&", 6, .bitAnd), ("^", 5, .bitXor), ("|", 4, .bitOr)]

/-- assigning operators, longer ones first -/
def assigning : List (Raw × Option Operation) :=
  [("<<=", some .left), (">>=", some .right), ("*=", some .mul), ("/=", some .div), ("%=", some .rem),
   ("+=", some .add), ("-=", some .sub), ("&=", some .bitAnd), ("^=", some .bitXor), ("|=", some .bitOr), ("=", none)]

def skipBlanks (r : Raw) : Raw :=
  r.dropWhile Raw.isSpace

/-- the operator at the start of a text, unless the text goes on as an assignment or another sign -/
def operator? (wide : Bool) (r : Raw) : Option (Nat × Operation × Raw) := do
  let (sign, level, o) ← operators.find? fun o => o.1.isPrefixOf r && (wide || o.2.2 ≠ .power)
  let behind := r.drop sign.length
  if behind.head? = some '=' ∧ sign ≠ "==" ∧ sign ≠ "!=" ∧ sign ≠ "<=" ∧ sign ≠ ">=" then none
  else if (sign = "&" ∧ behind.head? = some '&') ∨ (sign = "|" ∧ behind.head? = some '|') then none
  else some (level, o, behind)

/-- an expression that cannot be read: what the plain and the wider shell say, and what is left there -/
structure Misread where
  message : Raw
  wideMessage : Raw
  rest : Raw
  deriving DecidableEq, Repr

def noOperand {α : Type} (r : Raw) : Except Misread α :=
  .error { message := "expecting primary", wideMessage := "syntax error: operand expected", rest := r }

def isNamePart (c : Char) : Bool :=
  c.isAlphanum || c = '_'

/-- a name at the start of a text -/
def nameAt (r : Raw) : Raw :=
  if r.head?.any Char.isDigit then [] else r.takeWhile isNamePart

/-- signs of several characters -/
def longSigns : List Raw :=
  ["<<=", ">>=", "**", "<<", ">>", "<=", ">=", "==", "!=", "&&", "||", "+=", "-=", "*=", "/=", "%=", "&=", "^=", "|="]

/-- the text from the last word or sign on -/
def lastToken : (fuel : Nat) → (last : Raw) → Raw → Raw
  | 0, last, _ => last
  | fuel + 1, last, r =>
    match skipBlanks r with
    | [] => last
    | c :: r' =>
      let r := c :: r'
      if isNamePart c then lastToken fuel r (r.dropWhile fun c => isNamePart c || c = '#' || c = '@')
      else
        match longSigns.find? (·.isPrefixOf r) with
        | some sign => lastToken fuel r (r.drop sign.length)
        | none => lastToken fuel r r'

/-- what is left where an expression cannot be read, or its last part -/
def Misread.token (m : Misread) (e : Raw) : Raw :=
  match skipBlanks m.rest with
  | [] => lastToken (e.length + 1) [] e
  | r => r

mutual

def readAssign (wide : Bool) : (fuel : Nat) → Raw → Except Misread (Sum × Raw)
  | 0, r => noOperand r
  | fuel + 1, r => do
    let r := skipBlanks r
    let (target, behind) ← readTarget wide fuel r
    let behind := skipBlanks behind
    match target, assigning.find? (·.1.isPrefixOf behind) with
    | some target, some (sign, o) =>
      if sign = "=" ∧ behind.tail.head? = some '=' then readChoice wide fuel r
      else
        let (e, r) ← readAssign wide fuel (behind.drop sign.length)
        return (.assign o target e, r)
    | _, _ => readChoice wide fuel r

/-- a variable or an element of an array, if there is one here -/
def readTarget (wide : Bool) : (fuel : Nat) → Raw → Except Misread (Option Sum × Raw)
  | 0, r => noOperand r
  | fuel + 1, r => do
    let name := nameAt r
    let behind := r.drop name.length
    if name = [] then return (none, r)
    else if wide ∧ behind.head? = some '[' then
      let key := behind.tail.takeWhile (· ≠ ']')
      if key.length + 1 = behind.length then
        .error { message := [], wideMessage := "bad array subscript", rest := r }
      else
        let index : Sum :=
          match readComma wide fuel key with
          | .ok (e, []) => e
          | _ => .number 0
        return (some (.element name key index), behind.drop (key.length + 2))
    else return (some (.variable_ name), behind)

/-- a choice between two expressions -/
def readChoice (wide : Bool) : (fuel : Nat) → Raw → Except Misread (Sum × Raw)
  | 0, r => noOperand r
  | fuel + 1, r => do
    let (c, r) ← readOr wide fuel r
    match skipBlanks r with
    | '?' :: r =>
      if wide ∧ (skipBlanks r).head? = some ':' then
        .error { message := "expecting primary", wideMessage := "expression expected", rest := r }
      let (a, r) ← readAssign wide fuel r
      match skipBlanks r with
      | ':' :: r =>
        let (b, r) ← readChoice wide fuel r
        return (.choice c a b, r)
      | r => .error { message := "expecting ':'", wideMessage := "\x60:' expected for conditional expression", rest := r }
    | _ => return (c, r)

/-- conditions of which one has to hold -/
def readOr (wide : Bool) : (fuel : Nat) → Raw → Except Misread (Sum × Raw)
  | 0, r => noOperand r
  | fuel + 1, r => do
    let (a, r) ← readAnd wide fuel r
    match skipBlanks r with
    | '|' :: '|' :: r =>
      let (b, r) ← readOr wide fuel r
      return (.either a b, r)
    | _ => return (a, r)

/-- conditions that have to hold together -/
def readAnd (wide : Bool) : (fuel : Nat) → Raw → Except Misread (Sum × Raw)
  | 0, r => noOperand r
  | fuel + 1, r => do
    let (a, r) ← readPrimary wide fuel r
    let (a, r) ← readTail wide fuel 0 a r
    match skipBlanks r with
    | '&' :: '&' :: r =>
      let (b, r) ← readAnd wide fuel r
      return (.both a b, r)
    | _ => return (a, r)

/-- operators behind a first operand that bind more tightly than `least` -/
def readTail (wide : Bool) : (fuel : Nat) → (least : Nat) → Sum → Raw → Except Misread (Sum × Raw)
  | 0, _, _, r => noOperand r
  | fuel + 1, least, a, r => do
    match operator? wide (skipBlanks r) with
    | some (level, o, behind) =>
      if level ≤ least then return (a, r)
      else
        let (b, r) ← readPrimary wide fuel behind
        let (b, r) ← readTail wide fuel (if o = .power then level - 1 else level) b r
        readTail wide fuel least (.binary o a b (skipBlanks behind)) r
    | none => return (a, r)

/-- a number, a variable, a sign with its operand, or an expression in brackets -/
def readPrimary (wide : Bool) : (fuel : Nat) → Raw → Except Misread (Sum × Raw)
  | 0, r => noOperand r
  | fuel + 1, r => do
    let stepped (step : Int) (sign : Char) (r' : Raw) : Except Misread (Option (Sum × Raw)) := do
      match wide, r' with
      | true, c :: r'' =>
        if c = sign ∧ nameAt (skipBlanks r'') ≠ [] then
          match ← readTarget wide fuel (skipBlanks r'') with
          | (some t, r) => return some (.bump t step false, r)
          | (none, _) => return none
        else return none
      | _, _ => return none
    match skipBlanks r with
    | '(' :: r =>
      let (e, r) ← readComma wide fuel r
      match skipBlanks r with
      | ')' :: r => return (e, r)
      | r => .error { message := "expecting ')'", wideMessage := "missing \x60)'", rest := r }
    | '+' :: r =>
      match ← stepped 1 '+' r with
      | some done => return done
      | none => readPrimary wide fuel r
    | '-' :: r =>
      match ← stepped (-1) '-' r with
      | some done => return done
      | none =>
        let (e, r) ← readPrimary wide fuel r
        return (.negative e, r)
    | '!' :: r =>
      let (e, r) ← readPrimary wide fuel r
      return (.opposite e, r)
    | '~' :: r =>
      let (e, r) ← readPrimary wide fuel r
      return (.complement e, r)
    | r =>
      match r with
      | c :: _ =>
        if c.isDigit ∧ wide then
          let t := r.takeWhile fun c => isNamePart c || c = '#' || c = '@'
          match wideNumeral t with
          | .ok n => return (.number n, r.drop t.length)
          | .error .base => .error { message := [], wideMessage := "invalid arithmetic base", rest := r }
          | .error .digit => .error { message := [], wideMessage := "value too great for base", rest := r }
        else if c.isDigit then
          let (n, r) := numeral r
          return (.number n, r)
        else
          match ← readTarget wide fuel r with
          | (some t, behind) =>
            if wide ∧ ("++" : Raw).isPrefixOf behind then return (.bump t 1 true, behind.drop 2)
            else if wide ∧ ("--" : Raw).isPrefixOf behind then return (.bump t (-1) true, behind.drop 2)
            else return (t, behind)
          | (none, _) => noOperand r
      | [] => noOperand r

/-- expressions one after another -/
def readComma (wide : Bool) : (fuel : Nat) → Raw → Except Misread (Sum × Raw)
  | 0, r => noOperand r
  | fuel + 1, r => do
    let (a, r) ← readAssign wide fuel r
    match wide, skipBlanks r with
    | true, ',' :: r' =>
      let (b, r) ← readComma wide fuel r'
      return (.comma a b, r)
    | _, _ => return (a, r)

end

/-- the tree of an expression; nothing at all stands for zero -/
def read (wide : Bool) (e : Raw) : Except Misread Sum := do
  if skipBlanks e = [] ∧ wide then return .number 0
  let (s, r) ← readComma wide (12 * e.length + 20) e
  match skipBlanks r with
  | [] => return s
  | c :: r =>
    let wideMessage : Raw :=
      if c = '=' then "attempted assignment to non-variable"
      else if isNamePart c ∨ c ∈ ("()?:,*/%+-<>&|^!~" : Raw) then "syntax error in expression"
      else "syntax error: invalid arithmetic operator"
    .error { message := "expecting EOF", wideMessage, rest := c :: r }

/-- why an expression has no value -/
inductive Fault
  /-- with the text from the divisor on -/
  | divisionByZero (text : Raw)
  | negativeExponent
  | illegalNumber (t : Raw)
  /-- the variable has no value, and needs one -/
  | unset (name : Raw)
  /-- the value of a variable is an expression that cannot be read -/
  | unreadable (e : Raw) (m : Misread)
  deriving DecidableEq, Repr

def operate (o : Operation) (a b : Int) (text : Raw) : Except Fault Int :=
  let truth (c : Bool) : Int := if c then 1 else 0
  let bits (f : Nat → Nat → Nat) : Int := wrap (f (a % modulus).toNat (b % modulus).toNat)
  match o with
  | .mul => .ok (wrap (a * b))
  | .div => if b = 0 then .error (.divisionByZero text) else .ok (wrap (Int.tdiv a b))
  | .rem => if b = 0 then .error (.divisionByZero text) else .ok (Int.tmod a b)
  | .power => if b < 0 then .error .negativeExponent else .ok (wrap (Int.pow a b.toNat))
  | .add => .ok (wrap (a + b))
  | .sub => .ok (wrap (a - b))
  | .left => .ok (wrap (a * Nat.pow 2 (b % 64).toNat))
  | .right => .ok (Int.fdiv a (Nat.pow 2 (b % 64).toNat))
  | .lt => .ok (truth (a < b))
  | .le => .ok (truth (a ≤ b))
  | .gt => .ok (truth (b < a))
  | .ge => .ok (truth (b ≤ a))
  | .eq => .ok (truth (a = b))
  | .ne => .ok (truth (a ≠ b))
  | .bitAnd => .ok (bits (· &&& ·))
  | .bitXor => .ok (bits (· ^^^ ·))
  | .bitOr => .ok (bits (· ||| ·))

/-- the integer that the value of a variable spells -/
def ofValue (v : Raw) : Except Fault Int :=
  let t := skipBlanks v
  let (isNegative, t) : Bool × Raw :=
    match t with
    | '-' :: r => (true, r)
    | '+' :: r => (false, r)
    | r => (false, r)
  if t = [] then .ok 0
  else if t.head?.any Char.isDigit = false then .error (.illegalNumber v)
  else
    let (n, r) := numeral t
    if skipBlanks r = [] then .ok (if isNegative then -n else n) else .error (.illegalNumber v)

/-- a variable, or an element of an array with its index -/
abbrev Target := Raw × Option Raw

/-- what an expression can see of a shell -/
structure Environment where
  wide : Bool
  /-- variables need values -/
  strict : Bool
  lookup : Target → Option Raw
  /-- the indices of an array are texts -/
  isKeyed : Raw → Bool

/-- variables that an expression has assigned, the latest first -/
abbrev Assigned := List (Target × Int)

mutual

/-- the value of a variable; in the wider language it is an expression itself -/
def valueOf (w : Environment) : (fuel : Nat) → Target → Assigned → Except Fault (Int × Assigned)
  | 0, _, s => .ok (0, s)
  | fuel + 1, t, s =>
    match s.find? (·.1 = t) with
    | some (_, n) => .ok (n, s)
    | none =>
      let v := (w.lookup t).getD []
      if w.strict ∧ (w.lookup t).isNone then .error (.unset (t.1 ++ (t.2.map fun i => '[' :: i ++ [']']).getD []))
      else if w.wide then
        match read w.wide v with
        | .ok e => value w fuel e s
        | .error m => .error (.unreadable v m)
      else (ofValue v).map fun n => (n, s)

/-- the variable or element that an expression is -/
def targetOf (w : Environment) : (fuel : Nat) → Sum → Assigned → Except Fault (Target × Assigned)
  | 0, _, s => .ok (([], none), s)
  | fuel + 1, e, s => do
    match e with
    | .variable_ name => return ((name, none), s)
    | .element name key index =>
      if w.isKeyed name then return ((name, some key), s)
      else
        let (n, s) ← value w fuel index s
        return ((name, some (Text.ofInt n)), s)
    | _ => return (([], none), s)

def value (w : Environment) : (fuel : Nat) → Sum → Assigned → Except Fault (Int × Assigned)
  | 0, _, s => .ok (0, s)
  | fuel + 1, e, s => do
    let truth (c : Bool) : Int := if c then 1 else 0
    match e with
    | .number n => return (n, s)
    | .variable_ name => valueOf w fuel (name, none) s
    | .element name key index =>
      let (t, s) ← targetOf w fuel (.element name key index) s
      valueOf w fuel t s
    | .negative e =>
      let (n, s) ← value w fuel e s
      return (wrap (-n), s)
    | .opposite e =>
      let (n, s) ← value w fuel e s
      return (truth (n = 0), s)
    | .complement e =>
      let (n, s) ← value w fuel e s
      return (-n - 1, s)
    | .binary o a b text =>
      let (a, s) ← value w fuel a s
      let (b, s) ← value w fuel b s
      return (← operate o a b text, s)
    | .both a b =>
      let (a, s) ← value w fuel a s
      if a = 0 then return (0, s)
      let (b, s) ← value w fuel b s
      return (truth (b ≠ 0), s)
    | .either a b =>
      let (a, s) ← value w fuel a s
      if a ≠ 0 then return (1, s)
      let (b, s) ← value w fuel b s
      return (truth (b ≠ 0), s)
    | .choice c a b =>
      let (c, s) ← value w fuel c s
      if c ≠ 0 then value w fuel a s else value w fuel b s
    | .assign o target e =>
      let (n, s) ← value w fuel e s
      let (t, s) ← targetOf w fuel target s
      match o with
      | none => return (n, (t, n) :: s)
      | some o =>
        let (old, s) ← valueOf w fuel t s
        let n ← operate o old n ['0']
        return (n, (t, n) :: s)
    | .bump target step before =>
      let (t, s) ← targetOf w fuel target s
      let (old, s) ← valueOf w fuel t s
      let new := wrap (old + step)
      return (if before then old else new, (t, new) :: s)
    | .comma a b =>
      let (_, s) ← value w fuel a s
      value w fuel b s

end

end Sum
end IncludeAudit.Shell
