/-
Values written as documents for other programs, and such documents read back.

- `Exchange.scan`: what a document holds, `Exchange.value`: the value of it, `Exchange.write`: a value as a document.
-/
import IncludeAudit.Offside.Library.Basic

namespace IncludeAudit.Offside.Exchange

/-! ## Reading -/

/-- what a document holds; numbers are kept as they are spelled -/
inductive Node
  | nothing
  | truth (b : Bool)
  | whole (spelled : Text)
  | real (spelled : Text)
  | constant (name : Text)
  | text (t : Text)
  | row (ns : List Node)
  | entries (ps : List (Text × Node))
  deriving Inhabited

/-- why a document cannot be read -/
inductive Trouble
  /-- no value where there has to be one -/
  | missing (place : Nat)
  | wrong (message : Text) (place : Nat)
  | tooDeep (isRow : Bool)
  deriving Inhabited

/-- what is left of a document, and the place where it begins -/
structure Rest where
  place : Nat
  text : Text

namespace Rest

/-- without the first characters -/
def drop (r : Rest) (n : Nat) : Rest :=
  ⟨r.place + n, r.text.drop n⟩

/-- without blanks in front -/
def skip (r : Rest) : Rest :=
  r.drop (r.text.takeWhile fun c => c = ' ' || c = '\n' || c = '\r' || c = '\t').length

end Rest

/-- the value of a digit in base sixteen -/
def digit? (c : Char) : Option Nat :=
  if c.isDigit then some (c.toNat - 48)
  else if 'a' ≤ c ∧ c ≤ 'f' then some (c.toNat - 87)
  else if 'A' ≤ c ∧ c ≤ 'F' then some (c.toNat - 55)
  else none

/-- four digits in base sixteen -/
def unit? (t : Text) : Option Nat :=
  let ds := (t.take 4).filterMap digit?
  if ds.length = 4 then some (ds.foldl (fun n d => n * 16 + d) 0) else none

/-- what some letters stand for behind a backslash -/
def escaped? (c : Char) : Option Char :=
  match c with
  | '"' => some '"'
  | '\\' => some '\\'
  | '/' => some '/'
  | 'b' => some '\x08'
  | 'f' => some '\x0c'
  | 'n' => some '\n'
  | 'r' => some '\r'
  | 't' => some '\t'
  | _ => none

/-- a text behind its opening quote, which stands at the place `start` -/
def scanText (strict : Bool) (start : Nat) : (fuel : Nat) → (before : Text) → Rest → Except Trouble (Text × Rest)
  | 0, _, _ => .error (.wrong "Unterminated string starting at" start)
  | fuel + 1, before, r =>
    match r.text with
    | [] => .error (.wrong "Unterminated string starting at" start)
    | '"' :: _ => .ok (before.reverse, r.drop 1)
    | '\\' :: [] => .error (.wrong "Unterminated string starting at" start)
    | '\\' :: 'u' :: more =>
      if more.length < 5 then .error (.wrong "Invalid \\uXXXX escape" (r.place + 1))
      else
        match unit? more with
        | none => .error (.wrong "Invalid \\uXXXX escape" (r.place + 1))
        | some n =>
          let isHigh : Bool := 0xd800 ≤ n && n < 0xdc00
          let second? : Option Nat := match more.drop 4 with
            | '\\' :: 'u' :: ds => (unit? ds).filter fun m => 0xdc00 ≤ m && m < 0xe000
            | _ => none
          match isHigh, second? with
          | true, some m =>
            scanText strict start fuel (Char.ofNat (0x10000 + (n - 0xd800) * 1024 + (m - 0xdc00)) :: before) (r.drop 12)
          | _, _ => scanText strict start fuel (Char.ofNat n :: before) (r.drop 6)
    | '\\' :: c :: _ =>
      match escaped? c with
      | some x => scanText strict start fuel (x :: before) (r.drop 2)
      | none => .error (.wrong "Invalid \\escape" r.place)
    | c :: _ =>
      if strict && c.toNat < 32 then .error (.wrong "Invalid control character at" r.place)
      else scanText strict start fuel (c :: before) (r.drop 1)

def scanNumber (r : Rest) : Except Trouble (Node × Rest) :=
  let sign : Text := if r.text.head? = some '-' then ['-'] else []
  let t := r.text.drop sign.length
  let whole := t.takeWhile Char.isDigit
  let whole := if whole.head? = some '0' then ['0'] else whole
  if whole = [] then .error (.missing r.place)
  else
    let t := t.drop whole.length
    let part : Text := match t with
      | '.' :: t =>
        let ds := t.takeWhile Char.isDigit
        if ds = [] then [] else '.' :: ds
      | _ => []
    let t := t.drop part.length
    let power : Text := match t with
      | e :: t =>
        let sign := (t.take 1).filter fun c => c = '+' || c = '-'
        let ds := (t.drop sign.length).takeWhile Char.isDigit
        if (e = 'e' ∨ e = 'E') ∧ ds ≠ [] then e :: sign ++ ds else []
      | [] => []
    let spelled := sign ++ whole ++ part ++ power
    .ok (if part = [] ∧ power = [] then .whole spelled else .real spelled, r.drop spelled.length)

/-- words that stand for values -/
def constants : List (Text × Node) :=
  [("null", .nothing), ("true", .truth true), ("false", .truth false), ("NaN", .constant "NaN"),
   ("Infinity", .constant "Infinity"), ("-Infinity", .constant "-Infinity")]

mutual

/-- a value at the beginning; `depth` values may stand inside of each other -/
def scanValue (strict : Bool) : (fuel depth : Nat) → Rest → Except Trouble (Node × Rest)
  | 0, _, r => .error (.missing r.place)
  | fuel + 1, depth, r =>
    match r.text with
    | '"' :: t => do
      let (s, r) ← scanText strict r.place (t.length + 1) [] (r.drop 1)
      .ok (.text s, r)
    | '[' :: _ =>
      if depth = 0 then .error (.tooDeep true)
      else
        let r := (r.drop 1).skip
        if r.text.head? = some ']' then .ok (.row [], r.drop 1) else scanRow strict fuel (depth - 1) [] r
    | '\x7b' :: _ =>
      if depth = 0 then .error (.tooDeep false)
      else
        let r := (r.drop 1).skip
        if r.text.head? = some '\x7d' then .ok (.entries [], r.drop 1) else scanEntries strict fuel (depth - 1) [] r
    | _ =>
      match constants.find? fun c => c.1.isPrefixOf r.text with
      | some (n, v) => .ok (v, r.drop n.length)
      | none => scanNumber r

def scanRow (strict : Bool) : (fuel depth : Nat) → (before : List Node) → Rest → Except Trouble (Node × Rest)
  | 0, _, _, r => .error (.missing r.place)
  | fuel + 1, depth, before, r => do
    let (n, r) ← scanValue strict fuel depth r
    let r := r.skip
    match r.text with
    | ',' :: _ => scanRow strict fuel depth (n :: before) (r.drop 1).skip
    | ']' :: _ => .ok (.row (n :: before).reverse, r.drop 1)
    | _ => .error (.wrong "Expecting ',' delimiter" r.place)

/-- the rest of what has keys, behind the first of them -/
def scanEntries (strict : Bool) : (fuel depth : Nat) → (before : List (Text × Node)) → Rest →
    Except Trouble (Node × Rest)
  | 0, _, _, r => .error (.missing r.place)
  | fuel + 1, depth, before, r => do
    if r.text.head? ≠ some '"' then .error (.wrong "Expecting property name enclosed in double quotes" r.place)
    else
      let (k, r) ← scanText strict r.place r.text.length [] (r.drop 1)
      let r := r.skip
      if r.text.head? ≠ some ':' then .error (.wrong "Expecting ':' delimiter" r.place)
      else
        let (n, r) ← scanValue strict fuel depth (r.drop 1).skip
        let r := r.skip
        match r.text with
        | ',' :: _ => scanEntries strict fuel depth ((k, n) :: before) (r.drop 1).skip
        | '\x7d' :: _ => .ok (.entries ((k, n) :: before).reverse, r.drop 1)
        | _ => .error (.wrong "Expecting ',' delimiter" r.place)

end

def scan (strict : Bool) (document : Text) (place : Nat) : Except Trouble (Node × Rest) :=
  scanValue strict (2 * document.length + 2) 990 ⟨place, document.drop place⟩

/-- what makes values of parts of a document, where there is something -/
structure Makers where
  entries : Value := .none
  pairs : Value := .none
  real : Value := .none
  whole : Value := .none
  constant : Value := .none

mutual

/-- the value of what a document holds -/
def value (m : Makers) : Node → Eval Value
  | .nothing => return .none
  | .truth b => return .truth b
  | .whole t => if m.whole.isNone then spelledInt 10 (.str t) t else call m.whole [.str t]
  | .real t => if m.real.isNone then spelledFloat (.str t) t else call m.real [.str t]
  | .constant t =>
    if m.constant.isNone then
      return .float (if t = ("NaN" : Text) then 0.0 / 0.0 else if t = ("Infinity" : Text) then 1.0 / 0.0 else -1.0 / 0.0)
    else call m.constant [.str t]
  | .text t => return .str t
  | .row ns => do newList (← values m ns [])
  | .entries ps => do
    let vs ← entryValues m ps []
    if !m.pairs.isNone then
      call m.pairs [← newList (vs.map fun p => .tuple [.str p.1, p.2])]
    else
      let d := Value.ref (← newNames vs)
      if m.entries.isNone then return d else call m.entries [d]

def values (m : Makers) : List Node → (before : List Value) → Eval (List Value)
  | [], before => return before.reverse
  | n :: ns, before => do
    let v ← value m n
    values m ns (v :: before)

def entryValues (m : Makers) : List (Text × Node) → (before : List (Text × Value)) → Eval (List (Text × Value))
  | [], before => return before.reverse
  | (k, n) :: ps, before => do
    let v ← value m n
    entryValues m ps ((k, v) :: before)

end

/-! ## Writing -/

/-- how values are written -/
structure Style where
  skips : Bool := false
  narrow : Bool := true
  circles : Bool := true
  allowsAll : Bool := true
  /-- what lines begin with, once for each value around them -/
  indent : Option Text := none
  comma : Text := ", "
  colon : Text := ": "
  sorts : Bool := false
  /-- what makes something else of values that cannot be written -/
  default : Value := .none

def quoted (narrow : Bool) (t : Text) : Text :=
  let one (c : Char) : Text :=
    let n := c.toNat
    if c = '"' then "\\\"" else if c = '\\' then "\\\\" else if c = '\n' then "\\n" else if c = '\r' then "\\r"
    else if c = '\t' then "\\t" else if n = 8 then "\\b" else if n = 12 then "\\f"
    else if n < 32 ∨ narrow ∧ 126 < n ∧ n < 0x10000 then "\\u" ++ Strings.hex 4 n
    else if narrow ∧ 0x10000 ≤ n then
      let m := n - 0x10000
      "\\u" ++ Strings.hex 4 (0xd800 + m / 1024) ++ "\\u" ++ Strings.hex 4 (0xdc00 + m % 1024)
    else [c]
  '"' :: t.flatMap one ++ ['"']

/-- a number with a point -/
def writeReal (s : Style) (x : Float) : Eval Text := do
  if x.isNaN ∨ x.isInf then
    if !s.allowsAll then
      misvalued ("Out of range float values are not JSON compliant" ++
        (if s.indent.isSome then ": " ++ Numeral.float x else []))
    return if x.isNaN then "NaN" else if x < 0 then "-Infinity" else "Infinity"
  return Numeral.float x

/-- a line break in front of what stands inside so many values -/
def Style.lineBreak (s : Style) (depth : Nat) : Text :=
  match s.indent with
  | some i => '\n' :: (List.replicate depth i).flatten
  | none => []

def Style.bracketed (s : Style) (depth : Nat) (first last : Char) (parts : List Text) : Text :=
  first :: s.lineBreak (depth + 1) ++ Text.paste (s.comma ++ s.lineBreak (depth + 1)) parts ++ s.lineBreak depth ++ [last]

/-- a key as text; nothing when it is left out -/
def writeKey (s : Style) (k : Value) : Eval (Option Text) := do
  match (← get).inner k with
  | .str t => return some t
  | .int n => return some (← digitsOf n)
  | .truth b => return some (if b then "true" else "false")
  | .none => return some "null"
  | .float x => return some (← writeReal s x)
  | _ =>
    if s.skips then return none
    else mistyped ("keys must be str, int, float, bool or None, not " ++ (← kindOf k))

/-- a value as a document; `path` are the objects around it -/
def write (s : Style) : (fuel : Nat) → (path : List Nat) → (depth : Nat) → Value → Eval Text
  | 0, _, _, _ => tooDeep " while encoding a JSON object"
  | fuel + 1, path, depth, v => do
    let w ← get
    match w.inner v with
    | .none => return "null"
    | .truth b => return if b then "true" else "false"
    | .int n => digitsOf n
    | .float x => writeReal s x
    | .str t => return quoted s.narrow t
    | .tuple [] => return "[]"
    | .tuple vs => return s.bracketed depth '[' ']' (← vs.mapM (write s fuel path (depth + 1)))
    | other =>
      let replace : Eval Text := do
        let circle : Bool := match other with
          | .ref n => s.circles && path.contains n
          | _ => false
        if circle then misvalued "Circular reference detected"
        let around : List Nat := match other with
          | .ref n => n :: path
          | _ => path
        write s fuel around depth (← call s.default [v])
      match other with
      | .ref n =>
        match w.body n with
        | .list vs =>
          if s.circles ∧ n ∈ path then misvalued "Circular reference detected"
          if vs.isEmpty then return "[]"
          return s.bracketed depth '[' ']' (← vs.toList.mapM (write s fuel (n :: path) (depth + 1)))
        | .dict t =>
          if s.circles ∧ n ∈ path then misvalued "Circular reference detected"
          let ps := t.toList
          if ps.isEmpty then return "\x7b\x7d"
          let ps ← (do
            if s.sorts then
              let vs ← sorted (ps.map fun p => .tuple [p.1, p.2]) .none false
              return vs.map fun v => match v with
                | .tuple [k, x] => (k, x)
                | _ => (.none, .none)
            else return ps)
          let parts ← ps.mapM fun p => do
            match ← writeKey s p.1 with
            | none => return none
            | some k =>
              let t ← write s fuel (n :: path) (depth + 1) p.2
              return some (quoted s.narrow k ++ s.colon ++ t)
          let parts := parts.filterMap fun (p : Option Text) => p
          if parts.isEmpty then return "\x7b\x7d"
          return s.bracketed depth '\x7b' '\x7d' parts
        | _ => replace
      | _ => replace

/-! ## Functions by name -/

/-- reads a document: the text, the place, whether it is read strictly, and what makes values of its parts; what comes is
the value and the place behind it, or what is wrong, with the place -/
def read (g : Given) : Eval Value := do
  match (← get).inner (g.at_ 0) with
  | .str t =>
    let place := ((← g.whole? 1 "place").getD 0).toNat
    let strict ← truthOf (g.at_ 2)
    match scan strict t place with
    | .error (.missing n) => return .tuple [.none, .int n]
    | .error (.wrong m n) => return .tuple [.str m, .int n]
    | .error (.tooDeep isRow) =>
      raise .recursionError ("maximum recursion depth exceeded while decoding a JSON " ++
        (if isRow then "array" else "object" : Text) ++ " from a unicode string")
    | .ok (n, r) =>
      let v ← value { entries := g.at_ 3, pairs := g.at_ 4, real := g.at_ 5, whole := g.at_ 6, constant := g.at_ 7 } n
      return .tuple [.truth true, v, .int r.place]
  | v => mistyped ("first argument must be a string, not " ++ (← kindOf v))

/-- writes a value: the value, and how it is written -/
def writeGiven (g : Given) : Eval Value := do
  let w ← get
  let textAt (i : Nat) (usual : Text) : Text := match w.inner (g.at_ i) with
    | .str t => t
    | _ => usual
  let indent : Option Text := match w.inner (g.at_ 5) with
    | .str t => some t
    | .int n => some (List.replicate n.toNat ' ')
    | _ => none
  let s : Style :=
    { skips := ← truthOf (g.at_ 1), narrow := ← truthOf (g.at_ 2), circles := ← truthOf (g.at_ 3)
      allowsAll := ← truthOf (g.at_ 4), indent, comma := textAt 6 ", ", colon := textAt 7 ": ", sorts := ← truthOf (g.at_ 8)
      default := g.at_ 9 }
  return .str (← write s maxDepth [] 0 (g.at_ 0))

def function (name : String) (g : Given) : Eval Value := do
  match name with
  | "read" => read g
  | "write" => writeGiven g
  | "quoted" => return .str (quoted (← truthOf (g.at_ 1)) (← textArgument "first argument must be a string, not " (g.at_ 0)))
  | _ => return .none

end IncludeAudit.Offside.Exchange
