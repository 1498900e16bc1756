/-
Values as text: as they are written in a source, as they are printed, and as a layout says.

- `reprOf`, `strOf`, `formatValue`: the three ways, `percent`, `fillFields`: texts with places for values.
-/
import IncludeAudit.Offside.Index
import IncludeAudit.Offside.Layout

namespace IncludeAudit.Offside

/-- the parts with commas between them -/
def listed (ts : List Text) : Text :=
  Text.paste ", " ts

/-- the most digits that an integer is read from or written with -/
def maxDigits : Nat := 4300

/-- an integer in digits, unless there are too many of them -/
def digitsOf (n : Int) : Eval Text := do
  -- so many bits may be more digits
  if 14284 ≤ n.natAbs.log2 ∧ Nat.pow 10 maxDigits ≤ n.natAbs then
    misvalued ("Exceeds the limit (" ++ Text.ofNat maxDigits ++ " digits) for integer string conversion; " ++
      "use sys.set_int_max_str_digits() to increase the limit")
  return Text.ofInt n

/-- the name of a class with its module in front, unless everybody knows it -/
def fullName (w : World) (cls : Nat) : Text :=
  let c := w.classAt cls
  match w.own? cls "__module__" with
  | some (.str m) => if m = ("builtins" : Text) then c.qualname else m ++ '.' :: c.qualname
  | _ => c.qualname

/-- where an object seems to be -/
def address (n : Nat) : Text :=
  "0x7f" ++ Strings.hex 10 (n * 16)

/-- an object that can only be told apart by its place -/
def placeText (w : World) (v : Value) : Text :=
  let n : Nat := match v with
    | .ref n => n
    | _ => 0
  '<' :: fullName w (w.classOf v) ++ " object at " ++ address n ++ ['>']

/-- an object that a name belongs to, by its place -/
def ownerText (w : World) (v : Value) : Text :=
  match v with
  | .ref n => w.kindOf v ++ " object at " ++ address n
  | v => w.kindOf v ++ " object at " ++ address 4096

/-- a text that a method has given -/
def textOf (what : Text) (v : Value) : Eval Text := do
  match (← get).inner v with
  | .str t => return t
  | _ => mistyped (what ++ " returned non-string (type " ++ (← kindOf v) ++ [')'])

/-- flags of a pattern as they are written -/
def flagNames (wide : Bool) (f : Ordered.Flags) : List Text :=
  let all : List (Bool × Text) :=
    [(f.fold, "re.IGNORECASE"), (f.lines, "re.MULTILINE"), (f.dotAll, "re.DOTALL"), (f.spaced, "re.VERBOSE"),
     (f.narrow && wide, "re.ASCII")]
  (all.filter (·.1)).map (·.2)

mutual

/-- a value as it is written in a source; `path` are the objects around it -/
def reprAt : (fuel : Nat) → (path : List Nat) → Value → Eval Text
  | 0, _, _ => tooDeep " while getting the repr of an object"
  | fuel + 1, path, v => do
    match v with
    | .absent => return "<NULL>"
    | .none => return "None"
    | .ellipsis => return "Ellipsis"
    | .notImplemented => return "NotImplemented"
    | .truth b => return if b then "True" else "False"
    | .int n => digitsOf n
    | .float x => return Numeral.float x
    | .complex a b => return Numeral.complex a b
    | .str t => return Strings.quoted t
    | .bytes r => return Strings.quotedBytes r
    | .tuple [x] => return '(' :: (← reprAt fuel path x) ++ ",)"
    | .tuple vs => return '(' :: listed (← vs.mapM (reprAt fuel path)) ++ [')']
    | .range a b c =>
      let ends := [Text.ofInt a, Text.ofInt b]
      return "range(" ++ listed (if c = 1 then ends else ends ++ [Text.ofInt c]) ++ [')']
    | .slice a b c => return "slice(" ++ listed (← [a, b, c].mapM (reprAt fuel path)) ++ [')']
    | .native _ n => return "<built-in function " ++ n.toList ++ ['>']
    | .bound s _ n => return "<built-in method " ++ n.toList ++ " of " ++ ownerText (← get) s ++ ['>']
    | .unbound b n =>
      let what : Text := if ("__".toList).isPrefixOf n.toList then "<slot wrapper '" else "<method '"
      return what ++ n.toList ++ "' of '" ++ Catalog.nameOf b ++ "' objects>"
    | .method s f =>
      let name : Text ← (match f with
        | .ref n => do
          match (← object n).body with
          | .function g => return g.qualname
          | _ => return ['?']
        | .native _ n => return n.toList
        | _ => return ['?'])
      return "<bound method " ++ name ++ " of " ++ (← reprAt fuel path s) ++ ['>']
    | .ref n =>
      match ← method? v "__repr__" with
      | some f => textOf "__repr__" (← call f [])
      | none => reprBody fuel path n

/-- an object as it is written in a source -/
def reprBody : (fuel : Nat) → (path : List Nat) → (n : Nat) → Eval Text
  | 0, _, _ => tooDeep " while getting the repr of an object"
  | fuel + 1, path, n => do
    let w ← get
    let o := w.object n
    let inside := n :: path
    let name := (w.classAt o.cls).name
    match o.body with
    | .list vs =>
      if n ∈ path then return "[...]"
      else return '[' :: listed (← vs.toList.mapM (reprAt fuel inside)) ++ [']']
    | .dict t =>
      if n ∈ path then return "\x7b...\x7d" else return ← reprEntries fuel inside t.toList
    | .set c =>
      let plain : Bool := o.cls = Base.set.ref
      if n ∈ path then return name ++ "(...)"
      else if c.size = 0 then return name ++ "()"
      else
        let inner := '\x7b' :: listed (← c.toList.mapM (reprAt fuel inside)) ++ ['\x7d']
        return if plain then inner else name ++ '(' :: inner ++ [')']
    | .payload v => reprAt fuel path v
    | .bytes r => return name ++ '(' :: Strings.quotedBytes r ++ [')']
    | .class_ c =>
      let _ := c
      return "<class '" ++ fullName w n ++ "'>"
    | .function f => return "<function " ++ f.qualname ++ " at " ++ address n ++ ['>']
    | .module m =>
      let fromFile : Text ←
        match w.own? n "__file__" with
        | some (.str f) => pure (" from " ++ Strings.quoted f)
        | _ =>
          match (w.table w.modules).get? m with
          | some (.ref k) => pure (if k = n then (" (built-in)" : Text) else [])
          | _ => pure []
      return "<module '" ++ m ++ '\'' :: fromFile ++ ['>']
    | .failure f => return name ++ '(' :: listed (← f.args.mapM (reprAt fuel path)) ++ [')']
    | .view k d =>
      let vs := (w.table d).toList.map fun p => k.show p.1 p.2
      return name ++ "([" ++ listed (← vs.mapM (reprAt fuel path)) ++ "])"
    | .generator g => return '<' :: name ++ " object " ++ g.qualname ++ " at " ++ address n ++ ['>']
    | .file f =>
      let named ← reprAt fuel path f.name
      match f.stream with
      | .memory => return placeText w (.ref n)
      | _ =>
        if f.binary then return '<' :: fullName w o.cls ++ " name=" ++ named ++ ['>']
        else
          return '<' :: fullName w o.cls ++ " name=" ++ named ++ " mode=" ++ Strings.quoted f.mode ++ " encoding=" ++
            Strings.quoted f.encoding ++ ['>']
    | .pattern src c =>
      let wide : Bool := match src with
        | .str _ => true
        | _ => false
      let shown ← reprAt fuel path src
      let flags := flagNames wide c.flags
      let behind : Text := if flags.isEmpty then [] else ", " ++ Text.paste ['|'] flags
      return "re.compile(" ++ shown ++ behind ++ [')']
    | .match_ m =>
      return "<re.Match object; span=(" ++ Text.ofNat m.low ++ ", " ++ Text.ofNat m.high ++ "), match=" ++
        (← reprAt fuel path (cutSubject m.subject m.low m.high)) ++ ['>']
    | .proxy v => return "mappingproxy(" ++ (← reprAt fuel path v) ++ [')']
    | .digest k _ => return '<' :: k ++ " _hashlib.HASH object @ " ++ address n ++ ['>']
    | .super c s _ =>
      return "<super: " ++ (← reprAt fuel path (.ref c)) ++ ", <" ++ w.kindOf s ++ " object>>"
    | .cell _ => return "<cell at " ++ address n ++ ['>']
    | _ => return placeText w (.ref n)

/-- entries of a dictionary as they are written in a source -/
def reprEntries : (fuel : Nat) → (path : List Nat) → List (Value × Value) → Eval Text
  | 0, _, _ => tooDeep " while getting the repr of an object"
  | fuel + 1, path, ps => do
    let parts ← ps.mapM fun p => do
      return (← reprAt fuel path p.1) ++ ": " ++ (← reprAt fuel path p.2)
    return '\x7b' :: listed parts ++ ['\x7d']

end

/-- a value as it is written in a source -/
def reprOf (v : Value) : Eval Text :=
  reprAt maxDepth [] v

def failureText (n : Nat) : (fuel : Nat) → (str : Value → Eval Text) → Eval Text
  | 0, _ => return []
  | _ + 1, str => do
    let w ← get
    let cls := (w.object n).cls
    let f ← failureAt n
    let part (name : Text) : Value := ((f.parts.find? (·.1 = name)).map (·.2)).getD .none
    let usual : Eval Text := do
      match f.args with
      | [] => return []
      | [v] => str v
      | vs => reprOf (.tuple vs)
    if w.isBelow cls Base.keyError.ref then
      match f.args with
      | [v] => reprOf v
      | _ => usual
    else if w.isBelow cls Base.osError.ref then
      let number := part "errno"
      if number.isNone then usual
      else
        let lead := "[Errno " ++ (← str number) ++ "] " ++ (← str (part "strerror"))
        let first := part "filename"
        let second := part "filename2"
        if first.isNone then return lead
        else if second.isNone then return lead ++ ": " ++ (← reprOf first)
        else return lead ++ ": " ++ (← reprOf first) ++ " -> " ++ (← reprOf second)
    else if w.isBelow cls Base.unicodeDecodeError.ref then
      match f.args with
      | [.str enc, .bytes r, .int a, .int b, .str reason] =>
        let c := (Codec.named? enc).getD .utf8
        let t := Codec.decodeTrouble c { first := a.toNat, last := b.toNat, reason } r
        return '\'' :: enc ++ ((t.drop 1).dropWhile (· ≠ '\''))
      | _ => usual
    else if w.isBelow cls Base.unicodeEncodeError.ref then
      match f.args with
      | [.str enc, .str s, .int a, .int b, .str reason] =>
        let c := (Codec.named? enc).getD .utf8
        let t := Codec.encodeTrouble c { first := a.toNat, last := b.toNat, reason } s
        return '\'' :: enc ++ ((t.drop 1).dropWhile (· ≠ '\''))
      | _ => usual
    else if w.isBelow cls Base.importError.ref then
      match part "msg" with
      | .none => usual
      | v => str v
    else if w.isBelow cls Base.syntaxError.ref then
      let file := part "filename"
      let line := part "lineno"
      let message ← str (part "msg")
      match file, line with
      | .str f, .int l =>
        let last := (Text.pieces '/' f).getLast?.getD f
        return message ++ " (" ++ last ++ ", line " ++ Text.ofInt l ++ [')']
      | _, .int l => return message ++ " (line " ++ Text.ofInt l ++ [')']
      | .str f, _ => return message ++ " (" ++ ((Text.pieces '/' f).getLast?.getD f) ++ [')']
      | _, _ => return message
    else usual

def strAt : (fuel : Nat) → Value → Eval Text
  | 0, _ => tooDeep " while getting the str of an object"
  | fuel + 1, v => do
    match v with
    | .str t => return t
    | .ref n =>
      match ← method? v "__str__" with
      | some f => textOf "__str__" (← call f [])
      | none =>
        let w ← get
        match w.body n with
        | .payload (.str t) => return t
        | .proxy v => strAt fuel v
        | .failure _ => failureText n 2 (strAt fuel)
        | _ => reprOf v
    | v => reprOf v

def strOf (v : Value) : Eval Text :=
  strAt maxDepth v

/-- a value as it is written in a source, with characters of ASCII only -/
def asciiOf (v : Value) : Eval Text := do
  return (← reprOf v).flatMap fun c => if c.toNat < 128 then [c] else Strings.escape c

/-! ## Layouts -/

def formatValue (v : Value) (layout : Text) : Eval Text := do
  match ← method? v "__format__" with
  | some f => textOf "__format__" (← call f [.str layout])
  | none =>
    if layout = [] then strOf v
    else
      let w ← get
      let kind := w.kindOf v
      let lay (f : Layout → Except Text Text) : Eval Text := do
        match Layout.read kind layout with
        | .error e => misvalued e
        | .ok l =>
          match f l with
          | .ok t => return t
          | .error e => misvalued e
      match w.inner v with
      | .int n => lay fun l => l.int kind n
      | .truth b => lay fun l => l.int kind (if b then 1 else 0)
      | .float x => lay fun l => l.float kind x
      | .str t => lay fun l => l.str kind t
      | .complex a b => lay fun l => l.str kind (Numeral.complex a b)
      | _ => mistyped ("unsupported format string passed to " ++ kind ++ ".__format__")

/-- a value turned into text in the way of a letter -/
def converted (c : Option Char) (v : Value) : Eval Value := do
  match c with
  | some 'r' => return .str (← reprOf v)
  | some 's' => return .str (← strOf v)
  | some 'a' => return .str (← asciiOf v)
  | _ => return v

/-! ## Fields in braces -/

/-- the name of a field up to a dot or a bracket, and what follows -/
def fieldHead (t : Text) : Text × Text :=
  t.span fun c => c ≠ '.' && c ≠ '['

/-- what the dots and brackets of a field lead to -/
def followField : (fuel : Nat) → Value → Text → Eval Value
  | 0, v, _ => return v
  | _, v, [] => return v
  | fuel + 1, v, '.' :: r => do
    let (name, rest) := fieldHead r
    if name = [] then misvalued "Empty attribute in format string"
    followField fuel (← member v name) rest
  | fuel + 1, v, '[' :: r => do
    let key := r.takeWhile (· ≠ ']')
    let rest := r.drop key.length
    if rest = [] then misvalued "Missing ']' in format string"
    if key = [] then misvalued "Empty attribute in format string"
    let rest := rest.drop 1
    match rest with
    | c :: _ => if c ≠ '.' ∧ c ≠ '[' then misvalued "Only '.' or '[' may follow ']' in format field specifier"
    | [] => pure ()
    let index : Value := if key.all Char.isDigit then .int (Raw.toNat key) else .str key
    followField fuel (← getIndex v index) rest
  | _, _, _ => misvalued "Only '.' or '[' may follow ']' in format field specifier"

def fieldInside : (fuel : Nat) → (depth : Nat) → (inBracket : Bool) → Text → Text → Option (Text × Text)
  | 0, _, _, _, _ => none
  | _, _, _, [], _ => none
  | fuel + 1, depth, inBracket, c :: r, done =>
    if c = '\x7d' ∧ depth = 0 then some (done.reverse, r)
    else if c = '\x7d' then fieldInside fuel (depth - 1) inBracket r (c :: done)
    else if c = '\x7b' then fieldInside fuel (depth + 1) inBracket r (c :: done)
    else fieldInside fuel depth inBracket r (c :: done)

/-- values for the fields of a text -/
structure Fields where
  args : List Value
  named : Text → Eval Value
  /-- the number of the next field without one; nothing once a field has had one -/
  next : Option Nat := some 0
  numbered : Bool := false

def fillFields : (depth : Nat) → (fuel : Nat) → Text → Fields → Text → Eval (Text × Fields)
  | 0, _, _, _, _ => misvalued "Max string recursion exceeded"
  | _, 0, _, fs, done => return (done.reverse, fs)
  | _, _, [], fs, done => return (done.reverse, fs)
  | depth + 1, fuel + 1, c :: r, fs, done => do
    if c = '\x7b' then
      match r with
      | '\x7b' :: r => fillFields (depth + 1) fuel r fs ('\x7b' :: done)
      | [] => misvalued "Single '\x7b' encountered in format string"
      | r =>
        match fieldInside (r.length + 1) 0 false r [] with
        | none => misvalued "expected '\x7d' before end of string"
        | some (inside, rest) =>
          -- a bracket may hold signs that mean something elsewhere
          let rec nameOf : (fuel : Nat) → (inBracket : Bool) → Text → Text → Text × Text
            | 0, _, t, done => (done.reverse, t)
            | _, _, [], done => (done.reverse, [])
            | fuel + 1, inBracket, c :: r, done =>
              if !inBracket ∧ (c = '!' ∨ c = ':') then (done.reverse, c :: r)
              else nameOf fuel (if c = '[' then true else if c = ']' then false else inBracket) r (c :: done)
          let (name, behind) := nameOf (inside.length + 1) false inside []
          let (conversion, layout) ← (do
            match behind with
            | '!' :: c :: ':' :: l => return (some c, l)
            | ['!', c] => return (some c, [])
            | ['!'] => misvalued "unmatched '\x7b' in format spec"
            | '!' :: _ :: _ => misvalued "expected ':' after conversion specifier"
            | ':' :: l => return (none, l)
            | _ => return (none, []))
          let (head, path) := fieldHead name
          let (v, fs) ← (do
            if head = [] then
              match fs.next with
              | some k =>
                if fs.numbered then
                  misvalued "cannot switch from manual field specification to automatic field numbering"
                match fs.args[k]? with
                | some v => return (v, { fs with next := some (k + 1) })
                | none =>
                  raise .indexError ("Replacement index " ++ Text.ofNat k ++ " out of range for positional args tuple")
              | none => misvalued "cannot switch from manual field specification to automatic field numbering"
            else if head.all Char.isDigit then
              if fs.next.any (0 < ·) then
                misvalued "cannot switch from automatic field numbering to manual field specification"
              let k := Raw.toNat head
              match fs.args[k]? with
              | some v => return (v, { fs with numbered := true })
              | none =>
                raise .indexError ("Replacement index " ++ Text.ofNat k ++ " out of range for positional args tuple")
            else return (← fs.named head, fs))
          let v ← followField (path.length + 1) v path
          let v ← (do
            match conversion with
            | none => return v
            | some c =>
              if c ∈ ("rsa" : Text) then converted (some c) v
              else misvalued ("Unknown conversion specifier " ++ [c]))
          let (layout, fs) ←
            if '\x7b' ∈ layout then fillFields depth fuel layout fs [] else pure (layout, fs)
          let t ← formatValue v layout
          fillFields (depth + 1) fuel rest fs (t.reverse ++ done)
    else if c = '\x7d' then
      match r with
      | '\x7d' :: r => fillFields (depth + 1) fuel r fs ('\x7d' :: done)
      | _ => misvalued "Single '\x7d' encountered in format string"
    else fillFields (depth + 1) fuel r fs (c :: done)

/-! ## Behind percent signs -/

/-- values for the places of a text with percent signs -/
structure Places where
  values : Value
  rest : List Value
  isMapping : Bool
  usedNames : Bool := false

def Places.next (p : Places) : Eval (Value × Places) := do
  match p.rest with
  | v :: rest => return (v, { p with rest })
  | [] => mistyped "not enough arguments for format string"

/-- a number with a point that a value is, or a complaint -/
def floatOf (v : Value) : Eval Float := do
  let w ← get
  match w.inner v with
  | .float x => return x
  | x =>
    match integer? w x with
    | some n =>
      match Numeral.ofInt? n with
      | some x => return x
      | none => raise .overflowError "int too large to convert to float"
    | none =>
      match ← method? v "__float__" with
      | some f =>
        match (← get).inner (← call f []) with
        | .float x => return x
        | r => mistyped ((← kindOf v) ++ ".__float__ returned non-float (type " ++ (← kindOf r) ++ [')'])
      | none =>
        let n ← indexOf v (do mistyped ("must be real number, not " ++ (← kindOf v)))
        return Float.ofInt n

/-- one value behind a percent sign -/
def directiveText (isBytes : Bool) (d : Tool.Directive) (place : Nat) (v : Value) : Eval Text := do
  let w ← get
  let c := d.letter
  let percentName : Text := ['%', c]
  if c = 's' then
    if isBytes then
      match w.inner v with
      | .bytes r => return d.showText r
      | .ref n =>
        match w.body n with
        | .bytes r => return d.showText r
        | _ => mistyped ("%b requires a bytes-like object, or an object that implements __bytes__, not '" ++ w.kindOf v ++ ['\''])
      | _ => mistyped ("%b requires a bytes-like object, or an object that implements __bytes__, not '" ++ w.kindOf v ++ ['\''])
    else return d.showText (← strOf v)
  else if c = 'b' ∧ isBytes then
    match w.inner v with
    | .bytes r => return d.showText r
    | _ => mistyped ("%b requires a bytes-like object, or an object that implements __bytes__, not '" ++ w.kindOf v ++ ['\''])
  else if c = 'r' then return d.showText (← reprOf v)
  else if c = 'a' then return d.showText (← asciiOf v)
  else if c = 'd' ∨ c = 'i' ∨ c = 'u' then
    match w.inner v with
    | .float x =>
      if x.isNaN then misvalued "cannot convert float NaN to integer"
      if x.isInf then raise .overflowError "cannot convert float infinity to integer"
      return Layout.directiveInt d (Numeral.truncated x)
    | _ =>
      match ← method? v "__int__" with
      | some f =>
        match integer? (← get) (← call f []) with
        | some n => return Layout.directiveInt d n
        | none => mistyped (percentName ++ " format: a real number is required, not " ++ (← kindOf v))
      | none =>
        let n ← indexOf v (do mistyped (percentName ++ " format: a real number is required, not " ++ (← kindOf v)))
        return Layout.directiveInt d n
  else if c = 'x' ∨ c = 'X' ∨ c = 'o' then
    let n ← indexOf v (do mistyped (percentName ++ " format: an integer is required, not " ++ (← kindOf v)))
    return Layout.directiveInt d n
  else if c ∈ ("eEfFgG" : Text) then
    return Layout.directiveFloat d (← floatOf v)
  else if c = 'c' then
    match w.inner v with
    | .str [a] => return d.showText [a]
    | .bytes [a] => if isBytes then return d.showText [a] else mistyped "%c requires int or char"
    | x =>
      match integer? w x with
      | some n =>
        if n < 0 ∨ 0x110000 ≤ n then raise .overflowError "%c arg not in range(0x110000)"
        return d.showText [Char.ofNat n.toNat]
      | none => mistyped "%c requires int or char"
  else
    misvalued ("unsupported format character '" ++ [c] ++ "' (0x" ++ Nat.toDigits 16 c.toNat ++ ") at index " ++ Text.ofNat place)

/-- the part in brackets behind a percent sign -/
def keyInside : (fuel : Nat) → (depth : Nat) → Text → Text → Option (Text × Text)
  | 0, _, _, _ => none
  | _, _, [], _ => none
  | fuel + 1, depth, c :: r, done =>
    if c = ')' ∧ depth = 0 then some (done.reverse, r)
    else if c = ')' then keyInside fuel (depth - 1) r (c :: done)
    else if c = '(' then keyInside fuel (depth + 1) r (c :: done)
    else keyInside fuel depth r (c :: done)

/-- a text with percent signs filled with values -/
def percentFrom (isBytes : Bool) : (fuel : Nat) → (place : Nat) → Text → Places → Text → Eval Text
  | 0, _, _, _, done => return done.reverse
  | _, _, [], ps, done => do
    if !ps.rest.isEmpty ∧ !ps.isMapping then
      mistyped (if isBytes then "not all arguments converted during bytes formatting"
        else "not all arguments converted during string formatting")
    return done.reverse
  | fuel + 1, place, c :: r, ps, done => do
    if c ≠ '%' then percentFrom isBytes fuel (place + 1) r ps (c :: done)
    else
      let whole := r.length
      let (key?, r) ← (do
        match r with
        | '(' :: r' =>
          if !ps.isMapping then mistyped "format requires a mapping"
          match keyInside (r'.length + 1) 0 r' [] with
          | some (k, r) => return (some k, r)
          | none => misvalued "incomplete format key"
        | r => return (none, r))
      let (keyed, ps) ← (do
        match key? with
        | some k =>
          let v ← getIndex ps.values (if isBytes then .bytes k else .str k)
          return (some v, { ps with rest := [], usedNames := true })
        | none => return (none, ps))
      let (d, r) := Tool.Format.head false r
      let r := match r with
        | 'l' :: r | 'h' :: r | 'L' :: r => r
        | r => r
      match r with
      | [] => misvalued "incomplete format"
      | letter :: r =>
        let d := { d with letter }
        let (d, ps) ← (do
          if d.starWidth then
            let (v, ps) ← ps.next
            match integer? (← get) v with
            | some n => return ({ d with width := some n.natAbs, left := d.left || n < 0 }, ps)
            | none => mistyped "* wants int"
          else return (d, ps))
        let (d, ps) ← (do
          if d.starPrecision then
            let (v, ps) ← ps.next
            match integer? (← get) v with
            | some n => return ({ d with precision := some n.toNat }, ps)
            | none => mistyped "* wants int"
          else return (d, ps))
        let next := place + 1 + (whole - r.length)
        if letter = '%' then percentFrom isBytes fuel next r ps ('%' :: done)
        else
          let (v, ps) ← (do
            match keyed with
            | some v => return (v, ps)
            | none => ps.next)
          let t ← directiveText isBytes d (next - 1) v
          percentFrom isBytes fuel next r ps (t.reverse ++ done)

def percent (isBytes : Bool) (t : Text) (values : Value) : Eval Text := do
  let w ← get
  let isMapping : Bool :=
    match values with
    | .ref n =>
      match w.body n with
      | .dict _ | .list _ | .proxy _ => true
      | .payload (.tuple _) | .payload (.str _) | .payload (.bytes _) => false
      | _ => hasMethod w values "__getitem__"
    | .range _ _ _ => true
    | _ => false
  let rest : List Value :=
    match w.inner values with
    | .tuple vs => vs
    | _ => [values]
  percentFrom isBytes (t.length + 1) 0 t { values, rest, isMapping } []

end IncludeAudit.Offside
