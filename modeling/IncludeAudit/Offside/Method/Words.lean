/-
Methods of texts and of bytes. Bytes are characters below 256 here, so that both have most of their methods in common.

- `textMethod`: a method of a text or of bytes by its name.
-/
import IncludeAudit.Offside.Given

namespace IncludeAudit.Offside

/-- what a text is taken for: characters, bytes, or bytes that can change -/
inductive Words
  | text
  | bytes
  | changing
  deriving DecidableEq, Repr

namespace Words

def name : Words → Text
  | .text => "str"
  | .bytes => "bytes"
  | .changing => "bytearray"

def value (k : Words) (t : Text) : Eval Value := do
  match k with
  | .text => return .str t
  | .bytes => return .bytes t
  | .changing => make .bytearray (.bytes t)

/-- a text that an argument is; for bytes anything that holds bytes -/
def read? (k : Words) (v : Value) : Eval (Option Text) := do
  let w ← get
  match k with
  | .text =>
    match w.inner v with
    | .str t => return some t
    | _ => return none
  | _ => return bytesOf? w v

def isBlank : Words → Char → Bool
  | .text => Strings.isBlank
  | _ => Strings.isBlankByte

end Words

def needWords (k : Words) (v : Value) : Eval Text := do
  match ← k.read? v with
  | some t => return t
  | none =>
    match k with
    | .text => mistyped ("must be str, not " ++ (← kindOf v))
    | _ => mistyped ("a bytes-like object is required, not '" ++ (← kindOf v) ++ ['\''])

/-- a part that is looked for: for bytes a number will do -/
def needPart (k : Words) (v : Value) : Eval Text := do
  match k, integer? (← get) v with
  | .text, _ | _, none =>
    match ← k.read? v with
    | some t => return t
    | none =>
      match k with
      | .text => mistyped ("must be str, not " ++ (← kindOf v))
      | _ => mistyped ("argument should be integer or bytes-like object, not '" ++ (← kindOf v) ++ ['\''])
  | _, some n =>
    if n < 0 ∨ 255 < n then misvalued "byte must be in range(0, 256)"
    return [Char.ofNat n.toNat]

/-- the part of a text between two places that arguments give, and where it begins -/
def window (t : Text) (low high : Option Value) : Eval (Text × Nat × Bool) := do
  let n : Int := t.length
  let place (v : Option Value) (usual : Int) : Eval Int := do
    match v with
    | none | some .none => return usual
    | some v =>
      let k ← indexOf v (mistyped "slice indices must be integers or None or have an __index__ method")
      return if k < 0 then max 0 (k + n) else k
  let a ← place low 0
  let b := min n (← place high n)
  return ((t.drop a.toNat).take (b - a).toNat, a.toNat, a ≤ b ∧ a ≤ n)

def alternativesOf (k : Words) (method : Text) (v : Value) : Eval (List Text) := do
  match (← get).inner v with
  | .tuple vs => vs.mapM fun x => do
      match ← k.read? x with
      | some t => return t
      | none =>
        match k with
        | .text => mistyped ("tuple for " ++ method ++ " must only contain str, not " ++ (← kindOf x))
        | _ => mistyped ("a bytes-like object is required, not '" ++ (← kindOf x) ++ ['\''])
  | _ =>
    match ← k.read? v with
    | some t => return [t]
    | none =>
      let what : Text := match k with
        | .text => "str or a tuple of str"
        | _ => "bytes or a tuple of bytes"
      mistyped (method ++ " first arg must be " ++ what ++ ", not " ++ (← kindOf v))

def fillChar (k : Words) (method : Text) (v : Option Value) : Eval Char := do
  match v with
  | none => return ' '
  | some v =>
    match ← k.read? v with
    | some [c] => return c
    | some _ => mistyped "The fill character must be exactly one character long"
    | none =>
      match k with
      | .text => mistyped ("The fill character must be a unicode character, not " ++ (← kindOf v))
      | _ => mistyped (method ++ "() argument 2 must be a byte string of length 1, not " ++ (← kindOf v))

/-- the number of cuts that an argument allows -/
def cutsOf (v : Option Value) : Eval (Option Nat) := do
  match v with
  | none => return none
  | some v =>
    let n ← wholeOf v
    return if n < 0 then none else some n.toNat

def joinAll (k : Words) (sep : Text) (v : Value) : Eval Text := do
  let vs ← catching [.typeError] (itemsOf v) fun n => do
    let isIterable ← catching [.typeError] (do
      let _ ← iterOf v
      return true) fun _ => return false
    if isIterable then raiseRef n else mistyped "can only join an iterable"
  let parts ← vs.zipIdx.mapM fun (x, i) => do
    match ← k.read? x with
    | some t => return t
    | none =>
      let what : Text := match k with
        | .text => "str instance"
        | _ => "a bytes-like object"
      mistyped ("sequence item " ++ Text.ofNat i ++ ": expected " ++ what ++ ", " ++ (← kindOf x) ++ " found")
  return Text.paste sep parts

/-- a table that says what becomes of characters -/
def translateText (t : Text) (table : Value) : Eval Text := do
  let parts ← t.mapM fun c => do
    let found? ← catching [.lookupError] (do
      return some (← getIndex table (.int c.toNat))) fun _ => return none
    match found? with
    | none => return [c]
    | some .none => return []
    | some v =>
      let w ← get
      match w.inner v with
      | .str s => return s
      | x =>
        match integer? w x with
        | some n => return [Char.ofNat n.toNat]
        | none => mistyped "character mapping must return integer, None or str"
  return parts.flatten

/-- bytes with others in their place -/
def translateBytes (t : Raw) (table : Value) (erase : Raw) : Eval Raw := do
  let t := t.filter (· ∉ erase)
  match table with
  | .none => return t
  | v =>
    match bytesOf? (← get) v with
    | some r =>
      if r.length ≠ 256 then misvalued "translation table must be 256 characters long"
      let a := r.toArray
      return t.map fun c => (a[c.toNat]?).getD c
    | none => mistyped ("a bytes-like object is required, not '" ++ (← kindOf v) ++ ['\''])

/-- digits in base sixteen as bytes -/
def fromHex (t : Text) : Eval Raw := do
  let digit? (c : Char) : Option Nat :=
    if c.isDigit then some (c.toNat - 48)
    else if 'a' ≤ c.toLower ∧ c.toLower ≤ 'f' then some (c.toLower.toNat - 87)
    else none
  let rec go : (fuel place : Nat) → Text → Raw → Eval Raw
    | 0, _, _, done => return done.reverse
    | _, _, [], done => return done.reverse
    | fuel + 1, n, c :: r, done => do
      if Text.isBlankChar c then go fuel (n + 1) r done
      else
        let bad (n : Nat) : Eval Raw := misvalued ("non-hexadecimal number found in fromhex() arg at position " ++ Text.ofNat n)
        match digit? c, r with
        | none, _ => bad n
        | some _, [] => bad (n + 1)
        | some a, d :: r =>
          match digit? d with
          | none => bad (n + 1)
          | some b => go fuel (n + 2) r (Char.ofNat (a * 16 + b) :: done)
  go (t.length + 1) 0 t []

/-- methods that all kinds of texts have; nothing when there is no such method -/
def wordsMethod? (k : Words) (t : Text) (name : String) (g : Given) : Eval (Option Value) := do
  let method := name.toList
  let full := k.name ++ '.' :: method
  let give (t : Text) : Eval (Option Value) := do return some (← k.value t)
  let truth (b : Bool) : Eval (Option Value) := return some (.truth b)
  let plain (t : Text) : Eval (Option Value) := do
    g.nothing full
    give t
  let test (b : Bool) : Eval (Option Value) := do
    g.nothing full
    truth b
  let wide : Bool := k = .text
  let list (ts : List Text) : Eval (Option Value) := do
    return some (← newList (← ts.mapM k.value))
  let atLeastOne : Eval Unit := do
    g.unnamed full
    if g.count = 0 then mistyped (method ++ "() takes at least 1 argument (0 given)")
    if 3 < g.count then mistyped (method ++ "() takes at most 3 arguments (" ++ Text.ofNat g.count ++ " given)")
  let finds (last : Bool) : Eval (Option Nat) := do
    atLeastOne
    let part ← needPart k (g.at_ 0)
    let (s, a, ok) ← window t g.args[1]? g.args[2]?
    if !ok then return none
    return (if last then Strings.findLast? part s else Strings.find? part s).map (· + a)
  let trims : Eval (Char → Bool) := do
    g.between method 0 1
    match g.at_ 0 with
    | .none => return k.isBlank
    | v =>
      match ← k.read? v with
      | some cs => return fun c => c ∈ cs
      | none =>
        if wide then mistyped (method ++ " arg must be None or str")
        mistyped ("a bytes-like object is required, not '" ++ (← kindOf v) ++ ['\''])
  let splits : Eval (Option Text × Option Nat) := do
    g.upTo method 0 ["sep", "maxsplit"]
    let cuts ← cutsOf (g.get? 1 "maxsplit")
    match g.get? 0 "sep" with
    | none | some .none => return (none, cuts)
    | some v =>
      match ← k.read? v with
      | some [] => misvalued "empty separator"
      | some s => return (some s, cuts)
      | none =>
        if wide then mistyped ("must be str or None, not " ++ (← kindOf v))
        else mistyped ("a bytes-like object is required, not '" ++ (← kindOf v) ++ ['\''])
  let aligned (f : Nat → Char → Text) : Eval (Option Value) := do
    g.between method 1 2
    let width ← wholeOf (g.at_ 0)
    let c ← fillChar k method g.args[1]?
    give (f width.toNat c)
  let cased (low : Char → Bool) (t : Text) : Bool := t ≠ [] && t.all low
  match name with
  | "upper" => plain (if wide then Strings.upper t else t.map Char.toUpper)
  | "lower" => plain (if wide then Strings.lower t else t.map Char.toLower)
  | "title" =>
    plain (if wide then Strings.title t
      else (t.foldl (fun (acc : Text × Bool) c =>
        ((if acc.2 then c.toLower else c.toUpper) :: acc.1, c.isAlpha)) ([], false)).1.reverse)
  | "capitalize" =>
    plain (if wide then Strings.capitalize t
      else match t with
        | c :: r => c.toUpper :: r.map Char.toLower
        | [] => [])
  | "swapcase" =>
    plain (if wide then Strings.swapcase t else t.map fun c => if c.isUpper then c.toLower else c.toUpper)
  | "isalnum" => test (cased (if wide then Text.isAlnum else Char.isAlphanum) t)
  | "isalpha" => test (cased (if wide then Text.isLetter else Char.isAlpha) t)
  | "isascii" => test (t.all fun c => c.toNat < 128)
  | "isdigit" => test (cased (if wide then Text.isAnyDigit else Char.isDigit) t)
  | "isspace" => test (cased k.isBlank t)
  | "islower" => test (if wide then Strings.isLower t else t.any Char.isLower && t.all fun c => !c.isUpper)
  | "isupper" => test (if wide then Strings.isUpper t else t.any Char.isUpper && t.all fun c => !c.isLower)
  | "istitle" => test (Strings.isTitle (if wide then t else t.filter fun c => c.toNat < 128))
  | "strip" =>
    let p ← trims
    give (Strings.trimEnd p (Strings.trimStart p t))
  | "lstrip" =>
    let p ← trims
    give (Strings.trimStart p t)
  | "rstrip" =>
    let p ← trims
    give (Strings.trimEnd p t)
  | "split" =>
    let (sep, cuts) ← splits
    list (match sep with
      | some s => Strings.split s cuts t
      | none => Strings.words k.isBlank cuts t)
  | "rsplit" =>
    let (sep, cuts) ← splits
    list (match sep with
      | some s => Strings.splitFromEnd s cuts t
      | none => Strings.wordsFromEnd k.isBlank cuts t)
  | "splitlines" =>
    g.upTo method 0 ["keepends"]
    let keep ← g.truth 0 "keepends" false
    list (Strings.lines wide keep t)
  | "join" =>
    let v ← g.one full
    give (← joinAll k t v)
  | "replace" =>
    g.between method 2 3
    let part (i : Nat) : Eval Text := do
      match ← k.read? (g.at_ i) with
      | some s => return s
      | none =>
        if wide then
          mistyped ("replace() argument " ++ Text.ofNat (i + 1) ++ " must be str, not " ++ (← kindOf (g.at_ i)))
        else mistyped ("a bytes-like object is required, not '" ++ (← kindOf (g.at_ i)) ++ ['\''])
    let old ← part 0
    let new ← part 1
    give (Strings.replace old new (← cutsOf g.args[2]?) t)
  | "find" => return some (match ← finds false with
      | some n => .int n
      | none => .int (-1))
  | "rfind" => return some (match ← finds true with
      | some n => .int n
      | none => .int (-1))
  | "index" =>
    match ← finds false with
    | some n => return some (.int n)
    | none => misvalued (if wide then "substring not found" else "subsection not found")
  | "rindex" =>
    match ← finds true with
    | some n => return some (.int n)
    | none => misvalued (if wide then "substring not found" else "subsection not found")
  | "count" =>
    atLeastOne
    let part ← needPart k (g.at_ 0)
    let (s, _, ok) ← window t g.args[1]? g.args[2]?
    return some (.int (if ok then Strings.count part (s.length + 2) 0 s else 0))
  | "startswith" =>
    atLeastOne
    let parts ← alternativesOf k method (g.at_ 0)
    let (s, _, ok) ← window t g.args[1]? g.args[2]?
    truth (ok && parts.any fun p => p.isPrefixOf s)
  | "endswith" =>
    atLeastOne
    let parts ← alternativesOf k method (g.at_ 0)
    let (s, _, ok) ← window t g.args[1]? g.args[2]?
    truth (ok && parts.any fun p => p.isSuffixOf s)
  | "removeprefix" =>
    let p ← needWords k (← g.one full)
    give (if p.isPrefixOf t then t.drop p.length else t)
  | "removesuffix" =>
    let p ← needWords k (← g.one full)
    give (if p ≠ [] ∧ p.isSuffixOf t then t.take (t.length - p.length) else t)
  | "partition" =>
    let sep ← needWords k (← g.one full)
    if sep = [] then misvalued "empty separator"
    let parts : List Text := match Strings.find? sep t with
      | some n => [t.take n, sep, t.drop (n + sep.length)]
      | none => [t, [], []]
    return some (.tuple (← parts.mapM k.value))
  | "rpartition" =>
    let sep ← needWords k (← g.one full)
    if sep = [] then misvalued "empty separator"
    let parts : List Text := match Strings.findLast? sep t with
      | some n => [t.take n, sep, t.drop (n + sep.length)]
      | none => [[], [], t]
    return some (.tuple (← parts.mapM k.value))
  | "center" => aligned fun n c => Strings.center n c t
  | "ljust" => aligned fun n c => t ++ List.replicate (n - t.length) c
  | "rjust" => aligned fun n c => List.replicate (n - t.length) c ++ t
  | "zfill" =>
    let n ← wholeOf (← g.one full)
    give (Strings.zeroFill n.toNat t)
  | "expandtabs" =>
    g.upTo method 0 ["tabsize"]
    let n := (← g.whole? 0 "tabsize").getD 8
    give (Strings.expandTabs n.toNat t)
  | "translate" =>
    if wide then give (← translateText t (← g.one full))
    else
      g.allow method ["delete"]
      let erase ← match g.get? 1 "delete" with
        | some v => needWords k v
        | none => pure []
      give (← translateBytes t (g.at_ 0) erase)
  | _ => return none

def strMethod (t : Text) (name : String) (g : Given) : Eval Value := do
  let full : Text := "str." ++ name.toList
  let test (b : Bool) : Eval Value := do
    g.nothing full
    return .truth b
  match name with
  | "encode" =>
    g.upTo "encode" 0 ["encoding", "errors"]
    let encoding := (← g.text? "encode" 0 "encoding").getD "utf-8"
    let errors := (← g.text? "encode" 1 "errors").getD "strict"
    return .bytes (← encodeText encoding errors t)
  | "casefold" =>
    g.nothing full
    return .str (Strings.folded t)
  | "isdecimal" => test (t ≠ [] && t.all Text.isDecimal)
  | "isnumeric" => test (t ≠ [] && t.all Text.isNumeric)
  | "isidentifier" => test (Strings.isIdentifier t)
  | "isprintable" =>
    test (t.all fun c => c = ' ' || (' ' ≤ c && c ≤ '~') || (160 < c.toNat && Text.isPrintable c && !Text.isBlankChar c))
  | "format" =>
    let named (n : Text) : Eval Value := do
      match g.named? n with
      | some v => return v
      | none => missingKey (.str n)
    return .str (← fillFields 3 (t.length + 1) t { args := g.args, named } []).1
  | "format_map" =>
    let m ← g.one full
    return .str (← fillFields 3 (t.length + 1) t { args := [], named := fun n => getIndex m (.str n) } []).1
  | "__str__" | "__getnewargs__" => return .str t
  | name =>
    match ← wordsMethod? .text t name g with
    | some v => return v
    | none => noAttribute (.str t) name.toList

def bytesMethod (k : Words) (t : Raw) (name : String) (g : Given) : Eval Value := do
  match name with
  | "decode" =>
    g.upTo "decode" 0 ["encoding", "errors"]
    let encoding := (← g.text? "decode" 0 "encoding").getD "utf-8"
    let errors := (← g.text? "decode" 1 "errors").getD "strict"
    return .str (← decodeText encoding errors t)
  | "hex" =>
    let ds := t.map fun c => Strings.hex 2 c.toNat
    match g.get? 0 "sep" with
    | some v =>
      let kind ← kindOf v
      let sep : Text ← match (← get).inner v with
        | .str s | .bytes s => pure s
        | _ => mistyped ("object of type '" ++ kind ++ "' has no len()")
      let n := (← g.whole? 1 "bytes_per_sep").getD 1
      let size := n.natAbs
      if size = 0 then return .str ds.flatten
      let count := ds.length
      let parts := ds.zipIdx.map fun (d, i) =>
        let cut : Bool := if 0 < n then (count - i) % size = 0 else i % size = 0
        if i ≠ 0 ∧ cut then sep ++ d else d
      return .str parts.flatten
    | none => return .str ds.flatten
  | "__bytes__" => return .bytes t
  | name =>
    match ← wordsMethod? k t name g with
    | some v => return v
    | none => noAttribute (.bytes t) name.toList

/-- a table for the characters of a text, from one to three arguments -/
def makeTable (g : Given) : Eval Value := do
  g.between "maketrans" 1 3
  let w ← get
  match g.args.map w.inner with
  | [.ref n] =>
    let ps ← (w.table n).toList.mapM fun (k, v) => do
      match w.inner k with
      | .str [c] => return (Value.int c.toNat, v)
      | .str _ => misvalued "string keys in translate table must be of length 1"
      | k => return (k, v)
    newDict ps
  | .str a :: .str b :: rest =>
    if a.length ≠ b.length then misvalued "the first two maketrans arguments must have equal length"
    let gone : Text := match rest with
      | [.str c] => c
      | _ => []
    newDict ((a.zip b).map (fun p => (.int p.1.toNat, .int p.2.toNat)) ++ gone.map fun c => (.int c.toNat, .none))
  | [_] => mistyped "if you give only one argument to maketrans it must be a dict"
  | _ => mistyped ("maketrans() argument 2 must be str, not " ++ (← kindOf (g.at_ 1)))

def makeByteTable (g : Given) : Eval Value := do
  let a ← needWords .bytes (g.at_ 0)
  let b ← needWords .bytes (g.at_ 1)
  if a.length ≠ b.length then misvalued "maketrans arguments must have same length"
  let all := (List.range 256).map Char.ofNat
  return .bytes (all.map fun c => (((a.zip b).reverse.find? (·.1 = c)).map (·.2)).getD c)

end IncludeAudit.Offside
