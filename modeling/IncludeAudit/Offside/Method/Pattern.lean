/-
Regular expressions as values: patterns and matches, and what is put in the place of matches.

- `compilePattern`: the pattern of a text, `findFrom?`: the next match, `patternMethod`, `matchMethod`: methods by name.
-/
import IncludeAudit.Offside.Method.Mapping

namespace IncludeAudit.Offside

/-! ## Patterns -/

/-- the flags that bits of a number stand for -/
def flagsOf (n : Nat) : Ordered.Flags :=
  { fold := n / 2 % 2 = 1, lines := n / 8 % 2 = 1, dotAll := n / 16 % 2 = 1, spaced := n / 64 % 2 = 1
    narrow := n / 256 % 2 = 1 }

/-- a failure of an expression -/
def raisePattern {α : Type} (f : Ordered.Fault) (source : Value) (t : Text) : Eval α := do
  let words := f.words t
  let isPlaced : Bool := f.place ≠ 0xffffffff
  let line := ((t.take f.place).filter (· = '\n')).length + 1
  let parts : List (Text × Value) :=
    [("msg", .str f.message), ("pattern", source), ("pos", if isPlaced then .int f.place else .none),
     ("lineno", if isPlaced then .int line else .none), ("colno", if isPlaced then .int (f.place + 1) else .none)]
  raiseWith .patternError [.str words] parts

def compilePattern (v : Value) (flags : Nat) : Eval Nat := do
  let fromText (source : Value) (wide : Bool) (t : Text) : Eval Nat := do
    match Ordered.read wide (flagsOf flags) t with
    | .ok c => alloc { cls := Base.pattern.ref, body := .pattern source c }
    | .error f => raisePattern f source t
  match (← get).inner v with
  | .str t => fromText (.str t) true t
  | .bytes r => fromText (.bytes r) false r
  | .ref n =>
    match (← object n).body with
    | .pattern _ _ =>
      if flags ≠ 0 then misvalued "cannot process flags argument with a compiled pattern"
      return n
    | _ => mistyped "first argument must be string or compiled pattern"
  | _ => mistyped "first argument must be string or compiled pattern"

def patternAt (n : Nat) : Eval (Value × Ordered.Compiled) := do
  match (← object n).body with
  | .pattern v c => return (v, c)
  | _ => return (.none, default)

/-- what a pattern is applied to -/
structure Target where
  pattern : Nat
  compiled : Ordered.Compiled
  value : Value
  subject : Ordered.Subject
  low : Nat := 0

/-- what a pattern is applied to: a text for the pattern of a text, and bytes for that of bytes -/
def targetOf (pattern : Nat) (v : Value) (low high : Option Int) : Eval Target := do
  let (source, compiled) ← patternAt pattern
  let w ← get
  let wide : Bool := match source with
    | .str _ => true
    | _ => false
  let chars ← (match w.inner v with
    | .str t =>
      if wide then pure t else mistyped "cannot use a bytes pattern on a string-like object"
    | x =>
      match bytesOf? w x with
      | some r => if wide then mistyped "cannot use a string pattern on a bytes-like object" else pure r
      | none => mistyped ("expected string or bytes-like object, got '" ++ w.kindOf v ++ ['\'']))
  let a := chars.toArray
  let clamp (n : Int) : Nat := min a.size n.toNat
  let value := match w.inner v with
    | .ref _ => Value.bytes chars
    | x => x
  return { pattern, compiled, value, subject := { chars := a, stop := clamp (high.getD a.size) }, low := clamp (low.getD 0) }

/-- a match of a pattern -/
structure Hit where
  low : Nat
  high : Nat
  groups : Ordered.Groups

/-- the next match from a place on; one that is empty does not count at the place itself if that is wanted -/
def Target.find? (t : Target) (place : Nat) (advance : Bool) : Option Hit :=
  if t.subject.stop < place then none
  else
    (Ordered.search t.subject t.compiled.expression (fun n m => !(advance && n = place && m = place))
      (t.subject.stop - place) place).map fun (n, m, g) => { low := n, high := m, groups := g }

def Target.matchAt? (t : Target) (place : Nat) (whole : Bool) : Option Hit :=
  if t.subject.stop < place then none
  else
    (Ordered.run t.subject t.compiled.expression place [] fun m g =>
      if whole ∧ m ≠ t.subject.stop then none else some (m, g)).map fun (m, g) => { low := place, high := m, groups := g }

/-- all matches one after another, so many at most -/
def Target.all (t : Target) : (fuel : Nat) → (place : Nat) → (advance : Bool) → List Hit
  | 0, _, _ => []
  | fuel + 1, place, advance =>
    match t.find? place advance with
    | none => []
    | some h => h :: all t fuel h.high (h.low = h.high)

/-- all matches -/
def Target.hits (t : Target) (most : Option Nat) : List Hit :=
  t.all ((most.getD (2 * t.subject.stop + 2))) t.low false

/-- a part of what a pattern is applied to -/
def Target.cut (t : Target) (a b : Nat) : Text :=
  (t.subject.chars.extract a b).toList

/-- characters as a value of the same kind -/
def Target.text (t : Target) (s : Text) : Value :=
  match t.value with
  | .str _ => .str s
  | _ => .bytes s

def Target.group (t : Target) (h : Hit) (n : Nat) (missing : Value) : Value :=
  if n = 0 then t.text (t.cut h.low h.high)
  else
    match Ordered.Groups.get? h.groups n with
    | some (a, b) => t.text (t.cut a b)
    | none => missing

def Target.value? (t : Target) : Option Hit → Eval Value
  | none => return .none
  | some h =>
    make .match_ (.match_ { pattern := t.pattern, subject := t.value, spans := h.groups, low := h.low, high := h.high })

/-! ## What is put in the place of matches -/

/-- parts of what is put in the place of a match: characters and groups -/
abbrev Template := List (Text ⊕ Nat)

inductive TemplateFault
  | pattern (f : Ordered.Fault)
  | group (name : Text)

/-- the character of a letter behind a backslash -/
def templateEscape? (c : Char) : Option Char :=
  match c with
  | 'a' => some '\x07'
  | 'b' => some '\x08'
  | 'f' => some '\x0c'
  | 'n' => some '\n'
  | 'r' => some '\r'
  | 't' => some '\t'
  | 'v' => some '\x0b'
  | '\\' => some '\\'
  | _ => none

def Template.read (c : Ordered.Compiled) : (fuel : Nat) → (place : Nat) → Text → Except TemplateFault Template
  | 0, _, _ => .ok []
  | fuel + 1, place, t =>
    let fault {α : Type} (message : Text) (place : Nat) : Except TemplateFault α := .error (.pattern { message, place })
    let group (n place next : Nat) (rest : Text) : Except TemplateFault Template :=
      if c.groups < n then fault ("invalid group reference " ++ Text.ofNat n) place
      else do return .inr n :: (← read c fuel next rest)
    let literal (s : Text) (next : Nat) (rest : Text) : Except TemplateFault Template := do
      return .inl s :: (← read c fuel next rest)
    let octal (ds : Text) : Nat := ds.foldl (fun n d => n * 8 + (d.toNat - 48)) 0
    match t with
    | [] => .ok []
    | ['\\'] => fault "bad escape (end of pattern)" place
    | '\\' :: 'g' :: rest =>
      match rest with
      | '<' :: rest =>
        let name := rest.takeWhile (· ≠ '>')
        if rest.length = name.length then
          if name = [] then fault "missing group name" (place + 3)
          else fault "missing >, unterminated name" (place + 3)
        else
          let after := rest.drop (name.length + 1)
          let next := place + 4 + name.length
          if name = [] then fault "missing group name" (place + 3)
          else if name.all Char.isDigit then group (Raw.toNat name) (place + 3) next after
          else if Strings.isIdentifier name then
            match c.names.find? (·.1 = name) with
            | some (_, n) => group n (place + 3) next after
            | none => .error (.group name)
          else fault ("bad character in group name " ++ Strings.quoted name) (place + 3)
      | _ => fault "missing <" (place + 2)
    | '\\' :: '0' :: rest =>
      let ds := (rest.take 2).takeWhile Ordered.isOctal
      literal [Char.ofNat (octal ds)] (place + 2 + ds.length) (rest.drop ds.length)
    | '\\' :: d :: rest =>
      if d.isDigit then
        match rest with
        | e :: rest' =>
          if e.isDigit then
            match rest' with
            | f :: rest'' =>
              if Ordered.isOctal d ∧ Ordered.isOctal e ∧ Ordered.isOctal f then
                let n := octal [d, e, f]
                if 255 < n then
                  fault ("octal escape value \\" ++ [d, e, f] ++ " outside of range 0-0o377") place
                else literal [Char.ofNat n] (place + 4) rest''
              else group ((d.toNat - 48) * 10 + (e.toNat - 48)) (place + 1) (place + 3) rest'
            | [] => group ((d.toNat - 48) * 10 + (e.toNat - 48)) (place + 1) (place + 3) rest'
          else group (d.toNat - 48) (place + 1) (place + 2) rest
        | [] => group (d.toNat - 48) (place + 1) (place + 2) rest
      else
        match templateEscape? d with
        | some x => literal [x] (place + 2) rest
        | none =>
          if d.isAlpha then fault ("bad escape \\" ++ [d]) place
          else literal ['\\', d] (place + 2) rest
    | t =>
      let s := t.takeWhile (· ≠ '\\')
      literal s (place + s.length) (t.drop s.length)

def Template.fill (parts : Template) (t : Target) (h : Hit) : Text :=
  parts.flatMap fun p =>
    match p with
    | .inl s => s
    | .inr n =>
      if n = 0 then t.cut h.low h.high
      else
        match Ordered.Groups.get? h.groups n with
        | some (a, b) => t.cut a b
        | none => []

def templateOf (c : Ordered.Compiled) (v : Value) : Eval Template := do
  let s ← match (← get).inner v with
    | .str s | .bytes s => pure s
    | _ => mistyped ("decoding to str: need a bytes-like object, " ++ (← kindOf v) ++ " found")
  match Template.read c (s.length + 1) 0 s with
  | .ok parts => return parts
  | .error (.pattern f) => raisePattern f v s
  | .error (.group name) => raise .indexError ("unknown group name " ++ Strings.quoted name)

/-- the matches of a pattern with something else in their place, and how many there were -/
def substitute (t : Target) (new : Value) (most : Nat) : Eval (Value × Nat) := do
  let w ← get
  let isText : Bool := match w.inner new with
    | .str _ | .bytes _ => true
    | _ => false
  let parts ← if isText then templateOf t.compiled new else pure []
  let hits := t.hits (if most = 0 then none else some most)
  let isBytes : Bool := match t.value with
    | .str _ => false
    | _ => true
  let texts ← hits.mapM fun h => do
    if isText then return parts.fill t h
    else
      let v ← call new [← t.value? (some h)]
      match (← get).inner v with
      | .str s | .bytes s => return s
      | .none => return []
      | _ =>
        let wanted : Text := if isBytes then "a bytes-like object" else "str instance"
        mistyped ("expected " ++ wanted ++ ", " ++ (← kindOf v) ++ " found")
  let rec weave (place : Nat) : List Hit → List Text → List Text
    | h :: hs, s :: ss => t.cut place h.low :: s :: weave h.high hs ss
    | _, _ => [t.cut place t.subject.chars.size]
  return (t.text (weave 0 hits texts).flatten, hits.length)

/-- the parts between matches, with the groups of the matches -/
def splitAt (t : Target) (most : Nat) : Eval Value := do
  let hits := t.hits (if most = 0 then none else some most)
  let rec go (place : Nat) : List Hit → List Value
    | [] => [t.text (t.cut place t.subject.chars.size)]
    | h :: hs =>
      t.text (t.cut place h.low) :: ((List.range t.compiled.groups).map fun i => t.group h (i + 1) .none) ++ go h.high hs
  newList (go 0 hits)

/-- what all matches have found -/
def findAll (t : Target) : Eval Value := do
  let empty := t.text []
  newList ((t.hits none).map fun h =>
    match t.compiled.groups with
    | 0 => t.group h 0 empty
    | 1 => t.group h 1 empty
    | n => .tuple ((List.range n).map fun i => t.group h (i + 1) empty))

/-! ## Methods -/

def patternMethod (n : Nat) (name : String) (g : Given) : Eval Value := do
  let bounded : Eval Target := do
    g.upTo name.toList 1 ["string", "pos", "endpos"]
    targetOf n (g.getD 0 "string" .none) (← g.whole? 1 "pos") (← g.whole? 2 "endpos")
  match name with
  | "match" =>
    let t ← bounded
    t.value? (t.matchAt? t.low false)
  | "fullmatch" =>
    let t ← bounded
    t.value? (t.matchAt? t.low true)
  | "search" =>
    let t ← bounded
    t.value? (t.find? t.low false)
  | "findall" => findAll (← bounded)
  | "finditer" =>
    let t ← bounded
    newIter .callableIterator (.values (← (t.hits none).mapM fun h => t.value? (some h)))
  | "split" =>
    g.upTo "split" 1 ["string", "maxsplit"]
    let most := (← g.whole? 1 "maxsplit").getD 0
    let t ← targetOf n (g.getD 0 "string" .none) none none
    if most < 0 then newList [t.value] else splitAt t most.toNat
  | "sub" | "subn" =>
    g.upTo name.toList 2 ["repl", "string", "count"]
    let most := (← g.whole? 2 "count").getD 0
    let t ← targetOf n (g.getD 1 "string" .none) none none
    let (v, k) ← substitute t (g.getD 0 "repl" .none) most.toNat
    return if name = "sub" then v else .tuple [v, .int k]
  | name => noAttribute (.ref n) name.toList

def matchMethod (n : Nat) (m : Match) (name : String) (g : Given) : Eval Value := do
  let (_, c) ← patternAt m.pattern
  let span (v : Value) : Eval (Option (Nat × Nat)) := groupSpan? m c v
  let part (v : Value) (missing : Value) : Eval Value := do
    match ← span v with
    | some (a, b) => return cutSubject m.subject a b
    | none => return missing
  let bounds : Eval (Int × Int) := do
    g.between name.toList 0 1
    match ← span (g.args.head?.getD (.int 0)) with
    | some (a, b) => return (a, b)
    | none => return (-1, -1)
  match name with
  | "group" =>
    match g.args with
    | [] => part (.int 0) .none
    | [v] => part v .none
    | vs => return .tuple (← vs.mapM fun v => part v .none)
  | "groups" =>
    g.upTo "groups" 0 ["default"]
    let missing := g.getD 0 "default" .none
    return .tuple (← (List.range c.groups).mapM fun (i : Nat) => part (.int (i + 1)) missing)
  | "groupdict" =>
    g.upTo "groupdict" 0 ["default"]
    let missing := g.getD 0 "default" .none
    newDict (← c.names.mapM fun p => do return (.str p.1, ← part (.int p.2) missing))
  | "start" => return .int (← bounds).1
  | "end" => return .int (← bounds).2
  | "span" =>
    let (a, b) ← bounds
    return .tuple [.int a, .int b]
  | "expand" =>
    let v ← g.one "expand"
    let parts ← templateOf c v
    let t ← targetOf m.pattern m.subject none none
    return t.text (parts.fill t { low := m.low, high := m.high, groups := m.spans })
  | name => noAttribute (.ref n) name.toList

/-! ## Functions -/

/-- characters that mean something in an expression -/
def isSpecial (c : Char) : Bool :=
  c ∈ ("()[]\x7b\x7d?*+-|^$\\.&~# \t\n\r\x0b\x0c" : Text)

/-- functions on regular expressions -/
def patternFunction (name : String) (g : Given) : Eval Value := do
  let flagsAt (i : Nat) : Eval Nat := do return ((← g.whole? i "flags").getD 0).toNat
  let simple : Eval Value := do
    g.upTo name.toList 2 ["pattern", "string", "flags"]
    let p ← compilePattern (g.getD 0 "pattern" .none) (← flagsAt 2)
    patternMethod p name { args := [g.getD 1 "string" .none] }
  match name with
  | "compile" =>
    g.upTo "compile" 1 ["pattern", "flags"]
    return .ref (← compilePattern (g.getD 0 "pattern" .none) (← flagsAt 1))
  | "match" | "fullmatch" | "search" | "findall" | "finditer" => simple
  | "split" =>
    g.upTo "split" 2 ["pattern", "string", "maxsplit", "flags"]
    let p ← compilePattern (g.getD 0 "pattern" .none) (← flagsAt 3)
    patternMethod p name { args := [g.getD 1 "string" .none, g.getD 2 "maxsplit" (.int 0)] }
  | "sub" | "subn" =>
    g.upTo name.toList 3 ["pattern", "repl", "string", "count", "flags"]
    let p ← compilePattern (g.getD 0 "pattern" .none) (← flagsAt 4)
    patternMethod p name
      { args := [g.getD 1 "repl" .none, g.getD 2 "string" .none, g.getD 3 "count" (.int 0)] }
  | "escape" =>
    match (← get).inner (g.getD 0 "pattern" .none) with
    | .str t => return .str (t.flatMap fun c => if isSpecial c then ['\\', c] else [c])
    | .bytes t => return .bytes (t.flatMap fun c => if isSpecial c then ['\\', c] else [c])
    | v => mistyped ("decoding to str: need a bytes-like object, " ++ (← kindOf v) ++ " found")
  | "purge" => return .none
  | _ => return .none

end IncludeAudit.Offside
