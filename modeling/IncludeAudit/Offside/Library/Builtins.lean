/-
Functions that every script knows by name.

- `everywhere`: a function by its name, `printValues`: values are printed.
-/
import IncludeAudit.Offside.Methods

namespace IncludeAudit.Offside

/-! ## Input and output -/

def moduleName? (module name : Text) : Eval (Option Value) := do
  let w ← get
  match (w.table w.modules).get? module with
  | some (.ref n) => return w.own? n name
  | _ => return none

def writeTo (file : Value) (t : Text) : Eval Unit := do
  let w ← get
  match file with
  | .ref n =>
    match w.body n with
    | .file f =>
      if (w.classAt (w.object n).cls).native ∧ !f.binary then writeFile n t
      else
        let _ ← call (← member file "write") [.str t]
    | _ =>
      let _ ← call (← member file "write") [.str t]
  | _ =>
    let _ ← call (← member file "write") [.str t]

/-- everything that has been written to something reaches its place -/
def flushTo (file : Value) : Eval Unit := do
  match file with
  | .ref n =>
    match (← object n).body with
    | .file _ => flushFile n
    | _ =>
      let _ ← call (← member file "flush") []
  | _ =>
    let _ ← call (← member file "flush") []

/-- a separator that an argument gives -/
def separator (g : Given) (name usual : Text) : Eval Text := do
  match g.named? name with
  | none | some .none => return usual
  | some v =>
    match (← get).inner v with
    | .str t => return t
    | _ => mistyped (name ++ " must be None or a string, not " ++ (← kindOf v))

def printValues (g : Given) : Eval Value := do
  g.allow "print" ["sep", "end", "file", "flush"]
  let file? ← match g.named? "file" with
    | none | some .none => moduleName? "sys" "stdout"
    | v => pure v
  match file? with
  | none => raise .runtimeError "lost sys.stdout"
  | some .none => return .none
  | some file =>
    let sep ← separator g "sep" [' ']
    let finish ← separator g "end" ['\n']
    let isPlain ← (do
      match file with
      | .ref n =>
        match (← object n).body with
        | .file _ => return ((← get).classAt (← object n).cls).native
        | _ => return false
      | _ => return false)
    if isPlain then
      let texts ← g.args.mapM strOf
      writeTo file (Text.paste sep texts ++ finish)
    else
      let write ← member file "write"
      g.args.zipIdx.forM fun (v, i) => do
        if i ≠ 0 then
          let _ ← call write [.str sep]
        let _ ← call write [.str (← strOf v)]
      let _ ← call write [.str finish]
    match g.named? "flush" with
    | some v => if ← truthOf v then flushTo file
    | none => pure ()
    return .none

def inputLine (g : Given) : Eval Value := do
  g.between "input" 0 1
  match g.args.head?, ← moduleName? "sys" "stdout" with
  | some v, some out =>
    writeTo out (← strOf v)
    flushTo out
  | none, some out => if !out.isNone then flushTo out
  | _, none => pure ()
  match ← moduleName? "sys" "stdin" with
  | none | some .none => raise .runtimeError "input(): lost sys.stdin"
  | some source =>
    let line ← match source with
      | .ref n =>
        match (← object n).body with
        | .file _ => readLine n none
        | _ => strOf (← call (← member source "readline") [])
      | _ => strOf (← call (← member source "readline") [])
    if line = [] then raise .eofError "EOF when reading a line"
    return .str (if line.getLast? = some '\n' then line.dropLast else line)

/-! ## Numbers -/

def extreme (greatest : Bool) (g : Given) : Eval Value := do
  let name : Text := if greatest then "max" else "min"
  g.allow name ["key", "default"]
  if g.count = 0 then mistyped (name ++ " expected at least 1 argument, got 0")
  let isOne : Bool := g.count = 1
  if !isOne ∧ (g.named? "default").isSome then
    mistyped ("Cannot specify a default for " ++ name ++ "() with multiple positional arguments")
  let vs ← if isOne then itemsOf (g.at_ 0) else pure g.args
  let key := (g.named? "key").getD .none
  let keyOf (v : Value) : Eval Value := if key.isNone then return v else call key [v]
  let c : Comparison := if greatest then .greater else .less
  match vs with
  | [] =>
    match g.named? "default" with
    | some v => return v
    | none => misvalued (name ++ "() arg is an empty sequence")
  | v :: rest =>
    let k ← keyOf v
    let rec go (best bestKey : Value) : List Value → Eval Value
      | [] => return best
      | x :: xs => do
        let kx ← keyOf x
        if ← truthOf (← compareValues c kx bestKey) then go x kx xs else go best bestKey xs
    go v k rest

/-- a value with others added to it -/
def sumOf (g : Given) : Eval Value := do
  g.allow "sum" ["start"]
  if g.count = 0 then mistyped "sum() takes at least 1 positional argument (0 given)"
  if 2 < g.count then mistyped ("sum() takes at most 2 arguments (" ++ Text.ofNat g.count ++ " given)")
  let start := g.getD 1 "start" (.int 0)
  match start with
  | .str _ => mistyped "sum() can't sum strings [use ''.join(seq) instead]"
  | .bytes _ => mistyped "sum() can't sum bytes [use b''.join(seq) instead]"
  | _ => pure ()
  let it ← iterOf (g.at_ 0)
  let rec go : (fuel : Nat) → Value → Eval Value
    | 0, acc => return acc
    | fuel + 1, acc => do
      match ← next? it with
      | none => return acc
      | some v => go fuel (← binaryValue .add acc v)
  go endless start

def roundOf (g : Given) : Eval Value := do
  g.upTo "round" 1 ["number", "ndigits"]
  let v := g.getD 0 "number" .none
  let places := g.getD 1 "ndigits" .none
  match ← method? v "__round__" with
  | some f => call f (if places.isNone then [] else [places])
  | none =>
    let w ← get
    let given : Given := { args := if places.isNone then [] else [places] }
    match w.inner v with
    | .float x => floatMethod x v "__round__" given
    | x =>
      match integer? w x with
      | some n => intMethod n v "__round__" given
      | none => mistyped ("type " ++ (← kindOf v) ++ " doesn't define __round__ method")

/-- a power, of which only what is left by another number counts if there is one -/
def powerOf (g : Given) : Eval Value := do
  g.upTo "pow" 2 ["base", "exp", "mod"]
  let a := g.getD 0 "base" .none
  let b := g.getD 1 "exp" .none
  match g.getD 2 "mod" .none with
  | .none => binaryValue .pow a b
  | m =>
    let w ← get
    match integer? w a, integer? w b, integer? w m with
    | some x, some e, some k =>
      if k = 0 then misvalued "pow() 3rd argument cannot be 0"
      let size := k.natAbs
      let result (base e : Nat) : Value :=
        let r : Int := Numeral.powerMod base e size (Numeral.bitLength e + 1) 1
        .int (if k < 0 ∧ r ≠ 0 then r + k else r)
      if 0 ≤ e then return result (x % (size : Int)).toNat e.toNat
      else
        -- the inverse of the base, if it has one
        let base := (x % (size : Int)).toNat
        let rec inverse : (fuel : Nat) → (a b u v : Int) → Option Int
          | 0, _, _, _, _ => none
          | fuel + 1, a, b, u, v => if b = 0 then (if a = 1 then some u else none) else inverse fuel b (a % b) v (u - a / b * v)
        match inverse (2 * Numeral.bitLength size + 10) base size 1 0 with
        | some i => return result (i % (size : Int)).toNat e.natAbs
        | none =>
          if size = 1 then return .int 0 else misvalued "base is not invertible for the given modulus"
    | _, _, _ =>
      match ← method? a "__pow__" with
      | some f => call f [b, m]
      | none =>
        mistyped ("unsupported operand type(s) for ** or pow(): '" ++ (← kindOf a) ++ "', '" ++ (← kindOf b) ++ "', '" ++
          (← kindOf m) ++ ['\''])

def inBase (base : Nat) (front : Text) (v : Value) : Eval Value := do
  let n ← wholeOf v
  let sign : Text := if n < 0 then ['-'] else []
  return .str (sign ++ front ++ Nat.toDigits base n.natAbs)

/-- quotient and rest -/
def divmodOf (g : Given) : Eval Value := do
  g.between "divmod" 2 2
  let a := g.at_ 0
  let b := g.at_ 1
  match ← asked? a "__divmod__" b with
  | some v => return v
  | none =>
    match ← asked? b "__rdivmod__" a with
    | some v => return v
    | none =>
      let w ← get
      match w.inner a, w.inner b with
      | .complex _ _, _ | _, .complex _ _ => unsupportedOperands "divmod()" a b
      | x, y =>
        match integer? w x, integer? w y, float? w x, float? w y with
        | some m, some n, _, _ =>
          if n = 0 then raise .zeroDivisionError "integer division or modulo by zero"
          return .tuple [.int (m.fdiv n), .int (m.fmod n)]
        | _, _, some p, some q =>
          if q == 0 then raise .zeroDivisionError "float floor division by zero"
          let (d, r) := floatDivMod p q
          return .tuple [.float d, .float r]
        | _, _, _, _ => unsupportedOperands "divmod()" a b

/-! ## Attributes and kinds -/

def attributeName (v : Value) : Eval Text := do
  match (← get).inner v with
  | .str t => return t
  | _ => mistyped ("attribute name must be string, not '" ++ (← kindOf v) ++ ['\''])

/-- a value can be called -/
def isCallable (v : Value) : Eval Bool := do
  let w ← get
  match v with
  | .native _ _ | .bound _ _ _ | .unbound _ _ | .method _ _ => return true
  | .ref n =>
    match w.body n with
    | .function _ | .class_ _ | .staticMethod _ => return true
    | _ => return (w.lookup? (w.object n).cls "__call__").isSome
  | _ => return false

def nextElement (it : Value) : Eval Value := do
  let notIterator : Eval Value := do mistyped ("'" ++ (← kindOf it) ++ "' object is not an iterator")
  match it with
  | .ref n =>
    match (← object n).body with
    | .generator _ =>
      if (← object n).cls ≠ Base.generator.ref then notIterator
      else
        let (more, v) ← resume n .none false
        if more then return v else raiseStop v
    | .iter (.step _ _ _) =>
      let (more, v) ← advance it .none
      if more then return v else raiseStop v
    | .iter _ =>
      match ← next? it with
      | some v => return v
      | none => raiseStop .none
    | _ =>
      match ← method? it "__next__" with
      | some f => call f []
      | none =>
        match (← object n).body with
        | .file _ =>
          match ← next? it with
          | some v => return v
          | none => raiseStop .none
        | _ => notIterator
  | _ => notIterator

/-- one of the elements counts as true, or as false; if not, the opposite -/
def seekTruth (it : Value) (wanted : Bool) : (fuel : Nat) → Eval Bool
  | 0 => return !wanted
  | fuel + 1 => do
    match ← next? it with
    | none => return !wanted
    | some v => if (← truthOf v) = wanted then return wanted else seekTruth it wanted fuel

/-- stops the whole script -/
def exitWith {α : Type} (v : Value) : Eval α := do
  raiseRef (← newFault Base.systemExit.ref { args := if v.isNone then [] else [v] })

/-- names of a value, in order -/
def dirOf (v : Value) : Eval Value := do
  match ← method? v "__dir__" with
  | some f =>
    let vs ← itemsOf (← call f [])
    newList (← sorted vs .none false)
  | none => newList ((← namesOf v).map .str)

/-- a number that a value is known by -/
def identity (v : Value) : Eval Int := do
  match v with
  | .ref n => return 0x7f0000000000 + 64 * (n : Int)
  | .none => return 0x7f0000000000
  | v => return 0x7e0000000000 + (Hash.signed ((Hash.value? v).getD 1)).natAbs % 0x1000000000 * 16

/-! ## Functions by name -/

/-- the arguments of opening a file -/
def openGiven (g : Given) : Eval Value := do
  g.upTo "open" 1 ["file", "mode", "buffering", "encoding", "errors", "newline", "closefd", "opener"]
  let mode := (← g.text? "open" 1 "mode").getD ['r']
  let buffering := (← g.whole? 2 "buffering").getD (-1)
  let encoding ← g.text? "open" 3 "encoding"
  let errors ← g.text? "open" 4 "errors"
  let newline ← g.text? "open" 5 "newline"
  let file := g.getD 0 "file" .none
  match file with
  | .int n => if n < 0 then misvalued "negative file descriptor"
  | _ => pure ()
  openFile file mode buffering encoding errors newline

def everywhere (name : String) (g : Given) : Eval Value := do
  let text := name.toList
  match name with
  | "print" => printValues g
  | "len" =>
    let v ← g.one text
    return .int (← lengthOf v)
  | "repr" => return .str (← reprOf (← g.one text))
  | "ascii" => return .str (← asciiOf (← g.one text))
  | "sorted" =>
    if g.count ≠ 1 then mistyped ("sorted expected 1 argument, got " ++ Text.ofNat g.count)
    g.allow "sort" ["key", "reverse"]
    let vs ← itemsOf (g.at_ 0)
    let reverse := ((← g.whole? 9 "reverse").getD 0) ≠ 0
    newList (← sorted vs ((g.named? "key").getD .none) reverse)
  | "sum" => sumOf g
  | "min" => extreme false g
  | "max" => extreme true g
  | "abs" =>
    let v ← g.one text
    match ← method? v "__abs__" with
    | some f => call f []
    | none =>
      let w ← get
      match w.inner v with
      | .float x => return .float x.abs
      | .complex a b => return .float (Float.sqrt (a * a + b * b))
      | x =>
        match integer? w x with
        | some n => return .int n.natAbs
        | none => mistyped ("bad operand type for abs(): '" ++ (← kindOf v) ++ ['\''])
  | "any" | "all" =>
    return .truth (← seekTruth (← iterOf (← g.one text)) (name = "any") endless)
  | "round" => roundOf g
  | "divmod" => divmodOf g
  | "pow" => powerOf g
  | "ord" =>
    let v ← g.one text
    let w ← get
    match w.inner v with
    | .str [c] => return .int c.toNat
    | .bytes [c] => return .int c.toNat
    | .str t =>
      mistyped ("ord() expected a character, but string of length " ++ Text.ofNat t.length ++ " found")
    | x =>
      match bytesOf? w x with
      | some [c] => return .int c.toNat
      | some r => mistyped ("ord() expected a character, but string of length " ++ Text.ofNat r.length ++ " found")
      | none => mistyped ("ord() expected string of length 1, but " ++ (← kindOf v) ++ " found")
  | "chr" =>
    let n ← wholeOf (← g.one text)
    if n < 0 ∨ 0x110000 ≤ n then misvalued "chr() arg not in range(0x110000)"
    return .str [Char.ofNat n.toNat]
  | "hex" => inBase 16 "0x" (← g.one text)
  | "oct" => inBase 8 "0o" (← g.one text)
  | "bin" => inBase 2 "0b" (← g.one text)
  | "isinstance" =>
    g.between text 2 2
    return .truth (← isInstance (g.at_ 0) (g.at_ 1))
  | "issubclass" =>
    g.between text 2 2
    return .truth (← isSubclass (g.at_ 0) (g.at_ 1))
  | "input" => inputLine g
  | "iter" =>
    g.between text 1 2
    match g.args with
    | [v] => iterOf v
    | f :: stop :: _ =>
      if ← isCallable f then newIter .callableIterator (.calls f stop)
      else mistyped "iter(v, w): v must be callable"
    | [] => return .none
  | "next" =>
    g.between text 1 2
    match g.args with
    | [it] => nextElement it
    | it :: usual :: _ => catching [.stopIteration] (nextElement it) fun _ => return usual
    | [] => return .none
  | "callable" => return .truth (← isCallable (← g.one text))
  | "getattr" =>
    g.between text 2 3
    let n ← attributeName (g.at_ 1)
    match g.args[2]? with
    | none => member (g.at_ 0) n
    | some usual =>
      let found? ← catching [.attributeError] (member? (g.at_ 0) n) fun _ => return none
      return found?.getD usual
  | "hasattr" =>
    g.between text 2 2
    let n ← attributeName (g.at_ 1)
    let found? ← catching [.attributeError] (member? (g.at_ 0) n) fun _ => return none
    return .truth found?.isSome
  | "setattr" =>
    g.between text 3 3
    setMember (g.at_ 0) (← attributeName (g.at_ 1)) (g.at_ 2)
    return .none
  | "delattr" =>
    g.between text 2 2
    eraseMember (g.at_ 0) (← attributeName (g.at_ 1))
    return .none
  | "id" => return .int (← identity (← g.one text))
  | "hash" => return .int (Hash.signed (← hashOf (← g.one text)))
  | "format" =>
    g.between text 1 2
    let layout ← match g.args[1]? with
      | none => pure []
      | some v =>
        match (← get).inner v with
        | .str t => pure t
        | _ => mistyped ("format() argument 2 must be str, not " ++ (← kindOf v))
    return .str (← formatValue (g.at_ 0) layout)
  | "exit" | "quit" => exitWith (g.at_ 0)
  | "open" => openGiven g
  | "vars" =>
    g.between text 0 1
    match ← catching [.attributeError] (member? (g.at_ 0) "__dict__") fun _ => return none with
    | some v => return v
    | none => mistyped "vars() argument must have __dict__ attribute"
  | "dir" =>
    g.between text 0 1
    dirOf (g.at_ 0)
  | "__build_class__" => buildClass g
  | "aiter" => call (← member (g.at_ 0) "__aiter__") []
  | "anext" => call (← member (g.at_ 0) "__anext__") []
  | _ => return .none

end IncludeAudit.Offside
