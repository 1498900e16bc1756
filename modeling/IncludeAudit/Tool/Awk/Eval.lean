/-
Carrying out programs: expressions have values, statements change the world and go on or leave a loop or a function.
Every function takes the depth that is still allowed.

- `eval`: the value of an expression, `run`: one statement, `perform`: a whole program.
-/
import IncludeAudit.Tool.Awk.Stream
import IncludeAudit.Tool.Calendar

namespace IncludeAudit.Tool.Awk

/-- how a statement ends -/
inductive Flow
  | on
  | left
  | again
  | given (v : Value)

/-- what is assigned to, with its index known -/
inductive Spot
  | variable_ (n : Name)
  | element (table entry : Nat)
  | field (n : Int)

namespace Spot

def get : Spot → Eval Value
  | .variable_ n => Awk.variable_ n
  | .element k i => return ((← MonadState.get).tables.getD k {}).get i
  | .field n => Awk.field n

def set (v : Value) : Spot → Eval Unit
  | .variable_ n => setVariable n v
  | .element k i => withTable k fun t => ((), t.set i v)
  | .field n => setField n v

end Spot

def fieldNumber (v : Value) : Int :=
  truncated v.float

/-- an operator on two numbers -/
def Arithmetic.apply (o : Arithmetic) (x y : Float) : Float :=
  match o with
  | .add => x + y
  | .sub => x - y
  | .mul => x * y
  | .div => x / y
  | .mod => remainder x y
  | .pow => Float.pow x y

/-- a comparison of two values -/
def Comparison.apply (o : Comparison) (c : Ordering) : Bool :=
  match o with
  | .less => c = .lt
  | .lessOrSame => c ≠ .gt
  | .same => c = .eq
  | .other => c ≠ .eq
  | .more => c = .gt
  | .moreOrSame => c ≠ .lt

/-- a value as an index: integers go by themselves -/
def keyOf (v : Value) : Eval Key := do
  match v with
  | .number x =>
    let n? := if x.abs < 2147483648 then integer? x else none
    match n? with
    | some n => return .number n
    | none =>
      let t ← textOf v
      return .text t
  | v =>
    let t ← textOf v
    return .text t

/-! ## Functions that are always there -/

/-- a part of a text; counting starts at one, and what is in front of the text makes the part longer -/
def part (t : Raw) (start : Float) (length : Option Float) : Raw :=
  let i := truncated start
  let size : Int := t.length
  match length with
  | none => t.drop (i - 1).toNat
  | some l =>
    if 2147483647 ≤ l then []
    else
      let n := truncated l
      let n := if i ≤ 0 then n - max i (-2147483647) else n
      (t.drop (min (i - 1) size).toNat).take n.toNat

/-- where a text is in another one, zero if it is not there -/
def positionOf (t part : Raw) : Nat :=
  if part = [] then 1
  else
    match Raw.splitAt? part t with
    | some (before, _) => before.length + 1
    | none => 0

/-- what stands for a match: an ampersand is the match itself -/
def replacement (found : Raw) : (fuel : Nat) → Raw → Raw
  | 0, _ => []
  | _, [] => []
  | fuel + 1, c :: r =>
    if c = '&' then found ++ replacement found fuel r
    else if c = '\\' then
      let slashes := (c :: r).takeWhile (· = '\\')
      let behind := (c :: r).drop slashes.length
      if behind.head? = some '&' then
        let kept := List.replicate (slashes.length / 2) '\\'
        if slashes.length % 2 = 1 then kept ++ '&' :: replacement found fuel behind.tail
        else kept ++ found ++ replacement found fuel behind.tail
      else slashes ++ replacement found fuel behind
    else c :: replacement found fuel r

/-- a text with matches replaced, and how many there were -/
def replaced (all : Bool) (r : Regex) (by_ t : Raw) : Raw × Nat :=
  let found := if all then Regex.findAll {} r t else (Regex.find? {} r t).toList
  let (shown, rest, _) := found.foldl (fun (acc : List Raw × Raw × Nat) p =>
    let (shown, rest, position) := acc
    let match_ := p.1.rest.take (p.2.position - p.1.position)
    let before := rest.take (p.1.position - position)
    (replacement match_ (by_.length + 1) by_ :: before :: shown, p.2.rest, p.2.position)) ([], t, 0)
  ((rest :: shown).reverse.flatten, found.length)

/-- a character as a value: the one with a number, or the first one of a text -/
def characterOf (v : Value) : Raw :=
  let byNumber (x : Float) : Raw := [Char.ofNat ((truncated x) % 256).toNat]
  match v with
  | .number x => byNumber x
  | .given t =>
    match numberOf? t with
    | some x => byNumber x
    | none => [t.headD '\x00']
  | .text t => [t.headD '\x00']
  | .unset => ['\x00']

/-- values by a format; `name` is the function that is told in complaints -/
def format (name f : Raw) (vs : List Value) : Eval Raw := do
  let ps := Format.pieces none "sdciouxXeEfFgG" "hlL" (f.length + 1) f
  let called : Raw := name ++ "(\"" ++ f ++ "\")"
  let step (acc : Raw × List Value × Nat) (p : Piece) : Eval (Raw × List Value × Nat) := do
    let (out, vs, n) := acc
    let lacking : Eval (Raw × List Value × Nat) := do
      if name = ("printf" : Raw) then send none out
      refuse ("not enough arguments passed to " ++ called)
    match p with
    | .text t => return (out ++ t, vs, n)
    | .unknown _ | .dangling _ =>
      if name = ("printf" : Raw) then send none out
      refuse ("improper conversion(number " ++ Text.ofNat n ++ ") in " ++ called)
    | .stop | .fault _ _ | .odd _ => return acc
    | .directive d =>
      let asked := (if d.starWidth then 1 else 0) + (if d.starPrecision then 1 else 0)
      let stars := (vs.take asked).map fun v => truncated v.float
      if vs.length < asked + 1 then lacking
      else
        let d : Directive :=
          if d.starWidth then
            let k := stars.headD 0
            { d with width := some k.natAbs, left := d.left || k < 0 }
          else d
        let d : Directive :=
          if d.starPrecision then
            let k := stars.getLastD 0
            { d with precision := if k < 0 then none else some k.toNat }
          else d
        let v := (vs.drop asked).headD .unset
        let t ← textOf v
        let shown : Raw :=
          match d.letter with
          | 's' => d.showText t
          | 'c' => d.showText (characterOf v)
          | 'd' | 'i' => d.showInt (clamped v.float)
          | 'o' | 'x' | 'X' | 'u' => d.showNat ((clamped v.float) % 0x10000000000000000).toNat
          | _ => d.showFloat v.float
        return (out ++ shown, vs.drop (asked + 1), n + 1)
  let (out, _, _) ← ps.foldlM step ([], vs, 1)
  return out

/-- the moment that six numbers name: year, month, day, hour, minute and second -/
def momentOf (t : Raw) : Option Int :=
  match (Raw.words t).mapM Raw.int? with
  | some (y :: m :: d :: h :: min :: s :: _) =>
    let months := y * 12 + (m - 1)
    some (dayNumber (months / 12) (months % 12 + 1) d * 86400 + h * 3600 + min * 60 + s)
  | _ => none

def compute (n : Raw) (vs : List Value) : Eval Value := do
  let first := vs.headD .unset
  let second := (vs.drop 1).headD .unset
  let x := first.float
  match String.ofList n with
  | "length" =>
    let t ← textOf first
    return .ofNat t.length
  | "substr" =>
    let t ← textOf first
    return .text (part t second.float ((vs.drop 2).head?.map Value.float))
  | "index" =>
    let t ← textOf first
    let p ← textOf second
    return .ofNat (positionOf t p)
  | "sprintf" =>
    let f ← textOf first
    let t ← format n f (vs.drop 1)
    return .text t
  | "sin" => return .number x.sin
  | "cos" => return .number x.cos
  | "atan2" => return .number (Float.atan2 x second.float)
  | "exp" => return .number x.exp
  | "log" => return .number x.log
  | "sqrt" => return .number x.sqrt
  | "int" => return .number (if x.isNaN || x.isInf then x else if x < 0 then x.ceil else x.floor)
  | "rand" =>
    let w ← get
    let r := (w.random * 1103515245 + 12345) % 2147483648
    set { w with random := r }
    return .number (Float.ofNat r / 2147483648)
  | "srand" =>
    let w ← get
    let seed : Value := if vs.isEmpty then .number 0 else first
    set { w with seed, random := (truncated seed.float).toNat + 1 }
    return w.seed
  | "tolower" =>
    let t ← textOf first
    return .text (t.map Char.toLower)
  | "toupper" =>
    let t ← textOf first
    return .text (t.map Char.toUpper)
  | "system" =>
    let t ← textOf first
    flushAll
    let told ← ask t none false
    return .ofNat (Told.number told)
  | "close" =>
    let t ← textOf first
    match ← close t with
    | some k => return .ofNat k
    | none => return .number (-1)
  | "fflush" =>
    flushAll
    return .number 0
  | "systime" => return .number (Float.ofInt present.seconds)
  | "mktime" =>
    let t ← textOf first
    return .number (Float.ofInt ((momentOf t).getD (-1)))
  | "strftime" =>
    let f : Raw ← if vs.isEmpty then pure "%c" else textOf first
    let m : Moment := if vs.length < 2 then present else { seconds := truncated second.float }
    return .text (m.shown "UTC" 0 (2 * f.length + 20) f)
  | _ => return .number 0

/-- the record or another text that is replaced in -/
def defaultTarget : Target :=
  .field (.number 0)

/-- a slot for an argument: a variable without a value may turn out to be an array -/
def passed (n : Name) : Eval Slot := do
  let w ← get
  if n = .global 0 then
    let v ← variable_ n
    return .scalar v
  else
    match w.slot n with
    | .scalar .unset =>
      let k := w.tables.size
      let s : Slot := .either k
      set { w.setSlot n s with tables := w.tables.push {} }
      return s
    | s => return s

def rounds (condition : Eval Bool) (body : Eval Flow) (step : Eval Unit) : (fuel : Nat) → Eval Flow
  | 0 => throw .exhausted
  | fuel + 1 => do
    if ← condition then
      match ← body with
      | .left => return .on
      | .given v => return .given v
      | .on | .again =>
        step
        rounds condition body step fuel
    else return .on

/-- a round for every index -/
def eachOf (body : Raw → Eval Flow) : List Raw → Eval Flow
  | [] => return .on
  | k :: rest => do
    match ← body k with
    | .left => return .on
    | .given v => return .given v
    | .on | .again => eachOf body rest

/-- rounds that are ever made -/
def maxRounds : Nat := 1000000000

mutual

def eval (p : Program) : (fuel : Nat) → Expr → Eval Value
  | 0, _ => throw .exhausted
  | fuel + 1, e => do
    match e with
    | .number x => return .number x
    | .text t => return .text t
    | .regex r =>
      joinRecord
      let w ← get
      return .ofBool (Regex.occursIn {} r w.record)
    | .group e => eval p fuel e
    | .value t => valueAt p fuel t
    | .assign t o e =>
      let s ← spot p fuel t
      let v ← eval p fuel e
      let v : Value ←
        match o with
        | none => pure v
        | some o => do
          let old ← s.get
          pure (.number (o.apply old.float v.float))
      s.set v
      return v
    | .count t o first =>
      let s ← spot p fuel t
      let old ← s.get
      let x := old.float
      let y := o.apply x 1
      s.set (.number y)
      return .number (if first then y else x)
    | .choice c a b =>
      let c ← eval p fuel c
      if c.holds then eval p fuel a else eval p fuel b
    | .both a b =>
      let a ← eval p fuel a
      if a.holds then
        let b ← eval p fuel b
        return .ofBool b.holds
      else return .ofBool false
    | .either a b =>
      let a ← eval p fuel a
      if a.holds then return .ofBool true
      else
        let b ← eval p fuel b
        return .ofBool b.holds
    | .not e =>
      let v ← eval p fuel e
      return .ofBool (!v.holds)
    | .negative e =>
      let v ← eval p fuel e
      return .number (-v.float)
    | .positive e =>
      let v ← eval p fuel e
      return .number v.float
    | .arithmetic o a b =>
      let a ← eval p fuel a
      let b ← eval p fuel b
      return .number (o.apply a.float b.float)
    | .compare o a b =>
      let a ← eval p fuel a
      let b ← eval p fuel b
      let w ← get
      return .ofBool (o.apply (Value.order w.format a b))
    | .concat a b =>
      let a ← eval p fuel a
      let b ← eval p fuel b
      let s ← textOf a
      let t ← textOf b
      return .text (s ++ t)
    | .matches_ negated a b =>
      let a ← eval p fuel a
      let t ← textOf a
      let r ← pattern p fuel b
      return .ofBool (Regex.occursIn {} r t != negated)
    | .member index n =>
      let key ← keyAt p fuel index
      let k ← arrayOf n
      let found ← withTable k fun t =>
        let (i, t) := t.find key false
        (i.isSome, t)
      return .ofBool found
    | .call f arguments => call p fuel f arguments
    | .builtIn n arguments => builtIn p fuel n arguments
    | .read from_ into => readFrom p fuel from_ into

/-- the value of what can be assigned to -/
def valueAt (p : Program) : (fuel : Nat) → Target → Eval Value
  | 0, _ => throw .exhausted
  | fuel + 1, t => do
    match t with
    | .variable_ n => Awk.variable_ n
    | t =>
      let s ← spot p fuel t
      s.get

def pattern (p : Program) : (fuel : Nat) → Expr → Eval Regex
  | 0, _ => throw .exhausted
  | fuel + 1, e => do
    match e with
    | .regex r => return r
    | e =>
      let v ← eval p fuel e
      let t ← textOf v
      searchOf t

def evalAll (p : Program) : (fuel : Nat) → List Expr → Eval (List Value)
  | 0, _ => throw .exhausted
  | _, [] => return []
  | fuel + 1, e :: es => do
    let v ← eval p fuel e
    let vs ← evalAll p fuel es
    return v :: vs

/-- an index; several parts are joined -/
def keyAt (p : Program) : (fuel : Nat) → List Expr → Eval Key
  | 0, _ => throw .exhausted
  | fuel + 1, es => do
    let vs ← evalAll p fuel es
    match vs with
    | [v] => keyOf v
    | vs =>
      let ts ← vs.mapM textOf
      let w ← get
      return .text (Text.paste (w.setting "SUBSEP") ts)

/-- what is assigned to -/
def spot (p : Program) : (fuel : Nat) → Target → Eval Spot
  | 0, _ => throw .exhausted
  | fuel + 1, t => do
    match t with
    | .variable_ n => return .variable_ n
    | .field e =>
      let v ← eval p fuel e
      return .field (fieldNumber v)
    | .element n index =>
      let key ← keyAt p fuel index
      let k ← arrayOf n
      let i ← withTable k fun t => t.find key true
      return .element k (i.getD 0)

/-- a record that is read: one, zero at the end, and minus one when it cannot be read -/
def readFrom (p : Program) : (fuel : Nat) → Origin → Option Target → Eval Value
  | 0, _, _ => throw .exhausted
  | fuel + 1, from_, into => do
    let s? : Option Spot ←
      match into with
      | some t => do
        let s ← spot p fuel t
        pure (some s)
      | none => pure none
    let put (r : Raw) : Eval Unit :=
      match s? with
      | some s => s.set (.given r)
      | none => setRecord r
    match from_ with
    | .main =>
      match ← nextRecord maxRounds with
      | some r =>
        countRecord
        put r
        return .number 1
      | none => return .number 0
    | .file e | .command e =>
      let isCommand : Bool :=
        match from_ with
        | .command _ => true
        | _ => false
      let v ← eval p fuel e
      let n ← textOf v
      if ← openFeed n isCommand then
        match ← feedRecord n isCommand with
        | some r =>
          put r
          return .number 1
        | none => return .number 0
      else return .number (-1)

/-- a call of a function that is always there -/
def builtIn (p : Program) : (fuel : Nat) → Raw → List Expr → Eval Value
  | 0, _, _ => throw .exhausted
  | fuel + 1, n, es => do
    match String.ofList n, es with
    | "length", [] =>
      let v ← field 0
      compute n [v]
    | "length", [.value (.variable_ k)] =>
      let w ← get
      match w.slot k with
      | .array a | .either a => return .ofNat (w.tables.getD a {}).size
      | _ =>
        let v ← variable_ k
        compute n [v]
    | "split", e :: a :: rest =>
      let v ← eval p fuel e
      let t ← textOf v
      let c : Cut ←
        match rest with
        | .regex r :: _ => pure (.search r)
        | f :: _ => do
          let v ← eval p fuel f
          let s ← textOf v
          cutOf s
        | [] => do
          let w ← get
          cutOf (w.setting "FS")
      match a with
      | .value (.variable_ k) =>
        let k ← arrayOf k
        let pieces := c.pieces t
        setTable k (Table.ofList (pieces.map Value.given))
        return .ofNat pieces.length
      | _ => refuse "bad array in call to split"
    | "match", [e, r] =>
      let v ← eval p fuel e
      let t ← textOf v
      let r ← pattern p fuel r
      let (start, length) : Nat × Int :=
        match Regex.find? {} r t with
        | some (s, e) => (s.position + 1, (e.position - s.position : Nat))
        | none => (0, -1)
      modify fun w =>
        (w.setPlain "RSTART" (.ofNat start)).setPlain "RLENGTH" (.number (Float.ofInt length))
      return .ofNat start
    | "sub", r :: b :: rest | "gsub", r :: b :: rest =>
      let r ← pattern p fuel r
      let v ← eval p fuel b
      let by_ ← textOf v
      let s : Option Spot ←
        match rest with
        | [] => do
          let s ← spot p fuel defaultTarget
          pure (some s)
        | .value t :: _ => do
          let s ← spot p fuel t
          pure (some s)
        | _ => pure none
      let v : Value ←
        match s, rest with
        | some s, _ => s.get
        | none, e :: _ => eval p fuel e
        | none, [] => pure .unset
      let t ← textOf v
      let (t, k) := replaced (n = ("gsub" : Raw)) r by_ t
      match s with
      | some s => if 0 < k then s.set (.text t)
      | none => pure ()
      return .ofNat k
    | _, es =>
      let vs ← evalAll p fuel es
      compute n vs

def call (p : Program) : (fuel : Nat) → Nat → List Expr → Eval Value
  | 0, _, _ => throw .exhausted
  | fuel + 1, f, es => do
    match p.functions[f]? with
    | none => return .unset
    | some g =>
      let slots ← arguments p fuel es
      let w ← get
      let outer := w.parameters
      let own := slots.toArray ++ Array.replicate (g.parameters - slots.length) (Slot.scalar .unset)
      set { w with parameters := own }
      let back : Eval Unit := modify fun w => { w with parameters := outer }
      let flow ← tryCatch (run p fuel (g.body.getD .nothing)) fun stop => do
        back
        throw stop
      back
      match flow with
      | .given v => return v
      | _ => return .unset

def arguments (p : Program) : (fuel : Nat) → List Expr → Eval (List Slot)
  | 0, _ => throw .exhausted
  | _, [] => return []
  | fuel + 1, e :: es => do
    let s : Slot ←
      match e with
      | .value (.variable_ n) => passed n
      | e => do
        let v ← eval p fuel e
        pure (.scalar v)
    let ss ← arguments p fuel es
    return s :: ss

/-- the place that output goes to -/
def outletOf (p : Program) : (fuel : Nat) → Option (Outlet × Expr) → Eval (Option (Outlet × Raw))
  | 0, _ => throw .exhausted
  | _, none => return none
  | fuel + 1, some (o, e) => do
    let v ← eval p fuel e
    let t ← textOf v
    return some (o, t)

def run (p : Program) : (fuel : Nat) → Statement → Eval Flow
  | 0, _ => throw .exhausted
  | fuel + 1, s => do
    match s with
    | .nothing => return .on
    | .expr e =>
      let _ ← eval p fuel e
      return .on
    | .print es o =>
      let vs ← if es.isEmpty then (do let v ← field 0; pure [v]) else evalAll p fuel es
      let place ← outletOf p fuel o
      let w ← get
      let form := w.setting "OFMT"
      let t := Text.paste (w.setting "OFS") (vs.map fun v => v.shown form) ++ w.setting "ORS"
      send place t
      return .on
    | .printf es o =>
      let vs ← evalAll p fuel es
      let place ← outletOf p fuel o
      let f ← textOf (vs.headD .unset)
      let t ← format "printf" f vs.tail
      send place t
      return .on
    | .sequence a b =>
      match ← run p fuel a with
      | .on => run p fuel b
      | flow => return flow
    | .choice c a b =>
      let c ← eval p fuel c
      if c.holds then run p fuel a else run p fuel b
    | .while_ c b =>
      rounds (do let v ← eval p fuel c; return v.holds) (run p fuel b) (pure ()) maxRounds
    | .until_ b c =>
      match ← run p fuel b with
      | .left => return .on
      | .given v => return .given v
      | .on | .again => rounds (do let v ← eval p fuel c; return v.holds) (run p fuel b) (pure ()) maxRounds
    | .count first c step b =>
      let _ ← run p fuel first
      let condition : Eval Bool :=
        match c with
        | some c => do
          let v ← eval p fuel c
          return v.holds
        | none => return true
      let step : Eval Unit := do
        let _ ← run p fuel step
      rounds condition (run p fuel b) step maxRounds
    | .each n a b =>
      let k ← arrayOf a
      let keys ← withTable k Table.keys
      eachOf (fun key => do
        setVariable n (.text key)
        run p fuel b) keys
    | .delete a index =>
      let k ← arrayOf a
      match index with
      | none =>
        setTable k {}
        return .on
      | some es =>
        let key ← keyAt p fuel es
        withTable k fun t => ((), t.delete key)
        return .on
    | .next => throw .next
    | .nextFile => throw .nextFile
    | .exit e =>
      match e with
      | some e =>
        let v ← eval p fuel e
        modify fun w => { w with status := ((truncated v.float) % 256).toNat }
        throw .exit
      | none => throw .exit
    | .return_ e =>
      match e with
      | some e =>
        let v ← eval p fuel e
        return .given v
      | none => return .given .unset
    | .break_ => return .left
    | .continue_ => return .again

end

/-! ## Programs -/

/-- how deep a program may go -/
def maxDepth : Nat := 1000000

/-- the pattern of a rule holds for the record; ranges have their places -/
def Pattern.fits (p : Program) (place : Nat) : Pattern → Eval Bool
  | .always => return true
  | .start | .finish => return false
  | .holds e => do
    let v ← eval p maxDepth e
    return v.holds
  | .range a b => do
    let w ← get
    let isIn : Bool ← if w.ranges.getD place false then pure true else (do let v ← eval p maxDepth a; pure v.holds)
    if isIn then
      let v ← eval p maxDepth b
      modify fun w => { w with ranges := w.ranges.setIfInBounds place (!v.holds) }
      return true
    else return false

/-- the rules that are meant, with their places -/
def Program.rulesFor (p : Program) (test : Pattern → Bool) : List (Nat × Rule) :=
  ((List.range p.rules.length).zip p.rules).filter fun r => test r.2.pattern

/-- the rules with the same pattern, one after another -/
def runRules (p : Program) (rs : List (Nat × Rule)) : Eval Unit :=
  rs.forM fun r => do
    let _ ← run p maxDepth r.2.body

def runFitting (p : Program) (rs : List (Nat × Rule)) : Eval Unit :=
  rs.forM fun r => do
    if ← r.2.pattern.fits p r.1 then
      let _ ← run p maxDepth r.2.body

def records (p : Program) (rs : List (Nat × Rule)) : (fuel : Nat) → Eval Unit
  | 0 => throw .exhausted
  | fuel + 1 => do
    match ← nextRecord maxRounds with
    | none => return ()
    | some r =>
      countRecord
      setRecord r
      tryCatch (runFitting p rs) fun stop =>
        match stop with
        | .next => return ()
        | .nextFile => modify fun w => { w with isOpen := false, main := [] }
        | stop => throw stop
      records p rs fuel

def Pattern.isStart : Pattern → Bool
  | .start => true
  | _ => false

/-- the pattern stands for the end -/
def Pattern.isFinish : Pattern → Bool
  | .finish => true
  | _ => false

def perform (p : Program) : Eval Unit := do
  let first := p.rulesFor Pattern.isStart
  let last := p.rulesFor Pattern.isFinish
  let others := p.rulesFor fun q => !q.isStart && !q.isFinish
  let untilExit (m : Eval Unit) : Eval Bool := tryCatch (do m; return true) fun stop =>
    match stop with
    | .exit => return false
    | stop => throw stop
  let goesOn ← untilExit (runRules p first)
  if goesOn ∧ (others.length + last.length ≠ 0) then
    let _ ← untilExit (records p others maxRounds)
  let _ ← untilExit (runRules p last)
  closeAll maxRounds

end IncludeAudit.Tool.Awk
