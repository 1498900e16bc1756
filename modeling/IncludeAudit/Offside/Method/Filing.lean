/-
Methods of files, and of texts and bytes in memory that are used like files.

- `fileMethod`: a method of a file by its name, `newMemory`: contents in memory.
-/
import IncludeAudit.Offside.Method.Number

namespace IncludeAudit.Offside

/-- the number of characters that an argument asks for; nothing when all are asked for -/
def sizeOf? (v : Option Value) : Eval (Option Nat) := do
  match v with
  | none | some .none => return none
  | some v =>
    let n ← indexOf v (do mistyped ("argument should be integer or None, not '" ++ (← kindOf v) ++ ['\'']))
    return if n < 0 then none else some n.toNat

def restLines (n : Nat) : (fuel : Nat) → (left : Option Int) → List Value → Eval (List Value)
  | 0, _, vs => return vs.reverse
  | fuel + 1, left, vs => do
    match ← fileAt? n with
    | none => return vs.reverse
    | some f =>
      let line ← readLine n none
      if line = [] then return vs.reverse
      let left := left.map fun (k : Int) => k - (line.length : Int)
      let vs := content f line :: vs
      if left.any fun k => k ≤ 0 then return vs.reverse else restLines n fuel left vs

/-- what is written, as characters or bytes -/
def writtenText (f : File) (v : Value) : Eval Text := do
  let w ← get
  if f.binary then
    match bytesOf? w v with
    | some r => return r
    | none => mistyped ("a bytes-like object is required, not '" ++ (← kindOf v) ++ ['\''])
  else
    match w.inner v with
    | .str t => return t
    | _ =>
      if f.stream = .memory then mistyped ("string argument expected, got '" ++ (← kindOf v) ++ ['\''])
      mistyped ("write() argument must be str, not " ++ (← kindOf v))

def fileMethod (n : Nat) (f : File) (name : String) (g : Given) : Eval Value := do
  let method := name.toList
  let self := Value.ref n
  let isMemory : Bool := f.stream = .memory
  let closedWords : Text :=
    if isMemory ∧ !f.binary then "I/O operation on closed file"
    else "I/O operation on closed file."
  let checkOpen (action : Text) : Eval Unit := do
    if f.closed then misvalued (if f.binary ∧ !isMemory ∧ action ≠ [] then action ++ " of closed file" else closedWords)
  let cannot (t : Text) : Eval Value := unsupported t
  let isRead (action : Text) : Eval Unit := do
    checkOpen action
    if !f.reads then
      let _ ← cannot (if f.binary then "read" else "not readable")
  match name with
  | "read" =>
    g.between "read" 0 1
    let size ← sizeOf? g.args.head?
    isRead "read"
    readFile n size
  | "read1" | "peek" =>
    let size ← sizeOf? g.args.head?
    isRead "read"
    if name = "peek" then
      let place := f.place
      let v ← readFile n none
      modifyFile n fun f => { f with place }
      return v
    else readFile n size
  | "readall" =>
    isRead "read"
    readFile n none
  | "readline" =>
    g.between "readline" 0 1
    let limit ← match g.args.head? with
      | none | some .none => pure none
      | some v => do
        let k ← wholeOf v
        pure (if k < 0 then none else some k.toNat)
    isRead "readline"
    return content f (← readLine n limit)
  | "readlines" =>
    g.between "readlines" 0 1
    let limit ← match g.args.head? with
      | none | some .none => pure none
      | some v => do
        let k ← wholeOf v
        pure (if k ≤ 0 then none else some k)
    isRead "readlines"
    newList (← restLines n endless limit [])
  | "readinto" =>
    isRead "readinto"
    match g.args with
    | [.ref m] =>
      match (← object m).body with
      | .bytes old =>
        match ← readFile n (some old.length) with
        | .bytes r =>
          setBody m (.bytes (r ++ old.drop r.length))
          return .int r.length
        | _ => return .int 0
      | _ => mistyped ("readinto() argument must be read-write bytes-like object, not " ++ (← kindOf (.ref m)))
    | _ => mistyped "readinto() argument must be read-write bytes-like object"
  | "write" =>
    let v ← g.one (Catalog.nameOf (classOfFile f true) ++ ".write")
    if f.closed ∧ f.binary ∧ !isMemory then misvalued "write to closed file"
    let t ← if f.writes then writtenText f v else pure []
    checkOpen []
    writeFile n t
    return .int t.length
  | "writelines" =>
    let v ← g.one "writelines"
    checkOpen []
    if !f.writes then
      let _ ← cannot (if f.binary then "write" else "not writable")
    eachOf v fun x => do writeFile n (← writtenText f x)
    return .none
  | "seek" =>
    g.between "seek" 1 2
    checkOpen "seek"
    let offset ← wholeOf (g.at_ 0)
    let whence := (← g.whole? 1 "whence").getD 0
    if offset < 0 ∧ whence = 0 then
      misvalued (if !f.binary ∧ isMemory then "Negative seek position " ++ Text.ofInt offset
        else if f.binary ∧ isMemory then "negative seek value " ++ Text.ofInt offset
        else "negative seek position " ++ Text.ofInt offset)
    if !f.binary ∧ isMemory ∧ whence ≠ 0 ∧ offset ≠ 0 then raise .osError "Can't do nonzero cur-relative seeks"
    match f.binary, isMemory, whence with
    | true, true, 2 =>
      -- a place in front of the beginning is the beginning
      modifyFile n fun f => { f with place := ((f.data.size : Int) + offset).toNat }
      match ← fileAt? n with
      | some f => return .int f.place
      | none => return .none
    | _, _, _ => seekFile n offset whence
  | "tell" =>
    g.nothing method
    checkOpen "tell"
    tellFile n
  | "flush" =>
    checkOpen "flush"
    flushFile n
    return .none
  | "close" =>
    closeFile n
    return .none
  | "truncate" =>
    checkOpen "truncate"
    truncateFile n (← sizeOf? g.args.head?)
  | "fileno" =>
    if isMemory then cannot "fileno"
    else
      if f.closed then misvalued "I/O operation on closed file"
      return .int (match f.stream with
        | .input => 0
        | .output => 1
        | .errors => 2
        | _ => (f.number : Int))
  | "isatty" =>
    checkOpen []
    return .truth false
  | "readable" =>
    if f.closed then misvalued "I/O operation on closed file"
    return .truth f.reads
  | "writable" =>
    if f.closed then misvalued "I/O operation on closed file"
    return .truth f.writes
  | "seekable" =>
    if f.closed then misvalued "I/O operation on closed file"
    return .truth (match f.stream with
      | .disk _ | .memory => true
      | _ => false)
  | "detach" => if isMemory then cannot "detach" else member self "buffer"
  | "reconfigure" =>
    let encoding ← g.text? "reconfigure" 9 "encoding"
    let errors ← g.text? "reconfigure" 9 "errors"
    let newline ← g.text? "reconfigure" 9 "newline"
    modifyFile n fun f =>
      { f with encoding := encoding.getD f.encoding, errors := errors.getD f.errors
               newline := if newline.isSome then newline else f.newline }
    match g.named? "line_buffering" with
    | some v => if f.stream = .output ∧ (← truthOf v) then modifyHost fun h => { h.flush with direct := true }
    | none => pure ()
    return .none
  | "getvalue" | "getbuffer" =>
    if f.closed then misvalued closedWords
    return content f f.data.toList
  | "__enter__" =>
    if f.closed then misvalued (if isMemory ∧ !f.binary then "I/O operation on closed file" else "I/O operation on closed file.")
    return self
  | "__exit__" =>
    match ← method? self "close" with
    | some c =>
      let _ ← call c []
    | none => closeFile n
    return .none
  | "__iter__" =>
    if f.closed then misvalued "I/O operation on closed file."
    return self
  | "__next__" =>
    let line ← readLine n none
    if line = [] then raiseWith .stopIteration [] [("value", .none)] else return content f line
  | name => noAttribute self name.toList

/-- contents in memory, with what they begin with -/
def setMemory (n : Nat) (binary : Bool) (g : Given) : Eval Unit := do
  let function : Text := if binary then "BytesIO" else "StringIO"
  g.upTo function 0 (if binary then ["initial_bytes"] else ["initial_value", "newline"])
  let v := g.getD 0 (if binary then "initial_bytes" else "initial_value") .none
  let w ← get
  let newline : Option Text ← match g.get? 1 "newline" with
    | some v =>
      match w.inner v with
      | .str t => pure (some t)
      | _ => pure none
    | none => pure (some ['\n'])
  let data ← match v with
    | .none => pure []
    | v =>
      if binary then
        match bytesOf? w v with
        | some r => pure r
        | none => mistyped ("a bytes-like object is required, not '" ++ (← kindOf v) ++ ['\''])
      else
        match w.inner v with
        | .str t => pure (if newline.isNone then plainEnds t [] else t)
        | _ => mistyped ("initial_value must be str or None, not " ++ (← kindOf v))
  modifyFile n fun f => { f with binary, data := data.toArray, place := 0, loaded := true, newline }

end IncludeAudit.Offside
