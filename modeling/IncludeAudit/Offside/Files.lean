/-
Open files: reading and writing at a place, in bytes or in characters. What is printed waits in buffers; what is written
to the tree is put there before anything looks at the tree.

- `Host.print`, `Host.flush`: the output, `tree`, `setTree`: the file tree.
- `File` operations: `readFile`, `readLine`, `writeFile`, `closeFile`, `openFile`.
-/
import IncludeAudit.Offside.Attribute
import IncludeAudit.Offside.Codec

namespace IncludeAudit.Offside

def bufferSize : Nat := 8192

namespace Host

/-- prints at once -/
def say (h : Host) (isError : Bool) (r : Raw) : Host :=
  if r = [] then h else { h with said := (isError, r) :: h.said }

/-- prints what waits in the buffer of bytes -/
def flushBytes (h : Host) : Host :=
  { h.say false h.buffer.reverse.flatten with buffer := [], bufferSize := 0 }

/-- bytes go into their buffer -/
def printBytes (h : Host) (r : Raw) : Host :=
  let size := r.length
  if h.direct then h.say false r
  else if h.bufferSize + size ≤ Offside.bufferSize then
    { h with buffer := r :: h.buffer, bufferSize := h.bufferSize + size }
  else
    let h := h.flushBytes
    if Offside.bufferSize < size then h.say false r else { h with buffer := [r], bufferSize := size }

/-- the characters that wait go into the buffer of bytes -/
def flushText (h : Host) : Host :=
  if h.held.isEmpty then h
  else { h with held := [], heldSize := 0 }.printBytes h.held.reverse.flatten

def print (h : Host) (r : Raw) : Host :=
  if h.direct then h.say false r
  else
    let size := r.length
    let h := if h.held ≠ [] ∧ Offside.bufferSize < h.heldSize + size then h.flushText else h
    let h := { h with held := r :: h.held, heldSize := h.heldSize + size }
    if Offside.bufferSize ≤ h.heldSize then h.flushText else h

/-- everything that waits is printed -/
def flush (h : Host) : Host :=
  h.flushText.flushBytes

end Host

/-- changes the surroundings -/
def modifyHost (f : Host → Host) : Eval Unit :=
  modify fun w =>
    match w with
    | { heap, codes, origins, handling, depth, limit, modules, builtins, atEnd, host } =>
      { heap, codes, origins, handling, depth, limit, modules, builtins, atEnd, host := f host }

/-- the surroundings -/
def host : Eval Host := do
  return (← get).host

/-- stops with a failure of the system, about a path -/
def raiseOs {α : Type} (e : OsError) (paths : List Value) : Eval α := do
  let args : List Value := [.int e.number, .str e.words]
  let parts : List (Text × Value) :=
    [("errno", .int e.number), ("strerror", .str e.words), ("filename", (paths.head?).getD .none),
     ("filename2", ((paths.drop 1).head?).getD .none)]
  raiseRef (← newFailure (Base.ofErrno e.number).ref args parts)

/-- stops since an encoding cannot say a text -/
def raiseEncode {α : Type} (c : Codec) (t : Codec.Trouble) (s : Text) : Eval α :=
  raiseWith .unicodeEncodeError [.str c.title, .str s, .int t.first, .int t.last, .str t.reason]
    [("encoding", .str c.title), ("object", .str s), ("start", .int t.first), ("end", .int t.last),
     ("reason", .str t.reason)]

/-- stops since bytes say nothing in an encoding -/
def raiseDecode {α : Type} (c : Codec) (t : Codec.Trouble) (r : Raw) : Eval α :=
  raiseWith .unicodeDecodeError [.str c.title, .bytes r, .int t.first, .int t.last, .str t.reason]
    [("encoding", .str c.title), ("object", .bytes r), ("start", .int t.first), ("end", .int t.last),
     ("reason", .str t.reason)]

def codecOf (name : Text) : Eval Codec := do
  match Codec.named? name with
  | some c => return c
  | none => raise .lookupError ("unknown encoding: " ++ name)

def encodeText (encoding errors t : Text) : Eval Raw := do
  let c ← codecOf encoding
  match Codec.encode c errors t with
  | .ok r => return r
  | .error e => raiseEncode c e t

def decodeText (encoding errors : Text) (r : Raw) : Eval Text := do
  let c ← codecOf encoding
  match Codec.decode c errors r with
  | .ok t => return t
  | .error e => raiseDecode c e r

/-! ## The tree -/

/-- the contents of a file that is open -/
def fileAt? (n : Nat) : Eval (Option File) := do
  match (← object n).body with
  | .file f => return some f
  | _ => return none

/-- changes a file that is open -/
def modifyFile (n : Nat) (f : File → File) : Eval Unit :=
  modifyObject n fun o =>
    match o with
    | { cls, attributes, body := .file x } => { cls, attributes, body := .file (f x) }
    | o => o

/-- puts the contents of a file where they belong -/
def settleFile (n : Nat) : Eval Unit := do
  match ← fileAt? n with
  | none => return ()
  | some f =>
    if f.changed then
      match f.stream with
      | .disk p =>
        let r ← if f.binary then pure f.data.toList else encodeText f.encoding f.errors f.data.toList
        modifyFile n fun f => { f with changed := false }
        modifyHost fun h =>
          match h.tree.node? p with
          | some (.file _ mode) => { h with tree := h.tree.put p (.file (Raw.toBytes r) mode) }
          | _ => h
      | _ => modifyFile n fun f => { f with changed := false }

/-- the file tree, with everything that has been written -/
def tree : Eval Tree := do
  let changed := (← host).changed
  if !changed.isEmpty then
    changed.reverse.forM settleFile
    modifyHost fun h => { h with changed := [] }
  return (← host).tree

def setTree (t : Tree) : Eval Unit :=
  modifyHost fun h => { h with tree := t }

/-! ## Contents -/

/-- line feeds in place of other ends of lines -/
def plainEnds : Text → Text → Text
  | [], done => done.reverse
  | '\r' :: '\n' :: r, done => plainEnds r ('\n' :: done)
  | '\r' :: r, done => plainEnds r ('\n' :: done)
  | c :: r, done => plainEnds r (c :: done)

/-- stops since a file does not do something -/
def unsupported {α : Type} (message : Text) : Eval α :=
  raiseWith .unsupportedOperation [.str message] []

def takeInput : Eval Raw := do
  let r := (← host).input
  modifyHost fun h => { h with input := [], usedInput := true }
  return r

/-- the bytes that a file of the tree holds -/
def bytesAt (p : Place) : Eval Raw := do
  match (← tree).node? p with
  | some (.file bytes _) => return Raw.ofBytes bytes
  | _ => return []

/-- brings the contents of a file in -/
def loadFile (n : Nat) : Eval Unit := do
  match ← fileAt? n with
  | none => return ()
  | some f =>
    if f.closed then misvalued "I/O operation on closed file."
    if !f.loaded then
      let r : Raw ← (do
        match f.stream with
        | .input => takeInput
        | .disk p => bytesAt p
        | .device d => return (((Tool.Call.given d).toOption).getD []).take 65536
        | _ => return [])
      let data ← (do
        if f.binary then return r
        else
          let t ← decodeText f.encoding f.errors r
          return if f.newline.isNone then plainEnds t [] else t)
      modifyFile n fun f => { f with data := data.toArray, loaded := true }

/-- a file that can be read -/
def readable (n : Nat) : Eval Unit := do
  match ← fileAt? n with
  | none => return ()
  | some f =>
    if f.closed then misvalued "I/O operation on closed file."
    if !f.reads then unsupported (if f.binary ∧ f.stream ≠ .memory then "read" else "not readable")
    loadFile n

/-- characters or bytes as a value -/
def content (f : File) (t : Text) : Value :=
  if f.binary then .bytes t else .str t

/-- reads so much, or everything -/
def readFile (n : Nat) (size : Option Nat) : Eval Value := do
  readable n
  match ← fileAt? n with
  | none => return .none
  | some f =>
    let stop := (size.map fun k => min (f.place + k) f.data.size).getD f.data.size
    let part := (f.data.extract f.place stop).toList
    modifyFile n fun f => { f with place := max f.place stop }
    return content f part

def lineStop (data : Array Char) (wide : Bool) : (fuel : Nat) → (place : Nat) → Nat
  | 0, n => n
  | fuel + 1, n =>
    match data[n]? with
    | none => n
    | some c =>
      if c = '\n' then n + 1
      else if wide ∧ c = '\r' then (if data[n + 1]? = some '\n' then n + 2 else n + 1)
      else lineStop data wide fuel (n + 1)

/-- reads a line, or so much of it; nothing at the end -/
def readLine (n : Nat) (limit : Option Nat) : Eval Text := do
  readable n
  match ← fileAt? n with
  | none => return []
  | some f =>
    let stop := lineStop f.data (f.newline = some []) (f.data.size + 1) f.place
    let stop := (limit.map fun k => min (f.place + k) stop).getD stop
    let part := (f.data.extract f.place stop).toList
    modifyFile n fun f => { f with place := max f.place stop }
    return part

def insertAt (data : Array Char) (place : Nat) (fill : Char) (t : Text) : Array Char :=
  let data := if data.size < place then data ++ Array.replicate (place - data.size) fill else data
  (t.foldl (fun (acc : Array Char × Nat) c =>
    (if acc.2 < acc.1.size then acc.1.set! acc.2 c else acc.1.push c, acc.2 + 1)) (data, place)).1

/-- writes characters or bytes -/
def writeFile (n : Nat) (t : Text) : Eval Unit := do
  match ← fileAt? n with
  | none => return ()
  | some f =>
    if f.closed then misvalued "I/O operation on closed file."
    if !f.writes then unsupported (if f.binary ∧ f.stream ≠ .memory then "write" else "not writable")
    match f.stream with
    | .output =>
      if f.binary then modifyHost (·.printBytes t)
      else
        let r ← encodeText f.encoding f.errors t
        modifyHost (·.print r)
    | .errors =>
      let r ← if f.binary then pure t else encodeText f.encoding "backslashreplace" t
      modifyHost (·.say true r)
    | .input | .device _ => return ()
    | .memory =>
      let t := if f.binary then t else match f.newline with
        | none => plainEnds t []
        | some _ => t
      modifyFile n fun f =>
        match f with
        | { stream, binary, name, mode, reads, writes, appends, closed, data, place, loaded, changed, encoding, errors,
            newline, number } =>
          { stream, binary, name, mode, reads, writes, appends, closed, data := insertAt data place '\x00' t
            place := place + t.length, loaded, changed, encoding, errors, newline, number }
    | .disk _ =>
      if !f.binary then
        -- what cannot be said is found at once
        let _ ← encodeText f.encoding f.errors t
      let t : Text := match f.newline with
        | some ['\r', '\n'] => t.flatMap fun c => if c = '\n' then ['\r', '\n'] else [c]
        | some ['\r'] => t.map fun c => if c = '\n' then '\r' else c
        | _ => t
      let isNew := !f.changed
      if !f.loaded then loadFile n
      modifyFile n fun f =>
        match f with
        | { stream, binary, name, mode, reads, writes, appends, closed, data, place, loaded, changed := _, encoding, errors,
            newline, number } =>
          let place := if appends then data.size else place
          { stream, binary, name, mode, reads, writes, appends, closed, data := insertAt data place '\x00' t
            place := place + t.length, loaded, changed := true, encoding, errors, newline, number }
      if isNew then modifyHost fun h => { h with changed := n :: h.changed }

/-- what waits to be written by a file is written -/
def flushFile (n : Nat) : Eval Unit := do
  match ← fileAt? n with
  | none => return ()
  | some f =>
    if f.closed then misvalued "I/O operation on closed file."
    match f.stream with
    | .output => modifyHost fun h => if f.binary then h.flushBytes else h.flush
    | _ => return ()

def closeFile (n : Nat) : Eval Unit := do
  match ← fileAt? n with
  | none => return ()
  | some f =>
    if !f.closed then
      match f.stream with
      | .output => modifyHost (·.flush)
      | .disk _ => if f.changed then settleFile n
      | _ => pure ()
      modifyFile n fun f => { f with closed := true }

def seekFile (n : Nat) (offset : Int) (whence : Int) : Eval Value := do
  match ← fileAt? n with
  | none => return .none
  | some f =>
    if f.closed then misvalued "I/O operation on closed file."
    match f.stream with
    | .output | .errors => raiseOs .invalid []
    | _ =>
      loadFile n
      match ← fileAt? n with
      | none => return .none
      | some f =>
        if !f.binary ∧ f.stream ≠ .memory ∧ whence ≠ 0 ∧ offset ≠ 0 then
          unsupported (if whence = 1 then "can't do nonzero cur-relative seeks" else "can't do nonzero end-relative seeks")
        let start : Int := if whence = 1 then f.place else if whence = 2 then f.data.size else 0
        if start + offset < 0 then misvalued ("negative seek position " ++ Text.ofInt (start + offset))
        let place := (start + offset).toNat
        -- places in a text are counted in bytes
        let place := if f.binary ∨ f.stream = .memory ∨ whence ≠ 0 then place
          else
            (f.data.foldl (fun (acc : Nat × Nat) c =>
              if acc.2 < place then (acc.1 + 1, acc.2 + Text.bytes [c]) else acc) (0, 0)).1
        modifyFile n fun f => { f with place }
        return .int place

def tellFile (n : Nat) : Eval Value := do
  match ← fileAt? n with
  | none => return .none
  | some f =>
    if f.closed then misvalued "I/O operation on closed file."
    if f.appends ∧ !f.loaded then loadFile n
    match ← fileAt? n with
    | none => return .none
    | some f =>
      if f.binary ∨ f.stream = .memory then return .int f.place
      else return .int (Text.bytes ((f.data.extract 0 f.place).toList))

def truncateFile (n : Nat) (size : Option Nat) : Eval Value := do
  loadFile n
  match ← fileAt? n with
  | none => return .none
  | some f =>
    if !f.writes then unsupported "truncate"
    let size := size.getD f.place
    modifyFile n fun f =>
      { f with data := if size ≤ f.data.size then f.data.extract 0 size
                 else f.data ++ Array.replicate (size - f.data.size) '\x00'
               changed := true }
    match f.stream with
    | .disk _ => modifyHost fun h => { h with changed := n :: h.changed }
    | _ => pure ()
    return .int size

/-! ## Opening -/

def pathOf (v : Value) : Eval Text := do
  match (← get).inner v with
  | .str t =>
    if '\x00' ∈ t then misvalued "embedded null byte"
    return t
  | .bytes r => return Raw.toText r
  | v =>
    match ← member? v "__fspath__" with
    | some f =>
      match (← get).inner (← call f []) with
      | .str t => return t
      | .bytes r => return Raw.toText r
      | x => mistyped ("expected " ++ (← kindOf v) ++ ".__fspath__() to return str or bytes, not " ++ (← kindOf x))
    | none => mistyped ("expected str, bytes or os.PathLike object, not " ++ (← kindOf v))

def classOfFile (f : File) (buffered : Bool) : Base :=
  if !f.binary then .textFile
  else if !buffered then .rawFile
  else if f.reads ∧ f.writes then .byteRandom
  else if f.reads then .byteReader
  else .byteWriter

def openFile (file : Value) (mode : Text) (buffering : Int) (encoding errors newline : Option Text) : Eval Value := do
  let binary := 'b' ∈ mode
  let ways := mode.filter fun c => c ∈ ("rwax" : Text)
  if mode.any (fun c => c ∉ ("rwaxbtU+" : Text)) ∨ mode.eraseDups.length ≠ mode.length then
    misvalued ("invalid mode: " ++ Strings.quoted mode)
  if binary ∧ 't' ∈ mode then misvalued "can't have text and binary mode at once"
  if ways.length ≠ 1 then
    misvalued "must have exactly one of create/read/write/append mode"
  if binary ∧ encoding.isSome then misvalued "binary mode doesn't take an encoding argument"
  if binary ∧ errors.isSome then misvalued "binary mode doesn't take an errors argument"
  if binary ∧ newline.isSome then misvalued "binary mode doesn't take a newline argument"
  if !binary ∧ buffering = 0 then misvalued "can't have unbuffered text I/O"
  if !(([none, some [], some ['\n'], some ['\r'], some ['\r', '\n']] : List (Option Text)).contains newline) then
    misvalued ("illegal newline value: " ++ Strings.quoted (newline.getD []))
  let updates := '+' ∈ mode
  let reads := ways = ['r'] || updates
  let writes := ways ≠ ['r'] || updates
  let encodingName := encoding.getD "utf-8"
  if !binary then
    let _ ← codecOf encodingName
  let file : Value ← match (← get).inner file with
    | .str _ | .bytes _ | .int _ => pure file
    | _ => pure (.str (← pathOf file))
  let number := (← host).nextNumber
  let start : File :=
    { binary, mode, reads, writes, appends := ways = ['a'], encoding := encodingName
      errors := errors.getD "strict", newline, number, name := file }
  let finish (f : File) : Eval Value := do
    modifyHost fun h => { h with nextNumber := h.nextNumber + 1 }
    make (classOfFile f (buffering ≠ 0)) (.file f)
  match (← get).inner file with
  | .int k =>
    if k = 0 then finish { start with stream := .input, number := 0 }
    else if k = 1 then finish { start with stream := .output, number := 1 }
    else if k = 2 then finish { start with stream := .errors, number := 2 }
    else
      raiseWith .osError [.int 9, .str "Bad file descriptor"]
        [("errno", .int 9), ("strerror", .str "Bad file descriptor"), ("filename", .none), ("filename2", .none)]
  | _ =>
    let path ← pathOf file
    let isNumber (n : Text) (name : Text) : Bool :=
      path = "/dev/" ++ name || path = "/dev/fd/" ++ n || path = "/proc/self/fd/" ++ n
    if isNumber ['0'] "stdin" then finish { start with stream := .input }
    else if isNumber ['1'] "stdout" then finish { start with stream := .output }
    else if isNumber ['2'] "stderr" then finish { start with stream := .errors }
    else
      let t ← tree
      let here := (← host).here
      if ways = ['r'] then
        match t.locate here path with
        | .error e => raiseOs e [file]
        | .ok p =>
          match t.node? p with
          | some (.file _ _) => finish { start with stream := .disk p }
          | some (.device .terminal) => raiseOs .noDevice [file]
          | some (.device d) => finish { start with stream := .device d }
          | some .directory => raiseOs .isDirectory [file]
          | _ => raiseOs .noEntry [file]
      else
        if ways = ['x'] ∧ (t.lstat here path).toOption.isSome then raiseOs .exists_ [file]
        match t.target (Tree.maxLinks + 1) here path with
        | .error e => raiseOs e [file]
        | .ok p =>
          match t.node? p with
          | some (.device .terminal) => raiseOs .noDevice [file]
          | some (.device d) => finish { start with stream := .device d }
          | some (.file bytes mode) =>
            if ways = ['w'] then setTree (t.put p (.file [] mode)) else setTree (t.put p (.file bytes mode))
            finish { start with stream := .disk p, loaded := ways = ['w'] }
          | _ =>
            let umask := (← host).umask
            setTree (t.put p (.file [] (Nat.land 0o666 (0o777 - umask))))
            finish { start with stream := .disk p, loaded := true }

end IncludeAudit.Offside
