/-
Functions of the system on the file tree, on the surroundings of a script and on other programs.

- `Surroundings.function`: a function by its name, `Surroundings.values`: the numbers and names that belong to them.
-/
import IncludeAudit.Offside.Library.Basic
import IncludeAudit.Path.Basic
import IncludeAudit.Shell.Program
import IncludeAudit.Tool.Listing

namespace IncludeAudit.Offside.Surroundings

/-! ## Failures -/

/-- words for the numbers that the system refuses with -/
def words : List (Nat × String) :=
  [(1, "Operation not permitted"), (2, "No such file or directory"), (3, "No such process"),
   (4, "Interrupted system call"), (5, "Input/output error"), (6, "No such device or address"),
   (7, "Argument list too long"), (8, "Exec format error"), (9, "Bad file descriptor"), (10, "No child processes"),
   (11, "Resource temporarily unavailable"), (12, "Cannot allocate memory"), (13, "Permission denied"),
   (14, "Bad address"), (16, "Device or resource busy"), (17, "File exists"), (18, "Invalid cross-device link"),
   (19, "No such device"), (20, "Not a directory"), (21, "Is a directory"), (22, "Invalid argument"),
   (23, "Too many open files in system"), (24, "Too many open files"), (25, "Inappropriate ioctl for device"),
   (26, "Text file busy"), (27, "File too large"), (28, "No space left on device"), (29, "Illegal seek"),
   (30, "Read-only file system"), (31, "Too many links"), (32, "Broken pipe"), (33, "Numerical argument out of domain"),
   (34, "Numerical result out of range"), (35, "Resource deadlock avoided"), (36, "File name too long"),
   (38, "Function not implemented"), (39, "Directory not empty"), (40, "Too many levels of symbolic links"),
   (61, "No data available"), (62, "Timer expired"), (71, "Protocol error"), (75, "Value too large for defined data type"),
   (84, "Invalid or incomplete multibyte or wide character"), (95, "Operation not supported"),
   (98, "Address already in use"), (103, "Software caused connection abort"), (104, "Connection reset by peer"),
   (110, "Connection timed out"), (111, "Connection refused"), (113, "No route to host"), (115, "Operation now in progress")]

/-- what the system says for a number -/
def wordsOf (n : Int) : Text :=
  match words.find? fun p => (p.1 : Int) = n with
  | some (_, t) => t.toList
  | none => "Unknown error " ++ Text.ofInt n

/-- stops with a failure of the system by its number -/
def raiseNumber {α : Type} (n : Nat) (paths : List Value) : Eval α := do
  let args : List Value := [.int n, .str (wordsOf n)]
  raiseRef (← newFailure (Base.ofErrno n).ref args
    [("errno", .int n), ("strerror", .str (wordsOf n)), ("filename", (paths.head?).getD .none),
     ("filename2", ((paths.drop 1).head?).getD .none)])

/-! ## Paths -/

/-- a path that an argument is: the text, and the value that complaints show -/
structure Named where
  path : Text
  shown : Value

def named (function : Text) (more : Text) (v : Value) : Eval Named := do
  let refuse (v : Value) : Eval Named := do
    mistyped (function ++ ": path should be string, bytes" ++ more ++ ", not " ++ (← kindOf v))
  let w ← get
  match w.inner v with
  | .str t =>
    if '\x00' ∈ t then misvalued "embedded null byte"
    return { path := t, shown := .str t }
  | .bytes r => return { path := Raw.toText r, shown := .bytes r }
  | .ref _ =>
    match ← method? v "__fspath__" with
    | some f =>
      match (← get).inner (← call f []) with
      | .str t => return { path := t, shown := .str t }
      | .bytes r => return { path := Raw.toText r, shown := .bytes r }
      | x =>
        mistyped ("expected " ++ (← kindOf v) ++ ".__fspath__() to return str or bytes, not " ++ (← kindOf x))
    | none => refuse v
  | _ => refuse v

def pathAt (g : Given) (function : Text) (i : Nat) (name : Text) : Eval Named := do
  match g.get? i name with
  | some v => named function " or os.PathLike" v
  | none => mistyped (function ++ "() missing required argument '" ++ name ++ "' (pos " ++ Text.ofNat (i + 1) ++ [')'])

def edit (shown : List Value) (change : Tree → Place → Except OsError Tree) : Eval Value := do
  let t ← tree
  match change t (← host).here with
  | .ok t =>
    setTree t
    return .none
  | .error e => raiseOs e shown

def listDirectory (g : Given) : Eval Value := do
  let v := g.getD 0 "path" .none
  let p ← if v.isNone then pure { path := ['.'], shown := .none : Named } else named "listdir" ", os.PathLike, integer or None" v
  let t ← tree
  match t.locate (← host).here p.path with
  | .error e => raiseOs e [p.shown]
  | .ok q =>
    if t.isDirectoryAt q then
      newList ((t.namesIn q).reverse.map fun n =>
        match p.shown with
        | .bytes _ => .bytes (Raw.ofText n)
        | _ => .str n)
    else if (t.node? q).isSome then raiseOs .notDirectory [p.shown]
    else raiseOs .noEntry [p.shown]

/-- what the system knows of a node -/
def facts (n : Node) (place : Place) : Value :=
  let inner : Nat := ((Hash.text place.path).toNat % 0x7fffff) + 2
  let device : Nat := match n with
    | .device _ => 5
    | _ => 2049
  .tuple [.int (Tool.Status.modeNumber n), .int inner, .int device, .int (if n = .directory then 2 else 1), .int 0, .int 0,
    .int (Tool.sizeOf n), .int (Tool.blocksOf n)]

/-- what the system knows of the node at a path, or of an open file -/
def statOf (g : Given) : Eval Value := do
  let follow ← g.truth 1 "follow_symlinks" true
  match (← get).inner (g.getD 0 "path" .none) with
  | .int n =>
    let t ← tree
    let here := (← host).here
    let path : Text := "/proc/self/fd/" ++ Text.ofInt n
    match t.locate here path with
    | .ok q => return facts ((t.node? q).getD (.device .pipe)) q
    | .error _ => raiseNumber 9 []
  | v =>
    let p ← named (if follow then "stat" else "lstat") (if follow then ", os.PathLike or integer" else " or os.PathLike") v
    let t ← tree
    let here := (← host).here
    match if follow then t.locate here p.path else t.linkPlace here p.path with
    | .error e => raiseOs e [p.shown]
    | .ok q =>
      match t.node? q with
      | none => raiseOs .noEntry [p.shown]
      | some n => return facts n q

/-- two paths for a change -/
def pathPair (g : Given) (function : Text) : Eval (Named × Named) := do
  return (← pathAt g function 0 "src", ← pathAt g function 1 "dst")

/-- another mode for what stands at a path -/
def changeMode (g : Given) : Eval Value := do
  let p ← pathAt g "chmod" 0 "path"
  let mode := ((← g.whole? 1 "mode").getD 0).toNat
  edit [p.shown] fun t here =>
    match t.locate here p.path with
    | .error e => .error e
    | .ok q =>
      match t.node? q with
      | some (.file bytes _) => .ok (t.put q (.file bytes (mode % 0o10000)))
      | some _ => .ok t
      | none => .error .noEntry

def cutFile (g : Given) : Eval Value := do
  let p ← pathAt g "truncate" 0 "path"
  let size := ((← g.whole? 1 "length").getD 0).toNat
  edit [p.shown] fun t here =>
    match t.locate here p.path with
    | .error e => .error e
    | .ok q =>
      match t.node? q with
      | some (.file bytes mode) => .ok (t.put q (.file (bytes.take size ++ List.replicate (size - bytes.length) 0) mode))
      | some .directory => .error .isDirectory
      | some _ => .error .invalid
      | none => .error .noEntry

/-- one more name for a file -/
def linkTo (g : Given) : Eval Value := do
  let (p, q) ← pathPair g "link"
  edit [p.shown, q.shown] fun t here =>
    match t.lstat here p.path, t.slot here q.path with
    | .error e, _ | _, .error e => .error e
    | .ok .directory, _ => .error .denied
    | .ok n, .ok (dir, name) => if (t.node? (name :: dir)).isSome then .error .exists_ else .ok (t.put (name :: dir) n)

def linkTarget (g : Given) : Eval Value := do
  let p ← pathAt g "readlink" 0 "path"
  let t ← tree
  match t.lstat (← host).here p.path with
  | .ok (.link target) =>
    return match p.shown with
      | .bytes _ => .bytes (Raw.ofText target)
      | _ => .str target
  | .ok _ => raiseOs .invalid [p.shown]
  | .error e => raiseOs e [p.shown]

/-- the directory to work in -/
def enter (g : Given) : Eval Value := do
  let p ← pathAt g "chdir" 0 "path"
  let t ← tree
  match t.locate (← host).here p.path with
  | .error e => raiseOs e [p.shown]
  | .ok q =>
    if t.isDirectoryAt q then
      modifyHost fun h => { h with here := q }
      return .none
    else raiseOs (if (t.node? q).isSome then .notDirectory else .noEntry) [p.shown]

/-- what stands at a path may be used in some way -/
def allowed (g : Given) : Eval Value := do
  let p ← pathAt g "access" 0 "path"
  let mode := ((← g.whole? 1 "mode").getD 0).toNat
  let t ← tree
  return .truth (match t.stat (← host).here p.path with
    | .ok (.file _ m) => mode % 2 = 0 || Node.startable m
    | .ok (.device _) => mode % 2 = 0
    | .ok _ => true
    | .error _ => false)

/-! ## Surroundings -/

/-- the environment as a dictionary of bytes -/
def environment : Eval Value := do
  newDict ((← host).environment.map fun p => (.bytes p.1, .bytes p.2))

def bytesAtPlace (g : Given) (i : Nat) : Eval Raw := do
  let w ← get
  match bytesOf? w (g.at_ i) with
  | some r => return r
  | none =>
    match w.inner (g.at_ i) with
    | .str t => return Raw.ofText t
    | v => mistyped ("a bytes-like object is required, not '" ++ (← kindOf v) ++ ['\''])

def writeChannel (g : Given) : Eval Value := do
  let n ← wholeOf (g.at_ 0)
  let w ← get
  match bytesOf? w (g.at_ 1) with
  | none => mistyped ("a bytes-like object is required, not '" ++ (← kindOf (g.at_ 1)) ++ ['\''])
  | some r =>
    if n = 1 ∨ n = 2 then
      modifyHost (·.say (n = 2) r)
      return .int r.length
    else raiseNumber 9 []

def readChannel (g : Given) : Eval Value := do
  let n ← wholeOf (g.at_ 0)
  let size := ((← g.whole? 1 "length").getD 0).toNat
  if n ≠ 0 then raiseNumber 9 []
  let r := (← host).input
  modifyHost fun h => { h with input := r.drop size, usedInput := true }
  return .bytes (r.take size)

/-! ## Other programs -/

/-- what comes of a command -/
def outcomeOf (k : Tool.Ask) : Eval Tool.Told := do
  let _ ← tree
  match (← host).told with
  | t :: rest =>
    modifyHost fun h => { h with told := rest, said := [], tree := t.tree }
    return t
  | [] => throw (.asks k)

/-- runs a command: its words, what it reads, whether its output and its complaints come back, its environment and its
directory; what comes back is its status, the signal that has ended it, and what it has printed -/
def runCommand (g : Given) : Eval Value := do
  let w ← get
  let rawOf (v : Value) : Raw :=
    match w.inner v with
    | .str t => Raw.ofText t
    | .bytes r => r
    | _ => []
  let command := (← itemsOf (g.at_ 0)).map rawOf
  let input? : Option Raw := match g.at_ 1 with
    | .bytes r => some r
    | _ => none
  let captured ← truthOf (g.at_ 2)
  let complaints : Tool.Complaints := match g.at_ 3 with
    | .int 1 => .captured
    | .int 2 => .joined
    | _ => .shared
  let environment ← (do
    match g.at_ 4 with
    | .none => return (← host).environment
    | v =>
      return (← itemsOf v).filterMap fun p =>
        match p with
        | .tuple [k, x] => some (rawOf k, rawOf x)
        | _ => none)
  let t ← tree
  let here := (← host).here
  let place ← (do
    match g.at_ 5 with
    | .none => return here
    | v =>
      let p := Raw.toText (rawOf v)
      match t.locate here p with
      | .error e => raiseOs e [v]
      | .ok q =>
        if t.isDirectoryAt q then return q
        else raiseOs (if (t.node? q).isSome then .notDirectory else .noEntry) [v])
  let name := command.headD []
  let search := (environment.find? (·.1 = ("PATH" : Raw))).map (·.2)
  match Shell.Image.find t place search name command with
  | .error e => raiseOs e [(← itemsOf (g.at_ 0)).headD .none]
  | .ok _ =>
    let own := (← host).input
    let told ← outcomeOf
      { command, input := some (input?.getD own), captured, complaints, environment := some environment, place := some place }
    if input?.isNone ∧ told.left.length ≠ own.length then
      modifyHost fun h => { h with input := told.left, usedInput := true }
    let signal : Value := match told.signal with
      | some n => .int n
      | none => .none
    return .tuple [.int told.status, signal, .bytes told.output, .bytes told.complaints, .int told.spent]

/-! ## Functions by name -/

/-- a path from the root without links and detours, as far as it leads -/
def realPath (g : Given) : Eval Value := do
  let p ← pathAt g "realpath" 0 "filename"
  let t ← tree
  let here := (← host).here
  let c : Tool.Call := { name := [], arguments := [], tree := t, here }
  return .str (match c.canonical .nothing true (Raw.ofText (if p.path = [] then ['.'] else p.path)) with
    | .ok q => q.path
    | .error _ => Path.normal (pathJoin here.path p.path))
where
  /-- one path behind another -/
  pathJoin (a b : Text) : Text :=
    if b.head? = some '/' then b else if a.getLast? = some '/' then a ++ b else a ++ '/' :: b

def function (name : String) (g : Given) : Eval Value := do
  match name with
  | "getcwd" => return .str (← host).here.path
  | "getcwdb" => return .bytes (Raw.ofText (← host).here.path)
  | "chdir" => enter g
  | "listdir" => listDirectory g
  | "mkdir" =>
    let p ← pathAt g "mkdir" 0 "path"
    edit [p.shown] fun t here => Tool.makeOne t here (Raw.ofText p.path)
  | "rmdir" =>
    let p ← pathAt g "rmdir" 0 "path"
    edit [p.shown] fun t here => Tool.removeEmpty t here (Raw.ofText p.path)
  | "remove" | "unlink" =>
    let p ← pathAt g name.toList 0 "path"
    edit [p.shown] fun t here =>
      match t.lstat here p.path with
      | .ok .directory => .error .isDirectory
      | _ => (t.remove here p.path).map (·.1)
  | "rename" | "replace" =>
    let (p, q) ← pathPair g name.toList
    edit [p.shown, q.shown] fun t here => (t.rename here p.path q.path).map (·.1)
  | "access" => allowed g
  | "chmod" => changeMode g
  | "symlink" =>
    let (p, q) ← pathPair g "symlink"
    edit [p.shown, q.shown] fun t here => (t.symlink here q.path p.path).map (·.1)
  | "readlink" => linkTarget g
  | "link" => linkTo g
  | "truncate" => cutFile g
  | "umask" =>
    let old := (← host).umask
    let new := ((← g.whole? 0 "mask").getD 0).toNat % 0o1000
    modifyHost fun h => { h with umask := new }
    return .int old
  | "fspath" =>
    let w ← get
    match w.inner (g.at_ 0) with
    | .str _ | .bytes _ => return g.at_ 0
    | _ =>
      let t ← pathOf (g.at_ 0)
      return .str t
  | "strerror" => return .str (wordsOf (← wholeOf (g.at_ 0)))
  | "_stat" => statOf g
  | "_realpath" => realPath g
  | "isatty" => return .truth false
  | "write" => writeChannel g
  | "read" => readChannel g
  | "getpid" => return .int 4242
  | "getppid" => return .int 4241
  | "getuid" | "geteuid" | "getgid" | "getegid" => return .int 0
  | "_exit" =>
    let n ← wholeOf (g.getD 0 "status" (.int 0))
    throw (.exits (n % 256).toNat)
  | "_die" => throw (.killed (← wholeOf (g.at_ 0)).toNat)
  | "_environment" => environment
  | "putenv" =>
    let k ← bytesAtPlace g 0
    let v ← bytesAtPlace g 1
    modifyHost fun h => { h with environment := h.environment.filter (·.1 ≠ k) ++ [(k, v)] }
    return .none
  | "unsetenv" =>
    let k ← bytesAtPlace g 0
    modifyHost fun h => { h with environment := h.environment.filter (·.1 ≠ k) }
    return .none
  | "_run" => runCommand g
  | "_pass" =>
    let n ← wholeOf (g.at_ 0)
    modifyHost fun h => { h with slept := h.slept + n.toNat }
    return .none
  | "cpu_count" => return .int 4
  | "urandom" =>
    let n ← wholeOf (g.at_ 0)
    return .bytes ((List.range n.toNat).map fun (i : Nat) => Char.ofNat ((i * 7919 + 31) * 104729 / 13 % 256))
  | _ => return .none

def functions : String :=
  "getcwd getcwdb chdir listdir mkdir rmdir remove unlink rename replace access chmod symlink readlink link truncate " ++
    "umask fspath strerror _stat _realpath isatty write read getpid getppid getuid geteuid getgid getegid _exit _die " ++
    "_environment putenv unsetenv _run _pass cpu_count urandom"

/-- numbers and names -/
def values : Eval (List (Text × Value)) := do
  let numbers : List (String × Int) :=
    [("F_OK", 0), ("R_OK", 4), ("W_OK", 2), ("X_OK", 1), ("O_RDONLY", 0), ("O_WRONLY", 1), ("O_RDWR", 2), ("O_CREAT", 64),
     ("O_EXCL", 128), ("O_TRUNC", 512), ("O_APPEND", 1024), ("O_NONBLOCK", 2048), ("O_CLOEXEC", 524288), ("SEEK_SET", 0),
     ("SEEK_CUR", 1), ("SEEK_END", 2), ("EX_OK", 0), ("EX_USAGE", 64), ("EX_DATAERR", 65), ("EX_NOINPUT", 66),
     ("EX_UNAVAILABLE", 69), ("EX_SOFTWARE", 70), ("EX_OSERR", 71), ("EX_CANTCREAT", 73), ("EX_IOERR", 74),
     ("EX_TEMPFAIL", 75), ("EX_NOPERM", 77), ("EX_CONFIG", 78), ("WNOHANG", 1), ("P_WAIT", 0), ("P_NOWAIT", 1)]
  let words : List (String × Text) :=
    [("name", "posix"), ("sep", ['/']), ("linesep", ['\n']), ("pathsep", [':']), ("curdir", ['.']), ("pardir", ['.', '.']),
     ("devnull", "/dev/null"), ("extsep", ['.']), ("defpath", "/bin:/usr/bin")]
  let others : List (String × Value) :=
    numbers.map (fun p => (p.1, .int p.2)) ++ words.map (fun p => (p.1, .str p.2)) ++
      [("altsep", .none), ("error", .base .osError)]
  return others.map fun p => (p.1.toList, p.2)

end IncludeAudit.Offside.Surroundings
