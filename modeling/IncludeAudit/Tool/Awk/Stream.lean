/-
Records that come in and output that goes out. Output waits until it is flushed; files and commands stay open under
their names until they are closed.

- `nextRecord`: a record of the main input, `send`: output to a place, `close`: the end of a file or a command.
-/
import IncludeAudit.Tool.Awk.Lexer
import IncludeAudit.Tool.Awk.World

namespace IncludeAudit.Tool.Awk

/-! ## Records -/

inductive Ending
  | paragraph
  | at_ (c : Char)
  | search (r : Regex)

/-- how records end by now -/
def ending : Eval Ending := do
  let w ← get
  match w.setting "RS" with
  | [] => return .paragraph
  | [c] => return .at_ c
  | t =>
    let r ← searchOf t
    return .search r

/-- lines up to an empty one, the latest first, and what is behind them -/
def takeParagraph : (fuel : Nat) → Raw → List Raw → List Raw × Raw
  | 0, r, ls => (ls, r)
  | fuel + 1, r, ls =>
    let l := r.takeWhile (· ≠ '\n')
    match r.drop l.length with
    | [] => (if l = [] then ls else l :: ls, [])
    | _ :: rest => if l = [] then (ls, rest.dropWhile (· = '\n')) else takeParagraph fuel rest (l :: ls)

/-- the first record of a text that is not empty, and what is behind it -/
def Ending.split (e : Ending) (t : Raw) : Option (Raw × Raw) :=
  match e with
  | .at_ c => if t = [] then none else some (t.takeWhile (· ≠ c), (t.dropWhile (· ≠ c)).drop 1)
  | .paragraph =>
    let t := t.dropWhile (· = '\n')
    if t = [] then none
    else
      let (ls, rest) := takeParagraph (t.length + 1) t []
      some (Text.paste ['\n'] ls.reverse, rest)
  | .search r =>
    if t = [] then none
    else
      match (Regex.findAll {} r t).find? fun p => p.1.position < p.2.position with
      | some (s, e) => some (t.take s.position, e.rest)
      | none =>
        -- a line feed at the very end belongs to no record
        some (t, [])

/-- a variable assignment among the arguments -/
def assignment? (a : Raw) : Option (Raw × Raw) :=
  let n := a.takeWhile fun c => startsName c || c.isDigit
  match a.drop n.length with
  | '=' :: v => if n.head?.any startsName then some (n, v) else none
  | _ => none

/-- assigns to a variable by its name; a variable that the program does not use is left alone -/
def assignNamed (n v : Raw) : Eval Unit := do
  let w ← get
  match w.names.findIdx? (· = n) with
  | some k => setVariable (.global k) (.given (unescaped v))
  | none => return ()

/-- a file that cannot be read -/
def unreadable {α : Type} (f : Raw) (e : OsError) : Eval α :=
  match e with
  | .isDirectory => throw (.fault ("read error (" ++ e.words ++ ")"))
  | e => throw (.fault ("cannot open \"" ++ f ++ "\" (" ++ e.words ++ ")"))

/-- opens the next file among the arguments, or the input when there is none; false when nothing is left -/
def openNext : (fuel : Nat) → Eval Bool
  | 0 => return false
  | fuel + 1 => do
    let w ← get
    let count := (truncated (w.plain "ARGC").float).toNat
    if w.argument < count then
      let k ← arrayOf (.global (special "ARGV"))
      let n : Int := w.argument
      set { w with argument := w.argument + 1 }
      let v ← withTable k fun t =>
        match t.find (.number n) false with
        | (some i, t) => (t.get i, t)
        | (none, t) => (.unset, t)
      let a ← textOf v
      match assignment? a with
      | some (n, v) =>
        assignNamed n v
        openNext fuel
      | none =>
        if a = [] then openNext fuel
        else
          let begin (onInput : Bool) (text : Raw) : Eval Unit :=
            modify fun w =>
              let w := (w.setPlain "FNR" (.number 0)).setPlain "FILENAME" (.given a)
              { w with
                main := text, isOpen := true, onInput, hasRead := true
                usesInput := w.usesInput || onInput }
          if a = ['-'] ∨ a = ("/dev/stdin" : Raw) then
            begin true []
            return true
          else
            let w ← get
            match { w.call with tree := w.tree }.read a with
            | .ok t =>
              begin false t
              return true
            | .error e => unreadable a e
    else if w.hasRead then return false
    else
      let w := w.setPlain "FILENAME" (.given ['-'])
      set { w with main := [], isOpen := true, onInput := true, hasRead := true, usesInput := true }
      return true

def nextRecord : (fuel : Nat) → Eval (Option Raw)
  | 0 => throw .exhausted
  | fuel + 1 => do
    let w ← get
    if w.isOpen then
      let e ← ending
      match e.split (if w.onInput then w.input else w.main) with
      | some (r, rest) =>
        modify fun w => if w.onInput then { w with input := rest } else { w with main := rest }
        return some r
      | none =>
        modify fun w => { w with isOpen := false, main := [] }
        nextRecord fuel
    else if ← openNext (fuel + 1) then nextRecord fuel
    else return none

/-! ## Output -/

/-- sends what waits to the output -/
def flushOutput : Eval Unit :=
  modify fun w => if w.held = [] then w else { w with said := (false, w.held.reverse.flatten) :: w.said, held := [] }

/-- writes what waits for a file -/
def flushFile (s : Sink) : Eval Sink := do
  match s.outlet with
  | .command => return s
  | _ =>
    if s.chunks = [] then return s
    else
      let w ← get
      match w.tree.append w.call.here (Raw.toText s.name) (Raw.toBytes s.chunks.reverse.flatten) with
      | .ok (t, _) => set { w with tree := t }
      | .error _ => pure ()
      return { s with chunks := [] }

/-- writes everything that waits, except for commands -/
def flushAll : Eval Unit := do
  flushOutput
  let w ← get
  let sinks ← w.sinks.mapM flushFile
  modify fun w => { w with sinks }

/-- bytes of the input that are read at once -/
def blockSize : Nat := 4096

/-- has a command run and waits for it -/
def ask (command : Raw) (input : Option Raw) (captured : Bool) : Eval Told := do
  let w ← get
  match w.told with
  | t :: rest =>
    set { w with told := rest, tree := t.tree, said := [] }
    return t
  | [] =>
    let size := w.call.input.length
    let used := size - w.input.length
    let left := w.call.input.drop ((used + blockSize - 1) / blockSize * blockSize)
    let input := if input.isNone ∧ w.usesInput then some left else input
    throw (.asks { command := ["/bin/sh", "-c", command], input, captured })

/-- the status of a command as a number -/
def Told.number (t : Told) : Nat :=
  match t.signal with
  | some n => 256 + n
  | none => t.status

/-- names of the output itself -/
def isOutput (n : Raw) : Bool :=
  n = ("/dev/stdout" : Raw) || n = ['-']

/-- opens a file for output -/
def openSink (o : Outlet) (n : Raw) : Eval Unit := do
  let w ← get
  match o with
  | .command =>
    flushAll
    modify fun w => { w with sinks := { outlet := o, name := n } :: w.sinks }
  | _ =>
    let p := Raw.toText n
    let edit :=
      match o with
      | .append => w.tree.append w.call.here p []
      | _ => w.tree.write w.call.here p [] false
    match edit with
    | .ok (t, _) => set { w with tree := t, sinks := { outlet := o, name := n } :: w.sinks }
    | .error e => throw (.fault ("cannot open \"" ++ n ++ "\" for output (" ++ e.words ++ ")"))

def Outlet.isCommand : Outlet → Bool
  | .command => true
  | _ => false

/-- sends output to a place -/
def send (to_ : Option (Outlet × Raw)) (t : Raw) : Eval Unit := do
  match to_ with
  | none => modify fun w => { w with held := t :: w.held }
  | some (o, n) =>
    if o.isCommand = false ∧ isOutput n then modify fun w => { w with held := t :: w.held }
    else if o.isCommand = false ∧ n = ("/dev/stderr" : Raw) then modify fun w => { w with said := (true, t) :: w.said }
    else
      let w ← get
      let isIt (s : Sink) : Bool := s.name = n && s.outlet.isCommand = o.isCommand
      if !w.sinks.any isIt then openSink o n
      modify fun w =>
        match w.sinks.find? isIt with
        | some s => { w with sinks := { s with chunks := t :: s.chunks } :: w.sinks.filter fun k => !isIt k }
        | none => w

/-- closes output: a command runs now, with what has been sent to it -/
def closeSink (s : Sink) : Eval Nat := do
  match s.outlet with
  | .command =>
    modify fun w => { w with sinks := w.sinks.filter fun k => !(k.name = s.name && k.outlet.isCommand) }
    let t ← ask s.name (some s.chunks.reverse.flatten) false
    return Told.number t
  | _ =>
    let s ← flushFile s
    modify fun w => { w with sinks := w.sinks.filter fun k => !(k.name = s.name && !k.outlet.isCommand) }
    return 0

/-- closes what is open under a name; none when there is nothing -/
def close (n : Raw) : Eval (Option Nat) := do
  let w ← get
  match w.sinks.find? (·.name = n), w.feeds.find? (·.name = n) with
  | some s, _ =>
    let k ← closeSink s
    return some k
  | none, some f =>
    set { w with feeds := w.feeds.filter (·.name ≠ n) }
    return some f.status
  | none, none => return none

/-- the end of all output -/
def closeAll : (fuel : Nat) → Eval Unit
  | 0 => return ()
  | fuel + 1 => do
    let w ← get
    match w.sinks with
    | [] => flushOutput
    | s :: _ =>
      let _ ← closeSink s
      closeAll fuel

/-! ## Input besides the main one -/

/-- opens a file or a command to be read; false when there is no such file -/
def openFeed (n : Raw) (isCommand : Bool) : Eval Bool := do
  let w ← get
  if w.feeds.any fun f => f.name = n && f.isCommand = isCommand then return true
  else if isCommand then
    flushAll
    let t ← ask n none true
    modify fun w => { w with feeds := { name := n, isCommand, rest := t.output, status := Told.number t } :: w.feeds }
    return true
  else if n = ['-'] ∨ n = ("/dev/stdin" : Raw) then
    set { w with usesInput := true, input := [], feeds := { name := n, isCommand, rest := w.input } :: w.feeds }
    return true
  else
    flushAll
    let w ← get
    match { w.call with tree := w.tree }.read n with
    | .ok t =>
      set { w with feeds := { name := n, isCommand, rest := t } :: w.feeds }
      return true
    | .error _ => return false

def feedRecord (n : Raw) (isCommand : Bool) : Eval (Option Raw) := do
  let e ← ending
  let w ← get
  match w.feeds.find? fun f => f.name = n && f.isCommand = isCommand with
  | none => return none
  | some f =>
    match e.split f.rest with
    | none => return none
    | some (r, rest) =>
      let feeds := w.feeds.map fun g => if g.name = n && g.isCommand = isCommand then { g with rest } else g
      set { w with feeds }
      return some r

end IncludeAudit.Tool.Awk
