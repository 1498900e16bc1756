/-
The state of a running script: the world around it, which it shares with everything that it starts, and its own
variables, functions and descriptors.

- `World`: the file tree and the open streams, `St`: one shell.
-/
import IncludeAudit.Shell.Glob
import IncludeAudit.Shell.Pattern
import IncludeAudit.Shell.Printer
import IncludeAudit.Tool.Condition
import IncludeAudit.Tree.Process

namespace IncludeAudit.Shell

/-- how a process ends -/
inductive Exit
  | code (n : Nat)
  | signal (n : Nat)
  deriving DecidableEq, Repr

def Exit.status : Exit → Nat
  | .code n => n
  | .signal n => 128 + n

/-- something that has been written -/
structure Chunk where
  /-- when it was written -/
  time : Nat
  /-- the process in the background that has written it, or 0 -/
  job : Nat
  text : Raw

/-- a process in the background, which has been carried out ahead of time -/
structure Job where
  number : Raw
  /-- its number as it is counted here -/
  process : Nat
  /-- its number among the processes in the background -/
  index : Nat := 0
  /-- what runs there, as it is shown -/
  text : Raw := []
  /-- how it ends, and when -/
  exit : Exit
  ended : Nat
  /-- somebody has waited for it -/
  waited : Bool := false
  /-- it is in the list of the shell -/
  listed : Bool := true
  /-- this shell has started it, and not a shell around it -/
  ours : Bool := true

/-- where a descriptor leads -/
inductive Stream
  /-- what is written is kept, the latest first -/
  | gathered (chunks : List Chunk)
  /-- what can be read -/
  | supply (rest : Raw)
  | file (place : Place) (offset : Nat) (append : Bool)
  | device (d : Device)

/-- what processes share -/
structure World where
  tree : Tree
  streams : Array Stream := #[]
  /-- processes that have been started -/
  processes : Nat := 0
  /-- signals under way, with the numbers of the processes that they go to -/
  sent : List (Nat × Nat) := []
  /-- milliseconds that have passed -/
  clock : Nat := 0
  /-- the process in the background that is being carried out, or 0 -/
  job : Nat := 0
  /-- when everything that runs is to be stopped -/
  deadline : Option Nat := none
  /-- this time has come -/
  expired : Bool := false

namespace World

/-- one more stream, and its number -/
def add (w : World) (s : Stream) : World × Nat :=
  ({ w with streams := w.streams.push s }, w.streams.size)

/-- another stream in the place of an old one -/
def set (w : World) (n : Nat) (s : Stream) : World :=
  { w with streams := w.streams.setIfInBounds n s }

def bytesAt (w : World) (p : Place) : Raw :=
  match w.tree.node? p with
  | some (.file bytes _) => Raw.ofBytes bytes
  | _ => []

/-- bytes put into a file from an offset on -/
def overwrite (old : List UInt8) (offset : Nat) (new : List UInt8) : List UInt8 :=
  let front := old.take offset
  front ++ List.replicate (offset - front.length) 0 ++ new ++ old.drop (offset + new.length)

def write (w : World) (n : Nat) (r : Raw) : World :=
  if r = [] then w
  else
    match w.streams[n]? with
    | some (.gathered chunks) => w.set n (.gathered ({ time := w.clock, job := w.job, text := r } :: chunks))
    | some (.file p offset append) =>
      match w.tree.node? p with
      | some (.file bytes mode) =>
        let offset := if append then bytes.length else offset
        let w := { w with tree := w.tree.put p (.file (overwrite bytes offset (Raw.toBytes r)) mode) }
        w.set n (.file p (offset + r.length) append)
      | _ => w
    | _ => w

/-- what is left to be read of a stream -/
def left (w : World) (n : Nat) : Raw :=
  match w.streams[n]? with
  | some (.supply rest) => rest
  | some (.file p offset _) => (w.bytesAt p).drop offset
  | some (.device d) => ((Tool.Call.given d).toOption).getD []
  | _ => []

/-- moves a stream forward over bytes that have been read -/
def advance (w : World) (n : Nat) (count : Nat) : World :=
  match w.streams[n]? with
  | some (.supply rest) => w.set n (.supply (rest.drop count))
  | some (.file p offset append) => w.set n (.file p (offset + count) append)
  | _ => w

/-- moves a stream forward by what a tool has taken; of a pipe whole blocks are gone -/
def take (w : World) (n : Nat) (t : Tool.Taken) : World :=
  match t with
  | .nothing => w
  | .exactly k => w.advance n k
  | .everything => w.advance n (w.left n).length
  | .blocks k =>
    match w.streams[n]? with
    | some (.supply _) => w.advance n ((k + 8191) / 8192 * 8192)
    | _ => w.advance n k

/-- all that has been written to a stream, in the order of time -/
def gathered (w : World) (n : Nat) : Raw :=
  match w.streams[n]? with
  | some (.gathered chunks) =>
    let chunks := chunks.reverse
    let isOrdered := (chunks.zip chunks.tail).all fun p => p.1.time ≤ p.2.time
    let chunks := if isOrdered then chunks else chunks.mergeSort fun a b => a.time ≤ b.time
    chunks.flatMap (·.text)
  | _ => []

/-- time passes, but not beyond the time at which everything is to be stopped -/
def pass (w : World) (span : Nat) : World :=
  match w.deadline with
  | some d => if d < w.clock + span then { w with clock := d, expired := true } else { w with clock := w.clock + span }
  | none => { w with clock := w.clock + span }

/-- takes back what a process in the background writes from now on -/
def silence (w : World) (job : Nat) : World :=
  { w with streams := w.streams.map fun s =>
      match s with
      | .gathered chunks => .gathered (chunks.filter fun k => k.job ≠ job || k.time ≤ w.clock)
      | s => s }

end World

/-- a variable; an array has elements by their indices -/
structure Variable where
  value : Option Raw := none
  exported : Bool := false
  readonly : Bool := false
  elements : Option (List (Raw × Raw)) := none
  /-- the indices are texts and not numbers -/
  keyed : Bool := false
  /-- values are expressions -/
  integer : Bool := false
  /-- letters become capitals, or small ones with `false` -/
  casing : Option Bool := none
  /-- the value is the name of the variable that is meant -/
  refers : Bool := false

/-- how a script goes on -/
inductive Flow
  | on
  | breaking (loops : Nat)
  | continuing (loops : Nat)
  | returning
  /-- the rest of the line is left out -/
  | discarded
  | ended (e : Exit)
  deriving DecidableEq, Repr

structure St where
  world : World
  /-- the number of the process -/
  process : Nat := 0
  /-- the number of the process that has started it -/
  starter : Nat := 0
  /-- the number of this part of the script, if it runs by itself -/
  self : Nat := 0
  /-- it is not a single command of a pipeline or in the background -/
  sheltered : Bool := false
  /-- a part of a script that runs by itself, with the number of the whole script -/
  isPart : Bool := false
  here : Place
  umask : Nat := 0o022
  name : Raw
  arguments : List Raw := []
  bindings : List (Raw × Variable) := []
  functions : List (Raw × Nat × Script) := []
  /-- descriptors and their streams -/
  fds : List (Nat × Nat)
  status : Nat := 0
  /-- the status of the last command whose output became part of a word -/
  inner : Nat := 0
  flow : Flow := .on
  options : List Char := []
  /-- what is done at signals and at the end -/
  traps : List (Raw × Raw) := []
  line : Nat := 1
  /-- loops around the command -/
  loops : Nat := 0
  /-- for each function under way, the variables to be put back -/
  locals : List (List (Raw × Option Variable)) := []
  /-- the command of the shell itself that is under way -/
  command : Option Raw := none
  /-- processes started in the background, the latest first -/
  jobs : List Job := []
  aliases : List (Raw × Raw) := []
  /-- letters of an argument that `getopts` has read -/
  optionLetters : Nat := 0
  /-- the wider language -/
  wide : Bool := false
  /-- the script has been given on the command line -/
  given : Bool := false
  /-- the functions under way, the innermost first -/
  calls : List Raw := []
  /-- further options by their names -/
  settings : List Raw := []
  /-- directories to come back to -/
  directories : List Raw := []
  /-- files whose commands are being carried out as part of the script, the innermost first -/
  sources : List Raw := []
  /-- the lines that the functions under way have been called from, the innermost first -/
  callLines : List Nat := []
  /-- how many shells are around this part of the script -/
  shells : Nat := 0
  /-- how many texts are being carried out inside one another -/
  texts : Nat := 0
  /-- the command that is being carried out -/
  current : Script := .nothing
  /-- the last word of the command before -/
  lastWord : Raw := []
  /-- texts that wait to be read by commands: the stream that holds a text, the commands and their line -/
  readers : List (Nat × Raw × Nat) := []
  /-- a trap is being carried out -/
  trapped : Bool := false
  /-- signals that were to be ignored when the shell started, and stay so -/
  deaf : List Raw := []
  /-- what the shell around would do at signals, as long as this part has not said otherwise -/
  outerTraps : List (Raw × Raw) := []
  /-- programs that have been found, with their paths and how often they have been used; in the plain shell, how often
  the directory has changed since -/
  found : List (Raw × Raw × Nat) := []
  /-- functions that are handed on to other shells -/
  exportedFunctions : List Raw := []
  /-- commands of the shell itself that are switched off -/
  disabled : List Raw := []
  /-- how the commands of the last pipeline have ended -/
  statuses : List Nat := [0]
  /-- variables that are assigned in front of the command under way -/
  inFront : List Raw := []
  /-- descriptors that variables hold, which stay open -/
  held : List Nat := []
  /-- the shell has ended because a command has failed -/
  died : Bool := false
  /-- what random numbers come from, and the last one -/
  seed : Nat × Nat := (42, 0)

/-- what is said of a process that a signal has ended -/
def signalWords : List (Nat × Raw) :=
  [(1, "Hangup"), (3, "Quit"), (4, "Illegal instruction"), (5, "Trace/breakpoint trap"), (6, "Aborted"),
   (7, "Bus error"), (8, "Floating point exception"), (9, "Killed"), (10, "User defined signal 1"),
   (11, "Segmentation fault"), (12, "User defined signal 2"), (14, "Alarm clock"), (15, "Terminated")]

namespace St

/-- the script goes on -/
def isOn (s : St) : Bool :=
  s.flow = .on

/-- how the script has ended -/
def exit (s : St) : Exit :=
  match s.flow with
  | .ended e => e
  | _ => .code s.status

def has (s : St) (c : Char) : Bool :=
  s.options.contains c

def stream? (s : St) (fd : Nat) : Option Nat :=
  (s.fds.find? (·.1 = fd)).map (·.2)

/-- lets a descriptor lead to a stream -/
def setStream (s : St) (fd stream : Nat) : St :=
  { s with fds := (fd, stream) :: s.fds.filter (·.1 ≠ fd) }

def write (s : St) (fd : Nat) (r : Raw) : St :=
  match s.stream? fd with
  | some n => { s with world := s.world.write n r }
  | none => s

/-- what is left to be read from a descriptor -/
def left (s : St) (fd : Nat) : Raw :=
  match s.stream? fd with
  | some n => s.world.left n
  | none => []

/-- moves the input forward -/
def takeInput (s : St) (t : Tool.Taken) : St :=
  match s.stream? 0 with
  | some n => { s with world := s.world.take n t }
  | none => s

/-- what stands in front of complaints -/
def lead (s : St) : Raw :=
  let command : Raw :=
    match s.command with
    | some c => c ++ ": "
    | none => []
  let name : Raw := if s.given ∧ s.calls ≠ [] then "environment" else s.sources.headD s.name
  if s.wide then name ++ ": line " ++ Text.ofNat s.line ++ ": " ++ command
  else s.name ++ ": " ++ Text.ofNat s.line ++ ": " ++ command

def complain (s : St) (message : Raw) (status : Nat) : St :=
  { s.write 2 (s.lead ++ message ++ ['\n']) with status }

/-- a complaint that leaves out the rest of the line -/
def discard (s : St) (message : Raw) : St :=
  { s.complain message 1 with flow := .discarded }

/-- a complaint that leaves out all that is being carried out: a script goes on with its next line, and a text that has
been given ends -/
def abandon (s : St) (message : Raw) : St :=
  { s.complain message 1 with flow := if s.given then .ended (.code 1) else .discarded }

/-- a complaint that ends the shell -/
def die (s : St) (message : Raw) : St :=
  { s.complain message 2 with flow := .ended (.code (if s.wide then 1 else 2)), died := true }

/-- the line around a place in a text that is so far from its end, and the place in the line -/
def lineAround (text : Raw) (left : Nat) : Raw × Nat :=
  let before := text.take (text.length - left)
  let whole := if before.getLast? = some '\n' then before.dropLast else before
  let start := (whole.reverse.takeWhile (· ≠ '\n')).length
  let line := (text.drop (whole.length - start)).takeWhile (· ≠ '\n')
  (line, start + (before.length - whole.length))

def wordBefore (line : Raw) (place : Nat) : Raw :=
  let line := line ++ ['\n']
  let isBlank (c : Char) : Bool := c = ' ' || c = '\t' || c = '\n'
  let place := if line.length ≤ place then line.length - 1 else place
  let upTo := line.take (place + 1)
  let stop := upTo.length - (upTo.tail.reverse.takeWhile isBlank).length
  let word := line.take stop
  let size := (word.tail.reverse.takeWhile fun c => c ∉ (" \n\t;|&" : Raw)).length
  let start := stop - 1 - size
  let word := (word.drop start).dropWhile isBlank
  word

/-- a text that cannot be read: what is wrong, and in the wider shell also the line. It ends the shell, unless the text
has been given to a command -/
def misread (s : St) (p : Pos) (m : Mistake) : St :=
  if s.wide then
    let lead (n : Nat) : Raw :=
      let numbered : Raw := "line " ++ Text.ofNat n ++ ": "
      s.sources.headD s.name ++ ": " ++ p.title ++ (if p.unnumbered then [] else numbered)
    let showing (line : Raw) : Raw := lead m.line ++ '\x60' :: line ++ ['\'']
    let reason : Raw := (m.reason.map fun r => lead m.line ++ r ++ ['\n']).getD []
    let message : Raw :=
      match m.missing, m.token, m.left with
      | some (c, n), _, _ => lead n ++ "unexpected EOF while looking for matching \x60" ++ c :: "'"
      | none, some [], _ =>
        let behind := p.rest.count '\n' + if p.rest.getLast? = some '\n' then 0 else 1
        reason ++ lead (p.line + behind) ++ "syntax error: unexpected end of file"
      | none, some t, _ =>
        let line := ((Text.pieces '\n' p.rest).drop (m.line - p.line)).headD []
        lead m.line ++ "syntax error near unexpected token \x60" ++ t ++ "'\n" ++ showing line
      | none, none, some left =>
        let (line, place) := lineAround p.rest left
        reason ++ lead m.line ++ "syntax error near \x60" ++ wordBefore line place ++ "'\n" ++ showing line
      | none, none, none => lead m.line ++ m.message
    let s := s.write 2 (message ++ ['\n'])
    if p.within then { s with status := m.status } else { s with status := m.status, flow := .ended (.code m.status) }
  else { s with line := m.line }.die m.message

/-- says of here-documents that their marks are missing -/
def warn (s : St) (unended : List (Nat × Nat × Raw)) : St :=
  unended.foldl (fun s u =>
    let (last, first, mark) := u
    s.write 2 (s.sources.headD s.name ++ ": line " ++ Text.ofNat last ++ ": warning: here-document at line " ++
      Text.ofNat first ++ " delimited by end-of-file (wanted \x60" ++ mark ++ "')\n")) s

/-- takes in what a tool prints -/
def say (s : St) (said : List (Bool × Raw)) : St :=
  said.foldl (fun s p => s.write (if p.1 then 2 else 1) p.2) s

/-- takes over the tree that a tool leaves -/
def settle (s : St) (tree : Option Tree) : St :=
  { s with world := { s.world with tree := tree.elim s.world.tree Tree.withoutProcesses } }

def answer (s : St) (a : Tool.Answer) : St :=
  { s.say a.said with status := a.status }

/-- another entry for a process in the background -/
def putJob (s : St) (j : Job) : St :=
  { s with jobs := s.jobs.map fun k => if k.process = j.process then j else k }

/-- says that a process has been ended by a signal, unless the time is up for the shell as well: one that the shell has
waited for, or one in the background -/
def sayEnd (s : St) (e : Exit) (inFront : Bool) (number text : Raw) : St :=
  match e with
  | .signal n =>
    match signalWords.find? (·.1 = n) with
    | some (_, words) =>
      if s.world.expired then s
      else if s.wide = false then s.write 2 (words ++ ['\n'])
      else if n = 15 then (if inFront then s.write 2 (words ++ ['\n']) else s)
      else { s with command := none }.complain (Raw.pad 5 false number ++ ' ' :: Raw.pad 24 true words ++ text) s.status
    | none => s
  | .code _ => s

/-- waits until a process in the background has ended -/
def waitFor (s : St) (j : Job) : St :=
  { s with world := s.world.pass (j.ended - s.world.clock) }.putJob { j with waited := true, listed := !s.wide && j.listed }

/-- a process in the background is ended by a signal -/
def killJob (s : St) (j : Job) (signal : Nat) : St :=
  { s with world := s.world.silence j.process }.putJob { j with exit := .signal signal, ended := s.world.clock }

/-! ## Variables -/

def variable_ (s : St) (name : Raw) : Option Variable :=
  (s.bindings.find? (·.1 = name)).map (·.2)

/-- the variable that a name means, behind names that stand for others -/
def resolve (s : St) : (fuel : Nat) → Raw → Raw
  | 0, name => name
  | fuel + 1, name =>
    match s.variable_ name with
    | some v =>
      match v.refers, v.value with
      | true, some other => if other = [] ∨ other = name then name else resolve s fuel other
      | _, _ => name
    | none => name

/-- how many names may stand for one another -/
def maxReferences : Nat := 8

def meant (s : St) (name : Raw) : Option Variable :=
  s.variable_ (s.resolve maxReferences name)

/-- the value of a variable; that of an array is its first element -/
def lookup? (s : St) (name : Raw) : Option Raw :=
  match s.meant name with
  | some v =>
    match v.elements with
    | some es => (es.find? (·.1 = ['0'])).map (·.2)
    | none => v.value
  | none => none

def put (s : St) (name : Raw) (v : Variable) : St :=
  if s.bindings.any (·.1 = name) then
    { s with bindings := s.bindings.map fun p => if p.1 = name then (name, v) else p }
  else { s with bindings := s.bindings ++ [(name, v)] }

def keySlot (key : Raw) : Nat :=
  key.foldl (fun n c => (n * 16777619 % 0x100000000) ^^^ c.toNat) 2166136261 % 1024

/-- puts an element of an array in place of the one before, or in its order -/
def setElement (keyed : Bool) (es : List (Raw × Raw)) (index value : Raw) : List (Raw × Raw) :=
  if es.any (·.1 = index) then es.map fun e => if e.1 = index then (index, value) else e
  else
    let isBefore (e : Raw × Raw) : Bool :=
      if keyed then keySlot e.1 < keySlot index
      else
        match Raw.nat? e.1, Raw.nat? index with
        | some m, some n => m < n
        | _, _ => true
    es.filter isBefore ++ (index, value) :: es.filter (!isBefore ·)

def cased (v : Variable) (t : Raw) : Raw :=
  match v.casing with
  | some true => t.map Char.toUpper
  | some false => t.map Char.toLower
  | none => t

/-- a complaint about a variable that is only to be read -/
def readonlyFault (s : St) (name : Raw) : St :=
  if s.wide then s.discard (name ++ ": readonly variable") else s.die (name ++ ": is read only")

/-- assigns a value, unless the variable is only to be read -/
def assign (s : St) (name value : Raw) : St :=
  let name := s.resolve maxReferences name
  let v := (s.variable_ name).getD {}
  if v.readonly then s.readonlyFault name
  else if s.wide ∧ name = "RANDOM" then { s with seed := ((Raw.nat? value).getD 0 % 0x100000000, 0) }
  else
    let exported := v.exported || s.has 'a'
    let value := cased v value
    match v.elements with
    | some es => s.put name { v with elements := some (setElement v.keyed es ['0'] value) }
    | none =>
      let s := s.put name { v with value := some value, exported }
      if name = "PATH" then { s with found := [] } else s

def assignElement (s : St) (name index value : Raw) : St :=
  let name := s.resolve maxReferences name
  let v := (s.variable_ name).getD {}
  if v.readonly then s.readonlyFault name
  else
    let es := v.elements.getD (v.value.toList.map fun x => (['0'], x))
    s.put name { v with elements := some (setElement v.keyed es index (cased v value)), value := none }

/-- takes a variable away -/
def unset (s : St) (name : Raw) : St :=
  { s with bindings := s.bindings.filter (·.1 ≠ name) }

/-- the number of a process as scripts see it -/
def processText (n : Nat) : Raw :=
  Text.ofNat (4242 + n)

def optionText (s : St) : Raw :=
  (if s.wide then ("abefhikmnprtuvxBCEHPTcs" : Raw) else "efIimnsxvVEabu").filter s.has

/-- options of the wider shell by their long names, with the letters that they have here -/
def wideOptions : List (Raw × Char) :=
  [("allexport", 'a'), ("braceexpand", 'B'), ("emacs", '1'), ("errexit", 'e'), ("errtrace", 'E'), ("functrace", 'T'),
   ("hashall", 'h'), ("histexpand", 'H'), ("history", '2'), ("ignoreeof", '3'), ("interactive-comments", '4'),
   ("keyword", 'k'), ("monitor", 'm'), ("noclobber", 'C'), ("noexec", 'n'), ("noglob", 'f'), ("nolog", '5'),
   ("notify", 'b'), ("nounset", 'u'), ("onecmd", 't'), ("physical", 'P'), ("pipefail", '|'), ("posix", '6'),
   ("privileged", 'p'), ("verbose", 'v'), ("vi", '7'), ("xtrace", 'x')]

/-- the next number in a row of random numbers -/
def nextSeed (seed : Nat) : Nat :=
  let n := if seed = 0 then 123459876 else seed
  (16807 * n) % 0x7fffffff

def randomOf (seed : Nat) : Nat :=
  ((seed >>> 16) ^^^ (seed &&& 0xffff)) &&& 0x7fff

/-- goes on to another random number than the last -/
def roll (s : St) : St :=
  let one := nextSeed s.seed.1
  let n := randomOf one
  if n = s.seed.2 then
    let two := nextSeed one
    { s with seed := (two, randomOf two) }
  else { s with seed := (one, n) }

/-- variables whose values the shell knows by itself, as long as nobody has taken them away -/
def ownValue? (s : St) (name : Raw) : Option Raw :=
  if s.bindings.any (·.1 = name) then known else none
where
  /-- the value of such a variable -/
  known : Option Raw :=
    match String.ofList name with
    | "LINENO" => some (Text.ofNat s.line)
    | "FUNCNAME" => s.calls.head?
    | "BASHPID" => some (processText s.self)
    | "BASH_SUBSHELL" => some (Text.ofNat s.shells)
    | "BASH_COMMAND" => some s.current.head
    | "BASH_ARGV0" => some s.name
    | "_" => some s.lastWord
    | "RANDOM" => some (Text.ofNat s.seed.2)
    | "SRANDOM" => some (Text.ofNat (nextSeed s.seed.1))
    | "EPOCHSECONDS" => some (Text.ofInt (Tool.present.seconds + s.world.clock / 1000))
    | "EPOCHREALTIME" =>
      let part := Text.ofNat (s.world.clock % 1000 * 1000)
      some (Text.ofInt (Tool.present.seconds + s.world.clock / 1000) ++ '.' :: List.replicate (6 - part.length) '0' ++ part)
    | "SECONDS" => some (Text.ofNat (s.world.clock / 1000 + ((s.lookup? name).map Raw.toNat).getD 0))
    | "SHELLOPTS" => some (Text.paste [':'] ((wideOptions.filter fun o => s.has o.2).map (·.1)))
    | "BASHOPTS" => some (Text.paste [':'] (s.settings.mergeSort Raw.le))
    | _ => none

/-- the value of a parameter; `@` and `*` are for the caller -/
def parameter? (s : St) (name : Raw) : Option Raw :=
  if name = "#" then some (Text.ofNat s.arguments.length)
  else if name = "?" then some (Text.ofNat s.status)
  else if name = "$" then some (processText s.process)
  else if name = "!" then (s.jobs.head?).map (·.number)
  else if name = "-" then some s.optionText
  else if name = "0" then some s.name
  else if name.all Char.isDigit then s.arguments[Raw.toNat name - 1]?
  else if s.wide then (s.ownValue? name).or (s.lookup? name)
  else s.lookup? name

/-- the characters that cut words -/
def separators (s : St) : Raw :=
  (s.lookup? "IFS").getD " \t\n"

/-- text goes by characters of UTF-8, and not by bytes -/
def byCharacters (s : St) : Bool :=
  s.wide && Tool.Locale.isWide (Tool.Locale.names.filterMap fun n => (s.lookup? n).map fun v => (n, v))

/-- bytes as they are compared and counted -/
def inward (s : St) (r : Raw) : Text :=
  if s.byCharacters then Raw.characters r else r

/-- what is compared and counted as bytes -/
def outward (s : St) (t : Text) : Raw :=
  if s.byCharacters then Raw.ofCharacters t else t

/-- a further option of the wider shell is on -/
def isSet (s : St) (setting : Raw) : Bool :=
  s.settings.contains setting

def manner (s : St) : Pattern.Manner :=
  if s.wide then { groups := s.isSet "extglob", wide := s.byCharacters } else { signs := "!" }

/-- the same where the case of letters may not matter -/
def foldingManner (s : St) : Pattern.Manner :=
  { s.manner with folded := s.isSet "nocasematch" }

/-- how pathnames are found -/
def globbing (s : St) : Glob.Manner :=
  { pattern := { s.manner with folded := s.isSet "nocaseglob" }, hidden := s.isSet "dotglob", dots := !s.wide
    deep := s.isSet "globstar" }

/-- the pattern that a field spells -/
def patternOf (s : St) (m : Pattern.Manner) (f : List CharSet.Marked) : Pattern :=
  Pattern.ofMarked m (if s.byCharacters then markedCharacters f else f)

def plainSlot (name : Raw) : Nat :=
  ((name.headD ' ').toNat * 16 + name.foldl (fun n c => n + c.toNat) 0) % 39

/-- variables and functions that are handed on to programs, in the order of the tables behind them -/
def environment (s : St) : List (Raw × Raw) :=
  let all := s.bindings.filterMap fun p => if p.2.exported then p.2.value.map fun v => (p.1, v) else none
  if s.wide then
    let (front, others) := all.partition fun p => s.inFront.contains p.1
    let front := front.mergeSort fun a b => keySlot a.1 % 4 ≤ keySlot b.1 % 4
    let handed : List (Raw × Nat × Script) := s.functions.filter fun f => s.exportedFunctions.contains f.1
    let lead : Raw := "BASH_FUNC_"
    let functions : List (Raw × Raw) := handed.map fun f => (lead ++ f.1 ++ "%%", handedFunction f.2.2)
    front ++ (others.reverse.mergeSort fun a b => keySlot a.1 ≤ keySlot b.1) ++ functions
  else
    -- the shell has put some of its own variables there first
    let (own, others) := all.partition fun p => p.1 ∈ ([("PATH" : Raw), "TERM", "MAIL", "PS1", "HISTSIZE"] : List Raw)
    (own ++ others).mergeSort fun a b => plainSlot a.1 ≤ plainSlot b.1

def bindingsOf (environment : List (Raw × Raw)) : List (Raw × Variable) :=
  environment.filterMap fun p => if isName p.1 then some (p.1, { value := some p.2, exported := true }) else none

/-- the working directory as it is spelled -/
def directory (s : St) : Raw :=
  let plain := Raw.ofText s.here.path
  match s.lookup? "PWD" with
  | some p =>
    match s.world.tree.locate s.here (Raw.toText p) with
    | .ok place => if p.head? = some '/' ∧ place = s.here then p else plain
    | .error _ => plain
  | none => plain

/-- what a descriptor leads to -/
def openEnd (s : St) (stream : Nat) : OpenEnd :=
  match s.world.streams[stream]? with
  | some (.file p _ _) => .node p
  | some (.device d) => .node (d.title :: ["dev"])
  | _ => .pipe stream

/-- the tree as a program sees it that is started here, or as the shell itself sees it -/
def seen (s : St) (name : Raw) (arguments : List Raw) (environment : List (Raw × Raw)) : Tree :=
  let base := ((Text.pieces '/' name).getLast?).getD []
  let program : Raw := if base = "sh" then "dash" else if base = "python3" then "python3.11" else base
  let ended (r : Raw) : Raw := r ++ ['\x00']
  let facts : List (Raw × Raw) :=
    [("comm", base.take 15 ++ ['\n']), ("cmdline", (name :: arguments).flatMap ended),
     ("environ", environment.flatMap fun p => ended (p.1 ++ '=' :: p.2))]
  -- a list of the open descriptors is itself read from an open directory
  let listed : List (Nat × OpenEnd) :=
    if base = "ls" then [((((List.range 64).find? fun n => (s.stream? n).isNone).getD 64), .node Tree.ownDescriptors)]
    else []
  s.world.tree.withProcess {
    descriptors := listed ++ s.fds.map fun f => (f.1, s.openEnd f.2)
    here := s.here
    program := "/usr/bin/" ++ Raw.toText program
    facts := facts.map fun f => (Raw.toText f.1, Raw.toBytes f.2)
    numbers := [processText s.process, processText s.starter] }

def call (s : St) (name : Raw) (arguments : List Raw) (environment : List (Raw × Raw)) : Tool.Call :=
  let others := s.fds.filter (3 ≤ ·.1)
  let output : Option Place :=
    match (s.stream? 1).bind fun n => s.world.streams[n]? with
    | some (.file p _ _) => some p
    | _ => none
  let inputSize : Option Nat :=
    match (s.stream? 0).bind fun n => s.world.streams[n]? with
    | some (.file p _ _) => some (s.world.bytesAt p).length
    | _ => none
  { name, arguments, environment, tree := s.seen name arguments environment, here := s.here, input := s.left 0, inputSize, output
    opened := others.map fun f => ("/dev/fd/" ++ Text.ofNat f.1, s.world.left f.2), umask := s.umask }

/-! ## Descriptors -/

/-- the state behind a part of a script that had its own descriptors; those that variables hold stay -/
def restore (s : St) (fds : List (Nat × Nat)) : St :=
  if s.held.isEmpty then { s with fds }
  else
    let kept := s.fds.filter fun f => s.held.contains f.1
    { s with fds := fds.filter (fun f => !s.held.contains f.1) ++ kept }

def namedStream? (s : St) (p : Raw) : Option (Option Nat) :=
  let number (r : Raw) : Option (Option Nat) := (Raw.nat? r).map s.stream?
  if p = "/dev/stdin" then some (s.stream? 0)
  else if p = "/dev/stdout" then some (s.stream? 1)
  else if p = "/dev/stderr" then some (s.stream? 2)
  else if ("/dev/fd/" : Raw).isPrefixOf p then number (p.drop 8)
  else if ("/proc/self/fd/" : Raw).isPrefixOf p then number (p.drop 14)
  else none

/-- opens a file for reading -/
def openInput (s : St) (fd : Nat) (p : Raw) : Except OsError St :=
  match s.namedStream? p with
  | some (some n) => .ok (s.setStream fd n)
  | some none => .error .noEntry
  | none =>
    let tree := s.seen s.name [] []
    match tree.locate s.here (Raw.toText p) with
    | .error e => .error e
    | .ok place =>
      match Tree.pipeAt? (s.fds.map (·.2)) place with
      | some n => .ok (s.setStream fd n)
      | none =>
      let stream : Except OsError Stream :=
        match tree.node? place with
        | some (.device .terminal) => .error .noDevice
        | some (.device d) => .ok (.device d)
        | some (.file bytes _) =>
          .ok (if Place.within Tree.processes place then .supply (Raw.ofBytes bytes) else .file place 0 false)
        | some _ => .ok (.file place 0 false)
        | none => .error .noEntry
      match stream with
      | .error e => .error e
      | .ok stream =>
        let (world, n) := s.world.add stream
        .ok ({ s with world }.setStream fd n)

/-- opens a file for writing; it is made when it is missing -/
def openOutput (s : St) (fd : Nat) (p : Raw) (append keep : Bool) : Except OsError St :=
  match s.namedStream? p with
  | some (some n) => .ok (s.setStream fd n)
  | some none => .error .noEntry
  | none =>
    let path := Raw.toText p
    let seen := s.seen s.name [] []
    match seen.target (Tree.maxLinks + 1) s.here path with
    | .error e => .error e
    | .ok place =>
      match seen.node? place with
      | some (.device .terminal) => .error .noDevice
      | some (.device .pipe) =>
        match Tree.pipeAt? (s.fds.map (·.2)) place with
        | some n => .ok (s.setStream fd n)
        | none => .error .noEntry
      | some (.device d) =>
        let (world, n) := s.world.add (.device d)
        .ok ({ s with world }.setStream fd n)
      | node =>
        let tree :=
          match node with
          | some (.file _ mode) => if keep then s.world.tree else s.world.tree.put place (.file [] mode)
          | _ => s.world.tree.put place (.file [] (0o666 &&& (0o777 ^^^ s.umask)))
        let (world, n) := { s.world with tree }.add (.file place 0 append)
        .ok ({ s with world }.setStream fd n)

/-- a stream of its own for a text to be read -/
def openText (s : St) (fd : Nat) (text : Raw) : St :=
  let (world, n) := s.world.add (.supply text)
  { s with world }.setStream fd n

/-- what a shell says of a file that it cannot open -/
def openFault (s : St) (p : Raw) (writing : Bool) (e : OsError) : Raw :=
  if s.wide then p ++ ": " ++ e.words
  else
    let words : Raw :=
      match e, writing with
      | .noEntry, true => "Directory nonexistent"
      | .noEntry, false => "No such file"
      | .notDirectory, true => "Directory nonexistent"
      | .notDirectory, false => "No such file"
      | e, _ => e.words
    (if writing then "cannot create " else "cannot open ") ++ p ++ ": " ++ words

def redirect (s : St) (r : Redirection) (target : Raw) : St × Bool :=
  let opened (writing : Bool) : Except OsError St → St × Bool
    | .ok s => (s, true)
    | .error e => (s.complain (s.openFault target writing e) (if s.wide then 1 else 2), false)
  let copy (s : St) : St × Bool :=
    if target = "-" then
      ({ s with fds := s.fds.filter (·.1 ≠ r.fd), held := s.held.filter (· ≠ r.fd) }, true)
    else
      match Raw.nat? target with
      | some n =>
        match s.stream? n with
        | some stream => (s.setStream r.fd stream, true)
        | none =>
          -- the plain shell has closed the old descriptor by then
          if r.fd = 2 ∧ !s.wide then ({ s with status := 2 }, false)
          else (s.complain (Text.ofNat n ++ ": Bad file descriptor") (if s.wide then 1 else 2), false)
      | none => (s.complain ("Syntax error: Bad fd number") 2, false)
  let guarded : Bool := s.has 'C' && (s.call [] [] []).stat target matches .ok (.file _ _)
  let refused : St × Bool :=
    (if s.wide then s.complain (target ++ ": cannot overwrite existing file") 1
      else s.complain ("cannot create " ++ target ++ ": File exists") 2, false)
  match r.direction with
  | .input => opened false (s.openInput r.fd target)
  | .both => opened true (s.openOutput r.fd target false true)
  | .output =>
    if guarded then refused else opened true (s.openOutput r.fd target false false)
  | .clobber => opened true (s.openOutput r.fd target false false)
  | .append => opened true (s.openOutput r.fd target true true)
  | .copyInput => copy s
  | .copyOutput =>
    if s.wide ∧ (Raw.nat? target).isNone ∧ target ≠ "-" then
      if guarded then refused
      else
      match opened true (s.openOutput 1 target false false) with
      | (s, true) => (s.setStream 2 ((s.stream? 1).getD 0), true)
      | other => other
    else copy s
  | .here => (s.openText r.fd target, true)
  | .hereWord => (s.openText r.fd (target ++ ['\n']), true)
  | .outputBoth append =>
    if guarded ∧ !append then refused
    else
    match opened true (s.openOutput 1 target append append) with
    | (s, true) => (s.setStream 2 ((s.stream? 1).getD 0), true)
    | other => other

end St
end IncludeAudit.Shell
