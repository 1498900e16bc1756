/-
The live view of a project's compilation database, as a state machine.

Every load of the database file takes a new generation number when it starts. Loads are never cancelled. They end in
any order and in two steps: a load commits its outcome, which counts only if its generation is still the latest, and
then it settles. A delete takes a generation as well, so that every load before it comes to nothing. A query waits
until the generation that was the latest when it was asked has settled.

`Op` lists everything that can happen: calls from outside, the steps of loads, and news from watchers of the database
file. Each watcher carries the epoch at which it was put up. News may still be under way from a watcher that has been
taken down, but only the news of the latest epoch counts. A step grants every watcher that it asks for; how it is when
the system refuses some is told in the theory of watchers.
-/
import IncludeAudit.Database.Basic
import IncludeAudit.Path.Basic

namespace IncludeAudit

/-- news about the database file -/
inductive FileEvent
  | created
  | changed
  | deleted
  deriving DecidableEq, Repr

/-- what is known about the database -/
inductive Status
  | uninitialized
  | loading
  | valid (entries : Nat)
  | empty
  | notFound
  | parseFailed (message : Text)
  deriving DecidableEq, Repr

namespace Status

def label : Status → Text
  | .uninitialized => "uninitialized"
  | .loading => "loading"
  | .valid _ => "valid"
  | .empty => "empty"
  | .notFound => "not found"
  | .parseFailed _ => "parse failed"

def display : Status → Text
  | .valid n => "valid (" ++ Text.ofNat n ++ " entries)"
  | .parseFailed message => "parse failed: " ++ message
  | s => s.label

end Status

namespace Cache

/-- a load that has not settled: its generation, the file it reads, and whether it has committed -/
structure Load where
  generation : Nat
  path : Path
  committed : Bool := false
  deriving DecidableEq, Repr

structure Watch where
  epoch : Nat
  path : Path
  deriving DecidableEq, Repr

/-- the state of the cache; without a root there is nothing to load -/
structure St where
  root : Option Path
  path : Option Path
  entries : Database := {}
  /-- the database file was there when it was last looked for -/
  found : Bool := false
  status : Status
  /-- loads started and deletes handled so far -/
  generation : Nat := 0
  /-- the highest generation that has settled -/
  settled : Nat := 0
  loads : List Load := []
  watching : Bool
  epoch : Nat := 0
  /-- the watcher that is up -/
  watch : Option Watch := none
  /-- every watcher that has been put up so far -/
  watchers : List Watch := []
  deriving DecidableEq, Repr

/-- everything that can happen to the cache -/
inductive Op
  | reload
  | event (e : FileEvent)
  | repoint (setting : Path)
  | commit (generation : Nat) (outcome : Database.Outcome)
  | settle (generation : Nat)
  | news (epoch : Nat) (e : FileEvent)
  | close

def startLoad (s : St) : St :=
  match s.root, s.path with
  | some _, some path =>
    { s with
      status := .loading
      generation := s.generation + 1
      loads := s.loads ++ [{ generation := s.generation + 1, path }] }
  | _, _ => s

/-- takes in the outcome of a load, unless a later generation has been taken -/
def takeIn (s : St) (generation : Nat) (outcome : Database.Outcome) : St :=
  if s.generation ≠ generation then s
  else
    match outcome with
    | .ok d => { s with found := true, status := if d.size = 0 then .empty else .valid d.size, entries := d }
    | .error (.notFound _) => { s with found := false, status := .notFound }
    | .error e => { s with found := true, status := .parseFailed e.message }

/-- a load that is under way commits its outcome -/
def commit (s : St) (generation : Nat) (outcome : Database.Outcome) : St :=
  if s.loads.any fun l => l.generation = generation && !l.committed then
    let s := takeIn s generation outcome
    { s with loads := s.loads.map fun l => if l.generation = generation then { l with committed := true } else l }
  else s

/-- a load that has committed settles -/
def settle (s : St) (generation : Nat) : St :=
  if s.loads.any fun l => l.generation = generation && l.committed then
    { s with
      settled := max s.settled generation
      loads := s.loads.filter (·.generation ≠ generation) }
  else s

/-- the database file is gone: no entries, and no load before this one counts -/
def clear (s : St) : St :=
  { s with
    entries := {}
    found := false
    status := .notFound
    generation := s.generation + 1
    settled := max s.settled (s.generation + 1) }

/-- takes in news about the database file -/
def handle (s : St) (e : FileEvent) : St :=
  if s.root.isNone then s
  else
    match e with
    | .created | .changed => startLoad s
    | .deleted => clear s

/-- why no watcher can be put up -/
inductive Unwatchable
  /-- the path has no last name -/
  | notAFile (path : Path)
  deriving DecidableEq, Repr

def Unwatchable.message : Unwatchable → Text
  | .notAFile p => "cannot watch " ++ p ++ ": not a file path"

def Watch.on (epoch : Nat) (path : Path) : Except Unwatchable Watch :=
  if (Path.fileName path).isSome then .ok ⟨epoch, path⟩ else .error (.notAFile path)

/-- puts up a watcher of a file in place of the one before -/
def putUp (s : St) (path : Path) : St :=
  let watch := (Watch.on (s.epoch + 1) path).toOption
  { s with
    epoch := s.epoch + 1
    watch
    watchers := s.watchers ++ watch.toList }

/-- takes in news from a watcher, unless a later epoch has begun -/
def hear (s : St) (epoch : Nat) (e : FileEvent) : St :=
  if s.watchers.any (·.epoch = epoch) && s.epoch = epoch then handle s e else s

/-- moves to the file of another setting; a setting for the same file changes nothing, not even its spelling -/
def repoint (s : St) (setting : Path) : St :=
  match s.root with
  | none => s
  | some root =>
    let path := Path.databaseFile root setting
    if s.path.any (Path.same · path) then s
    else
      let s := { s with path := some path }
      startLoad (if s.watching then putUp s path else s)

/-- takes the watcher down -/
def close (s : St) : St :=
  { s with epoch := s.epoch + 1, watch := none }

/-- a cache for a project; the first load has started -/
def init (root : Option Path) (setting : Path) (watching : Bool) : St :=
  match root with
  | none => { root := none, path := none, status := .uninitialized, watching }
  | some r =>
    let path := Path.databaseFile r setting
    let s : St := { root := some r, path := some path, status := .loading, watching }
    startLoad (if watching then putUp s path else s)

def step (s : St) : Op → St
  | .reload => startLoad s
  | .event e => handle s e
  | .repoint setting => repoint s setting
  | .commit generation outcome => commit s generation outcome
  | .settle generation => settle s generation
  | .news epoch e => hear s epoch e
  | .close => close s

def run (s : St) (ops : List Op) : St :=
  ops.foldl step s

theorem run_nil (s : St) : run s [] = s := rfl

theorem run_cons (s : St) (o : Op) (ops : List Op) : run s (o :: ops) = run (step s o) ops := rfl

theorem run_append (s : St) (ops ops' : List Op) : run s (ops ++ ops') = run (run s ops) ops' :=
  List.foldl_append

/-! ## Queries -/

/-- the generation that a query asked now waits for -/
def target (s : St) : Nat :=
  s.generation

/-- a query that waits for a generation can be answered -/
def isReady (s : St) (target : Nat) : Bool :=
  target ≤ s.settled

def isSettled (s : St) : Bool :=
  s.loads.isEmpty

/-- the database file is there and has given at least one entry -/
def isValid (s : St) : Bool :=
  s.found && s.entries.size ≠ 0

/-- the key of a file, made when the query is asked -/
def key? (t : Tree) (here : Place) (s : St) (file : Path) : Option Path :=
  s.root.map fun root => t.identity here (Path.join root file)

def lookup (s : St) (key : Option Path) : Option Entry :=
  key.bind s.entries.find?

def ending (l : Load) (outcome : Database.Outcome) : List Op :=
  [.commit l.generation outcome, .settle l.generation]

/-- lets every load read the tree and end, in the order in which they started -/
def settleAll (t : Tree) (here : Place) (s : St) : St :=
  run s (s.loads.flatMap fun l => ending l (Database.load t here (s.root.getD []) l.path))

end Cache
end IncludeAudit
