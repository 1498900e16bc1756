/-
Reading one level of a command line, argument by argument. An option that waits for its value, or a value that has
not been taken in yet, is pending; it is taken in before anything else is, and only then checked. So of two faults
the one that is met first counts, except that an unknown argument counts before a pending fault.
-/
import IncludeAudit.Cli.Grammar

namespace IncludeAudit.Cli

structure Reading where
  given : List (Key × List Text) := []
  pending : Option (Choice × List Text) := none
  /-- the pending option waits for its value -/
  waiting : Bool := false
  /-- options have ended -/
  trailing : Bool := false
  /-- the argument without a name has been given -/
  placed : Bool := false
  deriving DecidableEq, Repr

namespace Reading

def values? (r : Reading) (key : Key) : Option (List Text) :=
  (r.given.find? (·.1 = key)).map (·.2)

/-- adds values behind those that a key already has -/
def add (r : Reading) (key : Key) (vs : List Text) : Reading :=
  { r with given := (key, (r.values? key).getD [] ++ vs) :: r.given.filter (·.1 ≠ key) }

def take (r : Reading) (c : Choice) (vs : List Text) : Except Usage Reading :=
  match c.kind with
  | .help => .error .displayHelp
  | .version => .error .displayVersion
  | .switch => if (r.values? c.key).isSome then .error .argumentConflict else .ok (r.add c.key [])
  | .single domain =>
    if vs = [] then .error .invalidValue
    else if (r.values? c.key).isSome then .error .argumentConflict
    else if vs.all domain.accepts then .ok (r.add c.key vs)
    else .error .invalidValue
  | .list _ => if vs = [] then .error .invalidValue else .ok (r.add c.key vs)

/-- takes in what is pending -/
def settle (r : Reading) : Except Usage Reading :=
  match r.pending with
  | none => .ok r
  | some (c, vs) => take { r with pending := none, waiting := false } c vs

/-- an option comes with its value, or needs none -/
def give (r : Reading) (c : Choice) (vs : List Text) : Except Usage Reading := do
  (← r.settle).take c vs

/-- an option comes, and its value is still to come -/
def await (r : Reading) (c : Choice) : Except Usage Reading := do
  return { (← r.settle) with pending := some (c, []), waiting := true }

/-- one more value for what is pending -/
def addValue (r : Reading) (v : Text) : Reading :=
  { r with pending := r.pending.map fun (c, vs) => (c, vs ++ [v]), waiting := false }

/-- the option that waits takes even a value that begins with a hyphen -/
def awaitsAnything (r : Reading) : Bool :=
  r.waiting && r.pending.any (·.1.kind = .list true)

end Reading

/-! ## One argument -/

/-- where reading goes on -/
inductive Next
  | go (r : Reading)
  | enter (v : Verb)
  | help
  deriving DecidableEq, Repr

/-- an argument without a name that has no place -/
def Level.misplaced (l : Level) (trailing : Bool) (arg : Text) : Usage :=
  if l.verbs = false ∨ (trailing ∧ l.isVerb arg) then .unknownArgument else .invalidSubcommand

/-- an argument without a name -/
def Level.place (l : Level) (r : Reading) (arg : Text) : Except Usage Reading :=
  match l.positional with
  | some (.words key) =>
    if r.placed then .ok (r.addValue arg)
    else do
      let r ← r.settle
      let c : Choice := { key, long := [], kind := .list true }
      return { r with pending := some (c, [arg]), placed := true, trailing := true }
  | some (.single key domain) =>
    if r.placed then .error (l.misplaced r.trailing arg)
    else do
      let r ← r.settle
      let c : Choice := { key, long := [], kind := .single domain }
      return { r with pending := some (c, [arg]), placed := true }
  | none => .error (l.misplaced r.trailing arg)

/-- a value for the option that waits, else an argument without a name -/
def Level.plain (l : Level) (r : Reading) (arg : Text) : Except Usage Reading :=
  if r.waiting then .ok (r.addValue arg) else l.place r arg

/-- an option with a long name, and the value behind its equals sign -/
def Level.long (l : Level) (r : Reading) (arg name : Text) (value : Option Text) : Except Usage Reading :=
  match l.long? name, value with
  | some c, some v => if c.kind.takesValue then r.give c [v] else .error .tooManyValues
  | some c, none => if c.kind.takesValue then r.await c else r.give c []
  | none, _ => if l.takesWords then l.plain r arg else .error .unknownArgument

/-- options with short names in one word; the last may bring its value along -/
def Level.cluster (l : Level) : Text → Reading → Except Usage Reading
  | [], r => .ok r
  | x :: rest, r =>
    match l.short? x with
    | none => .error .unknownArgument
    | some c =>
      if c.kind.takesValue then
        match rest with
        | [] => r.await c
        | '=' :: v => r.give c [v]
        | v => r.give c [v]
      else do l.cluster rest (← r.give c [])

def Level.hyphened (l : Level) (r : Reading) (arg : Text) : Except Usage Reading :=
  if r.awaitsAnything then .ok (r.addValue arg)
  else
    match arg with
    | '-' :: '-' :: body =>
      let name := body.takeWhile (· ≠ '=')
      l.long r arg name (if name.length < body.length then some (body.drop (name.length + 1)) else none)
    | _ :: letters =>
      if l.takesWords ∧ letters.any (fun x => (l.short? x).isNone) then l.plain r arg
      else l.cluster letters r
    | [] => l.plain r arg

def Level.step (l : Level) (r : Reading) (arg : Text) : Except Usage Next :=
  if r.trailing then (l.place r arg).map .go
  else if r.waiting = false ∧ l.isVerb arg then
    match Verb.ofName? arg with
    | some v => .ok (.enter v)
    | none => .ok .help
  else if arg = ['-', '-'] then
    .ok (.go (if r.awaitsAnything then r.addValue arg else { r with trailing := true }))
  else if arg.head? = some '-' ∧ arg ≠ ['-'] then (l.hyphened r arg).map .go
  else (l.plain r arg).map .go

/-! ## A level as a whole -/

/-- help on what is named behind `help`: nothing, or one verb -/
def helpOn : List Text → Usage
  | [] => .displayHelp
  | [name] => if Level.top.isVerb name then .displayHelp else .invalidSubcommand
  | _ :: _ :: _ => .invalidSubcommand

/-- takes in arguments up to a verb, which comes with the arguments behind it -/
def Level.read (l : Level) : Reading → List Text → Except Usage (Reading × Option (Verb × List Text))
  | r, [] => .ok (r, none)
  | r, arg :: rest => do
    match ← l.step r arg with
    | .go r => l.read r rest
    | .enter v => return (r, some (v, rest))
    | .help => throw (helpOn rest)

/-- the end of a level: nothing is pending, and nothing is missing -/
def Level.close (l : Level) (r : Reading) : Except Usage Reading := do
  let r ← r.settle
  match l.positional with
  | some p => if (r.values? p.key).isSome then return r else throw .missingRequiredArgument
  | none => return r

end IncludeAudit.Cli
