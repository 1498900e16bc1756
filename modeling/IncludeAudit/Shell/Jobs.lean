/-
Processes in the background: how they are named, shown, waited for and ended. They have been carried out ahead of
time, and each counts as running up to the time at which it ends.

- `St.jobsCommand`, `St.wait`, `St.kill`: the commands about them.
-/
import IncludeAudit.Shell.Signals

namespace IncludeAudit.Shell
namespace St

/-- the process has not ended yet -/
def isRunning (s : St) (j : Job) : Bool :=
  s.world.clock < j.ended

/-- processes in the background that are of interest still, in the order of their numbers -/
def openJobs (s : St) : List Job :=
  (s.jobs.filter fun j => j.listed && (s.isRunning j || !s.wide)).reverse

/-- the number that a new process gets in the list; the plain shell gives the place of one that has been waited for to
another, also to one that it waits for at once -/
def takeIndex (s : St) : St × Nat :=
  if s.wide then (s, (s.openJobs.map (·.index)).foldl max 0 + 1)
  else
    let isOver (j : Job) : Bool := j.waited && !s.isRunning j
    let isFree (n : Nat) : Bool := s.jobs.all fun j => j.index ≠ n || !j.listed || isOver j
    let n := ((List.range (s.jobs.length + 1)).map (· + 1) |>.find? isFree).getD 1
    ({ s with jobs := s.jobs.map fun j => if j.index = n then { j with listed := false } else j }, n)

/-- why a name means no process in the background -/
inductive NoJob
  | missing
  | ambiguous (text : Raw)
  deriving DecidableEq, Repr

/-- the process in the background that a name behind a percent sign means -/
def namedJob (s : St) (name : Raw) : Except NoJob Job :=
  let all := s.openJobs
  let single (js : List Job) (text : Raw) : Except NoJob Job :=
    match js with
    | [j] => .ok j
    | [] => .error .missing
    | _ => .error (.ambiguous text)
  let last (js : List Job) : Except NoJob Job :=
    match js.getLast? with
    | some j => .ok j
    | none => .error .missing
  if name = [] ∨ name = "%" ∨ name = "+" then last all
  else if name = "-" then last (if 1 < all.length then all.dropLast else all)
  else
    match Raw.nat? name with
    | some n => single (all.filter (·.index = n)) name
    | none =>
      if name.head? = some '?' then single (all.filter fun j => Text.contains name.tail j.text) name
      else single (all.filter fun j => name.isPrefixOf j.text) name

/-- a complaint about a name that means no process in the background -/
def noJob (s : St) (spec : Raw) (e : NoJob) : St :=
  match e with
  | .ambiguous t => s.complain (t ++ ": ambiguous job spec") 1
  | .missing => if s.wide then s.complain (spec ++ ": no such job") 1 else s.complain ("No such job: " ++ spec) 2

/-- the line that shows a process in the background -/
def jobLine (s : St) (j : Job) (long : Bool) : Raw :=
  let all := s.openJobs.map (·.index)
  let mark : Raw :=
    if all.getLast? = some j.index then "+" else if all.dropLast.getLast? = some j.index then "-" else " "
  let index : Raw := '[' :: Text.ofNat j.index ++ [']']
  if s.wide then
    let front : Raw := index ++ mark ++ (if long then ' ' :: Raw.pad 5 false j.number ++ [' '] else ("  " : Raw))
    front ++ Raw.pad 24 true "Running" ++ j.text ++ " &\n"
  else
    let state : Raw :=
      match s.isRunning j, j.exit with
      | true, _ => "Running"
      | false, .code 0 => "Done"
      | false, .code n => "Done(" ++ Text.ofNat n ++ [')']
      | false, .signal n => ((signalWords.find? (·.1 = n)).map (·.2)).getD []
    let front : Raw := index ++ ' ' :: mark ++ (if long then ' ' :: j.number ++ [' '] else ([' '] : Raw))
    Raw.pad 33 true (front ++ state) ++ ['\n']

/-- shows processes in the background -/
def jobsCommand (s : St) (arguments : List Raw) : St :=
  let options := arguments.takeWhile fun a => a.head? = some '-' && 1 < a.length
  let specs := arguments.drop options.length
  let letters : Raw := options.flatten
  let one (s : St) (j : Job) : St :=
    if 's' ∈ letters then s
    else if 'p' ∈ letters then s.write 1 (j.number ++ ['\n'])
    else
      let s := s.write 1 (s.jobLine j (decide ('l' ∈ letters)))
      if s.wide ∨ s.isRunning j then s else s.putJob { j with listed := false }
  let s := { s with status := 0 }
  if specs.isEmpty then (if s.wide then s.openJobs else s.openJobs.reverse).foldl one s
  else
    specs.foldl (fun s spec =>
      match s.namedJob (if spec.head? = some '%' then spec.tail else spec) with
      | .ok j => one s j
      | .error e => s.noJob spec e) s

/-- takes a process to the foreground, or lets it go on: nobody controls the processes here -/
def foreground (s : St) (arguments : List Raw) : St :=
  if s.wide then s.complain "no job control" 1
  else
    let spec := arguments.headD []
    let name : Raw := if spec.head? = some '%' then spec.tail else spec
    match s.namedJob name, arguments with
    | .ok _, [] => s.complain "job (null) not created under job control" 2
    | .ok _, _ => s.complain ("job " ++ spec ++ " not created under job control") 2
    | .error _, [] => s.complain "No current job" 2
    | .error e, _ => s.noJob spec e

/-- forgets processes in the background -/
def disown (s : St) (arguments : List Raw) : St :=
  let specs := arguments.filter fun a => a.head? ≠ some '-'
  let forget (s : St) (j : Job) : St := { s with jobs := s.jobs.filter (·.process ≠ j.process) }
  let s := { s with status := 0 }
  if arguments.any fun a : Raw => a = "-a" || a = "-r" then { s with jobs := [] }
  else if specs.isEmpty then
    match s.namedJob [] with
    | .ok j => forget s j
    | .error e => s.noJob "current" e
  else
    specs.foldl (fun s spec =>
      let found : Except NoJob Job :=
        match spec with
        | '%' :: name => s.namedJob name
        | _ => (s.openJobs.find? (·.number = spec)).elim (.error .missing) .ok
      match found with
      | .ok j => forget s j
      | .error e => s.noJob spec e) s

/-- the process in the background that ends first of those that are still of interest -/
def nextToEnd? (s : St) : Option Job :=
  s.openJobs.foldl (fun (best : Option Job) j =>
    match best with
    | some b => if j.ended < b.ended then some j else best
    | none => some j) none

/-- waits for processes in the background -/
def wait (s : St) (arguments : List Raw) : St :=
  let (next, holder, specs) : Bool × Option Raw × List Raw :=
    match (if s.wide then Tool.options (Tool.letters "fnp:") true arguments else .error []) with
    | .ok p => (p.has 'n', p.value? 'p', p.operands)
    | .error _ => (false, none, arguments)
  let keep (s : St) (j : Job) : St :=
    match holder with
    | some name => s.assign name j.number
    | none => s
  if next then
    match s.nextToEnd? with
    | some j => { keep (s.waitFor j) j with status := j.exit.status }
    | none => { s with status := 127 }
  else if specs.isEmpty then (s.jobs.filter fun j => j.ours && !j.waited).foldl (fun s j => s.waitFor j) { s with status := 0 }
  else
    specs.foldl (fun s t =>
      let found : Except NoJob Job :=
        match t with
        | '%' :: name =>
          match s.namedJob name with
          | .ok j => .ok j
          | .error e => (s.jobs.find? fun j => j.ours && !j.waited && Text.ofNat j.index = name).elim (.error e) .ok
        | _ => (s.jobs.find? fun j => j.ours && (s.wide || j.listed) && j.number = t).elim (.error .missing) .ok
      match found with
      | .ok j => { keep ((s.waitFor j).sayEnd j.exit false j.number j.text) j with status := j.exit.status }
      | .error e =>
        if t.head? = some '%' then { s.noJob t e with status := if s.wide then 127 else 2 }
        else if s.wide then
          if (Raw.nat? t).isSome then s.complain ("pid " ++ t ++ " is not a child of this shell") 127
          else s.complain ('\x60' :: t ++ "': not a pid or valid job spec") 1
        else if (Raw.nat? t).isSome then { s with status := 127 }
        else s.complain ("Illegal number: " ++ t) 2) s

/-- sends a signal to a process by its number; there may be none -/
def send (s : St) (signal number : Nat) : Option St :=
  if 4242 ≤ number ∧ number ≤ 4242 + s.world.processes then
    let k := number - 4242
    match s.jobs.find? (·.process = k) with
    | some j =>
      if j.waited then none
      else if signal = 0 ∨ harmlessSignals.contains signal ∨ !s.isRunning j then some s
      else some (s.killJob j signal)
    | none =>
      some (if signal = 0 then s else { s with world := { s.world with sent := s.world.sent ++ [(k, signal)] } })
  else none

/-- the number of a signal by name or number -/
def signalOf? (wide : Bool) (t : Raw) : Option Nat :=
  match signalName? wide t with
  | some "EXIT" => some 0
  | some n => if signalNumber n = 0 then none else some (signalNumber n)
  | none => none

/-- the signal that options in front of the targets ask for: an empty list stands for an option without a value -/
def wideTargets : (fuel : Nat) → (asked : Option Raw) → List Raw → Option Raw × Option (List Raw)
  | 0, asked, args => (asked, some args)
  | fuel + 1, asked, args =>
    match args with
    | [] => (asked, some [])
    | o :: r =>
      if o = "-s" ∨ o = "-n" then
        match r with
        | v :: r => wideTargets fuel (some v) r
        | [] => (some o, none)
      else if o = "--" then (asked, some r)
      else if o.head? = some '-' ∧ asked.isNone then wideTargets fuel (some o.tail) r
      else (asked, some args)

def wideKill (s : St) (arguments : List Raw) : St :=
  if arguments.head?.any fun a : Raw => a = "-l" || a = "-L" then s.listSignals arguments.tail
  else
    match wideTargets (arguments.length + 1) none arguments with
    | (asked, none) => s.complain (asked.getD [] ++ ": option requires an argument") 1
    | (asked, some targets) =>
      match (asked.elim (some 15) (signalOf? true)) with
      | none => s.noSignal (asked.getD [])
      | some n =>
        if targets.isEmpty then s.usage
        else
          let (s, reached) := targets.foldl (fun (acc : St × Bool) t =>
            let (s, reached) := acc
            let done (found : Option St) : St × Bool :=
              match found with
              | some s => (s, true)
              | none => (s.complain ('(' :: t ++ ") - No such process") 1, reached)
            match t, Raw.nat? t with
            | _, some number => done (s.send n number)
            | '%' :: name, none =>
              match s.namedJob name with
              | .ok j => done (s.send n (Raw.toNat j.number))
              | .error (.ambiguous text) => (s.complain (text ++ ": ambiguous job spec") 1, reached)
              | .error .missing => (s.complain (t ++ ": no such job") 1, reached)
            | _, none =>
              if t.head? = some '-' ∧ (Raw.nat? t.tail).isSome then
                (s.complain ('(' :: t ++ ") - No such process") 1, reached)
              else (s.complain (t ++ ": arguments must be process or job IDs") 1, reached)) (s, false)
          { s with status := if reached then 0 else 1 }

/-- sends a signal to this script or to a process that it has started -/
def kill (s : St) (arguments : List Raw) : St :=
  let usage (s : St) : St :=
    s.complain "Usage: kill [-s sigspec | -signum | -sigspec] [pid | job]... or\nkill -l [exitstatus]" 2
  let send (s : St) (n : Nat) (targets : List Raw) : St :=
    if targets.isEmpty then usage s
    else
      targets.foldl (fun s t =>
        if s.isOn = false then s
        else
          match t, Raw.nat? t with
          | '%' :: name, _ =>
            match s.namedJob name with
            | .ok _ => s.complain "No such process\n" 1
            | .error e => s.noJob t e
          | _, some number => (s.send n number).getD (s.complain "No such process\n" 1)
          | _, none => s.complain ("Illegal number: " ++ t) 2) { s with status := 0 }
  if s.wide then s.wideKill arguments
  else
    match arguments with
    | [] => usage s
    | o :: r =>
      if o = "-l" then
        match r with
        | [] =>
          let names := (List.range 65).map fun n => ((signalNames.find? (·.2 = n)).map (·.1)).getD (Text.ofNat n)
          let names := names.map fun n : Raw => if n = "STKFLT" then ("16" : Raw) else n
          { s.write 1 (names.flatMap (· ++ ['\n'])) with status := 0 }
        | t :: _ =>
          match Raw.nat? t with
          | none => s.complain ("Illegal number: " ++ t) 2
          | some n =>
            let k := if 128 < n then n - 128 else n
            match signalNames.find? (·.2 = k) with
            | some (name, _) => { s.write 1 (name ++ ['\n']) with status := 0 }
            | none => s.complain ("invalid signal number or exit status: " ++ t) 2
      else if o = "-s" then
        match r with
        | [] => s.complain "No arg for -s option" 2
        | v :: r =>
          match signalOf? false v with
          | some n => send s n (if r.head? = some "--" then r.tail else r)
          | none => s.complain ("invalid signal number or name: " ++ v) 2
      else if o = "--" then send s 15 r
      else if o.head? = some '-' ∧ 1 < o.length then
        match signalOf? false o.tail with
        | some n => send s n (if r.head? = some "--" then r.tail else r)
        | none => s.complain ("Illegal option " ++ o.take 2) 2
      else send s 15 arguments

end St
end IncludeAudit.Shell
