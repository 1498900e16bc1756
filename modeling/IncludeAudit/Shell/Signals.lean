/-
Signals by name and number, and what a script does when they come.

- `signalName?`: the name that a text stands for, `St.trap`: the command that says what is done at signals.
-/
import IncludeAudit.Shell.Usage

namespace IncludeAudit.Shell

def signalNames : List (Raw × Nat) :=
  let plain : List (Raw × Nat) :=
    [("HUP", 1), ("INT", 2), ("QUIT", 3), ("ILL", 4), ("TRAP", 5), ("ABRT", 6), ("BUS", 7), ("FPE", 8), ("KILL", 9),
     ("USR1", 10), ("SEGV", 11), ("USR2", 12), ("PIPE", 13), ("ALRM", 14), ("TERM", 15), ("STKFLT", 16), ("CHLD", 17),
     ("CONT", 18), ("STOP", 19), ("TSTP", 20), ("TTIN", 21), ("TTOU", 22), ("URG", 23), ("XCPU", 24), ("XFSZ", 25),
     ("VTALRM", 26), ("PROF", 27), ("WINCH", 28), ("IO", 29), ("PWR", 30), ("SYS", 31)]
  let named (first sign : Raw) (k : Nat) : Raw := if k = 0 then first else first ++ sign ++ Text.ofNat k
  let lower := (List.range 16).map fun k => (named "RTMIN" "+" k, 34 + k)
  let upper := (List.range 15).map fun k => (named "RTMAX" "-" (14 - k), 50 + k)
  plain ++ lower ++ upper

/-- signals that do nothing to a process that does not expect them -/
def harmlessSignals : List Nat :=
  [0, 17, 18, 23, 28]

/-- the name of a signal by name or number; zero and `EXIT` stand for the end of the shell -/
def signalName? (wide : Bool) (t : Raw) : Option Raw :=
  let upper := t.map Char.toUpper
  let t := if wide ∧ ("SIG" : Raw).isPrefixOf upper then upper.drop 3 else upper
  if t = "EXIT" ∨ t = "0" then some "EXIT"
  else if wide ∧ (t = "ERR" ∨ t = "DEBUG" ∨ t = "RETURN") then some t
  else
    match Raw.nat? t with
    | some n => (signalNames.find? (·.2 = n)).map (·.1)
    | none => (signalNames.find? (·.1 = t)).map (·.1)

def signalNumber (name : Raw) : Nat :=
  ((signalNames.find? (·.1 = name)).map (·.2)).getD 0

/-- all signals with their numbers, five in a line -/
def signalTable : Raw :=
  let n := signalNames.length
  let cells := (List.range n).zip signalNames |>.flatMap fun p =>
    let cell : Raw := Raw.pad 2 false (Text.ofNat p.2.2) ++ ") SIG" ++ p.2.1
    cell ++ [if p.1 % 5 = 4 then '\n' else '\t']
  cells ++ if n % 5 = 0 then [] else ['\n']

def quoteValue (v : Raw) : Raw :=
  '\'' :: v.flatMap (fun c => if c = '\'' then "'\"'\"'" else [c]) ++ ['\'']

namespace St

/-- a complaint about a text that names no signal -/
def noSignal (s : St) (t : Raw) : St :=
  s.complain (t ++ ": invalid signal specification") 1

/-- the names or numbers of signals, which texts give by number or name -/
def listSignals (s : St) (arguments : List Raw) : St :=
  if arguments.isEmpty then { s.write 1 signalTable with status := 0 }
  else
    arguments.foldl (fun s t =>
      match Raw.nat? t with
      | some n =>
        let n := if 128 < n then n - 128 else n
        if 64 < n then s.noSignal t
        else
          match signalName? true (Text.ofNat n) with
          | some name => s.write 1 (name ++ ['\n'])
          | none => s
      | none =>
        match signalName? true t with
        | some name => s.write 1 (Text.ofNat (signalNumber name) ++ ['\n'])
        | none => s.noSignal t) { s with status := 0 }

/-- shows what is done at signals -/
def showTraps (s : St) (wanted : Option (List Raw)) : St :=
  let order : List Raw := ("EXIT" : Raw) :: signalNames.map (·.1) ++ [("DEBUG" : Raw), "ERR", "RETURN"]
  let order := (wanted.map fun names => names.filterMap (signalName? s.wide)).getD order
  let ignored : List (Raw × Raw) := if s.wide then s.deaf.map fun n => (n, []) else []
  let traps := ignored ++ s.traps ++ s.outerTraps
  let shown := order.filterMap fun n => traps.find? (·.1 = n)
  let others : List Raw := ["EXIT", "DEBUG", "ERR", "RETURN"]
  let nameOf (n : Raw) : Raw := if s.wide ∧ n ∉ others then "SIG" ++ n else n
  let quoted (t : Raw) : Raw := if s.wide then Quoting.plain t else quoteValue t
  { s.write 1 (shown.flatMap fun p => "trap -- " ++ quoted p.2 ++ ' ' :: nameOf p.1 ++ ['\n']) with status := 0 }

/-- what is done at signals -/
def trap (s : St) (arguments : List Raw) : St :=
  let isList : Bool := s.wide && arguments.head?.any fun a : Raw => a = "-p" || a = "-l" || a = "-lp"
  if isList then
    if arguments.head? = some "-p" then
      let wrong := arguments.tail.filter fun t => (signalName? true t).isNone
      let s := s.showTraps (if arguments.tail.isEmpty then none else some arguments.tail)
      wrong.foldl (fun s t => s.noSignal t) s
    else s.listSignals []
  else
    let arguments := if arguments.head? = some "--" then arguments.tail else arguments
    match arguments with
    | [] => s.showTraps none
    | first :: rest =>
      let isSignal := (signalName? s.wide first).isSome
      if s.wide ∧ rest.isEmpty ∧ !isSignal then s.usage
      else
        let (action, signals) : Option Raw × List Raw :=
          if rest.isEmpty ∨ isSignal ∧ (Raw.nat? first).isSome then (none, arguments)
          else if first = "-" then (none, rest)
          else (some first, rest)
        signals.foldl (fun s t =>
          match signalName? s.wide t with
          | none =>
            if s.wide then s.noSignal t
            else { s.write 2 ("trap: " ++ t ++ ": bad trap\n") with status := 1 }
          | some n =>
            let others := s.traps.filter (·.1 ≠ n)
            if s.deaf.contains n then s else { s with traps := (action.map fun a => (n, a)).toList ++ others })
          { s with status := 0, outerTraps := if s.wide then [] else s.outerTraps }

end St
end IncludeAudit.Shell
