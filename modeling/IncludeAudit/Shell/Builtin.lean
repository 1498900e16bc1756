/-
Commands that the shell carries out itself and that run no other command. Some of them are special: when they fail,
the shell ends.

- `builtIn?`: the command of a name.
-/
import IncludeAudit.Shell.Directories
import IncludeAudit.Shell.Input
import IncludeAudit.Shell.Settings

namespace IncludeAudit.Shell

namespace St

/-- the number that an argument spells, or a complaint -/
def number (s : St) (t : Raw) : Except St Nat :=
  match Raw.nat? t with
  | some n => .ok n
  | none => .error (if s.wide then s.complain (t ++ ": numeric argument required") 2 else s.die ("Illegal number: " ++ t))

/-- the integer that an argument spells in the wider shell, as far as it is not too large -/
def integer? (t : Raw) : Option Int :=
  let t := (t.dropWhile Raw.isSpace).reverse.dropWhile Raw.isSpace |>.reverse
  let (negative, digits) : Bool × Raw :=
    match t with
    | '-' :: r => (true, r)
    | '+' :: r => (false, r)
    | r => (false, r)
  match Raw.nat? digits with
  | some n =>
    let most := if negative then 0x8000000000000000 else 0x7fffffffffffffff
    if most < n then none else some (if negative then -(n : Int) else n)
  | none => none

/-! ## Loops and ends -/

/-- leaves loops, or goes on with the next round -/
def leave (s : St) (arguments : List Raw) (flow : Nat → Flow) : St :=
  if s.wide then
    let arguments := if arguments.head? = some "--" then arguments.tail else arguments
    let first := arguments.headD ['1']
    if s.loops = 0 then s.complain "only meaningful in a \x60for', \x60while', or \x60until' loop" 0
    else
      match integer? first with
      | none => { s.complain (first ++ ": numeric argument required") 1 with flow := .ended (.code 129) }
      | some n =>
        if 1 < arguments.length then s.abandon "too many arguments"
        else if n ≤ 0 then { s.complain (first ++ ": loop count out of range") 1 with flow := .breaking s.loops }
        else { s with flow := flow (min n.toNat s.loops), status := 0 }
  else
    match s.number (arguments.headD ['1']) with
    | .error s => s
    | .ok n =>
      if n = 0 then s.die ("Illegal number: " ++ arguments.headD [])
      else
        let n := min n s.loops
        { s with flow := if n = 0 then s.flow else flow n, status := 0 }

/-- the status that a command ends with -/
def endWith (s : St) (arguments : List Raw) (flow : Nat → Flow) : St :=
  let arguments := if s.wide ∧ arguments.head? = some "--" then arguments.tail else arguments
  match arguments with
  | [] => { s with flow := flow s.status }
  | a :: more =>
    if s.wide then
      match integer? a with
      | none => { s.complain (a ++ ": numeric argument required") 2 with flow := flow 2 }
      | some n =>
        if more ≠ [] then s.abandon "too many arguments"
        else
          let n := (n % 256).toNat
          { s with status := n, flow := flow n }
    else
      match s.number a with
      | .error s => s
      | .ok n => { s with status := n % 256, flow := flow (n % 256) }

def shift (s : St) (arguments : List Raw) : St :=
  if s.wide then
    let arguments := if arguments.head? = some "--" then arguments.tail else arguments
    let first := arguments.headD ['1']
    match integer? first with
    | none => s.complain (first ++ ": numeric argument required") 1
    | some n =>
      if 1 < arguments.length then s.abandon "too many arguments"
      else if n < 0 ∨ (s.arguments.length < n ∧ s.isSet "shift_verbose") then
        s.complain (first ++ ": shift count out of range") 1
      else if s.arguments.length < n then { s with status := 1 }
      else { s with arguments := s.arguments.drop n.toNat, status := 0 }
  else
    match s.number (arguments.headD ['1']) with
    | .error s => s
    | .ok n =>
      if s.arguments.length < n then s.die "can't shift that many"
      else { s with arguments := s.arguments.drop n, status := 0 }

/-! ## Texts that stand for others -/

/-- texts that stand for others, or a list of them -/
def aliasCommand (s : St) (arguments : List Raw) : St :=
  let shown (p : Raw × Raw) : Raw :=
    if s.wide then "alias " ++ p.1 ++ '=' :: Quoting.plain p.2 ++ ['\n'] else p.1 ++ '=' :: quoteValue p.2 ++ ['\n']
  let before (a b : Raw × Raw) : Bool := if s.wide then Raw.le a.1 b.1 else plainSlot a.1 ≤ plainSlot b.1
  let all := s.aliases.mergeSort before
  let names := if s.wide then arguments.filter fun a : Raw => a ≠ "-p" else arguments
  let s := { s with status := 0 }
  let s := if names.isEmpty ∨ names.length < arguments.length then s.write 1 (all.flatMap shown) else s
  names.foldl (fun s a =>
    let name := a.takeWhile (· ≠ '=')
    let isBad : Bool := s.wide && name.any fun c => c ∈ (" \t\n;&|<>()$'\"\\/\x60" : Raw)
    if name.length < a.length then
      if isBad then s.complain ('\x60' :: name ++ "': invalid alias name") 1
      else { s with aliases := s.aliases.filter (·.1 ≠ name) ++ [(name, a.drop (name.length + 1))] }
    else
      match s.aliases.find? (·.1 = name) with
      | some p => s.write 1 (shown p)
      | none =>
        if s.wide then s.complain (name ++ ": not found") 1
        else { s.write 2 ("alias: " ++ name ++ " not found\n") with status := 1 }) s

/-- takes texts that stand for others away -/
def unaliasCommand (s : St) (arguments : List Raw) : St :=
  let s := { s with status := 0 }
  if arguments.head? = some "-a" then { s with aliases := [] }
  else if arguments.isEmpty ∧ s.wide then s.usage
  else
    arguments.foldl (fun s name =>
      if s.aliases.any (·.1 = name) then { s with aliases := s.aliases.filter (·.1 ≠ name) }
      else if s.wide then s.complain (name ++ ": not found") 1
      else { s.write 2 ("unalias: " ++ name ++ " not found\n") with status := 1 }) s

/-! ## Output -/

/-- formatted output, which the wider shell can put into a variable -/
def printfCommand (s : St) (arguments : List Raw) : St :=
  let manner : Tool.Manner := if s.wide then .wide else .builtIn
  if s.wide ∧ arguments.head? = some "-v" then
    let target := (arguments.drop 1).headD []
    if s.isReference target = false then s.complain ('\x60' :: target ++ "': not a valid identifier") 2
    else
      let a := Tool.printf manner s.byCharacters s.lead (arguments.drop 2)
      let s := s.say (a.said.filter (·.1))
      if (arguments.drop 2).isEmpty then { s with status := a.status }
      else { s.bindReference target ((a.said.filter (!·.1)).flatMap (·.2)) with status := a.status }
  else s.answer (Tool.printf manner s.byCharacters s.lead arguments)

/-! ## Where the script is -/

/-- the place that the function under way, or one around it, has been called from -/
def caller (s : St) (arguments : List Raw) : St :=
  let lines := s.callLines
  let names := s.calls ++ if s.given then [] else [("main" : Raw)]
  let sources : List Raw := if s.given then s.calls.map fun _ => "environment" else s.calls.map fun _ => s.sources.headD s.name
  let sources := sources ++ if s.given then [] else [s.name]
  match arguments with
  | [] =>
    match lines with
    | n :: _ => { s.write 1 (Text.ofNat n ++ ' ' :: sources.getD 1 "NULL" ++ ['\n']) with status := 0 }
    | [] => { s with status := 1 }
  | a :: _ =>
    match (if lines.isEmpty then some 0 else Raw.nat? a) with
    | none => (s.complain (a ++ ": invalid number") 2).usage
    | some k =>
      match lines[k]?, names[k + 1]?, sources[k + 1]? with
      | some n, some f, some p => { s.write 1 (Text.ofNat n ++ ' ' :: f ++ ' ' :: p ++ ['\n']) with status := 0 }
      | _, _, _ => { s with status := 1 }

/-- the limit of a resource -/
def ulimitCommand (s : St) (arguments : List Raw) : St :=
  let known : Raw := if s.wide then "SHabcdefiklmnpqrstuvxPRT" else "HSatfdsmcnplvwr"
  let letters := (arguments.takeWhile fun a => a.head? = some '-').flatMap List.tail
  match letters.find? (· ∉ known), arguments.dropWhile fun a => a.head? = some '-' with
  | some c, _ => if s.wide then (s.complain (['-', c] ++ ": invalid option") 2).usage
    else s.complain ("Illegal option " ++ ['-', c]) 2
  | none, [] => { s.write 1 "unlimited\n" with status := 0 }
  | none, a :: _ =>
    if (Raw.nat? a).isSome ∨ a = "unlimited" ∨ a = "soft" ∨ a = "hard" then { s with status := 0 }
    else if s.wide then s.complain (a ++ ": invalid number") 1
    else s.complain "bad number" 2

end St

/-- options of commands of the plain shell, with a colon behind those that take a value -/
def plainLetters : List (Raw × Raw) :=
  let of (name letters : Raw) : Raw × Raw := (name, letters)
  [of "cd" "LP", of "chdir" "LP", of "pwd" "LP", of "read" "p:r", of "export" "p", of "readonly" "p", of "unset" "vf",
   of "command" "pvV", of "wait" "", of "jobs" "lp", of "trap" "", of "hash" "r", of "umask" "S", of "printf" "",
   of "." "", of "unalias" "a"]

/-- the complaint about an option that the command under way does not know -/
def St.refused? (s : St) (arguments : List Raw) : Option St :=
  let name := s.command.getD []
  if s.wide then s.misused? arguments
  else
    match plainLetters.find? (·.1 = name) with
    | none => none
    | some (_, letters) =>
      (St.badOption? letters (arguments.length + 1) arguments).map fun (_, c, (needs : Bool)) =>
        let message : Raw := if needs then "No arg for -" ++ c :: " option" else "Illegal option " ++ ['-', c]
        if isSpecialCommand name then s.die message else s.complain message 2

/-- commands of the wider shell in the order in which they are listed -/
def ownNames : List Raw :=
  Raw.words (". : [ alias bg bind break builtin caller cd command compgen complete compopt continue declare dirs disown " ++
    "echo enable eval exec exit export false fc fg getopts hash help history jobs kill let local logout mapfile popd " ++
    "printf pushd pwd read readarray readonly return set shift shopt source suspend test times trap true type typeset " ++
    "ulimit umask unalias unset wait")

def plainNames : List Raw :=
  Raw.words (". : [ alias bg break cd chdir command continue echo eval exec exit export false fg getopts hash jobs kill " ++
    "local printf pwd read readonly return set shift test times trap true type ulimit umask unalias unset wait")

/-- the shell has such a command of its own -/
def isBuiltIn (wide : Bool) (name : Raw) : Bool :=
  (if wide then ownNames else plainNames).contains name

def St.facts (s : St) : Tool.Condition.Facts :=
  { isSet := fun n =>
      let name := n.takeWhile (· ≠ '[')
      if name.length < n.length then
        let index := (n.drop (name.length + 1)).dropLast
        !(s.value name (some (s.indexOf name index))).lacks false
      else (s.parameter? n).isSome
    isOn := fun o => ((wideOptions.find? (·.1 = o)).map fun p => s.has p.2).getD false
    refers := fun n => ((s.variable_ n).map fun v => v.refers && v.value.isSome).getD false }

/-- commands of the shell that run no other command -/
def builtIn? (wide : Bool) (name : Raw) : Option (St → List Raw → St) :=
  let manner : Tool.Manner := if wide then .wide else .builtIn
  let status (n : Nat) : St → List Raw → St := fun s _ => { s with status := n }
  let test : St → List Raw → St := fun s args =>
    s.answer (Tool.test manner s.facts s.lead (s.call name args []))
  if !isBuiltIn wide name then none
  else
    match String.ofList name with
    | ":" | "true" => some (status 0)
    | "false" => some (status 1)
    | "cd" | "chdir" => some St.changeDirectory
    | "pwd" => some fun s args =>
      let physical : Bool := args.contains ("-P" : Raw) || (s.wide && s.has 'P')
      let p := if physical then Raw.ofText s.here.path else s.directory
      { s.write 1 (p ++ ['\n']) with status := 0 }
    | "read" => some St.read
    | "export" => some St.exportCommand
    | "readonly" => some St.readonlyCommand
    | "local" => some fun s args => if s.wide then s.declareCommand true args else s.makeLocal args
    | "declare" | "typeset" => some fun s args => s.declareCommand false args
    | "unset" => some St.unsetCommand
    | "shift" => some St.shift
    | "set" => some St.setCommand
    | "shopt" => some St.settingsCommand
    | "getopts" => some St.getopts
    | "trap" => some St.trap
    | "umask" => some St.umaskCommand
    | "kill" => some St.kill
    | "break" => some fun s args => s.leave args .breaking
    | "continue" => some fun s args => s.leave args .continuing
    | "return" => some fun s args =>
      if s.wide ∧ s.locals.isEmpty ∧ s.sources = [] then
        let s := match args with
          | a :: _ => if (St.integer? a).isNone then s.complain (a ++ ": numeric argument required") 2 else s
          | [] => s
        s.complain "can only \x60return' from a function or sourced script" 2
      else s.endWith args fun _ => .returning
    | "exit" => some fun s args => s.endWith args fun n => .ended (.code n)
    | "echo" => some fun s args => s.answer (Tool.echo manner s.byCharacters (s.isSet "xpg_echo") args)
    | "printf" => some St.printfCommand
    | "test" | "[" => some test
    | "wait" => some St.wait
    | "jobs" => some St.jobsCommand
    | "fg" | "bg" => some St.foreground
    | "disown" => some St.disown
    | "times" => some fun s _ =>
      let one : Raw := if s.wide then "0m0.000s" else "0m0.000000s"
      let line : Raw := one ++ ' ' :: one ++ ['\n']
      { s.write 1 (line ++ line) with status := 0 }
    | "ulimit" => some St.ulimitCommand
    | "alias" => some St.aliasCommand
    | "unalias" => some St.unaliasCommand
    | "mapfile" | "readarray" => some St.readLines
    | "pushd" => some St.pushDirectory
    | "popd" => some St.popDirectory
    | "dirs" => some St.showDirectories
    | "caller" => some St.caller
    | "logout" => some fun s _ => s.complain "not login shell: use \x60exit'" 1
    | "suspend" => some fun s _ => s.complain "cannot suspend: no job control" 1
    | "compopt" => some fun s _ => s.complain "not currently executing completion function" 1
    | "bind" => some fun s _ => s.complain "warning: line editing not enabled" 0
    | "help" => some fun s args =>
      let isHelpless (a : Raw) : Bool := a.head? ≠ some '-' && !ownNames.contains a && !(keywords true).contains a
      let hint (a : Raw) : Raw := "no help topics match \x60" ++ a ++ "'.  Try \x60help help' or \x60man -k " ++ a
      match args.find? isHelpless with
      | some a => s.complain (hint a ++ "' or \x60info " ++ a ++ "'.") 1
      | none => { s with status := 0 }
    | "history" | "fc" | "complete" => some (status 0)
    | _ => none

end IncludeAudit.Shell
