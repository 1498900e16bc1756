/-
What a name would run: a keyword, a text that stands for others, a function, a command of the shell itself or a
program, in this order.

- `St.meanings`: everything that a name stands for, `St.typeCommand` and `St.hashCommand`: the commands that tell.
-/
import IncludeAudit.Shell.Builtin
import IncludeAudit.Shell.Program

namespace IncludeAudit.Shell

/-- what a name stands for -/
inductive Meaning
  | keyword
  | alias (text : Raw)
  | function (body : Script)
  | builtIn
  /-- a program, and whether it has been found before -/
  | program (path : Raw) (known : Bool)

namespace Meaning

def kind : Meaning → Raw
  | .keyword => "keyword"
  | .alias _ => "alias"
  | .function _ => "function"
  | .builtIn => "builtin"
  | .program _ _ => "file"

end Meaning

namespace St

def carriesOut (s : St) (name : Raw) : Bool :=
  isBuiltIn s.wide name && !s.disabled.contains name

/-- the programs that a name stands for, in the order in which they are looked for -/
def programs (s : St) (search : Option Raw) (name : Raw) : List Raw :=
  let isProgram (p : Raw) : Bool :=
    match s.world.tree.stat s.here (Raw.toText p) with
    | .ok (.file _ mode) => Node.startable mode
    | _ => false
  if '/' ∈ name then [name].filter isProgram else (Image.candidates search name).filter isProgram

/-- everything that a name stands for, what runs first -/
def meanings (s : St) (search : Option Raw) (name : Raw) : List Meaning :=
  let keyword := if (keywords s.wide).contains name then [Meaning.keyword] else []
  let aliases := if s.wide ∧ !s.isSet "expand_aliases" then [] else s.aliases.filter (·.1 = name)
  let functions := (s.functions.filter (·.1 = name)).map fun f => Meaning.function f.2.2
  let own := if s.carriesOut name then [Meaning.builtIn] else []
  let found := (s.found.filter (·.1 = name)).map fun f => Meaning.program f.2.1 true
  let start := keyword ++ aliases.map fun a => .alias a.2
  start ++ functions ++ own ++ found ++ (s.programs search name).map fun p => .program p false

def sentence (s : St) (name : Raw) : Meaning → Raw
  | .keyword => name ++ " is a shell keyword\n"
  | .alias t =>
    if s.wide then name ++ " is aliased to \x60" ++ t ++ "'\n" else name ++ " is an alias for " ++ t ++ ['\n']
  | .function body =>
    if s.wide then name ++ " is a function\n" ++ shownFunction name body ++ ['\n'] else name ++ " is a shell function\n"
  | .builtIn =>
    name ++ (if isSpecialCommand name ∧ !s.wide then " is a special shell builtin\n" else " is a shell builtin\n")
  | .program p true => name ++ (if s.wide then " is hashed (" ++ p ++ ")\n" else " is a tracked alias for " ++ p ++ ['\n'])
  | .program p false => name ++ " is " ++ p ++ ['\n']

/-- a meaning in a few words, which could be read again -/
def words (s : St) (name : Raw) : Meaning → Raw
  | .alias t => "alias " ++ name ++ '=' :: (if s.wide then Quoting.plain t else quoteValue t) ++ ['\n']
  | .program p _ => p ++ ['\n']
  | _ => name ++ ['\n']

/-- remembers where a program is, and how often it has been used -/
def remember (s : St) (name path : Raw) (uses : Nat) : St :=
  if s.wide = false then
    if s.found.any (·.1 = name) then { s with found := s.found.map fun f => if f.1 = name then (name, path, 0) else f }
    else { s with found := s.found ++ [(name, path, 0)] }
  else if s.has 'h' = false then s
  else if s.found.any (·.1 = name) then
    { s with found := s.found.map fun f => if f.1 = name then (name, f.2.1, f.2.2 + uses) else f }
  else { s with found := (name, path, uses) :: s.found }

/-- says what runs for names: all of it, and in what form. `plainly` leaves functions out, `onlyPrograms` all but
programs -/
def tell (s : St) (all plainly onlyPrograms : Bool) (search : Option Raw) (form : Raw → Meaning → Raw)
    (missing : St → Raw → St) (names : List Raw) : St :=
  let one (s : St) (name : Raw) : St × Bool :=
    let ms := (s.meanings search name).filter fun m =>
      match m with
      | .function _ => !plainly && !onlyPrograms
      | .program _ known => !known || !all
      | _ => !onlyPrograms
    match ms with
    | [] => (missing s name, false)
    | m :: more =>
      let s := (if all then m :: more else [m]).foldl (fun s m => s.write 1 (form name m)) s
      match m with
      | .program p true => (if s.wide then s.remember name p 1 else s, true)
      | .program p false => (if s.wide ∨ '/' ∈ name then s else s.remember name p 0, true)
      | _ => (s, true)
  let (s, found) := names.foldl (fun (acc : St × List Bool) n =>
    let (s, ok) := one acc.1 n
    (s, ok :: acc.2)) (s, [])
  { s with status := if found.all fun ok => ok then 0 else 1 }

/-- the command that says what names stand for -/
def typeCommand (s : St) (arguments : List Raw) : St :=
  let search := s.lookup? "PATH"
  if s.wide then
    match Tool.options (Tool.letters "afptP") true arguments with
    | .error _ => s
    | .ok p =>
      let form (name : Raw) (m : Meaning) : Raw :=
        if p.has 't' then m.kind ++ ['\n']
        else if p.has 'p' ∨ p.has 'P' then
          match m with
          | .program path _ => path ++ ['\n']
          | _ => []
        else s.sentence name m
      let missing (s : St) (name : Raw) : St :=
        if p.has 't' ∨ p.has 'p' ∨ p.has 'P' then s else s.complain (name ++ ": not found") 1
      s.tell (p.has 'a') (p.has 'f') (p.has 'P') search form missing p.operands
  else
    let missing (s : St) (name : Raw) : St := s.write 1 (name ++ ": not found\n")
    let s := s.tell false false false search s.sentence missing arguments
    { s with status := if s.status = 0 then 0 else 127 }

/-- the part of a command about commands that tells what its names stand for; `long` asks for sentences -/
def describeCommand (s : St) (long : Bool) (search : Option Raw) (names : List Raw) : St :=
  if s.wide then
    let missing (s : St) (name : Raw) : St := if long then s.complain (name ++ ": not found") 1 else s
    let told := s.tell false false false search (if long then s.sentence else s.words) missing names
    { told with status := if names.any fun n => !(s.meanings search n).isEmpty then 0 else 1 }
  else
    let missing (s : St) (name : Raw) : St := if long then s.write 1 (name ++ ": not found\n") else s
    let s := s.tell false false false search (if long then s.sentence else s.words) missing (names.take 1)
    { s with status := if s.status = 0 then 0 else 127 }

/-! ## Programs that have been found -/

/-- where a name stands in the table of programs that have been found -/
def foundSlot (wide : Bool) (name : Raw) : Nat :=
  if wide then (name.foldl (fun n c => (n * 16777619 % 0x100000000) ^^^ c.toNat) 2166136261) % 256
  else (((name.headD ' ').toNat * 16 + name.foldl (fun n c => n + c.toNat) 0) % 0x8000) % 31

/-- the table of programs that have been found -/
def hashCommand (s : St) (arguments : List Raw) : St :=
  let table := s.found.mergeSort fun a b => foundSlot s.wide a.1 ≤ foundSlot s.wide b.1
  if !s.wide then
    if arguments.head? = some "-r" then { s with found := [], status := 0 }
    else if arguments.isEmpty then
      let line (f : Raw × Raw × Nat) : Raw := f.2.1 ++ (if f.2.2 = 0 then [] else ['*']) ++ ['\n']
      { s.write 1 (table.flatMap line) with status := 0 }
    else
      arguments.foldl (fun s name =>
        let s := { s with found := s.found.filter (·.1 ≠ name) }
        match s.programs (s.lookup? "PATH") name with
        | path :: _ => if '/' ∈ name ∨ s.carriesOut name then s else s.remember name path 0
        | [] =>
          if s.carriesOut name ∨ s.functions.any (·.1 = name) then s else s.complain (name ++ ": not found") 1)
        { s with status := 0 }
  else
    match Tool.options (Tool.letters "lrp:dt") true arguments with
    | .error _ => s
    | .ok p =>
      let s := { s with status := 0, found := if p.has 'r' then [] else s.found }
      if p.operands.isEmpty then
        if p.has 'r' then s
        else if p.has 'd' ∨ p.has 't' then s.complain (['-', if p.has 'd' then 'd' else 't'] ++ ": option requires an argument") 1
        else if table.isEmpty then s.write 1 "hash: hash table empty\n"
        else if p.has 'l' then
          s.write 1 (table.flatMap fun f => "builtin hash -p " ++ f.2.1 ++ ' ' :: f.1 ++ ['\n'])
        else
          s.write 1 ("hits\tcommand\n" ++ table.flatMap fun f =>
            Raw.pad 4 false (Text.ofNat f.2.2) ++ '\t' :: f.2.1 ++ ['\n'])
      else
        let several : Bool := 1 < p.operands.length
        p.operands.foldl (fun s name =>
          let old? := s.found.find? (·.1 = name)
          match p.value? 'p' with
          | some path => { s with found := (name, path, 0) :: s.found.filter (·.1 ≠ name) }
          | none =>
            if p.has 't' then
              match old? with
              | some (_, path, n) =>
                let line : Raw :=
                  if p.has 'l' then "builtin hash -p " ++ path ++ ' ' :: name
                  else if several then name ++ '\t' :: path
                  else path
                { s.write 1 (line ++ ['\n']) with
                  found := s.found.map fun f => if f.1 = name then (name, path, n + 1) else f }
              | none => s.complain (name ++ ": not found") 1
            else if p.has 'd' then
              if old?.isSome then { s with found := s.found.filter (·.1 ≠ name) } else s.complain (name ++ ": not found") 1
            else if '/' ∈ name ∨ s.carriesOut name ∨ s.functions.any (·.1 = name) then s
            else
              match s.programs (s.lookup? "PATH") name with
              | path :: _ => { s with found := (name, path, 0) :: s.found.filter (·.1 ≠ name) }
              | [] => s.complain (name ++ ": not found") 1) s

/-! ## Names that begin with a text -/

def enableCommand (s : St) (arguments : List Raw) : St :=
  match Tool.options (Tool.letters "adnpsf:") true arguments with
  | .error _ => s
  | .ok p =>
    let s := { s with status := 0 }
    if p.has 'f' then
      let file := (p.value? 'f').getD []
      let lead : Raw := "cannot open shared object "
      s.complain (lead ++ file ++ ": " ++ file ++ ": cannot open shared object file: No such file or directory") 1
    else if p.operands.isEmpty then
      let names := (ownNames.filter fun n => !p.has 's' || isSpecialCommand n || n = "source").filter fun n =>
        p.has 'a' || (s.disabled.contains n = p.has 'n')
      s.write 1 (names.flatMap fun n => (if s.disabled.contains n then "enable -n " else "enable ") ++ n ++ ['\n'])
    else
      p.operands.foldl (fun s n =>
        if !isBuiltIn true n then s.complain (n ++ ": not a shell builtin") 1
        else { s with disabled := if p.has 'n' then n :: s.disabled else s.disabled.filter (· ≠ n) }) s

/-- names that a word may be the beginning of -/
def completions (s : St) (arguments : List Raw) : St :=
  match Tool.options (Tool.letters "abcdefgjksuvo:A:G:W:F:C:X:P:S:") true arguments with
  | .error _ => s
  | .ok p =>
    let kinds : List (Char × Raw) :=
      [('a', "alias"), ('b', "builtin"), ('c', "command"), ('d', "directory"), ('e', "export"), ('f', "file"),
       ('g', "group"), ('j', "job"), ('k', "keyword"), ('s', "service"), ('u', "user"), ('v', "variable")]
    let asked : List Raw := (kinds.filter fun k => p.has k.1).map (·.2) ++ (p.value? 'A').toList
    let wanted := p.operands.headD []
    let sorted (ns : List Raw) : List Raw := ns.mergeSort Raw.le
    let variablesOf (test : Variable → Bool) : List Raw := (s.sortedBindings.filter fun v => test v.2).map (·.1)
    let keywordList : List Raw := Raw.words
      "if then else elif fi case esac for select while until do done in function time \x7b \x7d ! [[ ]] coproc"
    let names (kind : Raw) : List Raw :=
      match String.ofList kind with
      | "alias" => sorted (s.aliases.map (·.1))
      | "builtin" => ownNames
      | "keyword" => keywordList
      | "function" => sorted (s.functions.map (·.1))
      | "variable" => variablesOf fun _ => true
      | "export" => variablesOf (·.exported)
      | "arrayvar" => variablesOf (·.elements.isSome)
      | "setopt" => wideOptions.map (·.1)
      | "shopt" => settingNames
      | "signal" => signalNames.map fun g => "SIG" ++ g.1
      | "enabled" => ownNames.filter fun n => !s.disabled.contains n
      | "disabled" => s.disabled
      | "command" => keywordList ++ sorted (s.functions.map (·.1)) ++ ownNames
      | _ => []
    let paths (directories : Bool) : List Raw :=
      let f : List CharSet.Marked := wanted.map (fun c => (c, true)) ++ [('*', false)]
      let found := Glob.paths s.globbing s.world.tree s.here f
      found.filter fun q => !directories || s.world.tree.isDirectory s.here (Raw.toText q)
    let listed : List Raw := asked.flatMap fun (k : Raw) =>
      if k = "file" then paths false
      else if k = "directory" then paths true
      else (names k).filter fun n => wanted.isPrefixOf n
    let given := ((p.value? 'W').map fun t => (Raw.words t).filter fun n => wanted.isPrefixOf n).getD []
    let kept : List Raw :=
      match p.value? 'X' with
      | some x =>
        let (negated, x) : Bool × Raw := match x with
          | '!' :: r => (true, r)
          | r => (false, r)
        let pattern := Pattern.ofText s.manner x
        (listed ++ given).filter fun n => pattern.accepts (s.inward n) = negated
      | none => listed ++ given
    let front := (p.value? 'P').getD []
    let behind := (p.value? 'S').getD []
    { s.write 1 (kept.flatMap fun n => front ++ n ++ behind ++ ['\n']) with status := if kept.isEmpty then 1 else 0 }

end St
end IncludeAudit.Shell
