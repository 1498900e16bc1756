/-
Variables with their attributes, and how they and functions are declared, shown and taken away.

- `St.declareCommand`, `St.exportCommand`, `St.readonlyCommand`, `St.unsetCommand`: the commands about them.
-/
import IncludeAudit.Shell.Jobs
import IncludeAudit.Shell.Value

namespace IncludeAudit.Shell
namespace St

/-- ends the shell after a complaint of a special command; the wider shell goes on -/
def fault (s : St) (message : Raw) : St :=
  if s.wide then s.complain message 1 else s.die message

/-- letters of options in front of operands, those that are switched on and those switched off -/
def flagsOf : (fuel : Nat) → List Raw → Raw → Raw → Raw × Raw × List Raw
  | 0, args, on, off => (on, off, args)
  | fuel + 1, args, on, off =>
    match args with
    | ('-' :: ls) :: r =>
      if ls = ['-'] then (on, off, r) else if ls = [] then (on, off, args) else flagsOf fuel r (on ++ ls) off
    | ('+' :: ls) :: r => if ls = [] then (on, off, args) else flagsOf fuel r on (off ++ ls)
    | _ => (on, off, args)

/-- the attributes that letters switch on and off -/
def withAttributes (on off : Raw) (v : Variable) : Variable :=
  let switched (c : Char) (old : Bool) : Bool := (old || c ∈ on) && c ∉ off
  let isArray : Bool := 'a' ∈ on || 'A' ∈ on
  { v with
    exported := switched 'x' v.exported
    integer := switched 'i' v.integer
    refers := switched 'n' v.refers
    keyed := v.keyed || 'A' ∈ on
    elements := if isArray then some (v.elements.getD (v.value.toList.map fun x => (['0'], x))) else v.elements
    value := if isArray then none else v.value
    casing := if 'u' ∈ on then some true else if 'l' ∈ on then some false
      else if 'u' ∈ off ∨ 'l' ∈ off then none else v.casing }

def refusedAttributes? (on off : Raw) (v : Variable) : Option Raw :=
  if 'A' ∈ on ∧ v.elements.isSome ∧ !v.keyed then some "cannot convert indexed to associative array"
  else if 'a' ∈ on ∧ v.keyed then some "cannot convert associative to indexed array"
  else if ('a' ∈ off ∨ 'A' ∈ off) ∧ v.elements.isSome then some "cannot destroy array variables in this way"
  else none

/-- a name with an index -/
def isElement (t : Raw) : Bool :=
  let name := t.takeWhile (· ≠ '[')
  isName name && name.length < t.length && t.getLast? = some ']'

/-- declares one variable, with a value if it is given -/
def declareOne (on off : Raw) (s : St) (a : Raw) : St :=
  let front := a.takeWhile (· ≠ '=')
  let added : Bool := s.wide && front.getLast? = some '+'
  let name := if added then front.dropLast else front
  let given : Bool := front.length < a.length
  let value := a.drop (front.length + 1)
  if s.wide ∧ isElement name then
    -- an element of an array
    let array := name.takeWhile (· ≠ '[')
    let index := s.indexOf array ((name.drop (array.length + 1)).dropLast)
    let s := s.put array (withAttributes (if 'A' ∈ on then on else 'a' :: on) off ((s.variable_ array).getD {}))
    if given then s.assignElement array index value else s
  else if isName name = false then
    if s.wide then s.complain ('\x60' :: a ++ "': not a valid identifier") 1
    else s.die (name ++ ": bad variable name")
  else
    let old := (s.variable_ name).getD {}
    let locked (s : St) : St :=
      if 'r' ∈ on then
        let v := (s.variable_ name).getD {}
        s.put name { v with readonly := true }
      else s
    let isBound : Bool := s.wide && old.readonly && (given || on.any (· ≠ 'r') || 'r' ∈ off)
    match refusedAttributes? on off old, isBound with
    | some reason, _ => s.complain (name ++ ": " ++ reason) 1
    | none, true =>
      let command := s.command
      let bare : Bool := command = some "export" || command = some "readonly"
      { { s with command := if bare then none else command }.complain (name ++ ": readonly variable") 1 with command }
    | none, false =>
      let v := withAttributes on off old
      let s := s.put name v
      if given then
        if v.refers then locked (s.put name { v with value := some value })
        else
          let s :=
            if added ∧ v.integer then s.bind name ((s.lookup? name).getD ['0'] ++ '+' :: value)
            else if added then s.bind name ((s.lookup? name).getD [] ++ value)
            else s.bind name value
          if s.isOn then locked s else s
      else locked s

def known (s : St) (p : Raw × Variable) : Raw × Variable :=
  if p.1 = "BASHOPTS" ∨ p.1 = "SHELLOPTS" then (p.1, { p.2 with value := s.ownValue? p.1 }) else p

/-- all variables in the order of their names -/
def allVariables (s : St) : List (Raw × Variable) :=
  s.sortedBindings.map s.known

def declarations (s : St) (word : Raw) (test : Variable → Bool) : Raw :=
  (s.allVariables.filter fun p => test p.2).flatMap fun p =>
    if s.wide then declaration p.1 p.2
    else
      let value : Raw :=
        match p.2.value with
        | some v => '=' :: quoteValue v
        | none => []
      word ++ p.1 ++ value ++ ['\n']

/-- keeps the variables of names for the end of the function that is under way; a local variable starts without a value,
unless values are handed down -/
def keepOuter (s : St) (fresh : Bool) (names : List Raw) : St :=
  names.foldl (fun s name =>
    match s.locals with
    | top :: rest =>
      if top.any (·.1 = name) then s
      else
        let old := s.variable_ name
        let s := { s with locals := ((name, old) :: top) :: rest }
        if fresh ∧ !s.isSet "localvar_inherit" then s.put name {} else s
    | [] => s) s

def keepOptions (s : St) : St :=
  match s.locals with
  | top :: rest =>
    if top.any (·.1 = ['-']) then s
    else { s with locals := ((['-'], some { value := some s.options }) :: top) :: rest }
  | [] => s

/-- sets a variable of the function that is under way; its old value comes back at the end -/
def makeLocal (s : St) (arguments : List Raw) : St :=
  match s.locals with
  | [] => s.fault (if s.wide then "can only be used in a function" else "not in a function")
  | _ =>
    arguments.foldl (fun s a =>
      let name := a.takeWhile (· ≠ '=')
      let s := if a = ['-'] then s.keepOptions else s.keepOuter false [name]
      if name.length < a.length then s.assign name (a.drop (name.length + 1)) else s) { s with status := 0 }

/-- functions in the order of their names -/
def sortedFunctions (s : St) : List (Raw × Script) :=
  (s.functions.mergeSort fun a b => Raw.le a.1 b.1).map fun f => (f.1, f.2.2)

def functionLine (s : St) (name : Raw) : Raw :=
  (if s.exportedFunctions.contains name then ("declare -fx " : Raw) else "declare -f ") ++ name ++ ['\n']

def showFunctions (s : St) (onlyNames onlyExported : Bool) (names : List Raw) : St :=
  let all := s.sortedFunctions.filter fun f => !onlyExported || s.exportedFunctions.contains f.1
  let whole (f : Raw × Script) : Raw :=
    shownFunction f.1 f.2 ++ '\n' :: if s.exportedFunctions.contains f.1 then s.functionLine f.1 else []
  if names.isEmpty then s.write 1 (all.flatMap fun f => if onlyNames then s.functionLine f.1 else whole f)
  else
    names.foldl (fun s n =>
      match s.functions.find? (·.1 = n) with
      | some (_, _, b) =>
        s.write 1 (if onlyNames then n ++ ['\n'] else shownFunction n b ++ ['\n'])
      | none => { s with status := 1 }) s

/-- a variable with its value as `set` shows it -/
def settingLine (p : Raw × Variable) : Raw :=
  match p.2.elements, p.2.value with
  | some _, _ => p.1 ++ (if declared p.2 = [] then ("=()" : Raw) else declared p.2) ++ ['\n']
  | none, some v => p.1 ++ '=' :: Quoting.sparing v ++ ['\n']
  | none, none => []

/-- shows all variables and all functions -/
def showAll (s : St) : St :=
  { (s.write 1 (s.allVariables.flatMap settingLine)).showFunctions false false [] with status := 0 }

def declareCommand (s : St) (forLocal : Bool) (arguments : List Raw) : St :=
  let (on, off, names) := flagsOf (arguments.length + 1) arguments [] []
  let s := { s with status := 0 }
  if forLocal ∧ s.locals.isEmpty then s.complain "can only be used in a function" 1
  else if 'f' ∈ on ∨ 'F' ∈ on then s.showFunctions (decide ('F' ∈ on)) (decide ('x' ∈ on)) names
  else if 'p' ∈ on ∨ names.isEmpty then
    if names.isEmpty then
      let fits (p : Raw × Variable) : Bool :=
        (on.filter fun c => c ≠ 'p' && c ≠ 'g').all (fun c => c ∈ attributes p.2) &&
          (!forLocal || (s.locals.headD []).any (·.1 = p.1))
      let found := s.allVariables.filter fits
      if forLocal ∨ on ≠ [] then s.write 1 (found.flatMap fun p => declaration p.1 p.2) else s.showAll
    else
      names.foldl (fun s n =>
        match s.variable_ n with
        | some v => s.write 1 (declaration n (s.known (n, v)).2)
        | none => s.complain (n ++ ": not found") 1) s
  else
    let s := if forLocal ∧ names.contains ['-'] then s.keepOptions else s
    let names := if forLocal then names.filter (· ≠ ['-']) else names
    let plainNames := names.map fun a =>
      let n := (a.takeWhile (· ≠ '=')).takeWhile (· ≠ '[')
      if n.getLast? = some '+' then n.dropLast else n
    let isBound (n : Raw) : Bool := forLocal && ((s.variable_ n).map (·.readonly)).getD false
    let s := if s.locals.isEmpty ∨ 'g' ∈ on then s
      else s.keepOuter true (plainNames.filter fun n => isName n && !isBound n)
    names.foldl (fun s a => if s.isOn then declareOne on off s a else s) s

def exportCommand (s : St) (arguments : List Raw) : St :=
  let (on, _, names) := flagsOf (arguments.length + 1) arguments [] []
  let off : Bool := 'n' ∈ on
  let s := { s with status := 0 }
  if s.wide ∧ 'f' ∈ on then
    if names.isEmpty then s.showFunctions false true []
    else
      names.foldl (fun s n =>
        if s.functions.any (·.1 = n) then
          let others := s.exportedFunctions.filter (· ≠ n)
          { s with exportedFunctions := if off then others else n :: others }
        else s.complain (n ++ ": not a function") 1) s
  else if names.isEmpty then s.write 1 (s.declarations "export " (·.exported))
  else
    names.foldl (fun s a =>
      if s.isOn then s.declareOne (if off then [] else ['x']) (if off then ['x'] else []) a else s) s

/-- makes variables such that they are only to be read, or shows those that are -/
def readonlyCommand (s : St) (arguments : List Raw) : St :=
  let (on, off, names) := flagsOf (arguments.length + 1) arguments [] []
  let s := { s with status := 0 }
  if names.isEmpty then
    let fits (v : Variable) : Bool := v.readonly && on.all fun c => c = 'p' || c ∈ attributes v
    s.write 1 (s.declarations "readonly " fits)
  else if s.wide ∧ 'f' ∈ on then
    names.foldl (fun s n =>
      if s.functions.any (·.1 = n) then s else s.complain (n ++ ": not a function") 1) s
  else
    names.foldl (fun s a => if s.isOn then s.declareOne ('r' :: on.filter (· ≠ 'p')) off a else s) s

/-- takes an element of an array away, or the whole array -/
def unsetElement (s : St) (name written : Raw) : St :=
  let (s, index) : St × Raw :=
    if s.isKeyed name ∨ written = ['@'] ∨ written = ['*'] then (s, written)
    else
      match s.compute written with
      | (s, some k) => (s, placeIn (s.elements name) k)
      | (s, none) => (s, written)
  let name := s.resolve maxReferences name
  match s.variable_ name with
  | some v =>
    if index = ['@'] ∨ index = ['*'] then s.unset name
    else if v.elements.isNone then (if index = ['0'] then s.unset name else s)
    else s.put name { v with elements := v.elements.map fun es => es.filter (·.1 ≠ index) }
  | none => s

/-- takes variables or functions away -/
def unsetCommand (s : St) (arguments : List Raw) : St :=
  let (on, _, names) := flagsOf (arguments.length + 1) arguments [] []
  let functions : Bool := 'f' ∈ on
  let variables_ : Bool := 'v' ∈ on
  if s.wide ∧ functions ∧ variables_ then s.complain "cannot simultaneously unset a function and a variable" 1
  else
    names.foldl (fun s n =>
      let withoutFunction : St := { s with functions := s.functions.filter (·.1 ≠ n) }
      let name := n.takeWhile (· ≠ '[')
      if s.isOn = false then s
      else if functions then withoutFunction
      else if ((s.variable_ n).map (·.readonly)).getD false then
        s.fault (n ++ if s.wide then ": cannot unset: readonly variable" else ": is read only")
      else if isName name = false then
        if !s.wide then s.fault (n ++ ": bad variable name")
        else if variables_ then s.complain ('\x60' :: n ++ "': not a valid identifier") 1
        else withoutFunction
      else if name.length < n.length then s.unsetElement name ((n.drop (name.length + 1)).dropLast)
      else if (s.variable_ n).isNone ∧ s.wide ∧ !variables_ then withoutFunction
      else
        let real := if s.wide ∧ 'n' ∉ on then s.resolve maxReferences n else n
        let isLocal : Bool := s.wide && (s.locals.headD []).any fun l => l.1 = real
        -- a local variable stays local
        if isLocal then s.put real {} else s.unset real) { s with status := 0 }

/-- takes back the variables of a function at its end -/
def dropLocals (s : St) : St :=
  match s.locals with
  | [] => s
  | top :: rest =>
    top.foldl (fun s p =>
      match p.2 with
      | some v => if p.1 = ['-'] then { s with options := v.value.getD [] } else s.put p.1 v
      | none => s.unset p.1) { s with locals := rest }

end St
end IncludeAudit.Shell
