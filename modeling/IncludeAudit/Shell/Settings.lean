/-
Options of a shell, the mask of new files, and further settings.

- `St.setCommand`, `St.settingsCommand`, `St.umaskCommand`: the commands that switch and show them.
-/
import IncludeAudit.Shell.Declare

namespace IncludeAudit.Shell
namespace St

/-- long names of options -/
def plainOptions : List (Raw × Char) :=
  [("errexit", 'e'), ("noglob", 'f'), ("ignoreeof", 'I'), ("interactive", 'i'), ("monitor", 'm'), ("noexec", 'n'),
   ("stdin", 's'), ("xtrace", 'x'), ("verbose", 'v'), ("vi", 'V'), ("emacs", 'E'), ("noclobber", 'C'), ("allexport", 'a'),
   ("notify", 'b'), ("nounset", 'u'), ("privileged", 'p'), ("nolog", '5'), ("debug", '8')]

def optionOf? (wide : Bool) (name : Raw) : Option Char :=
  ((if wide then wideOptions else plainOptions).find? (·.1 = name)).map (·.2)

def switch (s : St) (c : Char) (on : Bool) : St :=
  { s with options := if on then c :: s.options.filter (· ≠ c) else s.options.filter (· ≠ c) }

/-- whether an option is on, in a word -/
def onOrOff (on : Bool) : Raw :=
  if on then "on" else "off"

def showOptions (s : St) (asCommands : Bool) : St :=
  if asCommands then
    let sign (on : Bool) : Raw := if on then "set -o " else "set +o "
    let known := if s.wide then wideOptions else plainOptions
    s.write 1 (known.flatMap fun p => sign (s.has p.2) ++ p.1 ++ ['\n'])
  else if s.wide then
    s.write 1 (wideOptions.flatMap fun p => Raw.pad 15 true p.1 ++ '\t' :: onOrOff (s.has p.2) ++ ['\n'])
  else
    let line (p : Raw × Char) : Raw := Raw.pad 16 true p.1 ++ onOrOff (s.has p.2) ++ ['\n']
    s.write 1 ("Current option settings\n" ++ plainOptions.flatMap line)

def noOption (s : St) (name : Raw) : St :=
  if s.wide then s.complain (name ++ ": invalid option name") 2 else s.die ("Illegal option -o " ++ name)

def setOptions (s : St) : (fuel : Nat) → List Raw → St
  | 0, _ => s
  | _, [] => s
  | fuel + 1, a :: r =>
    let named (on : Bool) (r : List Raw) : St :=
      match r with
      | n :: r =>
        match optionOf? s.wide n with
        | some c => setOptions (s.switch c on) fuel r
        | none => s.noOption n
      | [] => s.showOptions (!on)
    if a = "--" then { s with arguments := r }
    else if a = "-" then
      let s := if s.wide then (s.switch 'x' false).switch 'v' false else s
      if r.isEmpty then s else { s with arguments := r }
    else
      match a with
      | sign :: letters =>
        if (sign = '-' ∨ sign = '+') ∧ letters ≠ [] then
          let on : Bool := sign = '-'
          let known : Raw := if s.wide then "abefhkmnptuvxBCEHPTo" else "efIimnsxvVECabupo"
          match letters.find? fun c => c ∉ known with
          | some c =>
            if s.wide then (s.complain ([sign, c] ++ ": invalid option") 2).usage
            else s.die ("Illegal option " ++ [sign, c])
          | none =>
            let s := letters.foldl (fun s c => if c = 'o' then s else s.switch c on) s
            let s := if !s.wide ∧ on ∧ 'm' ∈ letters then
                (s.complain "can't access tty; job control turned off" 0).switch 'm' false
              else s
            if 'o' ∈ letters then
              match r with
              | n :: r =>
                match optionOf? s.wide n with
                | some c => setOptions (s.switch c on) fuel r
                | none => s.noOption n
              | [] => named on []
            else setOptions s fuel r
        else { s with arguments := a :: r }
      | [] => { s with arguments := a :: r }

/-- options, parameters, or a list of all variables -/
def setCommand (s : St) (arguments : List Raw) : St :=
  if arguments.isEmpty ∧ s.wide then s.showAll
  else if arguments.isEmpty then { s.write 1 (s.declarations [] (·.value.isSome)) with status := 0 }
  else setOptions { s with status := 0 } (arguments.length + 1) arguments

/-! ## Masks -/

def modeLetters (bits : Nat) : Raw :=
  (if bits &&& 4 ≠ 0 then ['r'] else []) ++ (if bits &&& 2 ≠ 0 then ['w'] else []) ++
    if bits &&& 1 ≠ 0 then ['x'] else []

/-- four digits in base eight -/
def octal (n : Nat) : Raw :=
  let ds := Nat.toDigits 8 n
  List.replicate (4 - ds.length) '0' ++ ds

/-- why a mode cannot be read -/
inductive BadMode
  | operator (c : Char)
  | letter (c : Char)
  deriving DecidableEq, Repr

/-- one clause of a mode such as `u+x,go=r`, and what is behind it -/
def modeClause (clause : Raw) (mode : Nat) : Except BadMode (Nat × Raw) :=
  let who := clause.takeWhile (· ∈ ("ugoa" : Raw))
  match clause.drop who.length with
  | sign :: letters =>
    let given := letters.takeWhile (· ∈ ("rwx" : Raw))
    if sign ∉ ("+-=" : Raw) then .error (.operator sign)
    else
      match letters.drop given.length with
      | c :: rest => if c = ',' then .ok (change who sign given, rest) else .error (.letter c)
      | [] => .ok (change who sign given, [])
  | [] => .error (.operator '\x00')
where
  /-- the mode with the bits of letters switched -/
  change (who : Raw) (sign : Char) (letters : Raw) : Nat :=
    let bits := (if 'r' ∈ letters then 4 else 0) ||| (if 'w' ∈ letters then 2 else 0) ||| if 'x' ∈ letters then 1 else 0
    let all : Bool := who = [] || 'a' ∈ who
    let users := (if all ∨ 'u' ∈ who then 0o100 else 0) + (if all ∨ 'g' ∈ who then 0o10 else 0) +
      if all ∨ 'o' ∈ who then 1 else 0
    let chosen := bits * users
    if sign = '+' then mode ||| chosen
    else if sign = '-' then mode &&& (0o777 ^^^ chosen)
    else (mode &&& (0o777 ^^^ (7 * users))) ||| chosen

def clauses : (fuel : Nat) → Raw → Nat → Except BadMode Nat
  | 0, _, mode => .ok mode
  | fuel + 1, t, mode =>
    match modeClause t mode with
    | .error e => .error e
    | .ok (mode, rest) => if ',' ∈ t ∧ (rest ≠ [] ∨ t.getLast? = some ',') then clauses fuel rest mode else .ok mode

def octal? (t : Raw) : Option Nat :=
  if t ≠ [] ∧ t.all (fun c => '0' ≤ c && c ≤ '7') then
    let n := t.foldl (fun n c => n * 8 + (c.toNat - 48)) 0
    if 0o7777 < n then none else some n
  else none

/-- the mask of new files -/
def umaskCommand (s : St) (arguments : List Raw) : St :=
  let options := arguments.takeWhile fun a => a.head? = some '-' && 1 < a.length && a ≠ ['-', '-']
  let letters : Raw := options.flatMap List.tail
  let operands := (arguments.drop options.length).filter (· ≠ ['-', '-'])
  let symbolic : Bool := 'S' ∈ letters
  let shown (s : St) : Raw :=
    let kept := 0o777 ^^^ s.umask
    if symbolic then
      "u=" ++ modeLetters (kept / 64) ++ ",g=" ++ modeLetters (kept / 8 % 8) ++ ",o=" ++ modeLetters (kept % 8)
    else octal s.umask
  match (if s.wide then none else letters.find? (· ≠ 'S')), operands with
  | some c, _ => s.complain ("Illegal option -" ++ [c]) 2
  | none, [] =>
    let front : Raw := if 'p' ∈ letters then (if symbolic then "umask -S " else "umask ") else []
    { s.write 1 (front ++ shown s ++ ['\n']) with status := 0 }
  | none, a :: _ =>
    let done (mask : Nat) : St :=
      let s := { s with umask := mask, status := 0 }
      if s.wide ∧ symbolic then s.write 1 (shown s ++ ['\n']) else s
    if a.head?.any Char.isDigit then
      match octal? a with
      | some m => done (m &&& 0o777)
      | none => if s.wide then s.complain (a ++ ": octal number out of range") 1 else s.complain ("Illegal number: " ++ a) 2
    else
      match clauses (a.length + 1) a (0o777 ^^^ s.umask) with
      | .ok m => done (0o777 ^^^ (m &&& 0o777))
      | .error e =>
        if s.wide then
          match e with
          | .operator c => s.complain ('\x60' :: c :: "': invalid symbolic mode operator") 1
          | .letter c => s.complain ('\x60' :: c :: "': invalid symbolic mode character") 1
        else s.complain ("Illegal mode: " ++ a) 2

/-! ## Further settings -/

/-- further options of the wider shell by their names -/
def settingNames : List Raw :=
  Raw.words ("autocd assoc_expand_once cdable_vars cdspell checkhash checkjobs checkwinsize cmdhist compat31 compat32 " ++
    "compat40 compat41 compat42 compat43 compat44 complete_fullquote direxpand dirspell dotglob execfail " ++
    "expand_aliases extdebug extglob extquote failglob force_fignore globasciiranges globskipdots globstar gnu_errfmt " ++
    "histappend histreedit histverify hostcomplete huponexit inherit_errexit interactive_comments lastpipe lithist " ++
    "localvar_inherit localvar_unset login_shell mailwarn no_empty_cmd_completion nocaseglob nocasematch " ++
    "noexpand_translation nullglob patsub_replacement progcomp progcomp_alias promptvars restricted_shell " ++
    "shift_verbose sourcepath varredir_close xpg_echo")

/-- settings that are on when a script starts -/
def usualSettings : List Raw :=
  Raw.words ("checkwinsize cmdhist complete_fullquote extquote force_fignore globasciiranges globskipdots hostcomplete " ++
    "interactive_comments patsub_replacement progcomp promptvars sourcepath")

/-- switches further options, or shows them -/
def settingsCommand (s : St) (arguments : List Raw) : St :=
  let (letters, _, names) := flagsOf (arguments.length + 1) arguments [] []
  let isOption : Bool := 'o' ∈ letters
  let known : List Raw := if isOption then wideOptions.map (·.1) else settingNames
  let isOn (s : St) (n : Raw) : Bool :=
    if isOption then ((optionOf? true n).map s.has).getD false else s.settings.contains n
  let switched (s : St) (n : Raw) (on : Bool) : St :=
    if isOption then ((optionOf? true n).map fun c => s.switch c on).getD s
    else { s with settings := if on then n :: s.settings.filter (· ≠ n) else s.settings.filter (· ≠ n) }
  let line (s : St) (n : Raw) : Raw :=
    if 'p' ∈ letters then
      if isOption then (if isOn s n then ("set -o " : Raw) else "set +o ") ++ n ++ ['\n']
      else (if isOn s n then ("shopt -s " : Raw) else "shopt -u ") ++ n ++ ['\n']
    else Raw.pad 15 true n ++ '\t' :: onOrOff (isOn s n) ++ ['\n']
  let s := { s with status := 0 }
  if 's' ∈ letters ∧ 'u' ∈ letters then s.complain "cannot set and unset shell options simultaneously" 1
  else if names.isEmpty then
    let shown := known.filter fun n => ('s' ∉ letters || isOn s n) && ('u' ∉ letters || !isOn s n)
    if 'q' ∈ letters then s else s.write 1 (shown.flatMap (line s))
  else
    names.foldl (fun s n =>
      if n ∉ known then
        s.complain (n ++ if isOption then ": invalid option name" else ": invalid shell option name") 1
      else if 's' ∈ letters then switched s n true
      else if 'u' ∈ letters then switched s n false
      else
        let s := if 'q' ∈ letters then s else s.write 1 (line s n)
        if isOn s n then s else { s with status := 1 }) s

end St
end IncludeAudit.Shell
