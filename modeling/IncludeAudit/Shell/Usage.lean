/-
How the commands of the wider shell are called: the line that says so, and the letters of their options.

- `St.misused?`: the complaint about an option that a command does not know.
-/
import IncludeAudit.Shell.State

namespace IncludeAudit.Shell

/-- what is said of the use of commands -/
def synopses : List (Raw × Raw) :=
  let of (name synopsis : Raw) : Raw × Raw := (name, synopsis)
  [of "alias" "[-p] [name[=value] ... ]",
   of "bg" "[job_spec ...]",
   of "break" "[n]",
   of "builtin" "[shell-builtin [arg ...]]",
   of "caller" "[expr]",
   of "cd" "[-L|[-P [-e]] [-@]] [dir]",
   of "command" "[-pVv] command [arg ...]",
   of "compgen" ("[-abcdefgjksuv] [-o option] [-A action] [-G globpat] [-W wordlist] [-F function] " ++
     "[-C command] [-X filterpat] [-P prefix] [-S suffix] [word]"),
   of "complete" ("[-abcdefgjksuv] [-pr] [-DEI] [-o option] [-A action] [-G globpat] [-W wordlist] " ++
     "[-F function] [-C command] [-X filterpat] [-P prefix] [-S suffix] [name ...]"),
   of "continue" "[n]",
   of "declare" "[-aAfFgiIlnrtux] [name[=value] ...] or declare -p [-aAfFilnrtux] [name ...]",
   of "dirs" "[-clpv] [+N] [-N]",
   of "disown" "[-h] [-ar] [jobspec ... | pid ...]",
   of "echo" "[-neE] [arg ...]",
   of "enable" "[-a] [-dnps] [-f filename] [name ...]",
   of "eval" "[arg ...]",
   of "exec" "[-cl] [-a name] [command [argument ...]] [redirection ...]",
   of "exit" "[n]",
   of "export" "[-fn] [name[=value] ...] or export -p",
   of "fg" "[job_spec]",
   of "getopts" "optstring name [arg ...]",
   of "hash" "[-lr] [-p pathname] [-dt] [name ...]",
   of "help" "[-dms] [pattern ...]",
   of "jobs" "[-lnprs] [jobspec ...] or jobs -x command [args]",
   of "kill" "[-s sigspec | -n signum | -sigspec] pid | jobspec ... or kill -l [sigspec]",
   of "let" "arg [arg ...]",
   of "local" "[option] name[=value] ...",
   of "mapfile" "[-d delim] [-n count] [-O origin] [-s count] [-t] [-u fd] [-C callback] [-c quantum] [array]",
   of "popd" "[-n] [+N | -N]",
   of "printf" "[-v var] format [arguments]",
   of "pushd" "[-n] [+N | -N | dir]",
   of "pwd" "[-LP]",
   of "read" ("[-ers] [-a array] [-d delim] [-i text] [-n nchars] [-N nchars] [-p prompt] [-t timeout] [-u fd] " ++
     "[name ...]"),
   of "readarray" "[-d delim] [-n count] [-O origin] [-s count] [-t] [-u fd] [-C callback] [-c quantum] [array]",
   of "readonly" "[-aAf] [name[=value] ...] or readonly -p",
   of "return" "[n]",
   of "set" "[-abefhkmnptuvxBCEHPT] [-o option-name] [--] [-] [arg ...]",
   of "shift" "[n]",
   of "shopt" "[-pqsu] [-o] [optname ...]",
   of "source" "filename [arguments]",
   of "suspend" "[-f]",
   of "test" "[expr]",
   of "times" "",
   of "trap" "[-lp] [[arg] signal_spec ...]",
   of "type" "[-afptP] name [name ...]",
   of "typeset" "[-aAfFgiIlnrtux] name[=value] ... or typeset -p [-aAfFilnrtux] [name ...]",
   of "ulimit" "[-SHabcdefiklmnpqrstuvxPRT] [limit]",
   of "umask" "[-p] [-S] [mode]",
   of "unalias" "[-a] name [name ...]",
   of "unset" "[-f] [-v] [-n] [name ...]",
   of "wait" "[-fn] [-p var] [id ...]",
   of "." "filename [arguments]"]

/-- the letters of options, with a colon behind those that take a value -/
def letterTable : List (Raw × Raw) :=
  let of (name letters : Raw) : Raw × Raw := (name, letters)
  [of "alias" "p", of "bg" "", of "builtin" "", of "caller" "", of "cd" "LPe@", of "command" "pvV",
   of "compgen" "abcdefgjksuvo:A:G:W:F:C:X:P:S:", of "declare" "+aAfFgiIlnprtux", of "disown" "har",
   of "enable" "adnpsf:", of "eval" "", of "exec" "cla:", of "export" "fnp", of "fg" "", of "getopts" "",
   of "hash" "lrp:dt", of "help" "dms", of "jobs" "lnprsx", of "local" "+aAfFgiIlnprtux",
   of "mapfile" "d:n:O:s:tu:C:c:", of "printf" "v:", of "pwd" "LP", of "read" "ersa:d:i:n:N:p:t:u:",
   of "readarray" "d:n:O:s:tu:C:c:", of "readonly" "aAfp", of "shopt" "pqsuo", of "source" "", of "." "",
   of "suspend" "f", of "times" "", of "trap" "lp", of "type" "afptP", of "typeset" "+aAfFgiIlnprtux",
   of "umask" "pS", of "unalias" "a", of "unset" "fvn", of "wait" "fnp:"]

namespace St

/-- shows how the command is called that is under way -/
def usage (s : St) : St :=
  let name := s.command.getD []
  let synopsis : Raw := ((synopses.find? (·.1 = name)).map (·.2)).getD []
  let line : Raw := name ++ ": usage: " ++ name ++ (if synopsis = [] then [] else ' ' :: synopsis) ++ ['\n']
  { s.write 2 line with status := 2 }

/-- the first fault in letters of one word: an unknown one, or one without its value; `none` for a value that comes as
the next word -/
def badLetter? (letters : Raw) : Raw → (more : Bool) → Option (Char × Bool) × Bool
  | [], _ => (none, false)
  | c :: r, more =>
    match letters.dropWhile (· ≠ c) with
    | _ :: ':' :: _ => if r ≠ [] then (none, false) else if more then (none, true) else (some (c, true), false)
    | _ :: _ => badLetter? letters r more
    | [] => (some (c, false), false)

/-- the first fault in the options in front of the operands -/
def badOption? (letters : Raw) : (fuel : Nat) → List Raw → Option (Char × Char × Bool)
  | 0, _ => none
  | fuel + 1, args =>
    match args with
    | (sign :: c :: r) :: rest =>
      let takesPlus : Bool := letters.head? = some '+'
      if sign = '-' ∧ c = '-' ∧ r = [] then none
      else if sign = '-' ∨ (sign = '+' ∧ takesPlus) then
        match badLetter? (letters.filter (· ≠ '+')) (c :: r) (!rest.isEmpty) with
        | (some (bad, needs), _) => some (sign, bad, needs)
        | (none, skips) => badOption? letters fuel (if skips then rest.tail else rest)
      else none
    | _ => none

/-- the complaint about an option that the command under way does not know, or that lacks its value -/
def misused? (s : St) (arguments : List Raw) : Option St :=
  match letterTable.find? (·.1 = s.command.getD []) with
  | none => none
  | some (_, letters) =>
    (badOption? letters (arguments.length + 1) arguments).map fun (sign, c, needs) =>
      let words : Raw := if needs then ": option requires an argument" else ": invalid option"
      ((s.complain ([sign, c] ++ words) 2).usage)

end St
end IncludeAudit.Shell
