/-
The tool that works through records with a program.

- `awk`: the tool.
-/
import IncludeAudit.Tool.Awk.Eval
import IncludeAudit.Tool.Awk.Reader

namespace IncludeAudit.Tool
namespace Awk

/-- what the arguments ask for -/
structure Request where
  separator : Option Raw := none
  assignments : List Raw := []
  files : List Raw := []
  /-- arguments that are no options -/
  rest : List Raw := []
  version : Bool := false
  deriving DecidableEq, Repr

/-- the arguments, or a complaint about them -/
def readRequest : (fuel : Nat) → List Raw → Request → Except Raw Request
  | 0, _, r => .ok r
  | _, [], r => .ok r
  | fuel + 1, a :: rest, r =>
    let valued (letter : Char) (value : Raw) (f : Raw → Request) : Except Raw Request :=
      match value, rest with
      | [], v :: rest => readRequest fuel rest (f v)
      | [], [] => .error ("option -" ++ letter :: " lacks argument")
      | v, rest => readRequest fuel rest (f v)
    match a with
    | ['-', '-'] => .ok { r with rest }
    | '-' :: 'F' :: v =>
      if v = [] ∧ rest.head? = some [] then readRequest fuel rest.tail { r with separator := some [] }
      else valued 'F' v fun v => { r with separator := some v }
    | '-' :: 'v' :: v => valued 'v' v fun v => { r with assignments := r.assignments ++ [v] }
    | '-' :: 'f' :: v => valued 'f' v fun v => { r with files := r.files ++ [v] }
    | '-' :: 'W' :: v =>
      valued 'W' v fun v => if v ≠ [] ∧ v.isPrefixOf ("version" : Raw) then { r with version := true } else r
    | ['-'] => .ok { r with rest := a :: rest }
    | '-' :: _ => if a = ("--version" : Raw) then .ok { r with version := true } else .error ("not an option: " ++ a)
    | a => .ok { r with rest := a :: rest }

/-- what is said about the version -/
def versionText : Raw :=
  "mawk 1.3.4 20240123\n\nrandom-funcs:       arc4random_stir/arc4random\n" ++
    "regex-funcs:        internal\n\ncompiled limits:\nsprintf buffer      8192\n" ++
    "maximum-integer     9223372036854775808\n"

def usageText : Raw :=
  "Usage: mawk [Options] [Program] [file ...]\n\nProgram:\n" ++
    "    The -f option value is the name of a file containing program text.\n" ++
    "    If no -f option is given, a \"--\" ends option processing; the following\n" ++
    "    parameters are the program text.\n\nOptions:\n" ++
    "    -f program-file  Program  text is read from file instead of from the\n" ++
    "                     command-line.  Multiple -f options are accepted.\n" ++
    "    -F value         sets the field separator, FS, to value.\n" ++
    "    -v var=value     assigns value to program variable var.\n" ++
    "    --               unambiguous end of options.\n\n" ++
    "    Implementation-specific options are prefixed with \"-W\".  They can be\n    abbreviated:\n\n" ++
    "    -W version       show version information and exit.\n    -W compat        pre-POSIX 2001.\n" ++
    "    -W dump          show assembler-like listing of program and exit.\n" ++
    "    -W help          show this message and exit.\n" ++
    "    -W interactive   set unbuffered output, line-buffered input.\n" ++
    "    -W exec file     use file as program as well as last option.\n" ++
    "    -W posix         stricter POSIX checking.\n    -W random=number set initial random seed.\n" ++
    "    -W sprintf=number adjust size of sprintf buffer.\n    -W usage         show this message and exit.\n"

/-- values in an array by texts -/
def keyed (ps : List (Raw × Raw)) : Table :=
  ps.foldl (fun t p =>
    match t.find (.text p.1) true with
    | (some i, t) => t.set i (.given p.2)
    | (none, t) => t) {}

/-- values in an array by numbers from zero on -/
def numbered (vs : List Raw) : Table :=
  ((List.range vs.length).zip vs).foldl (fun t p =>
    match t.find (.number p.1) true with
    | (some i, t) => t.set i (.given p.2)
    | (none, t) => t) {}

/-- the world in front of the first rule -/
def World.start (c : Call) (p : Program) (arguments : List Raw) : World :=
  let w : World :=
    { call := c, names := p.names, input := c.input, tree := c.tree, told := c.told
      globals := Array.replicate p.names.size (.scalar .unset)
      tables := #[keyed c.environment, numbered (c.name :: arguments)]
      ranges := Array.replicate p.rules.length false }
  let texts : List (Raw × Raw) :=
    [("FS", " "), ("OFS", " "), ("ORS", "\n"), ("RS", "\n"), ("SUBSEP", "\x1c"), ("CONVFMT", "%.6g"),
     ("OFMT", "%.6g")]
  let w := texts.foldl (fun w t => w.setPlain t.1 (.text t.2)) w
  let numbers : List (Raw × Float) :=
    [("NR", 0), ("FNR", 0), ("RSTART", 0), ("RLENGTH", -1), ("ARGC", Float.ofNat (arguments.length + 1))]
  let w := numbers.foldl (fun w t => w.setPlain t.1 (.number t.2)) w
  (w.setSlot (.global (special "ENVIRON")) (.array 0)).setSlot (.global (special "ARGV")) (.array 1)

/-- the program with what the arguments assign -/
def performWith (r : Request) (p : Program) : Eval Unit := do
  match r.separator with
  | some s => modify fun w => w.setPlain "FS" (.text (unescaped s))
  | none => pure ()
  r.assignments.forM fun a => do
    match assignment? a with
    | some (n, v) => assignNamed n v
    | none => throw (.fault ("improper assignment: -v " ++ a))
  perform p

/-- the answer at the end of a program -/
def answerOf (c : Call) (r : EStateM.Result Stop World Unit) : Answer :=
  let finished (w : World) (said : List (Bool × Raw)) (status : Nat) : Answer :=
    let waiting : List (Bool × Raw) := if w.held = [] then [] else [(false, w.held.reverse.flatten)]
    let used := c.input.length - w.input.length
    { said := w.said.reverse ++ waiting ++ said, status, tree := some w.tree
      taken := if w.usesInput = false then .nothing else if w.input = [] then .everything else .blocks used }
  match r with
  | .ok _ w => finished w [] w.status
  | .error stop w =>
    match stop with
    | .asks a => { said := w.said.reverse, tree := some w.tree, ask := some a }
    | .fault m => finished w [(true, c.name ++ ": " ++ m ++ ['\n'])] 2
    | .exhausted => finished w [(true, c.name ++ ": program limit exceeded\n")] 2
    | _ => finished w [] w.status

def programText (c : Call) (r : Request) : Except Raw (Raw × Option Raw × List Raw) := do
  match r.files with
  | [] => return (r.rest.headD [], none, r.rest.tail)
  | f :: _ =>
    let texts ← r.files.mapM fun f =>
      match c.readInput f with
      | .ok t => .ok t
      | .error e => .error ("cannot open \"" ++ f ++ "\" (" ++ e.words ++ ")")
    return (Text.paste ['\n'] texts, some f, r.rest)

end Awk

/-- works through records with a program -/
def awk (c : Call) : Answer :=
  match Awk.readRequest (c.arguments.length + 1) c.arguments {} with
  | .error m => c.fail m 2
  | .ok r =>
    if r.version then .print Awk.versionText
    else if r.files = [] ∧ r.rest = [] then { said := [(true, Awk.usageText)] }
    else
      match Awk.programText c r with
      | .error m => c.fail m 2
      | .ok (text, file, arguments) =>
        match Awk.read text with
        | .error f => .fail (Text.paste ['\n'] ((f.texts file).map fun t => c.name ++ ": " ++ t)) 2
        | .ok p => Awk.answerOf c ((Awk.performWith r p).run (Awk.World.start c p arguments))

end IncludeAudit.Tool
