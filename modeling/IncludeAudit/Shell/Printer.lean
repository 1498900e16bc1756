/-
Commands written out in one fixed layout: four blanks deeper for each body, one blank between words, and words as they
are spelled. A here-document is written behind the line that names it.

- `Script.shown`: a command on its own, `Script.head`: the line that it starts with, `shownFunction`: a function with
its name.
-/
import IncludeAudit.Shell.Quoting
import IncludeAudit.Shell.Reader

namespace IncludeAudit.Shell

/-- a text that commands are written on -/
structure Sheet where
  /-- the text so far, the last character first -/
  text : Raw := []
  indent : Nat := 0
  /-- how much deeper a body is -/
  step : Nat := 4
  /-- commands whose indentation is left out, because they go on with a line -/
  skips : Nat := 0
  /-- functions around the place -/
  functions : Nat := 0
  /-- signs that join commands around the place -/
  joined : Nat := 0
  /-- here-documents that have been named and not yet written -/
  waiting : List Document := []
  /-- a here-document has been written, and its line feed ends the command -/
  wroteDocument : Bool := false

namespace Sheet

/-- writes a text -/
def add (t : Raw) (s : Sheet) : Sheet :=
  { s with text := t.reverse ++ s.text }

/-- writes the blanks at the start of a line -/
def indented (s : Sheet) : Sheet :=
  s.add (List.replicate s.indent ' ')

/-- starts a line with a text -/
def newLine (t : Raw) (s : Sheet) : Sheet :=
  ((s.add ['\n']).indented).add t

/-- ends a command, unless a sign has done so -/
def semicolon (s : Sheet) : Sheet :=
  match s.text with
  | '&' :: _ | '\n' :: _ => s
  | _ => s.add [';']

def deeper (s : Sheet) : Sheet :=
  { s with indent := s.indent + s.step }

/-- back from the depth of a body -/
def back (s : Sheet) : Sheet :=
  { s with indent := s.indent - s.step }

/-- the next command goes on with the line -/
def goOn (s : Sheet) : Sheet :=
  { s with skips := s.skips + 1 }

/-- starts a command: its indentation, unless it goes on with a line -/
def start (s : Sheet) : Sheet :=
  if 0 < s.skips then { s with skips := s.skips - 1 } else s.indented

/-- writes the texts of here-documents -/
def documents (ds : List Document) (s : Sheet) : Sheet :=
  let s := ds.foldl (fun (s : Sheet) d => s.add (d.body ++ d.mark ++ ['\n'])) (s.add ['\n'])
  { s with wroteDocument := true }

/-- writes a sign that joins commands, and the here-documents that wait for it -/
def join (sign : Raw) (s : Sheet) : Sheet :=
  let isShown : Bool := sign ≠ [] && sign ≠ [';']
  let s := if isShown then s.add sign else s
  if s.waiting.isEmpty then s
  else
    let s := { s.documents s.waiting with waiting := [] }
    if isShown then s.add [' '] else s

/-- writes the here-documents that wait at the end of a list -/
def settle (s : Sheet) : Sheet :=
  if s.waiting.isEmpty then s else s.join []

end Sheet

/-- a redirection as it is written; a here-document is only named -/
def Redirection.shown (r : Redirection) : Raw :=
  let holder (usual : Nat) : Raw :=
    match r.holder with
    | some name => '\x7b' :: name ++ ['\x7d']
    | none => if r.fd = usual then [] else Text.ofNat r.fd
  let always : Raw := holder 1000
  match r.direction, r.document with
  | _, some d => holder 0 ++ "<<" ++ (if d.noTabs then ("-" : Raw) else []) ++ if d.quoted then Quoting.single d.mark else d.mark
  | .input, _ => holder 0 ++ "< " ++ r.spelled
  | .both, _ => holder 1 ++ "<> " ++ r.spelled
  | .output, _ => holder 1 ++ "> " ++ r.spelled
  | .clobber, _ => holder 1 ++ ">| " ++ r.spelled
  | .append, _ => holder 1 ++ ">> " ++ r.spelled
  | .copyInput, _ => if r.spelled = ['-'] then always ++ ">&-" else always ++ "<&" ++ r.spelled
  | .copyOutput, _ =>
    let isPlain : Bool := r.spelled.all fun c => c.isDigit || c = '-' || c = '$' || c = '"' || isNameChar c || c = '\x7b' || c = '\x7d'
    let isNumber : Bool := r.spelled.head?.any fun c => c.isDigit || c = '-' || c = '$' || c = '"'
    if isPlain ∧ isNumber then always ++ ">&" ++ r.spelled else "&> " ++ r.spelled
  | .here, none => holder 0 ++ "<< " ++ r.spelled
  | .hereWord, _ => holder 0 ++ "<<< " ++ r.spelled
  | .outputBoth append, _ => (if append then "&>> " else "&> ") ++ r.spelled

namespace Sheet

/-- writes redirections one after another, and here-documents behind them -/
def redirections (rs : List Redirection) (s : Sheet) : Sheet :=
  let s := s.add (Text.paste [' '] (rs.map Redirection.shown))
  let ds := rs.filterMap (·.document)
  if ds.isEmpty then s
  else if 0 < s.joined then { s with waiting := ds }
  else s.documents ds

end Sheet

/-- the last command of a list is in the background -/
def Script.endsBehind : Script → Bool
  | .background _ => true
  | .sequence _ b => b.endsBehind
  | _ => false

mutual

def Script.write : Script → Sheet → Sheet
  | .nothing, s => s.start
  | .simple _ _ _ rs shown, s =>
    let s := s.start.add shown
    if rs.isEmpty then s else (if shown = [] then s else s.add [' ']).redirections rs
  | .sequence a b, s =>
    let s := a.write { s.start.goOn with joined := s.joined + 1 }
    let s :=
      if a.endsBehind then (s.add [' ']).goOn
      else
        let s : Sheet :=
          if !s.waiting.isEmpty then s.join (if 0 < s.functions then [] else [';'])
          else if s.wroteDocument then { s with wroteDocument := false }
          else s.add [';']
        if 0 < s.functions then s.add ['\n'] else (s.add [' ']).goOn
    let s := (b.write s).settle
    { s with joined := s.joined - 1 }
  | .background a, s =>
    let s := (a.write { s.start.goOn with joined := s.joined + 1 }).join " &"
    { s with joined := s.joined - 1 }
  | .both a b, s =>
    let s := ((a.write { s.start.goOn with joined := s.joined + 1 }).join " && ").goOn
    let s := (b.write s).settle
    { s with joined := s.joined - 1 }
  | .either a b, s =>
    let s := ((a.write { s.start.goOn with joined := s.joined + 1 }).join " || ").goOn
    let s := (b.write s).settle
    { s with joined := s.joined - 1 }
  | .negated a, s => a.write (s.start.add "! ").goOn
  | .timed plainly a, s => a.write (s.start.add (if plainly then "time -p " else "time ")).goOn
  | .pipe a b, s =>
    let s := (((a.write { s.start.goOn with joined := s.joined + 1 }).join " |").add [' ']).goOn
    let s := (b.write s).settle
    { s with joined := s.joined - 1 }
  | .choice c a b, s =>
    let s := (c.write (s.start.add "if ").goOn).semicolon
    let s := (a.write (s.add " then\n").deeper).settle.back
    let s :=
      match b with
      | .nothing => s
      | b => (b.write (s.semicolon.newLine "else\n").deeper).settle.back
    s.semicolon.newLine "fi"
  | .loop until_ c a, s =>
    let s := (c.write (s.start.add (if until_ then "until " else "while ")).goOn).settle.semicolon
    ((a.write (s.add " do\n").deeper).settle.back).semicolon.newLine "done"
  | .forEach _ name _ a shown, s =>
    let s := (s.start.add ("for " ++ name ++ " in " ++ shown ++ [';'])).newLine "do\n"
    ((a.write s.deeper).settle.semicolon.back).newLine "done"
  | .menu _ name _ a shown, s =>
    let s := (s.start.add ("select " ++ name ++ " in " ++ shown ++ [';'])).newLine "do\n"
    ((a.write s.deeper).settle.semicolon.back).newLine "done"
  | .count _ _ _ _ a shown, s =>
    let sums := shown.map fun e => if e = [] then ['1'] else e
    let s := (s.start.add ("for ((" ++ Text.paste "; " sums ++ "))")).newLine "do\n"
    ((a.write s.deeper).settle.semicolon.back).newLine "done"
  | .select _ _ cases shown, s =>
    let s := s.start.add ("case " ++ shown ++ " in ")
    (writeCases cases s.deeper).back.newLine "esac"
  | .apart a rs, s =>
    let s := ((a.write (s.start.add "( ").goOn).settle).add " )"
    if rs.isEmpty then s else (s.add [' ']).redirections rs
  | .group a, s =>
    let s := s.start.add "\x7b "
    let s := a.write (if 0 < s.functions then (s.add ['\n']).deeper else s.goOn)
    let s := s.settle
    let s := if 0 < s.functions then s.back.newLine [] else s.semicolon.add [' ']
    s.add ['\x7d']
  | .redirected _ a rs, s => ((a.write s).add [' ']).redirections rs
  | .define name _ a, s =>
    let s := (s.start.add ("function " ++ name ++ " () \n")).indented.add "\x7b \n"
    let s := { s.deeper with functions := s.functions + 1 }
    let s :=
      match a with
      | .group b => b.write s
      | .redirected _ (.group b) _ => b.write s
      | a => a.write s
    let s := { s.settle.back with functions := s.functions - 1 }
    match a with
    | .redirected _ (.group _) rs => (s.newLine "\x7d ").redirections rs
    | _ => s.newLine "\x7d"
  | .partner _ name a, s => a.write (s.start.add ("coproc " ++ name ++ [' '])).goOn
  | .condition _ _ shown, s => s.start.add ("[[ " ++ shown ++ " ]]")
  | .compute _ _ shown, s => s.start.add ("((" ++ shown ++ "))")

def writeCases : List (List Word × Raw × Script × After) → Sheet → Sheet
  | [], s => s
  | (_, shown, a, after) :: rest, s =>
    let s := ((s.newLine []).add (shown ++ ")\n")).deeper
    let s : Sheet :=
      match a with
      | .nothing => s.back
      | a => (a.write s).back.settle
    let sign : Raw :=
      match after with
      | .stop => ";;"
      | .next => ";&"
      | .others => ";;&"
    writeCases rest (s.newLine sign)

end

/-- a command on its own -/
def Script.shown (c : Script) : Raw :=
  (c.write {}).text.reverse

/-- what is shown of a command when it starts -/
def Script.head : Script → Raw
  | .forEach _ name _ _ shown => "for " ++ name ++ " in " ++ shown
  | .menu _ name _ _ shown => "select " ++ name ++ " in " ++ shown
  | .select _ _ _ shown => "case " ++ shown ++ " in "
  | c => c.shown

def shownFunction (name : Raw) (body : Script) : Raw :=
  let first : Raw := (if (keywords true).contains name then ("function " : Raw) else []) ++ name ++ " () \n\x7b \n"
  let s : Sheet := { text := first.reverse, indent := 4, functions := 1 }
  let s :=
    match body with
    | .group b | .redirected _ (.group b) _ => b.write s
    | b => b.write s
  let s := s.settle.back
  let s :=
    match body with
    | .redirected _ (.group _) rs => (s.newLine "\x7d ").redirections rs
    | _ => s.newLine "\x7d"
  s.text.reverse

/-- a function as a value that is handed on: without its name, and without its layout -/
def handedFunction (body : Script) : Raw :=
  let s : Sheet := { text := ("() \x7b  " : Raw).reverse, indent := 1, step := 0, functions := 1, skips := 1 }
  let s :=
    match body with
    | .group b | .redirected _ (.group b) _ => b.write s
    | b => b.write s
  let s := { s.settle with indent := 0 }
  let s :=
    match body with
    | .redirected _ (.group _) rs => (s.newLine "\x7d ").redirections rs
    | _ => s.newLine "\x7d"
  s.text.reverse

end IncludeAudit.Shell
