/-
Names of files: their parts, and their canonical spelling.
-/
import IncludeAudit.Tool.Basic

namespace IncludeAudit.Tool

def withoutSlashes (name : Raw) : Raw :=
  (name.reverse.dropWhile (· = '/')).reverse

def lastPart (name : Raw) : Raw :=
  match withoutSlashes name with
  | [] => if name = [] then [] else ['/']
  | trimmed => (trimmed.reverse.takeWhile (· ≠ '/')).reverse

def frontPart (name : Raw) : Raw :=
  let trimmed := (withoutSlashes name).reverse
  match trimmed.dropWhile (· ≠ '/') with
  | [] => if name ≠ [] ∧ trimmed = [] then ['/'] else ['.']
  | front =>
    match front.dropWhile (· = '/') with
    | [] => ['/']
    | front => front.reverse

/-- prints the last parts of names -/
def basename (c : Call) : Answer :=
  match options [option 'a' "multiple", valuedOption 's' "suffix", option 'z' "zero"] true c.arguments with
  | .error e => c.misused e 1
  | .ok p =>
    let ending := if p.has 'z' then ['\x00'] else ['\n']
    let show_ (suffix name : Raw) : Raw :=
      let base := lastPart name
      let cut := if suffix ≠ [] ∧ suffix.isSuffixOf base ∧ base ≠ suffix then base.take (base.length - suffix.length) else base
      cut ++ ending
    let many := p.has 'a' || p.has 's'
    match many, p.operands with
    | _, [] => c.misused "missing operand" 1
    | true, names => .print (names.flatMap (show_ ((p.value? 's').getD [])))
    | false, [name] => .print (show_ [] name)
    | false, [name, suffix] => .print (show_ suffix name)
    | false, _ :: _ :: extra :: _ => c.misused ("extra operand " ++ quote extra) 1

/-- prints what is in front of the last parts of names -/
def dirname (c : Call) : Answer :=
  match options [option 'z' "zero"] true c.arguments with
  | .error e => c.misused e 1
  | .ok p =>
    let ending := if p.has 'z' then ['\x00'] else ['\n']
    if p.operands = [] then c.misused "missing operand" 1
    else .print (p.operands.flatMap fun n => frontPart n ++ ending)

/-! ## Canonical spelling -/

/-- how much of a path has to be there -/
inductive Presence
  | everything
  | allButLast
  | nothing
  deriving DecidableEq, Repr

/-- the canonical place of a path, piece by piece; `links` are those that may still be followed -/
def canonicalPlace (t : Tree) (need : Presence) (follow : Bool) :
    (fuel : Nat) → (links : Nat) → Place → List Text → Except OsError Place
  | 0, _, _, _ => .error .linkLoop
  | _, _, here, [] => .ok here
  | fuel + 1, links, here, p :: rest =>
    if p = [] ∨ p = ['.'] then canonicalPlace t need follow fuel links here rest
    else if p = ['.', '.'] then canonicalPlace t need follow fuel links here.tail rest
    else
      let isLast := rest.all (· = [])
      match t.node? (p :: here) with
      | some (.link target) =>
        if follow then
          match links with
          | 0 => .error .linkLoop
          | links + 1 =>
            canonicalPlace t need follow fuel links (Tree.origin here target) (Text.pieces '/' target ++ rest)
        else canonicalPlace t need follow fuel links (p :: here) rest
      | some .directory => canonicalPlace t need follow fuel links (p :: here) rest
      | some _ =>
        if rest = [] ∨ need = .nothing then canonicalPlace t need follow fuel links (p :: here) rest
        else .error .notDirectory
      | none =>
        if need = .nothing ∨ (need = .allButLast ∧ isLast) then canonicalPlace t need follow fuel links (p :: here) rest
        else .error .noEntry

def Call.canonical (c : Call) (need : Presence) (follow : Bool) (path : Raw) : Except OsError Place :=
  let p := Raw.toText path
  if p = [] then .error .noEntry
  else canonicalPlace c.tree need follow 100000 Tree.maxLinks (Tree.origin c.here p) (Text.pieces '/' p)

def relativePath (base p : Place) : Raw :=
  let a := base.reverse
  let b := p.reverse
  let common := ((a.zip b).takeWhile fun x => x.1 = x.2).length
  let up : List Raw := List.replicate (a.length - common) ['.', '.']
  let down : List Raw := (b.drop common).map Raw.ofText
  match up ++ down with
  | [] => ['.']
  | steps => Text.paste ['/'] steps

/-- how much of a path options ask for -/
def presence (p : Parsed) (usual : Presence) : Presence :=
  match (p.given.filter fun g => g.1 = 'e' || g.1 = 'm' || g.1 = 'f').getLast? with
  | some (k, _) => if k = 'e' then .everything else if k = 'm' then .nothing else .allButLast
  | none => usual

/-- prints the canonical spelling of paths -/
def realpath (c : Call) : Answer :=
  let known :=
    [option 'e' "canonicalize-existing", option 'm' "canonicalize-missing", option 'L' "logical", option 'P' "physical",
     option 'q' "quiet", option 's' "strip", option 's' "no-symlinks", option 'z' "zero",
     valuedOption '\x01' "relative-to", valuedOption '\x02' "relative-base"]
  c.parse known 1 fun p =>
    let need := presence p .allButLast
    let follow := !p.has 's'
    let ending := if p.has 'z' then ['\x00'] else ['\n']
    let place? (l : Char) : Option (Except OsError Place) := (p.value? l).map (c.canonical need follow)
    let fault (path : Raw) (e : OsError) : Raw := c.name ++ ": " ++ showName path ++ ": " ++ e.words ++ ['\n']
    if p.operands = [] then c.misused "missing operand" 1
    else
      match place? '\x01', place? '\x02' with
      | some (.error e), _ => .buffered (fault ((p.value? '\x01').getD []) e) [] 1
      | _, some (.error e) => .buffered (fault ((p.value? '\x02').getD []) e) [] 1
      | goal, base =>
        let base := base.bind Except.toOption
        let goal := (goal.bind Except.toOption).or base
        let show_ (q : Place) : Raw :=
          match goal with
          | some t =>
            let inside : Bool := (base.map fun b => b.isSuffixOf q && b.isSuffixOf t).getD true
            if inside then relativePath t q else Raw.ofText q.path
          | none => Raw.ofText q.path
        let (out, complaints) := p.operands.foldl (fun (acc : Raw × Raw) f =>
          match c.canonical need follow f with
          | .ok q => (acc.1 ++ show_ q ++ ending, acc.2)
          | .error e =>
            let shown : Raw := if f = [] then "''" else showName f
            (acc.1, acc.2 ++ c.name ++ ": " ++ shown ++ ": " ++ e.words ++ ['\n'])) ([], [])
        .buffered (if p.has 'q' then [] else complaints) out (if complaints = [] then 0 else 1)

/-- prints where links lead, or the canonical spelling of paths -/
def readlink (c : Call) : Answer :=
  let known :=
    [option 'f' "canonicalize", option 'e' "canonicalize-existing", option 'm' "canonicalize-missing",
     option 'n' "no-newline", option 'q' "quiet", option 's' "silent", option 'v' "verbose", option 'z' "zero"]
  c.parse known 1 fun p =>
    let canonical := p.has 'f' || p.has 'e' || p.has 'm'
    let need := presence p .allButLast
    let ending : Raw :=
      if p.has 'z' then ['\x00'] else if p.has 'n' ∧ p.operands.length = 1 then [] else ['\n']
    if p.operands = [] then c.misused "missing operand" 1
    else
      let (out, complaints) := p.operands.foldl (fun (acc : Raw × Raw) f =>
        let found : Except OsError Raw :=
          if canonical then (c.canonical need true f).map fun q => Raw.ofText q.path
          else
            match c.tree.lstat c.here (Raw.toText f) with
            | .ok (.link target) => .ok (Raw.ofText target)
            | .ok _ => .error .invalid
            | .error e => .error e
        match found with
        | .ok r => (acc.1 ++ r ++ ending, acc.2)
        | .error e => (acc.1, acc.2 ++ c.name ++ ": " ++ showName f ++ ": " ++ e.words ++ ['\n'])) ([], [])
      let warning : Raw :=
        if p.has 'n' ∧ 1 < p.operands.length then c.name ++ ": ignoring --no-newline with multiple arguments\n" else []
      .buffered (warning ++ if p.has 'v' then complaints else []) out (if complaints = [] then 0 else 1)

/-- prints the directory that the tool runs in -/
def pwd (c : Call) : Answer :=
  c.parse [option 'L' "logical", option 'P' "physical"] 1 fun p =>
    let logical : Bool := p.given.getLast?.any fun g => g.1 = 'L'
    let named : Option Raw :=
      match c.setting? "PWD" with
      | some d =>
        let dotted : Bool := (Text.pieces '/' d).any fun s => s = ['.'] || s = ['.', '.']
        match c.tree.locate c.here (Raw.toText d) with
        | .ok q => if d.head? = some '/' ∧ q = c.here ∧ !dotted then some d else none
        | .error _ => none
      | none => none
    let shown := if logical then named.getD (Raw.ofText c.here.path) else Raw.ofText c.here.path
    .buffered (if p.operands = [] then [] else c.name ++ ": ignoring non-option arguments\n") (shown ++ ['\n']) 0

end IncludeAudit.Tool
