/-
Tools that change the file tree: directories and files are made, removed, copied, moved and linked, and modes changed.
-/
import IncludeAudit.Tool.Names

namespace IncludeAudit.Tool

/-! ## Work on a tree -/

/-- a tree that is worked on, with what has been printed and complained of -/
structure Work where
  tree : Tree
  out : Raw := []
  errors : Raw := []
  /-- complaints that are no failures -/
  warnings : Raw := []
  failed : Bool := false

namespace Work

def complain (w : Work) (c : Call) (message : Raw) : Work :=
  { w with errors := w.errors ++ c.name ++ ": " ++ message ++ ['\n'], failed := true }

def warn (w : Work) (c : Call) (message : Raw) : Work :=
  { w with warnings := w.warnings ++ c.name ++ ": " ++ message ++ ['\n'] }

def say (w : Work) (line : Raw) : Work :=
  { w with out := w.out ++ line ++ ['\n'] }

def answer (w : Work) : Answer :=
  { Answer.buffered (w.warnings ++ w.errors) w.out (if w.failed then 1 else 0) with tree := some w.tree }

end Work

def joinPath (dir name : Raw) : Raw :=
  if dir = [] then name else if dir.getLast? = some '/' then dir ++ name else dir ++ '/' :: name

/-- the node that a path leads to -/
def Work.stat (w : Work) (c : Call) (p : Raw) : Except OsError Node :=
  w.tree.stat c.here (Raw.toText p)

/-- the node at a path, which may be a link -/
def Work.lstat (w : Work) (c : Call) (p : Raw) : Except OsError Node :=
  w.tree.lstat c.here (Raw.toText p)

/-- the path leads to a directory -/
def Work.isDirectory (w : Work) (c : Call) (p : Raw) : Bool :=
  w.tree.isDirectory c.here (Raw.toText p)

/-- names in a directory, in the order in which they came there -/
def Work.names (w : Work) (c : Call) (p : Raw) : List Raw :=
  match w.tree.locate c.here (Raw.toText p) with
  | .ok q => ((w.tree.namesIn q).map Raw.ofText).reverse
  | .error _ => []

def endsInSlash (p : Raw) : Bool :=
  p.getLast? = some '/'

/-! ## Directories -/

def makeOne (t : Tree) (here : Place) (p : Raw) : Except OsError Tree :=
  match t.slot here (Raw.toText p) with
  | .error .isDirectory => .error .exists_
  | .error e => .error e
  | .ok (dir, name) =>
    if (t.node? (name :: dir)).isSome then .error .exists_ else .ok (t.put (name :: dir) .directory)

/-- the paths on the way to a path, from the outside in, and the path itself -/
def waysTo (p : Raw) : List Raw :=
  let (done, last) := p.foldl (fun (acc : List Raw × Raw) c =>
    if c = '/' ∧ acc.2 ≠ [] ∧ acc.2.head? ≠ some '/' then (acc.2.reverse :: acc.1, c :: acc.2)
    else (acc.1, c :: acc.2)) ([], [])
  (last.reverse :: done).reverse

/-- makes directories -/
def mkdir (c : Call) : Answer :=
  c.parse [option 'p' "parents", valuedOption 'm' "mode", option 'v' "verbose", option 'Z' "context"] 1 fun p =>
    if p.operands = [] then c.misused "missing operand" 1
    else
      let make (w : Work) (f : Raw) : Work :=
        match makeOne w.tree c.here f with
        | .ok tree =>
          let w := { w with tree }
          if p.has 'v' then w.say (c.name ++ ": created directory " ++ quoteName f) else w
        | .error e => w.complain c ("cannot create directory " ++ quote f ++ ": " ++ e.words)
      let w := p.operands.foldl (fun (w : Work) f =>
        if p.has 'p' then
          let ways := (waysTo f).filter fun q => q = f || withoutSlashes q ≠ withoutSlashes f
          let (w, _) := ways.foldl (fun (acc : Work × Bool) q =>
            let (w, stopped) := acc
            if stopped ∨ w.isDirectory c q then acc
            else
              match w.stat c q with
              | .ok _ =>
                let e : OsError := if q = f then .exists_ else .notDirectory
                (w.complain c ("cannot create directory " ++ quote (withoutSlashes q) ++ ": " ++ e.words), true)
              | .error _ =>
                let after := make w q
                (after, after.errors ≠ w.errors)) (w, false)
          w
        else make w f) { tree := c.tree }
      w.answer

def removeEmpty (t : Tree) (here : Place) (p : Raw) : Except OsError Tree :=
  match t.slot here (Raw.toText p) with
  | .error .isDirectory => .error .invalid
  | .error e => .error e
  | .ok (dir, name) =>
    let q := name :: dir
    match t.node? q with
    | none => .error .noEntry
    | some .directory => if t.isInhabited q then .error .notEmpty else .ok (t.prune q)
    | some _ => .error .notDirectory

/-- removes empty directories -/
def rmdir (c : Call) : Answer :=
  c.parse [option 'p' "parents", option 'v' "verbose", option '\x01' "ignore-fail-on-non-empty"] 1 fun p =>
    if p.operands = [] then c.misused "missing operand" 1
    else
      let w := p.operands.foldl (fun (w : Work) f =>
        let ways := if p.has 'p' then (waysTo (withoutSlashes f)).reverse else [f]
        let (w, _) := ways.foldl (fun (acc : Work × Bool) q =>
          let (w, stopped) := acc
          if stopped then acc
          else
            let w := if p.has 'v' then w.say (c.name ++ ": removing directory, " ++ quoteName q) else w
            match removeEmpty w.tree c.here q with
            | .ok tree => ({ w with tree }, false)
            | .error e =>
              if e = .notEmpty ∧ p.has '\x01' then (w, true)
              else
                let words : Raw :=
                  if e = .notDirectory ∧ endsInSlash q ∧ w.isDirectory c q then "Symbolic link not followed" else e.words
                let what : Raw := if q = f then "failed to remove " else "failed to remove directory "
                (w.complain c (what ++ quoteName q ++ ": " ++ words), true)) (w, false)
        w) { tree := c.tree }
      w.answer

/-! ## Removing -/

/-- removes what is at a path with all below it, the inner things first; `said` shows each -/
def Work.removeAll (c : Call) (verbose : Bool) : (fuel : Nat) → Work → Raw → Work
  | 0, w, _ => w
  | fuel + 1, w, f =>
    match w.lstat c f with
    | .ok .directory =>
      let w := (w.names c f).foldl (fun w n => Work.removeAll c verbose fuel w (joinPath f n)) w
      match removeEmpty w.tree c.here f with
      | .ok tree =>
        let w := { w with tree }
        if verbose then w.say ("removed directory " ++ quoteName f) else w
      | .error e => w.complain c ("cannot remove " ++ quoteName f ++ ": " ++ e.words)
    | .ok _ =>
      match w.tree.remove c.here (Raw.toText f) with
      | .ok (tree, _) =>
        let w := { w with tree }
        if verbose then w.say ("removed " ++ quoteName f) else w
      | .error e => w.complain c ("cannot remove " ++ quoteName f ++ ": " ++ e.words)
    | .error e => w.complain c ("cannot remove " ++ quoteName f ++ ": " ++ e.words)

/-- how deep a tree can be -/
def maxDepth : Nat := 4096

/-- removes files and directories -/
def rm (c : Call) : Answer :=
  let known :=
    [option 'r' "recursive", option 'R' [], option 'f' "force", option 'i' [], option 'I' "interactive", option 'd' "dir",
     option 'v' "verbose", option '\x01' "preserve-root", option '\x02' "no-preserve-root", option '\x03' "one-file-system"]
  c.parse known 1 fun p =>
    let force := p.has 'f'
    let deep := p.has 'r' || p.has 'R'
    if p.operands = [] then if force then {} else c.misused "missing operand" 1
    else
      let w := p.operands.foldl (fun (w : Work) f =>
        let refused (why : Raw) : Work := w.complain c ("cannot remove " ++ quoteName f ++ ": " ++ why)
        let base := lastPart f
        let removed (w : Work) : Work :=
          match w.tree.remove c.here (Raw.toText f) with
          | .ok (tree, _) =>
            let w := { w with tree }
            if p.has 'v' then w.say ("removed " ++ quoteName f) else w
          | .error e => w.complain c ("cannot remove " ++ quoteName f ++ ": " ++ e.words)
        if deep ∧ (base = ['.'] ∨ base = ['.', '.']) then
          w.complain c ("refusing to remove '.' or '..' directory: skipping " ++ quoteName (withoutSlashes f))
        else if deep ∧ base = ['/'] then
          (w.complain c "it is dangerous to operate recursively on '/'").complain c
            "use --no-preserve-root to override this failsafe"
        else
          match w.lstat c f with
          | .error e => if force ∧ (e = .noEntry ∨ e = .notDirectory) then w else refused e.words
          | .ok .directory =>
            let isLink : Bool := endsInSlash f &&
              (match w.lstat c (withoutSlashes f) with
                | .ok (.link _) => true
                | _ => false)
            if isLink ∧ deep then
              let w := (w.names c f).foldl (fun w n => Work.removeAll c (p.has 'v') maxDepth w (joinPath f n)) w
              w.complain c ("cannot remove " ++ quoteName f ++ ": Not a directory")
            else if deep then Work.removeAll c (p.has 'v') maxDepth w f
            else if p.has 'd' then
              match removeEmpty w.tree c.here f with
              | .ok tree =>
                let w := { w with tree }
                if p.has 'v' then w.say ("removed directory " ++ quoteName f) else w
              | .error e => refused e.words
            else refused "Is a directory"
          | .ok _ =>
            if p.has 'i' ∧ !force then
              { w with warnings := w.warnings ++ c.name ++ ": remove regular file " ++ quoteName f ++ "? " }
            else removed w) { tree := c.tree }
      w.answer

/-- removes one file -/
def unlink (c : Call) : Answer :=
  c.parse [] 1 fun p =>
    match p.operands with
    | [] => c.misused "missing operand" 1
    | [f] =>
      let w : Work := { tree := c.tree }
      let refused (e : OsError) : Answer := (w.complain c ("cannot unlink " ++ quoteName f ++ ": " ++ e.words)).answer
      match w.lstat c f with
      | .ok .directory => refused .isDirectory
      | .error e => refused e
      | .ok _ =>
        match c.tree.remove c.here (Raw.toText f) with
        | .ok (tree, _) => { tree := some tree }
        | .error e => refused e
    | _ :: g :: _ => c.misused ("extra operand " ++ quote g) 1

/-! ## Targets -/

/-- where several things go: into a directory, or to one path -/
inductive Target
  | into (dir : Raw)
  | to (path : Raw)
  deriving DecidableEq, Repr

/-- the last operand as a target, or the directory that an option names -/
def Call.target (c : Call) (p : Parsed) : Except Answer (List Raw × Target) :=
  let isDirectory (f : Raw) : Bool := c.tree.isDirectory c.here (Raw.toText f)
  let words (f : Raw) : Raw :=
    match c.stat f with
    | .ok _ => "Not a directory"
    | .error e => e.words
  match p.value? 't' with
  | some dir =>
    if p.operands = [] then .error (c.misused "missing file operand" 1)
    else if isDirectory dir then .ok (p.operands, .into dir)
    else .error (c.fail ("target directory " ++ quoteName dir ++ ": " ++ words dir) 1)
  | none =>
    match p.operands.reverse with
    | [] => .error (c.misused "missing file operand" 1)
    | [f] => .error (c.misused ("missing destination file operand after " ++ quoteName f) 1)
    | [last, f] => .ok ([f], if isDirectory last ∧ !p.has 'T' then .into last else .to last)
    | last :: rest =>
      if p.has 'T' then .error (c.misused ("extra operand " ++ quoteName last) 1)
      else if isDirectory last then .ok (rest.reverse, .into last)
      else .error (c.fail ("target " ++ quoteName last ++ ": " ++ words last) 1)

/-- the path that a thing gets -/
def Target.path (t : Target) (source : Raw) : Raw :=
  match t with
  | .into dir => joinPath dir (lastPart source)
  | .to path => path

/-- two paths lead to the same node -/
def Work.same (w : Work) (c : Call) (p q : Raw) : Bool :=
  match w.tree.locate c.here (Raw.toText p), w.tree.locate c.here (Raw.toText q) with
  | .ok a, .ok b => a = b
  | _, _ => false

/-! ## Copying -/

/-- how things are copied -/
structure Copying where
  deep : Bool := false
  /-- links at the top are followed -/
  followTop : Bool := true
  /-- links further down are followed -/
  followDeep : Bool := false
  keepMode : Bool := false
  keepOld : Bool := false
  verbose : Bool := false
  symbolic : Bool := false
  force : Bool := false
  backup : Bool := false
  deriving DecidableEq, Repr

def Work.copyFile (w : Work) (c : Call) (o : Copying) (source goal : Raw) (bytes : List UInt8) (mode : Nat) : Work :=
  let path := Raw.toText goal
  let fresh : Bool := !(w.stat c goal).toOption.isSome
  let dangling : Bool :=
    match w.lstat c goal with
    | .ok (.link _) => fresh
    | _ => false
  if w.stat c goal matches .ok (.device .pipe) then { w with out := w.out ++ Raw.ofBytes bytes }
  else if dangling then w.complain c ("not writing through dangling symlink " ++ quoteName goal)
  else if fresh ∧ endsInSlash goal then
    w.complain c ("cannot create regular file " ++ quoteName goal ++ ": Not a directory")
  else
    match w.tree.write c.here path bytes false with
    | .error e => w.complain c ("cannot create regular file " ++ quoteName goal ++ ": " ++ e.words)
    | .ok (tree, _) =>
      let mode := if o.keepMode then mode else mode &&& ((0o7777 : Nat) - (c.umask &&& 0o777))
      let tree :=
        if fresh ∨ o.keepMode then
          match tree.locate c.here path with
          | .ok q => tree.put q (.file bytes mode)
          | .error _ => tree
        else tree
      let w := { w with tree }
      let _ := source
      w

def Work.copy (c : Call) (o : Copying) : (fuel : Nat) → (top : Bool) → Work → (source goal : Raw) → Work
  | 0, _, w, _, _ => w
  | fuel + 1, top, w, source, goal =>
    let follows := if top then o.followTop else o.followDeep
    let found : Except OsError Node :=
      if Call.isInputName source then .ok (.file (Raw.toBytes c.input) Node.plainMode)
      else if follows then w.stat c source
      else w.lstat c source
    match found with
    | .error e => w.complain c ("cannot stat " ++ quoteName source ++ ": " ++ e.words)
    | .ok node =>
      if node = .directory ∧ !o.deep then w.complain c ("-r not specified; omitting directory " ++ quoteName source)
      else
        let goalNode := w.stat c goal
        let old : Option Node := goalNode.toOption
        let isDirectory : Bool := node = .directory
        let goalFault : Bool :=
          match goalNode with
          | .error .notDirectory => true
          | _ => false
        if goalFault then w.complain c ("cannot stat " ++ quoteName goal ++ ": Not a directory")
        else if old.isSome ∧ o.keepOld ∧ !isDirectory then w
        else if old.isSome ∧ !isDirectory ∧ w.same c source goal ∧ (follows || (w.lstat c goal).toOption = some node) then
          w.complain c (quoteName source ++ " and " ++ quoteName goal ++ " are the same file")
        else if old = some .directory ∧ !isDirectory then
          w.complain c ("cannot overwrite directory " ++ quoteName goal ++ " with non-directory")
        else if isDirectory ∧ old.isSome ∧ old ≠ some .directory then
          w.complain c ("cannot overwrite non-directory " ++ quoteName goal ++ " with directory " ++ quoteName source)
        else
          let said (w : Work) : Work :=
            if o.verbose then w.say (quoteName source ++ " -> " ++ quoteName goal) else w
          let backed (w : Work) : Work :=
            if o.backup ∧ old.isSome then
              match w.tree.rename c.here (Raw.toText goal) (Raw.toText (goal ++ ['~'])) with
              | .ok (tree, _) => { w with tree }
              | .error _ => w
            else w
          match node with
          | .directory =>
            let inside : Bool :=
              match c.canonical .everything true source, c.canonical .nothing true goal with
              | .ok p, .ok q => p.isSuffixOf q
              | _, _ => false
            let names := w.names c source
            let made : Except Raw Work :=
              if old.isSome then .ok w
              else
                match makeOne w.tree c.here goal with
                | .ok tree => .ok (said { w with tree })
                | .error e => .error ("cannot create directory " ++ quoteName goal ++ ": " ++ e.words)
            match made with
            | .error m => w.complain c m
            | .ok w =>
              -- what is made inside of the source is not copied once more
              let names := names.filter fun n => !(inside && top && w.same c (joinPath source n) goal)
              let w := names.foldl (fun w n => Work.copy c o fuel false w (joinPath source n) (joinPath goal n)) w
              if inside ∧ top then
                w.complain c
                  ("cannot copy a directory, " ++ quoteName source ++ ", into itself, " ++ quoteName goal)
              else w
          | .link target =>
            let w := backed w
            let cleared : Tree :=
              match w.lstat c goal with
              | .ok (.link _) | .ok (.file _ _) =>
                match w.tree.remove c.here (Raw.toText goal) with
                | .ok (t, _) => t
                | .error _ => w.tree
              | _ => w.tree
            match cleared.symlink c.here (Raw.toText goal) target with
            | .ok (tree, _) => said { w with tree }
            | .error e => w.complain c ("cannot create symbolic link " ++ quoteName goal ++ ": " ++ e.words)
          | .file bytes mode =>
            if o.symbolic then
              match w.tree.symlink c.here (Raw.toText goal) (Raw.toText source) with
              | .ok (tree, _) => said { w with tree }
              | .error e => w.complain c ("cannot create symbolic link " ++ quoteName goal ++ ": " ++ e.words)
            else (said (backed w)).copyFile c o source goal bytes mode
          | .device _ =>
            match c.read source with
            | .ok r => (said w).copyFile c o source goal (Raw.toBytes r) Node.plainMode
            | .error _ => w

/-- a thing that has been named before -/
def namedBefore (c : Call) (done : List Raw) (f : Raw) : Bool :=
  done.any fun g => withoutSlashes g = withoutSlashes f && (c.stat f).toOption.isSome

/-- copies files and directories -/
def cp (c : Call) : Answer :=
  let known :=
    [option 'r' "recursive", option 'R' [], option 'a' "archive", option 'p' [], option 'd' [], option 'P' "no-dereference",
     option 'L' "dereference", option 'H' [], option 'f' "force", option 'n' "no-clobber", option 'v' "verbose",
     option 'i' "interactive", option 'u' "update", valuedOption 't' "target-directory", option 'T' "no-target-directory",
     option 'l' "link", option 's' "symbolic-link", option 'b' "backup", option 'x' "one-file-system",
     option '\x01' "parents", option '\x02' "preserve", option '\x03' "remove-destination", option 'Z' []]
  c.parse known 1 fun p =>
    match c.target p with
    | .error a => a
    | .ok (sources, target) =>
      let archive := p.has 'a'
      let deep := p.has 'r' || p.has 'R' || archive
      let links := (p.given.filter fun g => g.1 = 'P' || g.1 = 'L' || g.1 = 'H' || g.1 = 'd' || g.1 = 'a').getLast?
      let (followTop, followDeep) : Bool × Bool :=
        match links with
        | some ('L', _) => (true, true)
        | some ('H', _) => (true, false)
        | some _ => (false, false)
        | none => (!deep, false)
      let o : Copying :=
        { deep, followTop, followDeep, keepMode := archive || p.has 'p' || p.has '\x02', keepOld := p.has 'n' || p.has 'u'
          verbose := p.has 'v', symbolic := p.has 's', force := p.has 'f', backup := p.has 'b' }
      let start : Work := { tree := c.tree }
      let start :=
        if p.has 'n' then
          start.warn c "warning: behavior of -n is non-portable and may change in future; use --update=none instead"
        else start
      let (w, _) := sources.foldl (fun (acc : Work × List Raw) f =>
        let (w, done) := acc
        let into : Bool :=
          match target with
          | .into _ => true
          | .to _ => false
        if into ∧ namedBefore c done f then
          let kind : Raw := if c.tree.isDirectory c.here (Raw.toText f) then "directory " else "file "
          (w.warn c ("warning: source " ++ kind ++ quoteName f ++ " specified more than once"), done)
        else
          let goal : Raw :=
            match target with
            | .into dir => if p.has '\x01' then joinPath dir (f.dropWhile (· = '/')) else target.path f
            | .to path => path
          let w :=
            if p.has '\x01' then
              (waysTo goal).dropLast.foldl (fun (w : Work) q =>
                match makeOne w.tree c.here q with
                | .ok tree => { w with tree }
                | .error _ => w) w
            else w
          (Work.copy c o maxDepth true w f goal, f :: done)) (start, [])
      w.answer

/-! ## Moving -/

/-- moves files and directories -/
def mv (c : Call) : Answer :=
  let known :=
    [option 'f' "force", option 'n' "no-clobber", option 'v' "verbose", option 'i' "interactive", option 'u' "update",
     valuedOption 't' "target-directory", option 'T' "no-target-directory", option 'b' "backup", option 'Z' [],
     option '\x01' "strip-trailing-slashes"]
  c.parse known 1 fun p =>
    match c.target p with
    | .error a => a
    | .ok (sources, target) =>
      let w := sources.foldl (fun (w : Work) f =>
        let goal := target.path f
        let base := lastPart f
        match w.lstat c f with
        | .error e => w.complain c ("cannot stat " ++ quoteName f ++ ": " ++ e.words)
        | .ok node =>
          let old := (w.lstat c goal).toOption
          let isDirectory : Bool := node = .directory
          let place : Raw → Option Place := fun q => (w.tree.linkPlace c.here (Raw.toText q)).toOption
          let inside : Bool :=
            match c.canonical .everything true f, c.canonical .nothing true goal with
            | .ok a, .ok b => isDirectory && a.isSuffixOf b
            | _, _ => false
          let linked : Bool :=
            match node with
            | .link _ => w.same c f goal
            | _ => false
          if base = ['.'] ∨ base = ['.', '.'] then
            w.complain c ("cannot move " ++ quoteName f ++ " to " ++ quoteName goal ++ ": Device or resource busy")
          else if (old.isSome ∧ place f = place goal ∧ target = .to goal) ∨ linked then
            w.complain c (quoteName f ++ " and " ++ quoteName goal ++ " are the same file")
          else if old.isSome ∧ p.has 'n' then w.complain c ("not replacing " ++ quoteName goal)
          else if old.isSome ∧ p.has 'u' then w
          else if old.isSome ∧ p.has 'i' ∧ !p.has 'f' then
            { w with warnings := w.warnings ++ c.name ++ ": overwrite " ++ quoteName goal ++ "? " }
          else if inside then
            w.complain c ("cannot move " ++ quoteName f ++ " to a subdirectory of itself, " ++ quoteName goal)
          else if (old = some .directory ∨ goal = []) ∧ !isDirectory then
            w.complain c ("cannot overwrite directory " ++ quoteName goal ++ " with non-directory")
          else if isDirectory ∧ old.isSome ∧ old ≠ some .directory then
            w.complain c ("cannot overwrite non-directory " ++ quoteName goal ++ " with directory " ++ quoteName f)
          else
            let w :=
              if p.has 'b' ∧ old.isSome then
                match w.tree.rename c.here (Raw.toText goal) (Raw.toText (goal ++ ['~'])) with
                | .ok (tree, _) => { w with tree }
                | .error _ => w
              else w
            match w.tree.rename c.here (Raw.toText f) (Raw.toText goal) with
            | .ok (tree, _) =>
              let w := { w with tree }
              if p.has 'v' then w.say ("renamed " ++ quoteName f ++ " -> " ++ quoteName goal) else w
            | .error .notEmpty => w.complain c ("cannot overwrite " ++ quoteName goal ++ ": Directory not empty")
            | .error e => w.complain c ("cannot move " ++ quoteName f ++ " to " ++ quoteName goal ++ ": " ++ e.words))
        { tree := c.tree }
      w.answer

/-! ## Links -/

/-- makes links -/
def ln (c : Call) : Answer :=
  let known :=
    [option 's' "symbolic", option 'f' "force", option 'n' "no-dereference", option 'r' "relative", option 'v' "verbose",
     option 'T' "no-target-directory", valuedOption 't' "target-directory", option 'b' "backup", option 'i' "interactive",
     option 'L' "logical", option 'P' "physical"]
  c.parse known 1 fun p =>
    let isDirectory (f : Raw) : Bool :=
      let isLink : Bool :=
        match c.tree.lstat c.here (Raw.toText f) with
        | .ok (.link _) => true
        | _ => false
      c.tree.isDirectory c.here (Raw.toText f) && !(p.has 'n' && isLink)
    let words (f : Raw) : Raw :=
      match c.stat f with
      | .ok _ => "Not a directory"
      | .error e => e.words
    let plan : Except Answer (List Raw × Target) :=
      match p.value? 't', p.operands.reverse with
      | some dir, _ =>
        if isDirectory dir then .ok (p.operands, .into dir)
        else .error (c.fail ("target directory " ++ quoteName dir ++ ": " ++ words dir) 1)
      | none, [] => .error (c.misused "missing file operand" 1)
      | none, [f] => .ok ([f], .into ['.'])
      | none, [last, f] => .ok ([f], if isDirectory last ∧ !p.has 'T' then .into last else .to last)
      | none, last :: rest =>
        if isDirectory last then .ok (rest.reverse, .into last)
        else .error (c.fail ("target " ++ quoteName last ++ ": " ++ words last) 1)
    match plan with
    | .error a => a
    | .ok (sources, target) =>
      let w := sources.foldl (fun (w : Work) f =>
        let goal := target.path f
        let kind : Raw := if p.has 's' then "symbolic link " else "hard link "
        let node := if p.has 's' then .ok .directory else w.lstat c f
        match node, p.has 's' with
        | .error e, _ => w.complain c ("failed to access " ++ quoteName f ++ ": " ++ e.words)
        | .ok .directory, false => w.complain c (showName f ++ ": hard link not allowed for directory")
        | .ok n, symbolic =>
          let old := (w.lstat c goal).toOption
          if old.isSome ∧ p.has 'f' ∧ !symbolic ∧ w.same c f goal ∧ withoutSlashes f = withoutSlashes goal then
            w.complain c (quoteName f ++ " and " ++ quoteName goal ++ " are the same file")
          else if old.isSome ∧ p.has 'f' ∧ symbolic ∧ w.same c f goal ∧ withoutSlashes f = withoutSlashes goal then
            w.complain c (quoteName f ++ " and " ++ quoteName goal ++ " are the same file")
          else
            let cleared : Tree :=
              if old.isSome ∧ old ≠ some .directory ∧ (p.has 'f' ∨ p.has 'b') then
                let moved :=
                  if p.has 'b' then w.tree.rename c.here (Raw.toText goal) (Raw.toText (goal ++ ['~']))
                  else w.tree.remove c.here (Raw.toText goal)
                match moved with
                | .ok (t, _) => t
                | .error _ => w.tree
              else w.tree
            let text : Raw :=
              if p.has 'r' then
                match c.canonical .nothing true f, c.canonical .nothing true (frontPart goal) with
                | .ok a, .ok b => relativePath b a
                | _, _ => f
              else f
            let edit : Except OsError Tree :=
              if symbolic then (cleared.symlink c.here (Raw.toText goal) (Raw.toText text)).map (·.1)
              else
                match cleared.slot c.here (Raw.toText goal) with
                | .error e => .error e
                | .ok (dir, name) =>
                  if (cleared.node? (name :: dir)).isSome then .error .exists_ else .ok (cleared.put (name :: dir) n)
            match edit with
            | .ok tree =>
              let w := { w with tree }
              let arrow : Raw := if symbolic then " -> " else " => "
              if p.has 'v' then w.say (quoteName goal ++ arrow ++ quoteName text) else w
            | .error e =>
              let behind : Raw := if symbolic ∧ f = [] then " -> ''" else []
              w.complain c ("failed to create " ++ kind ++ quoteName goal ++ behind ++ ": " ++ e.words))
        { tree := c.tree }
      w.answer

/-- gives a file one more name -/
def link (c : Call) : Answer :=
  match c.arguments with
  | [] => c.misused "missing operand" 1
  | [f] => c.misused ("missing operand after " ++ quote f) 1
  | [f, g] =>
    let w : Work := { tree := c.tree }
    let refused (e : OsError) : Answer :=
      (w.complain c ("cannot create link " ++ quoteName g ++ " to " ++ quoteName f ++ ": " ++ e.words)).answer
    match w.lstat c f, c.tree.slot c.here (Raw.toText g) with
    | .error e, _ | _, .error e => refused e
    | .ok n, .ok (dir, name) =>
      if (c.tree.node? (name :: dir)).isSome then refused .exists_
      else { tree := some (c.tree.put (name :: dir) n) }
  | _ :: _ :: g :: _ => c.misused ("extra operand " ++ quote g) 1

/-! ## Files that are there -/

/-- makes files that are missing -/
def touch (c : Call) : Answer :=
  let known :=
    [option 'a' [], option 'm' [], option 'c' "no-create", option 'f' [], option 'h' "no-dereference", valuedOption 'r' "reference",
     valuedOption 't' [], valuedOption 'd' "date", valuedOption '\x01' "time"]
  c.parse known 1 fun p =>
    let missing : Option OsError :=
      match p.value? 'r' with
      | some f =>
        match c.stat f with
        | .error e => some e
        | .ok _ => none
      | none => none
    match missing with
    | some e =>
      c.fail ("failed to get attributes of " ++ quoteName ((p.value? 'r').getD []) ++ ": " ++ e.words) 1
    | none =>
      if p.operands = [] then c.misused "missing file operand" 1
      else
        let w := p.operands.foldl (fun (w : Work) f =>
          match w.stat c f with
          | .ok _ => w
          | .error e =>
            if endsInSlash f then w.complain c ("setting times of " ++ quoteName f ++ ": " ++ e.words)
            else if p.has 'c' then w
            else
              match w.tree.write c.here (Raw.toText f) [] false with
              | .ok (tree, _) =>
                let tree :=
                  match tree.locate c.here (Raw.toText f) with
                  | .ok q => tree.put q (.file [] (0o666 &&& ((0o777 : Nat) - (c.umask &&& 0o777))))
                  | .error _ => tree
                { w with tree }
              | .error e => w.complain c ("cannot touch " ++ quoteName f ++ ": " ++ e.words)) { tree := c.tree }
        w.answer

/-! ## Modes -/

namespace Mode

/-- the bits of a mode that letters for owners stand for -/
def ownerBits (c : Char) : Nat :=
  match c with
  | 'u' => 0o4700
  | 'g' => 0o2070
  | 'o' => 0o1007
  | _ => 0o7777

def letterBits (mode : Nat) (isDirectory : Bool) (c : Char) : Option Nat :=
  match c with
  | 'r' => some 0o444
  | 'w' => some 0o222
  | 'x' => some 0o111
  | 'X' => some (if isDirectory ∨ mode &&& 0o111 ≠ 0 then 0o111 else 0)
  | 's' => some 0o6000
  | 't' => some 0o1000
  | _ => none

/-- the bits of one owner, for everybody -/
def spread (mode : Nat) (owner : Char) : Nat :=
  let three := if owner = 'u' then mode / 64 % 8 else if owner = 'g' then mode / 8 % 8 else mode % 8
  three * 0o111

/-- the bits in a number that are not in another -/
def without (a b : Nat) : Nat :=
  a - (a &&& b)

/-- the changes of one clause behind its owners -/
def actions (umask : Nat) (isDirectory : Bool) (owners : Raw) : (fuel : Nat) → Raw → Nat → Option Nat
  | 0, _, _ => none
  | _, [], mode => some mode
  | fuel + 1, sign :: r, mode =>
    if sign ≠ '+' ∧ sign ≠ '-' ∧ sign ≠ '=' then none
    else
      let (bits, rest) : Option Nat × Raw :=
        match r with
        | o :: rest =>
          if o = 'u' ∨ o = 'g' ∨ o = 'o' then (some (spread mode o), rest)
          else
            let ls := r.takeWhile fun c => c ∈ ("rwxXst" : Raw)
            (some (ls.foldl (fun n c => n ||| (letterBits mode isDirectory c).getD 0) 0), r.drop ls.length)
        | [] => (some 0, [])
      let affected := if owners = [] then 0o7777 else owners.foldl (fun n o => n ||| ownerBits o) 0
      let wanted := (bits.getD 0) &&& affected
      let wanted := if owners = [] then without wanted (umask &&& 0o777) else wanted
      let next :=
        if sign = '+' then mode ||| wanted
        else if sign = '-' then without mode wanted
        else without mode (if owners = [] then 0o777 else affected &&& 0o7777) ||| wanted
      actions umask isDirectory owners fuel rest next

/-- the mode that a text asks for -/
def change (umask : Nat) (isDirectory : Bool) (spelled : Raw) (mode : Nat) : Option Nat :=
  if spelled ≠ [] ∧ spelled.all Char.isDigit then
    if spelled.all fun c => c < '8' then
      let n := spelled.foldl (fun n c => n * 8 + (c.toNat - 48)) 0
      if n ≤ 0o7777 then some n else none
    else none
  else
    (Text.pieces ',' spelled).foldl (fun (acc : Option Nat) clause =>
      acc.bind fun mode =>
        let owners := clause.takeWhile fun c => c ∈ ("ugoa" : Raw)
        let rest := clause.drop owners.length
        if rest = [] then none else actions umask isDirectory owners (rest.length + 1) rest mode) (some mode)

def letters (mode : Nat) : Raw :=
  let part (n : Nat) (special : Bool) (on off : Char) : Raw :=
    let x : Char :=
      if special then (if n % 2 = 1 then on else off) else if n % 2 = 1 then 'x' else '-'
    [if n / 4 % 2 = 1 then 'r' else '-', if n / 2 % 2 = 1 then 'w' else '-', x]
  part (mode / 64 % 8) (mode / 2048 % 2 = 1) 's' 'S' ++ part (mode / 8 % 8) (mode / 1024 % 2 = 1) 's' 'S' ++
    part (mode % 8) (mode / 512 % 2 = 1) 't' 'T'

/-- a number in base eight -/
def octal (n : Nat) : Raw :=
  Nat.toDigits 8 n

end Mode

/-- the mode of a node; directories are open to all, but for writing -/
def modeOf : Node → Nat
  | .file _ mode => mode
  | .directory => 0o755
  | .link _ => 0o777
  | .device .pipe => 0o600
  | .device _ => 0o666

/-- whether a word that starts with a dash asks for a mode -/
def isModeWord (w : Raw) : Bool :=
  match w with
  | '-' :: c :: _ => c ∈ ("rwxXstugoa=+," : Raw)
  | _ => false

def Work.pathsBelow (c : Call) : (fuel : Nat) → Work → Raw → List Raw
  | 0, _, _ => []
  | fuel + 1, w, f =>
    match w.lstat c f with
    | .ok .directory => f :: (w.names c f).flatMap fun n => Work.pathsBelow c fuel w (joinPath f n)
    | _ => [f]

/-- changes modes -/
def chmod (c : Call) : Answer :=
  let known :=
    [option 'R' "recursive", option 'v' "verbose", option 'c' "changes", option 'f' "silent", option 'f' "quiet",
     valuedOption '\x01' "reference", option '\x02' "preserve-root", option '\x03' "no-preserve-root"]
  let words := c.arguments.filter fun w => !isModeWord w
  let asked : Option Raw := c.arguments.find? isModeWord
  match options known false words with
  | .error e => c.misused e 1
  | .ok p =>
    let reference : Option (Except OsError Node) := (p.value? '\x01').map c.stat
    let (spelled, files) : Option Raw × List Raw :=
      match asked, reference, p.operands with
      | some m, _, fs => (some m, fs)
      | none, some (.ok n), fs => (some (Mode.octal (modeOf n)), fs)
      | none, _, m :: fs => (some m, fs)
      | none, _, [] => (none, [])
    match spelled, files with
    | none, _ => c.misused "missing operand" 1
    | some m, [] => c.misused ("missing operand after " ++ quote m) 1
    | some m, files =>
      match Mode.change c.umask false m 0 with
      | none => c.misused ("invalid mode: " ++ quote m) 1
      | some _ =>
        let w := files.foldl (fun (w : Work) f =>
          let paths := if p.has 'R' then Work.pathsBelow c maxDepth w f else [f]
          paths.foldl (fun (w : Work) f =>
            match w.stat c f with
            | .error e =>
              let dangling : Bool := (w.lstat c f).toOption.isSome
              if p.has 'f' then { w with failed := true } else
              if dangling then
                if p.has 'R' then w else w.complain c ("cannot operate on dangling symlink " ++ quoteName f)
              else w.complain c ("cannot access " ++ quoteName f ++ ": " ++ e.words)
            | .ok node =>
              let before := modeOf node
              let after := (Mode.change c.umask (node = .directory) m before).getD before
              let tree :=
                match node, w.tree.locate c.here (Raw.toText f) with
                | .file bytes _, .ok q => w.tree.put q (.file bytes after)
                | _, _ => w.tree
              let w := { w with tree }
              let four (n : Nat) : Raw := List.replicate (4 - (Mode.octal n).length) '0' ++ Mode.octal n
              let shown (n : Nat) : Raw := four n ++ " (" ++ Mode.letters n ++ [')']
              if before ≠ after ∧ (p.has 'v' ∨ p.has 'c') then
                w.say ("mode of " ++ quoteName f ++ " changed from " ++ shown before ++ " to " ++ shown after)
              else if p.has 'v' then w.say ("mode of " ++ quoteName f ++ " retained as " ++ shown before)
              else w) w) { tree := c.tree }
        w.answer

/-- checks that files are there; owners are not kept -/
def chown (c : Call) : Answer :=
  c.parse [option 'R' "recursive", option 'v' "verbose", option 'c' "changes", option 'f' "silent", option 'h' "no-dereference"] 1
    fun p =>
      match p.operands with
      | [] => c.misused "missing operand" 1
      | [o] => c.misused ("missing operand after " ++ quote o) 1
      | _ :: files =>
        (files.foldl (fun (w : Work) f =>
          match w.stat c f with
          | .ok _ => w
          | .error e => w.complain c ("cannot access " ++ quoteName f ++ ": " ++ e.words)) { tree := c.tree }).answer

end IncludeAudit.Tool
