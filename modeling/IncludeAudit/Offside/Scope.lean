/-
Which names a scope binds, which it takes from the scopes around it, and which it keeps for the scopes inside it.

- `Names`: the names of a scope, `Names.ofBody`: those of a block, `Names.free`: those that it takes from outside.
-/
import IncludeAudit.Offside.Syntax

namespace IncludeAudit.Offside

structure Names where
  bound : List Text := []
  globals : List Text := []
  nonlocals : List Text := []
  used : List Text := []
  /-- names that scopes inside take from outside -/
  inner : List Text := []
  /-- names that are bound inside a collection for the scope around it -/
  lifted : List Text := []
  /-- values are handed out or waited for here -/
  yields : Bool := false
  awaits : Bool := false

namespace Names

/-- the names of two parts of a scope -/
def and (a b : Names) : Names :=
  { bound := a.bound ++ b.bound, globals := a.globals ++ b.globals, nonlocals := a.nonlocals ++ b.nonlocals
    used := a.used ++ b.used, inner := a.inner ++ b.inner, lifted := a.lifted ++ b.lifted
    yields := a.yields || b.yields, awaits := a.awaits || b.awaits }

/-- the names of all parts of a scope -/
def all (ns : List Names) : Names :=
  ns.foldr and {}

/-- names that are bound in the scope itself -/
def own (n : Names) : List Text :=
  (n.bound.filter fun x => x ∉ n.globals && x ∉ n.nonlocals).eraseDups

/-- names that the scope takes from outside -/
def free (n : Names) : List Text :=
  let own := n.own
  ((n.used ++ n.inner ++ n.bound).filter fun x => x ∉ own && x ∉ n.globals) ++ n.nonlocals |>.eraseDups

/-- a scope inside another one, as that one sees it -/
def inside (n : Names) : Names :=
  { inner := n.free }

def ofParameters (ps : Parameters) : List Text :=
  (ps.map fun p => p.2.1).filter (· ≠ [])

mutual

def ofExpr : (fuel : Nat) → (collecting : Bool) → Expr → Names
  | 0, _, _ => {}
  | fuel + 1, c, e =>
    let one := ofExpr fuel c
    let many (es : List Expr) : Names := all (es.map one)
    match e with
    | .name n => { used := if n = ("super" : Text) then [n, "__class__"] else [n] }
    | .joined es | .list es | .tuple es | .set es => many es
    | .shown e _ l => (one e).and (one l)
    | .dictionary ps => all (ps.map fun p => (one p.1).and (one p.2))
    | .attribute e _ => one e
    | .index e i => (one e).and (one i)
    | .slice a b d => many [a, b, d]
    | .call f as => (one f).and (all (as.map fun p => one p.2))
    | .unary _ e | .spread e => one e
    | .binary _ a b | .both a b | .either a b => (one a).and (one b)
    | .compare a rest => (one a).and (all (rest.map fun p => one p.2))
    | .choose a b d => many [a, b, d]
    | .lambda ps b =>
      let inner := { (ofExpr fuel false b) with globals := [] }
      let inner := { inner with bound := ofParameters ps ++ inner.bound }
      (many (ps.map fun p => p.2.2.1)).and inner.inside
    | .each _ a b cs =>
      let first := (cs.head?.map fun cl => one cl.2.2.1).getD {}
      let scope := ofClauses fuel a b cs
      let lifted := scope.lifted
      let inside := { scope with nonlocals := scope.nonlocals ++ lifted }.inside
      let outside : Names := if c then { lifted } else { bound := lifted }
      (first.and inside).and { outside with awaits := scope.awaits }
    | .bind n e => (one e).and (if c then { lifted := [n] } else { bound := [n] })
    | .yield e | .yieldFrom e => { one e with yields := true }
    | .await e => { one e with awaits := true }
    | .at _ e => one e
    | _ => {}

/-- the names of a collection by its clauses, apart from the first source -/
def ofClauses : (fuel : Nat) → (element value : Expr) → List (Bool × Expr × Expr × List Expr) → Names
  | 0, _, _, _ => {}
  | fuel + 1, a, b, cs =>
    let parts := cs.zipIdx.map fun (cl, i) =>
      let (waits, target, source, conditions) := cl
      let source := if i = 0 then {} else ofExpr fuel true source
      let conditions := all (conditions.map (ofExpr fuel true))
      ((ofTarget fuel target).and (source.and conditions)).and { awaits := waits }
    let body := (ofExpr fuel true a).and (ofExpr fuel true b)
    (all parts).and body

def ofTarget : (fuel : Nat) → Expr → Names
  | 0, _ => {}
  | fuel + 1, e =>
    match e with
    | .name n => { bound := [n] }
    | .tuple es | .list es => all (es.map (ofTarget fuel))
    | .spread e | .at _ e => ofTarget fuel e
    | e => ofExpr fuel false e

end

def ofPattern : (fuel : Nat) → Pattern → Names
  | 0, _ => {}
  | fuel + 1, p =>
    match p with
    | .value e | .constant e => ofExpr fuel false e
    | .capture n => { bound := [n] }
    | .anything => {}
    | .rest n => { bound := n.toList }
    | .sequence ps | .oneOf ps => all (ps.map (ofPattern fuel))
    | .mapping ps rest =>
      (all (ps.map fun p => (ofExpr fuel false p.1).and (ofPattern fuel p.2))).and { bound := rest.toList }
    | .instance_ e ps ns =>
      (ofExpr fuel false e).and (all (ps.map (ofPattern fuel) ++ ns.map fun p => ofPattern fuel p.2))
    | .under p n => (ofPattern fuel p).and { bound := [n] }

/-- the name that stands for a name in the block of a class -/
def mangled (cls : Option Text) (n : Text) : Text :=
  match cls with
  | some c =>
    if ("__" : Text).isPrefixOf n ∧ !(("__" : Text).isPrefixOf n.reverse) ∧ '.' ∉ n then
      let c := c.dropWhile (· = '_')
      if c = [] then n else '_' :: c ++ n
    else n
  | none => n

mutual

def ofBody : (fuel : Nat) → List Stmt → Names
  | 0, _ => {}
  | fuel + 1, ss => all (ss.map (ofStmt fuel))

def ofFunction : (fuel : Nat) → Parameters → List Stmt → Names
  | 0, _, _ => {}
  | fuel + 1, ps, body =>
    let inner := ofBody fuel body
    { inner with bound := ofParameters ps ++ inner.bound }

def ofStmt : (fuel : Nat) → Stmt → Names
  | 0, _ => {}
  | fuel + 1, s =>
    let one := ofExpr fuel false
    let target := ofTarget fuel
    let block := ofBody fuel
    match s with
    | .at _ s => ofStmt fuel s
    | .expr e | .give e => one e
    | .assign ts e => (one e).and (all (ts.map target))
    | .update t _ e => ((target t).and (one t)).and (one e)
    | .annotate t a e =>
      let value := (one e).and (one a)
      (target t).and value
    | .load ms =>
      { bound := ms.map fun (m, given) => given.getD (m.takeWhile (· ≠ '.')) }
    | .loadFrom _ _ ns => { bound := (ns.map fun (n, given) => given.getD n).filter (· ≠ ['*']) }
    | .branch c a b => (one c).and ((block a).and (block b))
    | .loop c a b => (one c).and ((block a).and (block b))
    | .forEach waits t e a b =>
      ((target t).and (one e)).and (((block a).and (block b)).and { awaits := waits })
    | .define _ n ps result body ds =>
      let outside := ps.map (fun p => p.2.2.1) ++ ps.map (fun p => p.2.2.2) ++ [result] ++ ds
      ((all (outside.map one)).and (ofFunction fuel ps body).inside).and { bound := [n] }
    | .classOf n as body ds =>
      let inner := block body
      -- names of the class are not seen by the scopes inside it
      let through := inner.inner.filter (· ≠ ("__class__" : Text))
      let own := inner.own
      let taken := inner.used.filter fun x => x ∉ own && x ∉ inner.globals
      let seen : Names := { inner := through ++ taken ++ inner.nonlocals }
      ((all ((as.map (·.2) ++ ds).map one)).and seen).and { bound := [n] }
    | .attempt a hs b d =>
      let handlers := hs.map fun (_, e, n, body) => ((one e).and { bound := n.toList }).and (block body)
      ((block a).and (all handlers)).and ((block b).and (block d))
    | .fail a b => (one a).and (one b)
    | .using waits is body =>
      let items := is.map fun (e, t) => (one e).and (if t.isAbsent then {} else target t)
      ((all items).and (block body)).and { awaits := waits }
    | .check a b => (one a).and (one b)
    | .delete ts => all (ts.map fun t => (target t).and (one t))
    | .global ns => { globals := ns }
    | .nonlocal ns => { nonlocals := ns }
    | .select e cs =>
      (one e).and (all (cs.map fun (p, guard, body) => ((ofPattern fuel p).and (one guard)).and (block body)))
    | .leave | .next | .pass => {}

end

/-- how deep a source may be nested -/
def maxNesting : Nat := 20000

end Names
end IncludeAudit.Offside
