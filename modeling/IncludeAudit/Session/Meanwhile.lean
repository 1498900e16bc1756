/-
A call that prepares a file while other things happen. The call gives way wherever it waits and wherever it makes the
identity of the file. Between two of its turns loads may start, commit and settle, news may arrive, and the tree may
change.
-/
import IncludeAudit.Session.Basic
import IncludeAudit.Cache.News

namespace IncludeAudit.Session

/-- what comes next: something happens to the database, or the call has its turn -/
inductive Moment
  | op (o : Cache.Op)
  | turn (t : Tree) (here : Place)

/-- a session and a call on it, from moment to moment -/
def attend (file : Path) : Session → Preparing → List Moment → Session × Preparing
  | s, p, [] => (s, p)
  | s, p, .op o :: moments => attend file (s.step o) p moments
  | s, p, .turn t here :: moments => attend file s (advance t here s file p) moments

/-- A call in the surroundings of its session. It refuses at once when it has nothing to wait for and the database is
not valid. Otherwise it gives way: the news under way arrives, then every load reads the tree and ends, in the order
in which they started, and the call has its turns as soon as it can go on. -/
def meanwhile (scene : Cache.Scene) (s : Session) : Cache.Scene × List Moment :=
  let turn : Moment := .turn scene.tree scene.here
  if Cache.isReady s.cache (Cache.target s.cache) && !Cache.isValid s.cache then (scene, [turn, turn])
  else
    let ended (l : Cache.Load) : List Moment :=
      (Cache.ending l (Database.load scene.tree scene.here (s.cache.root.getD []) l.path)).map .op ++ [turn, turn]
    let heard : List Moment := scene.underWay.map .op ++ [turn, turn]
    let loads := (Cache.run s.cache scene.underWay).loads
    ({ scene with underWay := [] }, turn :: heard ++ loads.flatMap ended ++ [turn, turn])

end IncludeAudit.Session
