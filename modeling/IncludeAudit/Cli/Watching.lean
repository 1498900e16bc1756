/-
The watch command. It keeps a session live: news about the database file starts loads, and news about the settings
file of the project reads all settings again. Settings that cannot be read leave everything as it is. After the
loads have ended, one line tells where the database is and how it stands.
-/
import IncludeAudit.Cache.News
import IncludeAudit.Session.Basic
import IncludeAudit.Settings.Files

namespace IncludeAudit.Cli

/-- a session with what its settings are made of: the file of the user, and the settings of the command line -/
structure Watching where
  session : Session
  user : Option Path
  layer : Layer Path
  deriving DecidableEq, Repr

namespace Watching

/-- settings from files with those of the command line on top -/
def settingsOf (t : Tree) (here : Place) (user : Option Path) (root : Path) (l : Layer Path) :
    Except Settings.FileError (Settings Path) :=
  (Settings.load t here user root).map (·.apply l)

/-- the start: the first load is under way -/
def start (root : Path) (settings : Settings Path) (user : Option Path) (layer : Layer Path) : Watching :=
  { session := .init root settings true, user, layer }

/-- reads the settings again -/
def reread (t : Tree) (here : Place) (w : Watching) : Watching :=
  match settingsOf t here w.user w.session.root w.layer with
  | .ok settings => { w with session := w.session.apply settings }
  | .error _ => w

/-- what can happen: something to the database, or news about the settings file with the tree as it is then -/
inductive Op
  | database (op : Cache.Op)
  | settings (t : Tree) (here : Place)

def step (w : Watching) : Op → Watching
  | .database op => { w with session := w.session.step op }
  | .settings t here => w.reread t here

def run (w : Watching) (ops : List Op) : Watching :=
  ops.foldl step w

/-- where the database is, and how it stands -/
def report (w : Watching) : Text :=
  w.session.cache.path.getD "<none>" ++ ": " ++ w.session.cache.status.display

end Watching

/-! ## The surroundings -/

/-- a watch command at work in a tree: news under way, and the lines printed so far -/
structure Scene where
  tree : Tree
  here : Place
  watching : Watching
  /-- news about the database file -/
  underWay : List Cache.Op := []
  /-- the settings file has changed -/
  settingsChanged : Bool := false
  printed : List Text := []

namespace Scene

/-- the tree changes, and both watchers send news -/
def edit (s : Scene) (change : Tree → Place → Tree.Edit) : Except OsError Scene := do
  let (tree, changes) ← change s.tree s.here
  let heard (path : Path) : List FileEvent := FileEvent.heard s.tree tree s.here path changes
  let news := (s.watching.session.cache.watch.map fun w => (heard w.path).map (Cache.Op.news w.epoch)).getD []
  let settingsFile := Settings.projectFile s.watching.session.root
  return { s with
    tree
    underWay := s.underWay ++ news
    settingsChanged := s.settingsChanged || !(heard settingsFile).isEmpty }

def settle (s : Scene) (w : Watching) : Watching :=
  { w with session := { w.session with cache := Cache.settleAll s.tree s.here w.session.cache } }

/-- time passes: the news arrives, every load ends, and a line tells of it if there was any -/
def pass (s : Scene) : Scene :=
  let w := s.watching.run (s.underWay.map .database)
  let w := s.settle (if s.settingsChanged then w.step (.settings s.tree s.here) else w)
  { s with
    watching := w
    underWay := []
    settingsChanged := false
    printed :=
      if w.session.cache.settled = s.watching.session.cache.settled then s.printed else s.printed ++ [w.report] }

end Scene

end IncludeAudit.Cli
