/-
What a watcher of one file hears of a change to the tree. A file is heard of through its directory; while that is
missing, the directories above are watched instead, and a file that comes together with its directory counts as new.
-/
import IncludeAudit.Cache.State
import IncludeAudit.Tree.Edit

namespace IncludeAudit

/-- a change that concerns the file at a place -/
def FileEvent.ofChange? (p : Place) : Change → Option FileEvent
  | .created q => if q = p then some .created else none
  | .modified q => if q = p then some .changed else none
  | .removed q => if q = p then some .deleted else none
  | .moved source target =>
    if target = p then some .created else if source = p then some .deleted else none

/-- what is heard of the file at a path when a tree changes -/
def FileEvent.heard (before after : Tree) (here : Place) (path : Path) (changes : List Change) : List FileEvent :=
  match Path.fileName path, before.locate here (Path.parent path) with
  | some name, .ok dir =>
    if before.isDirectoryAt dir then changes.filterMap (FileEvent.ofChange? (name :: dir))
    else if after.isFile here path then [.created]
    else []
  | some _, .error _ => if after.isFile here path then [.created] else []
  | none, _ => []

namespace Cache

/-- the surroundings of a cache: the tree, the place from which paths are seen, and the news under way -/
structure Scene where
  tree : Tree
  here : Place
  underWay : List Op := []

namespace Scene

/-- the tree changes, and the watcher of the cache sends news -/
def edit (scene : Scene) (s : St) (change : Tree → Place → Tree.Edit) : Except OsError Scene := do
  let (tree, changes) ← change scene.tree scene.here
  let news :=
    match s.watch with
    | none => []
    | some w => (FileEvent.heard scene.tree tree scene.here w.path changes).map (Op.news w.epoch)
  return { scene with tree, underWay := scene.underWay ++ news }

/-- lets every load end -/
def settle (scene : Scene) (s : St) : St :=
  settleAll scene.tree scene.here s

/-- time passes: the news arrives, and every load ends -/
def pass (scene : Scene) (s : St) : Scene × St :=
  ({ scene with underWay := [] }, scene.settle (run s scene.underWay))

end Scene
end Cache
end IncludeAudit
