/-
What the command looks at. The disk is looked up path by path: a request names paths, what is found there names more
of them (settings name a database, a database names files), and so on until nothing new comes up.
-/
import IncludeAudit.Cli.Run

namespace IncludeAudit

/-- what has to be told to a watcher when one tree takes the place of another -/
def Tree.differences (before after : Tree) : List Change :=
  let come := after.nodes.filterMap fun n =>
    match before.node? n.1 with
    | none => some (Change.created n.1)
    | some old => if old = n.2 then none else some (Change.modified n.1)
  let gone := before.nodes.filterMap fun n =>
    if (after.node? n.1).isNone then some (Change.removed n.1) else none
  gone ++ come

namespace Cli

def recordPaths (root : Path) (s : Settings Path) (r : Record) : List Path :=
  let directory := (r.namedDirectory?).elim root (Path.join root)
  [directory, Path.join directory s.tool, Path.join directory s.fixScript] ++
    (r.namedFile?.map (Path.join directory)).toList

def Task.paths (root : Path) : Task → List Path
  | .run file _ => [Path.join root file]
  | .args file _ => [Path.join root file]
  | _ => []

namespace Host

/-- the paths that a request looks at, as far as the tree tells -/
def footprint (h : Host) (r : Request) : List Path :=
  let first := (r.root.getD h.here.path) :: (h.userFile?.toList ++ r.logFile.toList)
  match h.rootOf r with
  | .error _ => first
  | .ok root =>
    let second := first ++ [Settings.projectFile root] ++ r.task.paths root
    match h.settingsOf r root with
    | .error _ => second
    | .ok s =>
      let database := Path.databaseFile root s.database
      let third := second ++ [s.tool, s.fixScript, database]
      match (h.tree.readText h.here database).toOption.bind fun t => (Record.readAll t).toOption with
      | some rs => third ++ rs.flatMap (recordPaths root s)
      | none => third

end Host
end Cli
end IncludeAudit
