/-
The compilation database: for each source file, by its identity, the compiler command that builds it and the
directory in which the command runs. Of several records for one file the last usable one counts.
-/
import IncludeAudit.Database.Record
import IncludeAudit.Tree.Walk

namespace IncludeAudit

/-- how one file is built -/
structure Entry where
  command : Text
  directory : Path
  deriving DecidableEq, Repr

/-- the entries by the identity of their file, in the order in which the files came up -/
structure Database where
  entries : List (Path × Entry) := []
  deriving DecidableEq, Repr

namespace Database

def size (d : Database) : Nat :=
  d.entries.length

def find? (d : Database) (key : Path) : Option Entry :=
  (d.entries.find? (·.1 = key)).map (·.2)

/-- puts an entry in the place of an older one for the same file, or at the end -/
def put (key : Path) (e : Entry) : List (Path × Entry) → List (Path × Entry)
  | [] => [(key, e)]
  | old :: r => if old.1 = key then (key, e) :: r else old :: put key e r

def insert (d : Database) (key : Path) (e : Entry) : Database :=
  ⟨put key e d.entries⟩

/-- the identity and the entry that a record gives in a project, with paths seen from its root -/
def ofRecord? (t : Tree) (here : Place) (root : Path) (r : Record) : Option (Path × Entry) :=
  r.usable?.map fun (file, command) =>
    let directory := (r.namedDirectory?).elim root (Path.join root)
    (t.identity here (Path.join directory file), { command, directory })

def ofRecords (t : Tree) (here : Place) (root : Path) (rs : List Record) : Database :=
  (rs.filterMap (ofRecord? t here root)).foldl (fun d e => d.insert e.1 e.2) {}

def parse (t : Tree) (here : Place) (root : Path) (document : Text) : Except Json.Error Database :=
  (Record.readAll document).map (ofRecords t here root)

/-! ## Reading -/

/-- why a database could not be loaded -/
inductive LoadError
  | notFound (path : Path)
  | unreadable (path : Path) (why : Tree.ReadError)
  | malformed (path : Path) (why : Json.Error)
  deriving DecidableEq, Repr

def LoadError.message : LoadError → Text
  | .notFound p => "compilation database not found: " ++ p
  | .unreadable p e => "failed to read " ++ p ++ ": " ++ e.message
  | .malformed p e => "failed to parse " ++ p ++ ": " ++ e.message

/-- what came of reading a database file -/
abbrev Outcome := Except LoadError Database

def load (t : Tree) (here : Place) (root path : Path) : Outcome :=
  match t.readText here path with
  | .error (.os .noEntry) => .error (.notFound path)
  | .error e => .error (.unreadable path e)
  | .ok document =>
    match parse t here root document with
    | .ok d => .ok d
    | .error e => .error (.malformed path e)

/-! ## Small laws -/

theorem find?_put_self (key : Path) (e : Entry) (es : List (Path × Entry)) :
    find? ⟨put key e es⟩ key = some e := by
  induction es with
  | nil => simp [put, find?]
  | cons old r ih =>
    simp only [put]
    split
    · simp [find?]
    case isFalse h => simpa [find?, List.find?_cons, h] using ih

theorem find?_put_other {key k : Path} (hk : k ≠ key) (e : Entry) (es : List (Path × Entry)) :
    find? ⟨put key e es⟩ k = find? ⟨es⟩ k := by
  induction es with
  | nil => simp [put, find?, Ne.symm hk]
  | cons old r ih =>
    simp only [put]
    split
    case isTrue h =>
      subst h
      simp [find?, Ne.symm hk]
    case isFalse =>
      by_cases ho : old.1 = k
      · simp [find?, ho]
      · simpa [find?, List.find?_cons, ho] using ih

end Database
end IncludeAudit
