/-
What a list of records comes to. A record counts when it names a file and gives a command that is not blank or some
arguments; it stands for the file by the identity of the path it names, seen from its directory. Of the records for
one file the last one counts.

- `Record.Usable`, `Record.identityIn`, `Record.entryIn`: which records count, for which file, and what they say.
- `ofRecord?_eq`: just these give an entry.
- `find?_ofRecords`: the entry of a file is that of the last usable record for it.
- `size_ofRecords`: there are as many entries as files that usable records stand for.
- `ofRecordsBy`: the same by any way of resolving paths.
- `keys_are_plain`: in a project with an absolute root, no file has dots in its key.
-/
import IncludeAudit.Proofs.Database.Entries
import IncludeAudit.Proofs.Tree.Identity

namespace IncludeAudit

/-! ## Records -/

namespace Record

/-- the record names a file, and it has a command that is not blank or some arguments -/
def Usable (r : Record) : Prop :=
  (∃ file, r.file = some file ∧ file ≠ []) ∧
    ((∃ command, r.command = some command ∧ Text.isBlank command = false) ∨
      ∃ arguments, r.arguments = some arguments ∧ arguments ≠ [])

/-- the directory of a record, seen from the root of the project; the root itself when none is named -/
def directoryIn (root : Path) (r : Record) : Path :=
  match r.directory with
  | none | some [] => root
  | some directory => Path.join root directory

/-- the path that a record names, seen from its directory -/
def pathIn (root : Path) (r : Record) : Path :=
  Path.join (r.directoryIn root) (r.file.getD [])

/-- the identity of the file that a record stands for -/
def identityIn (t : Tree) (here : Place) (root : Path) (r : Record) : Path :=
  t.identity here (r.pathIn root)

/-- the record counts, and its file is the one that a path means, seen from the root -/
def IsFor (t : Tree) (here : Place) (root p : Path) (r : Record) : Prop :=
  r.Usable ∧ Path.same (r.identityIn t here root) (t.identity here (Path.join root p)) = true

/-- what a record says about its file: its command as it stands unless that is blank, else its arguments as a line -/
def entryIn (root : Path) (r : Record) : Entry where
  command :=
    match r.command with
    | some command => if Text.isBlank command then Command.ofWords (r.arguments.getD []) else command
    | none => Command.ofWords (r.arguments.getD [])
  directory := r.directoryIn root

theorem isSome_effectiveCommand? (r : Record) :
    r.effectiveCommand?.isSome =
      ((r.command.filter (!Text.isBlank ·)).isSome || (r.arguments.filter (· ≠ [])).isSome) := by
  unfold effectiveCommand?
  cases r.command.filter (!Text.isBlank ·) with
  | some command => rfl
  | none => cases r.arguments.filter (· ≠ []) <;> rfl

theorem usable_iff (r : Record) : r.Usable ↔ r.namedFile?.isSome ∧ r.effectiveCommand?.isSome := by
  rw [isSome_effectiveCommand?, namedFile?, Bool.or_eq_true]
  simp [Usable, Option.any_eq_true]

instance (r : Record) : Decidable r.Usable :=
  decidable_of_iff _ r.usable_iff.symm

instance (t : Tree) (here : Place) (root p : Path) (r : Record) : Decidable (r.IsFor t here root p) :=
  inferInstanceAs (Decidable (_ ∧ _))

theorem namedFile?_getD {r : Record} {file : Text} (h : r.namedFile? = some file) : r.file.getD [] = file := by
  rw [(Option.filter_eq_some_iff.1 h).1]; rfl

theorem directoryIn_eq (root : Path) (r : Record) :
    (r.namedDirectory?).elim root (Path.join root) = r.directoryIn root := by
  unfold directoryIn namedDirectory?
  cases r.directory with
  | none => rfl
  | some directory => cases directory <;> rfl

theorem effectiveCommand?_eq {r : Record} {command : Text} (h : r.effectiveCommand? = some command) (root : Path) :
    (r.entryIn root).command = command := by
  unfold effectiveCommand? at h
  split at h
  · next hf =>
    obtain ⟨hc, hb⟩ := Option.filter_eq_some_iff.1 hf
    cases h
    have hblank : Text.isBlank command = false := by simpa using hb
    simp [entryIn, hc, hblank]
  · next a hc ha =>
    obtain ⟨ha, -⟩ := Option.filter_eq_some_iff.1 ha
    cases h
    cases hr : r.command with
    | none => simp [entryIn, hr, ha]
    | some c =>
      have hb : Text.isBlank c = true := by simpa [hr] using hc
      simp [entryIn, hr, ha, hb]
  · cases h

end Record

/-! ## Their entries -/

namespace Database

open Record

/-- a record gives an entry exactly when it is usable -/
theorem ofRecord?_eq (t : Tree) (here : Place) (root : Path) (r : Record) :
    ofRecord? t here root r = if r.Usable then some (r.identityIn t here root, r.entryIn root) else none := by
  simp only [ofRecord?, usable?, usable_iff]
  cases hf : r.namedFile? with
  | none => rfl
  | some file =>
    cases hc : r.effectiveCommand? with
    | none => rfl
    | some command =>
      simp only [Option.map_some, Option.isSome_some, and_self, if_true, Option.some.injEq, Prod.mk.injEq]
      refine ⟨?_, ?_⟩
      · rw [identityIn, pathIn, directoryIn_eq, namedFile?_getD hf]
      · rw [directoryIn_eq, ← effectiveCommand?_eq hc root]
        rfl

theorem filterMap_ofRecord? (t : Tree) (here : Place) (root : Path) (rs : List Record) :
    rs.filterMap (ofRecord? t here root) =
      (rs.filter (·.Usable)).map fun r => (r.identityIn t here root, r.entryIn root) := by
  induction rs with
  | nil => rfl
  | cons r rs ih =>
    by_cases hr : r.Usable
    · rw [List.filterMap_cons, ofRecord?_eq, if_pos hr, List.filter_cons_of_pos (by simpa using hr), ih]
      rfl
    · rw [List.filterMap_cons, ofRecord?_eq, if_neg hr, List.filter_cons_of_neg (by simpa using hr), ih]

/-- the usable records go in one after another -/
theorem ofRecords_eq (t : Tree) (here : Place) (root : Path) (rs : List Record) :
    ofRecords t here root rs =
      insertAll {} ((rs.filter (·.Usable)).map fun r => (r.identityIn t here root, r.entryIn root)) := by
  rw [ofRecords, filterMap_ofRecord?]
  rfl

/-- the entry of a file is that of the last usable record for it -/
theorem find?_ofRecords (t : Tree) (here : Place) (root : Path) (rs : List Record) (k : Path) :
    (ofRecords t here root rs).find? k =
      (rs.filter fun r => r.Usable ∧ r.identityIn t here root = k).getLast?.map (entryIn root) := by
  rw [ofRecords_eq, find?_insertAll, List.filter_map, List.getLast?_map, Option.map_map, List.filter_filter]
  have hboth : (rs.filter fun r => decide (r.identityIn t here root = k) && decide r.Usable) =
      rs.filter fun r => r.Usable ∧ r.identityIn t here root = k :=
    List.filter_congr fun r _ => by simp [Bool.and_comm]
  change ((rs.filter fun r => decide (r.identityIn t here root = k) && decide r.Usable).getLast?.map (entryIn root)).or
    none = _
  rw [hboth, Option.or_none]

theorem nodup_keys_ofRecords (t : Tree) (here : Place) (root : Path) (rs : List Record) :
    (ofRecords t here root rs).keys.Nodup := by
  rw [ofRecords_eq]
  exact nodup_keys_insertAll (d := {}) List.nodup_nil _

/-- a file has an entry exactly when a usable record stands for it -/
theorem mem_keys_ofRecords {t : Tree} {here : Place} {root : Path} {rs : List Record} {k : Path} :
    k ∈ (ofRecords t here root rs).keys ↔ ∃ r ∈ rs, r.Usable ∧ r.identityIn t here root = k := by
  rw [ofRecords_eq, mem_keys_insertAll]
  simp [keys, and_assoc]

/-- there are as many entries as files that usable records stand for -/
theorem size_ofRecords (t : Tree) (here : Place) (root : Path) (rs : List Record) :
    (ofRecords t here root rs).size =
      ((rs.filter (·.Usable)).map (identityIn t here root)).toFinset.card := by
  rw [ofRecords_eq, size_insertAll, List.map_map]
  rfl

/-- the keys are plain paths, whose steps behind the root are names, and the directories are absolute -/
structure Anchored (d : Database) : Prop where
  plain : ∀ {file e}, (file, e) ∈ d.entries → file.Plain
  named : ∀ {file e}, (file, e) ∈ d.entries → ∀ c ∈ Path.components file, c = .root ∨ ∃ n, c = .name n
  absolute : ∀ {file e}, (file, e) ∈ d.entries → Path.isAbsolute e.directory = true

/-- the database of a list of records when something else resolves paths -/
def ofRecordsBy (resolve : Path → Option Path) (root : Path) (rs : List Record) : Database :=
  insertAll {} ((rs.filter (·.Usable)).map fun r => (Tree.identityBy resolve (r.pathIn root), r.entryIn root))

theorem ofRecords_eq_ofRecordsBy (t : Tree) (here : Place) (root : Path) (rs : List Record) :
    ofRecords t here root rs = ofRecordsBy (t.resolve? here) root rs := by
  rw [ofRecords_eq, ofRecordsBy, ← Tree.identity_eq_identityBy]
  rfl

theorem mem_entries_ofRecordsBy {resolve : Path → Option Path} {root : Path} {rs : List Record} {file : Path}
    {e : Entry} (h : (file, e) ∈ (ofRecordsBy resolve root rs).entries) :
    ∃ r ∈ rs, Tree.identityBy resolve (r.pathIn root) = file ∧ r.entryIn root = e := by
  have hmem := (mem_entries_insertAll h).resolve_left List.not_mem_nil
  obtain ⟨r, hr, hre⟩ := List.mem_map.1 hmem
  obtain ⟨hfile, hentry⟩ := Prod.mk.inj hre
  exact ⟨r, List.mem_of_mem_filter hr, hfile, hentry⟩

end Database

/-! ## In a project with an absolute root -/

section Absolute

variable {root : Path} (h : Path.isAbsolute root = true)
include h

namespace Record

theorem isAbsolute_directoryIn (r : Record) : Path.isAbsolute (r.directoryIn root) = true := by
  unfold directoryIn
  split
  · exact h
  · exact h
  · exact Path.isAbsolute_join h _

theorem isAbsolute_pathIn (r : Record) : Path.isAbsolute (r.pathIn root) = true :=
  Path.isAbsolute_join (r.isAbsolute_directoryIn h) _

/-- identities are the same path only when they are the same text -/
theorem isFor_iff {t : Tree} {here : Place} {p : Path} {r : Record} :
    r.IsFor t here root p ↔ r.Usable ∧ r.identityIn t here root = t.identity here (Path.join root p) := by
  rw [IsFor, identityIn, Tree.same_identity_iff (r.isAbsolute_pathIn h) (Path.isAbsolute_join h p)]

/-- identities that stand for the same steps are the same text -/
theorem components_identityIn_inj {t : Tree} {here : Place} {r r' : Record}
    (he : Path.components (r.identityIn t here root) = Path.components (r'.identityIn t here root)) :
    r.identityIn t here root = r'.identityIn t here root :=
  (Tree.same_identity_iff (r.isAbsolute_pathIn h) (r'.isAbsolute_pathIn h)).1 (Path.same_iff.2 he)

end Record

namespace Database

theorem find?_ofRecords_identity (t : Tree) (here : Place) (rs : List Record) (p : Path) :
    (ofRecords t here root rs).find? (t.identity here (Path.join root p)) =
      (rs.filter fun r => r.IsFor t here root p).getLast?.map (Record.entryIn root) := by
  rw [find?_ofRecords]
  simp only [Record.isFor_iff h]

/-- there are as many entries as different paths among the identities of usable records -/
theorem size_ofRecords_components (t : Tree) (here : Place) (rs : List Record) :
    (ofRecords t here root rs).size =
      ((rs.filter (·.Usable)).map fun r => Path.components (r.identityIn t here root)).toFinset.card := by
  have himage : ((rs.filter (·.Usable)).map fun r => Path.components (r.identityIn t here root)).toFinset =
      ((rs.filter (·.Usable)).map (Record.identityIn t here root)).toFinset.image Path.components := by
    ext cs
    simp
  rw [size_ofRecords, himage, Finset.card_image_of_injOn]
  intro a ha b hb hab
  obtain ⟨r, -, rfl⟩ := List.mem_map.1 (List.mem_toFinset.1 ha)
  obtain ⟨r', -, rfl⟩ := List.mem_map.1 (List.mem_toFinset.1 hb)
  exact Record.components_identityIn_inj h hab

theorem anchored_ofRecordsBy {resolve : Path → Option Path}
    (hplain : ∀ p q, Path.isAbsolute p = true → resolve p = some q → q.Plain) (rs : List Record) :
    (ofRecordsBy resolve root rs).Anchored := by
  have hentry : ∀ {file e}, (file, e) ∈ (ofRecordsBy resolve root rs).entries →
      file.Plain ∧ Path.isAbsolute e.directory = true := by
    intro file e hmem
    obtain ⟨r, -, rfl, rfl⟩ := mem_entries_ofRecordsBy hmem
    have hp := r.isAbsolute_pathIn h
    exact ⟨Tree.plain_identityBy hp fun q hq => hplain _ q hp hq, r.isAbsolute_directoryIn h⟩
  exact ⟨fun hmem => (hentry hmem).1, fun hmem _ hc => (hentry hmem).1.components hc, fun hmem => (hentry hmem).2⟩

/-- **Keys have no dots, and directories are absolute.** This is so whatever resolves paths, as long as it gives a
plain path when it resolves an absolute one, and so it is in every tree. The records may name their files and
directories in any way: relative, with dots, and past the root. -/
theorem keys_are_plain (rs : List Record) :
    (∀ resolve : Path → Option Path, (∀ p q, Path.isAbsolute p = true → resolve p = some q → q.Plain) →
      (ofRecordsBy resolve root rs).Anchored) ∧
    ∀ (t : Tree) (here : Place), (ofRecords t here root rs).Anchored := by
  refine ⟨fun resolve hplain => anchored_ofRecordsBy h hplain rs, fun t here => ?_⟩
  rw [ofRecords_eq_ofRecordsBy]
  exact anchored_ofRecordsBy h (fun p q hp hq => Tree.plain_of_resolve? hp hq) rs

end Database

end Absolute

/-- one record goes past the root and comes back through a link, the other names a file that is not there -/
theorem Database.keys_are_plain_climbing :
    let t : Tree :=
      { nodes := [(["p"], .directory), (["src", "p"], .directory), (["a.c", "src", "p"], .file [] Node.plainMode),
          (["l", "p"], .link "src")] }
    let r : Record := { directory := some "../../p/l/.", command := some "cc", file := some "..//./l/a.c" }
    let r' : Record := { directory := some "../..", command := some "cc", file := some "x/../.././../b.c" }
    let d := ofRecords t [] "/p" [r, r']
    Path.isAbsolute "/p" = true ∧ d.keys = ["/p/src/a.c", "/b.c"] ∧ d.Anchored ∧
      ofRecordsBy (t.resolve? []) "/p" [r, r'] = d ∧ (ofRecordsBy (t.resolve? []) "/p" [r, r']).Anchored := by
  intro t r r' d
  have hroot : Path.isAbsolute "/p" = true := by decide
  obtain ⟨hby, hall⟩ := keys_are_plain hroot [r, r']
  refine ⟨hroot, ?_, hall t [], ?_, hby (t.resolve? []) fun p q hp hq => Tree.plain_of_resolve? hp hq⟩
  · decide +kernel
  · exact (ofRecords_eq_ofRecordsBy t [] "/p" [r, r']).symm

end IncludeAudit
