/-
What a lookup finds after a load. Keys are made twice: when records are read, from the path that a record names seen
from its directory, and when a file is looked up, from its path seen from the root. Both are identities in the same
tree, so a lookup finds what the last record for the file says. But an identity need not be its own identity, so a key
that is looked up again can lead elsewhere.

- `ended_entries`: when the load with the last number ends well, its database is what the cache holds.
- `lookup_last_usable`: a lookup finds the last usable record for the file, and there is one entry for each file.
- `lookup_own_key`: a key finds its own entry unless it leads past a link, and only a record whose path does not
  resolve has such a key.
- `key_past_link_not_found`: a key that does not find its own entry.
-/
import IncludeAudit.Proofs.Cache.Ledger
import IncludeAudit.Proofs.Database.Records

namespace IncludeAudit.Cache

/-! ## The end of a load -/

/-- the load is under way, it has the last number, and it has yet to commit -/
structure Current (s : St) (l : Load) : Prop where
  underWay : l ∈ s.loads
  last : l.generation = s.generation
  uncommitted : l.committed = false

theorem settle_entries (s : St) (n : Nat) : (step s (.settle n)).entries = s.entries := by
  simp only [step, settle]
  split_ifs <;> rfl

theorem ended_entries {s : St} {l : Load} (h : Current s l) (d : Database) :
    (run s (ending l (.ok d))).entries = d := by
  have hcommit : (step s (.commit l.generation (.ok d))).entries = d := by
    rcases deed_commit s l.generation (.ok d) with ⟨-, -, -, -, hd⟩ | ⟨hno, -⟩
    · rw [← ledger_entries, step_ledger, hd, Ledger.after, if_pos (by exact h.last.symm)]
      rfl
    · exact absurd rfl (hno l h.underWay h.uncommitted)
  rw [ending, run_cons, run_cons, run_nil, settle_entries, hcommit]

/-- a file with some records is loaded as their database -/
theorem load_of_readAll {t : Tree} {here : Place} {path : Path} {document : Text} {rs : List Record}
    (hr : t.readText here path = .ok document) (hd : Record.readAll document = .ok rs) (root : Path) :
    Database.load t here root path = .ok (Database.ofRecords t here root rs) := by
  simp only [Database.load, hr, Database.parse, hd]
  rfl

theorem lookup_key {s : St} {root : Path} (hr : s.root = some root) (t : Tree) (here : Place) (p : Path) :
    lookup s (key? t here s p) = s.entries.find? (t.identity here (Path.join root p)) := by
  rw [key?, hr]
  rfl

/-! ## The last record for a file -/

theorem isSome_getLast?_filter {α : Type} {l : List α} {p : α → Prop} [DecidablePred p] :
    (l.filter (p ·)).getLast?.isSome = true ↔ ∃ x ∈ l, p x := by
  rw [List.getLast?_isSome, ne_eq, List.filter_eq_nil_iff]
  simp

/-- **The last usable record for a file is found.** When the load with the last number has read some records, a file
is found exactly when a usable record stands for it, and then with what the last such record says; there are as many
entries as there are different identities among the usable records. That is how the load of a file with these records
ends. -/
theorem lookup_last_usable (t : Tree) (here : Place) {root : Path} (hroot : Path.isAbsolute root = true)
    (setting : Path) (watching : Bool) (before : List Op) {l : Load}
    (hl : Current (run (init (some root) setting watching) before) l) (rs : List Record) :
    let read := Database.ofRecords t here root rs
    let s := run (run (init (some root) setting watching) before) (ending l (.ok read))
    (∀ p, (lookup s (key? t here s p)).isSome = true ↔ ∃ r ∈ rs, r.IsFor t here root p) ∧
      (∀ p, lookup s (key? t here s p) =
        (rs.filter fun r => r.IsFor t here root p).getLast?.map (Record.entryIn root)) ∧
      s.entries.size =
        ((rs.filter (·.Usable)).map fun r => Path.components (r.identityIn t here root)).toFinset.card ∧
      ∀ path document, t.readText here path = .ok document → Record.readAll document = .ok rs →
        Database.load t here root path = .ok read := by
  intro read s
  have hs : s.root = some root := (run_root _ _).trans ((run_root _ _).trans (init_root _ _ _))
  have he : s.entries = read := ended_entries hl read
  have hfind : ∀ p, lookup s (key? t here s p) =
      (rs.filter fun r => r.IsFor t here root p).getLast?.map (Record.entryIn root) := fun p => by
    rw [lookup_key hs, he]
    exact Database.find?_ofRecords_identity hroot t here rs p
  refine ⟨fun p => ?_, hfind, ?_, fun path document hr hd => load_of_readAll hr hd root⟩
  · rw [hfind, Option.isSome_map, isSome_getLast?_filter]
  · rw [he]
    exact Database.size_ofRecords_components hroot t here rs

/-- a project with a file and a link to it -/
def linkedProject : Tree where
  nodes := [(["p"], .directory), (["a.c", "p"], .file [] Node.plainMode), (["b.c", "p"], .link "a.c")]

/-- records for one file under two names, one of them blank, and for a file that is not there -/
def linkedRecords : List Record :=
  [{ command := some "cc -O0 a.c", file := some "a.c" },
   { directory := some [], arguments := some ["cc", "-I/my dir", "b.c"], file := some "b.c" },
   { command := some " ", arguments := some [], file := some "a.c" },
   { directory := some "out", command := some "cc x.c", arguments := some ["ld"], file := some "../src/./x.c" }]

/-- the second of two usable records counts, which names the file through a link -/
theorem lookup_last_usable_linked :
    let s := run (init (some "/p") [] false)
      (ending ⟨1, "/p/compile_commands.json", false⟩ (.ok (Database.ofRecords linkedProject [] "/p" linkedRecords)))
    lookup s (key? linkedProject [] s "./a.c") = some { command := "cc \"-I/my dir\" b.c", directory := "/p" } ∧
      lookup s (key? linkedProject [] s "src/x.c") = some { command := "cc x.c", directory := "/p/out" } ∧
      s.entries.size = 2 := by
  intro s
  have hl : Current (run (init (some "/p") [] false) []) ⟨1, "/p/compile_commands.json", false⟩ :=
    ⟨by decide, rfl, rfl⟩
  have hroot : Path.isAbsolute "/p" = true := by decide
  obtain ⟨-, hfind, hsize, -⟩ := lookup_last_usable linkedProject [] hroot [] false [] hl linkedRecords
  exact ⟨(hfind "./a.c").trans (by decide), (hfind "src/x.c").trans (by decide), hsize.trans (by decide)⟩

/-! ## Keys that are looked up again -/

/-- **A key finds its own entry, unless it leads past a link.** An identity is its own identity, unless the path does
not resolve and its normal form resolves past a link. So when the load with the last number has read some records,
every key that does not lead past a link finds the entry stored under it; and a key that does comes only from records
whose path does not resolve, as the normal form of that path. -/
theorem lookup_own_key (t : Tree) (here : Place) {root : Path} (hroot : Path.isAbsolute root = true)
    (setting : Path) (watching : Bool) (before : List Op) {l : Load}
    (hl : Current (run (init (some root) setting watching) before) l) (rs : List Record) :
    let s := run (run (init (some root) setting watching) before) (ending l (.ok (Database.ofRecords t here root rs)))
    (∀ p, Path.isAbsolute p = true → (t.identity here (t.identity here p) = t.identity here p ↔
        ¬ (¬ t.Resolves here p ∧ t.Resolves here (Path.normal p) ∧ t.Linked (Path.place p)))) ∧
      ∀ k e, (k, e) ∈ s.entries.entries →
        (¬ (t.Resolves here k ∧ t.Linked (Path.place k)) → lookup s (key? t here s k) = some e) ∧
        (t.Resolves here k ∧ t.Linked (Path.place k) → ∀ r ∈ rs, r.Usable → r.identityIn t here root = k →
          ¬ t.Resolves here (r.pathIn root) ∧ Path.normal (r.pathIn root) = k) := by
  intro s
  have hs : s.root = some root := (run_root _ _).trans ((run_root _ _).trans (init_root _ _ _))
  have he : s.entries = Database.ofRecords t here root rs := ended_entries hl _
  refine ⟨fun p hp => Tree.identity_identity_iff hp, fun k e hm => ⟨fun hk => ?_, ?_⟩⟩
  · -- the key spells a place, so it is its own identity as soon as it does not lead past a link
    rw [he] at hm
    obtain ⟨r, -, -, hkey⟩ := Database.mem_keys_ofRecords.1 (List.mem_map_of_mem hm)
    obtain ⟨q, hq, hi⟩ := Tree.identity_eq_path (r.isAbsolute_pathIn hroot) t here
    obtain rfl : k = q.path := hkey.symm.trans hi
    rw [Path.place_path hq] at hk
    rw [lookup_key hs, he, Path.join_of_isAbsolute q.isAbsolute_path, (Tree.identity_path_iff hq).2 hk]
    exact Database.find?_of_mem (Database.nodup_keys_ofRecords t here root rs) hm
  · rintro ⟨-, hlink⟩ r - - rfl
    have hr : ¬ t.Resolves here (r.pathIn root) := fun hr => by
      obtain ⟨q, hq, -, -, hi⟩ := Tree.identity_standing (r.isAbsolute_pathIn hroot) hr
      rw [Record.identityIn, hi, Path.place_path hq.proper] at hlink
      exact hq.not_linked hlink
    exact ⟨hr, (Tree.identity_of_not_resolves hr).symm⟩

/-- the key of a missing file finds its entry, and the identity of a path through a link is its own identity -/
theorem lookup_own_key_missing :
    let s := run (init (some "/p") [] false)
      (ending ⟨1, "/p/compile_commands.json", false⟩ (.ok (Database.ofRecords linkedProject [] "/p" linkedRecords)))
    lookup s (key? linkedProject [] s "/p/src/x.c") = some { command := "cc x.c", directory := "/p/out" } ∧
      linkedProject.identity [] (linkedProject.identity [] "/p/./b.c") = linkedProject.identity [] "/p/./b.c" := by
  intro s
  have hl : Current (run (init (some "/p") [] false) []) ⟨1, "/p/compile_commands.json", false⟩ :=
    ⟨by decide, rfl, rfl⟩
  have hroot : Path.isAbsolute "/p" = true := by decide
  obtain ⟨hid, hkeys⟩ := lookup_own_key linkedProject [] hroot [] false [] hl linkedRecords
  refine ⟨(hkeys _ _ ?_).1 (by decide), (hid _ (by decide)).2 (by decide)⟩
  decide

/-- **A key can lead past a link.** The path of the record does not resolve, since a directory on the way is missing;
its normal form is a link to another file, so the key is not its own identity and does not find its entry. -/
theorem key_past_link_not_found :
    let r : Record := { command := some "cc b.c", file := some "gone/../b.c" }
    let s := run (init (some "/p") [] false)
      (ending ⟨1, "/p/compile_commands.json", false⟩ (.ok (Database.ofRecords linkedProject [] "/p" [r])))
    s.entries.entries = [(("/p/b.c" : Path), ({ command := "cc b.c", directory := "/p" } : Entry))] ∧
      lookup s (key? linkedProject [] s "/p/b.c") = none ∧
      linkedProject.identity [] "/p/gone/../b.c" = "/p/b.c" ∧
      linkedProject.identity [] (linkedProject.identity [] "/p/gone/../b.c") = "/p/a.c" := by
  decide

end IncludeAudit.Cache
