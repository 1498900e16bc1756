/-
Where a session looks for its database. Other settings move the database when they name another path, and settings
are compared by the steps of their paths; but which file a setting means depends on a closing slash too. So the
database stays where it is when the setting changes only by such a slash.

- `located`: the setting by which the database was last moved.
- `apply_located`: what a change of the settings keeps: the database is where `located` says, and the setting held is
  another spelling of the same path.
- `database_follows_iff`: the database is where the settings say exactly when no slash behind a `json` file sets the
  two spellings apart.
- `closing_slash_keeps_database`: a change that should move the database and does not.
-/
import IncludeAudit.Proofs.Path.DatabaseFile
import IncludeAudit.Proofs.Cache.Ledger
import IncludeAudit.Session.Basic

namespace IncludeAudit.Session

open Cache (St)

/-- changes of the settings, one after another -/
def applyAll (s : Session) (us : List (Settings Path)) : Session :=
  us.foldl apply s

/-- the setting by which the database was last moved, after the first one and those that follow -/
def located (setting : Path) (us : List (Settings Path)) : Path :=
  us.foldl (fun r u => if Path.same r u.database then r else u.database) setting

/-- the database of a session is where setting `r` says, and the setting held spells the same path -/
structure Located (s : Session) (r : Path) : Prop where
  root : s.cache.root = some s.root
  setting : Path.same r s.settings.database = true
  path : ∃ p, s.cache.path = some p ∧ Path.same p (Path.databaseFile s.root r) = true

/-- after a move the database is where the setting says, whether anything had to be moved or not -/
theorem repoint_path {s : St} {root : Path} (h : s.root = some root) (setting : Path) :
    ∃ p, (Cache.repoint s setting).path = some p ∧ Path.same p (Path.databaseFile root setting) = true := by
  simp only [Cache.repoint, h]
  split_ifs with hp hw
  · exact (Option.any_eq_true _ _).1 hp
  · exact ⟨_, by rw [Cache.startLoad_path]; rfl, Path.same_refl _⟩
  · exact ⟨_, by rw [Cache.startLoad_path], Path.same_refl _⟩

theorem init_located (root : Path) (settings : Settings Path) (watching : Bool) :
    Located (init root settings watching) settings.database := by
  refine ⟨Cache.init_root _ _ _, Path.same_refl _, Path.databaseFile root settings.database, ?_, Path.same_refl _⟩
  cases watching <;> rfl

/-- a change of the settings moves the database, or spells the same path another way -/
theorem apply_located {s : Session} {r : Path} (h : Located s r) (u : Settings Path) :
    Located (s.apply u) (if Path.same r u.database then r else u.database) := by
  -- the setting held and the one last moved by are the same path, so either may be compared
  have hsame : s.settings.sameDatabase u = Path.same r u.database := by
    rw [Bool.eq_iff_iff]
    exact ⟨Path.same_trans h.setting, Path.same_trans (Path.same_symm h.setting)⟩
  unfold apply
  rw [hsame]
  split_ifs with hu
  · exact ⟨h.root, hu, h.path⟩
  · exact ⟨(Cache.step_root s.cache (.repoint u.database)).trans h.root, Path.same_refl _, repoint_path h.root _⟩

theorem applyAll_located {s : Session} {r : Path} (h : Located s r) (us : List (Settings Path)) :
    Located (s.applyAll us) (located r us) := by
  induction us generalizing s r with
  | nil => exact h
  | cons u us ih => exact ih (apply_located h u)

theorem applyAll_root (s : Session) (us : List (Settings Path)) : (s.applyAll us).root = s.root := by
  induction us generalizing s with
  | nil => rfl
  | cons u us ih => exact ih (s.apply u)

/-- **When the database follows the settings.** After any changes of the settings the database is where the one by
which it was last moved says. That is where the settings held say too, except when their last name has the extension
`json` and just one of the two spellings closes with a slash. -/
theorem database_follows_iff (root : Path) (settings : Settings Path) (watching : Bool) (us : List (Settings Path)) :
    let s := (init root settings watching).applyAll us
    let r := located settings.database us
    (∃ p, s.cache.path = some p ∧ Path.same p (Path.databaseFile root r) = true) ∧
      ((∃ p, s.cache.path = some p ∧ Path.same p (Path.databaseFile root s.settings.database) = true) ↔
        (Path.namesJson s.settings.database = true → Path.closes r = Path.closes s.settings.database)) := by
  intro s r
  have h : Located s r := applyAll_located (init_located root settings watching) us
  have hroot : s.root = root := applyAll_root _ _
  obtain ⟨p, hp, hsame⟩ := h.path
  rw [hroot] at hsame
  refine ⟨⟨p, hp, hsame⟩, ?_⟩
  rw [← Path.same_namesDirectory_iff h.setting, ← Path.same_databaseFile_iff root h.setting]
  constructor
  · rintro ⟨q, hq, hs⟩
    obtain rfl : p = q := Option.some.inj (hp.symm.trans hq)
    exact Path.same_trans (Path.same_symm hsame) hs
  · intro hs
    exact ⟨p, hp, Path.same_trans hsame hs⟩

/-- **A slash behind a `json` file moves nothing.** The setting then names a directory, and the database stays at the
file of the same name. -/
theorem closing_slash_keeps_database :
    let s := (init "/p" { database := "db.json" } false).applyAll [{ database := "db.json/" }]
    s.settings.database = ("db.json/" : Text) ∧ s.cache.path = some "/p/db.json" ∧
      Path.databaseFile "/p" s.settings.database = "/p/db.json/compile_commands.json" ∧
      Path.same "/p/db.json" (Path.databaseFile "/p" s.settings.database) = false := by
  decide

end IncludeAudit.Session
