/-
What settings files say. A file that is missing leaves every key open, and a file that is there says what its document
says. Files give settings when every one of them says something; then the settings are the defaults with what the
files say on top, file after file. Else the first file that is broken decides what is wrong.

- `Says`: what a file says, and `layerAt_eq_ok_iff`: its layer is that.
- `Breaks`: what is wrong with a broken file, and `layerAt_eq_error_iff`: it is reported.
- `applyFiles_eq_ok_iff`, `applyFiles_eq_error_iff`: the outcome for any files, `load_eq_ok_iff`: for the two of a
  project.
-/
import Mathlib.Data.List.Forall2
import IncludeAudit.Settings.Files

namespace IncludeAudit.Settings

variable {P : Type} [SystemPath P] {t : Tree} {here : Place}

/-- what a settings file says -/
inductive Says (t : Tree) (here : Place) (path : Path) : Layer P → Prop
  | missing (h : t.readText here path = .error (.os .noEntry)) : Says t here path {}
  | written {document : Text} {l : Layer P} (read : t.readText here path = .ok document)
      (parsed : Layer.parse document = .ok l) : Says t here path l

theorem layerAt_eq_ok_iff {path : Path} {l : Layer P} : layerAt t here path = .ok l ↔ Says t here path l := by
  constructor
  · intro h
    unfold layerAt at h
    split at h
    · next hr =>
      obtain rfl := Except.ok.inj h
      exact .missing hr
    · cases h
    · next document hr =>
      split at h
      · next hp =>
        obtain rfl := Except.ok.inj h
        exact .written hr hp
      · cases h
  · rintro (hr | ⟨hr, hp⟩)
    · simp only [layerAt, hr]
    · simp only [layerAt, hr, hp]

/-- a settings file is there but says nothing to settings with such paths, and why -/
inductive Breaks (P : Type) [SystemPath P] (t : Tree) (here : Place) (path : Path) : FileError → Prop
  | unreadable {e : Tree.ReadError} (read : t.readText here path = .error e) (there : e ≠ .os .noEntry) :
      Breaks P t here path (.unreadable path e)
  | malformed {document : Text} {e : Json.Error} (read : t.readText here path = .ok document)
      (parsed : (Layer.parse document : Except Json.Error (Layer P)) = .error e) :
      Breaks P t here path (.malformed path e)

theorem layerAt_eq_error_iff {path : Path} {e : FileError} :
    (layerAt t here path : Except FileError (Layer P)) = .error e ↔ Breaks P t here path e := by
  constructor
  · intro h
    unfold layerAt at h
    split at h
    · cases h
    · next hthere hr =>
      obtain rfl := Except.error.inj h
      exact .unreadable hr hthere
    · next document hr =>
      split at h
      · cases h
      · next hp =>
        obtain rfl := Except.error.inj h
        exact .malformed hr hp
  · rintro (⟨hr, hthere⟩ | ⟨hr, hp⟩)
    · simp only [layerAt, hr]
    · simp only [layerAt, hr, hp]

/-- files give settings when every one of them says something -/
theorem applyFiles_eq_ok_iff {ps : List Path} {s u : Settings P} :
    applyFiles t here s ps = .ok u ↔ ∃ ls, List.Forall₂ (Says t here) ps ls ∧ u = ls.foldl Settings.apply s := by
  induction ps generalizing s with
  | nil =>
    constructor
    · intro h
      exact ⟨[], .nil, (Except.ok.inj h).symm⟩
    · rintro ⟨ls, hs, rfl⟩
      cases hs
      rfl
  | cons p ps ih =>
    simp only [applyFiles]
    cases hp : (layerAt t here p : Except FileError (Layer P)) with
    | ok l =>
      simp only [ih]
      constructor
      · rintro ⟨ls, hs, rfl⟩
        exact ⟨l :: ls, .cons (layerAt_eq_ok_iff.1 hp) hs, rfl⟩
      · rintro ⟨ls, hs, rfl⟩
        obtain _ | ⟨hl, hs⟩ := hs
        obtain rfl := Except.ok.inj (hp.symm.trans (layerAt_eq_ok_iff.2 hl))
        exact ⟨_, hs, rfl⟩
    | error e =>
      refine ⟨(nomatch ·), ?_⟩
      rintro ⟨ls, hs, -⟩
      obtain _ | ⟨hl, -⟩ := hs
      cases hp.symm.trans (layerAt_eq_ok_iff.2 hl)

/-- the files behind others go on top of what these give -/
theorem applyFiles_append (s : Settings P) (ps qs : List Path) :
    applyFiles t here s (ps ++ qs) = (applyFiles t here s ps).bind (applyFiles t here · qs) := by
  induction ps generalizing s with
  | nil => rfl
  | cons p ps ih =>
    simp only [List.cons_append, applyFiles]
    cases (layerAt t here p : Except FileError (Layer P)) with
    | ok l => exact ih _
    | error e => rfl

/-- the first file that is broken decides what is wrong, whatever comes behind it -/
theorem applyFiles_eq_error_iff {ps : List Path} {s : Settings P} {e : FileError} :
    applyFiles t here s ps = .error e ↔
      ∃ before p after, ps = before ++ p :: after ∧ (∃ ls : List (Layer P), List.Forall₂ (Says t here) before ls) ∧
        Breaks P t here p e := by
  constructor
  · intro h
    induction ps generalizing s with
    | nil => cases h
    | cons p ps ih =>
      rw [applyFiles] at h
      split at h
      · next l hl =>
        obtain ⟨before, q, after, rfl, ⟨ls, hs⟩, hb⟩ := ih h
        exact ⟨p :: before, q, after, rfl, ⟨l :: ls, .cons (layerAt_eq_ok_iff.1 hl) hs⟩, hb⟩
      · next hl =>
        obtain rfl := Except.error.inj h
        exact ⟨[], p, ps, rfl, ⟨[], .nil⟩, layerAt_eq_error_iff.1 hl⟩
  · rintro ⟨before, p, after, rfl, ⟨ls, hs⟩, hb⟩
    rw [applyFiles_append, applyFiles_eq_ok_iff.2 ⟨ls, hs, rfl⟩, Except.bind, applyFiles, layerAt_eq_error_iff.2 hb]

/-- the settings files of a project, the one of the user first -/
def files (user : Option Path) (root : Path) : List Path :=
  user.toList ++ [projectFile root]

theorem load_eq_ok_iff {user : Option Path} {root : Path} {s : Settings P} :
    load t here user root = .ok s ↔
      ∃ ls, List.Forall₂ (Says t here) (files user root) ls ∧ s = ls.foldl Settings.apply {} :=
  applyFiles_eq_ok_iff

end IncludeAudit.Settings
