/-
Which file the entries of a cache come from. Entries are put in place by loads that succeed while their number is the
last one taken, and taken away by deletes; a load that fails and a move to another file leave them. So a cache that
has moved can hold entries of the file it looked at before, and when the new file is there but cannot be read or
parsed, it is valid with them.

- `Unsupplied`: a run that leaves the entries alone, and `supplied_cases`: any other has a last step that does not.
- `run_valid_before`: a status `valid` that no supply has written was there before, and no number was taken since.
- `exists_delivered` and `Delivered.status`: a status `valid` that was not there before comes from such a load, and
  stays until another number is taken.
- `run_path`: the path after a run, and `run_readsCurrent`: the load with the last number reads that path.
- `valid_serves_own_iff`: a valid cache serves entries of the file it looks at exactly when the status is `valid`, or
  when the moves since have led back to the file that the entries come from.
- `moved_cache_serves_former_file`: a cache that is valid with the entries of another file.
-/
import IncludeAudit.Proofs.Cache.Freshness
import IncludeAudit.Proofs.Cache.Lookup
import IncludeAudit.Proofs.Cache.Status

namespace IncludeAudit.Cache

open Database (Outcome)

/-! ## Supplies -/

namespace Ledger

/-- a deed that puts other entries in the place of those held: a delete, or a load that succeeds while its number is
the last one taken -/
def Supplies (c : Ledger) : Deed → Prop
  | .cleared _ => True
  | .finished n (.ok _) => c.generation = n
  | _ => False

instance (c : Ledger) : (d : Deed) → Decidable (c.Supplies d)
  | .cleared _ => isTrue trivial
  | .finished n (.ok _) => inferInstanceAs (Decidable (c.generation = n))
  | .finished _ (.error _) => isFalse id
  | .quiet | .started _ _ | .settled _ => isFalse id

theorem entries_of_not_supplies {c : Ledger} {d : Deed} (h : ¬ c.Supplies d) : (c.after d).entries = c.entries := by
  cases d with
  | cleared n => exact absurd trivial h
  | finished n outcome =>
    simp only [after]
    split_ifs with hn
    · cases outcome with
      | error e => exact judge_entries_error c e
      | ok d => exact absurd hn h
    · rfl
  | _ => rfl

/-- only a supply writes the status `valid` -/
theorem valid_of_not_supplies {c : Ledger} {d : Deed} (h : ¬ c.Supplies d) {k : Nat}
    (hk : (c.after d).status = .valid k) : c.status = .valid k ∧ (c.after d).generation = c.generation := by
  cases d with
  | quiet => exact ⟨hk, rfl⟩
  | started n path => cases hk
  | cleared n => exact absurd trivial h
  | finished n outcome =>
    refine ⟨?_, finished_generation c n outcome⟩
    simp only [after] at hk
    split_ifs at hk with hn
    · cases outcome with
      | error e => cases e <;> cases hk
      | ok d => exact absurd hn h
    · exact hk
  | settled n => exact ⟨hk, rfl⟩

end Ledger

/-- no step of a run puts other entries in the place of those held -/
def Unsupplied (s : St) : List Op → Prop
  | [] => True
  | o :: ops => ¬ s.ledger.Supplies (deed s o) ∧ Unsupplied (step s o) ops

instance : (s : St) → (ops : List Op) → Decidable (Unsupplied s ops)
  | _, [] => isTrue trivial
  | s, o :: ops =>
    have : Decidable (Unsupplied (step s o) ops) := instDecidableUnsupplied (step s o) ops
    inferInstanceAs (Decidable (_ ∧ _))

theorem run_entries {s : St} {ops : List Op} (h : Unsupplied s ops) : (run s ops).entries = s.entries := by
  induction ops generalizing s with
  | nil => rfl
  | cons o ops ih =>
    have hs : (step s o).entries = s.entries := by
      rw [← ledger_entries, step_ledger]
      exact Ledger.entries_of_not_supplies h.1
    rw [run_cons, ih h.2, hs]

theorem run_valid_before {s : St} {ops : List Op} (h : Unsupplied s ops) {k : Nat}
    (hk : (run s ops).status = .valid k) : s.status = .valid k ∧ (run s ops).generation = s.generation := by
  induction ops generalizing s with
  | nil => exact ⟨hk, rfl⟩
  | cons o ops ih =>
    obtain ⟨hs, hg⟩ := ih h.2 hk
    rw [← ledger_status, step_ledger] at hs
    obtain ⟨hs', hg'⟩ := Ledger.valid_of_not_supplies h.1 hs
    rw [← step_ledger] at hg'
    exact ⟨hs', hg.trans hg'⟩

/-- a run leaves the entries alone, or it has a last step that does not -/
theorem supplied_cases (s : St) (ops : List Op) :
    Unsupplied s ops ∨ ∃ before o after, ops = before ++ o :: after ∧
      (run s before).ledger.Supplies (deed (run s before) o) ∧ Unsupplied (step (run s before) o) after := by
  induction ops generalizing s with
  | nil => exact Or.inl trivial
  | cons o ops ih =>
    rcases ih (step s o) with h | ⟨before, o', after, rfl, hs, ha⟩
    · by_cases ho : s.ledger.Supplies (deed s o)
      · exact Or.inr ⟨[], o, ops, rfl, ho, h⟩
      · exact Or.inl ⟨ho, h⟩
    · exact Or.inr ⟨o :: before, o', after, rfl, hs, ha⟩

/-- only a load that commits can come to its end -/
theorem deed_eq_finished {s : St} {o : Op} {n : Nat} {outcome : Outcome} (h : deed s o = .finished n outcome) :
    o = .commit n outcome ∧ ∃ l ∈ s.loads, l.generation = n ∧ l.committed = false := by
  refine ⟨?_, by simpa [h, Ledger.Permits] using step_permits s o⟩
  have hload : loadDeed s ≠ .finished n outcome := by
    unfold loadDeed
    split <;> simp
  have hnews : ∀ e, newsDeed s e ≠ .finished n outcome := fun e => by
    unfold newsDeed
    split_ifs
    · simp
    · cases e <;> simp [hload]
  cases o with
  | reload => exact absurd h hload
  | event e => exact absurd h (hnews e)
  | repoint setting =>
    simp only [deed, repointDeed] at h
    split at h
    · cases h
    · split_ifs at h
  | commit m o' =>
    simp only [deed] at h
    split_ifs at h
    cases h
    rfl
  | settle m =>
    simp only [deed] at h
    split_ifs at h
  | news epoch e =>
    simp only [deed] at h
    split_ifs at h
    exact absurd h (hnews e)
  | close => cases h

/-- the entries of a supply are gone, or they are what the load with the last number has committed -/
theorem supply_cases {s : St} {o : Op} (h : s.ledger.Supplies (deed s o)) :
    ((step s o).entries = {} ∧ (step s o).status = .notFound) ∨
      ∃ l, Current s l ∧ o = .commit l.generation (.ok (step s o).entries) := by
  have hl := step_ledger s o
  cases hd : deed s o with
  | cleared n =>
    rw [hd] at hl
    exact Or.inl ⟨congrArg Ledger.entries hl, congrArg Ledger.status hl⟩
  | finished n outcome =>
    rw [hd] at h hl
    cases outcome with
    | error e => exact absurd h id
    | ok d =>
      have hn : s.ledger.generation = n := h
      obtain ⟨ho, l, hm, hg, hu⟩ := deed_eq_finished hd
      have he : (step s o).entries = d := by
        have := congrArg Ledger.entries hl
        simp only [Ledger.after, if_pos hn] at this
        exact this
      exact Or.inr ⟨l, ⟨hm, hg.trans hn.symm, hu⟩, by rw [he, hg]; exact ho⟩
  | quiet => rw [hd] at h; exact absurd h id
  | started n path => rw [hd] at h; exact absurd h id
  | settled n => rw [hd] at h; exact absurd h id

/-! ## The status after a supply -/

/-- once the load with the last number has ended, only a new number brings another status -/
theorem Ledger.status_after {c : Ledger} {d : Deed} (hi : c.Inv) (hd : c.Permits d) (hs : c.status ≠ .loading)
    (hg : (c.after d).generation = c.generation) : (c.after d).status = c.status := by
  cases d with
  | quiet => rfl
  | started n path =>
    obtain rfl : n = c.generation + 1 := hd
    simp only [after] at hg; omega
  | cleared n =>
    obtain rfl : n = c.generation + 1 := hd
    simp only [after] at hg; omega
  | finished n outcome =>
    obtain ⟨l, hl, hn, hu⟩ := hd
    have hne : ¬ c.generation = n := fun e => hs (hi.loading.2 ⟨l, hl, hn.trans e.symm, hu⟩)
    simp only [after, if_neg hne]
  | settled n => rfl

theorem run_status {s : St} (hi : s.ledger.Inv) (hs : s.status ≠ .loading) {ops : List Op}
    (hg : (run s ops).generation = s.generation) : (run s ops).status = s.status := by
  induction ops generalizing s with
  | nil => rfl
  | cons o ops ih =>
    have hle : (step s o).generation ≤ (run (step s o) ops).generation := generation_le_run _ _
    have hge : s.generation ≤ (step s o).generation := generation_le_run s [o]
    rw [run_cons] at hg
    have hstep : (step s o).status = s.status := by
      have hl := step_ledger s o
      have hgen : (s.ledger.after (deed s o)).generation = s.ledger.generation := by
        rw [← hl, ledger_generation, ledger_generation]; omega
      rw [← ledger_status, hl]
      exact Ledger.status_after hi (step_permits s o) hs hgen
    rw [run_cons, ih (step_inv hi o) (hstep ▸ hs) (by omega), hstep]

/-- what a load with the last number leaves when it commits -/
theorem committed_status {s : St} {l : Load} (h : Current s l) (d : Database) :
    (step s (.commit l.generation (.ok d))).status = (if d.size = 0 then .empty else .valid d.size) ∧
      (step s (.commit l.generation (.ok d))).generation = l.generation := by
  rcases deed_commit s l.generation (.ok d) with ⟨-, -, -, -, hd⟩ | ⟨hno, -⟩
  · have hl := step_ledger s (.commit l.generation (.ok d))
    rw [hd, Ledger.after, if_pos (by exact h.last.symm)] at hl
    exact ⟨congrArg Ledger.status hl, (congrArg Ledger.generation hl).trans h.last.symm⟩
  · exact absurd rfl (hno l h.underWay h.uncommitted)

/-- a load with the last number that has yet to commit has started after every number that has settled -/
theorem Current.lt_generation {s : St} (hi : s.ledger.Inv) {l : Load} (h : Current s l) {n : Nat}
    (hn : n ≤ s.settled) : n < l.generation := by
  have hlast : s.settled < s.generation := hi.pending.2 ⟨l, h.underWay, h.last⟩
  have := h.last; omega

/-- at the end of a run, a load has put entries in place as the last to take a number -/
def Delivered (s : St) (ops : List Op) (l : Load) (d : Database) : Prop :=
  ∃ before after, ops = before ++ .commit l.generation (.ok d) :: after ∧ Current (run s before) l ∧
    (run s ops).generation = l.generation

theorem Delivered.status {s : St} (hi : s.ledger.Inv) {ops : List Op} {l : Load} {d : Database}
    (h : Delivered s ops l d) (hd : d.size ≠ 0) : (run s ops).status = .valid d.size := by
  obtain ⟨before, after, rfl, hl, hg⟩ := h
  obtain ⟨hstatus, hgen⟩ := committed_status hl d
  rw [if_neg hd] at hstatus
  have hinv := step_inv (run_inv hi before) (.commit l.generation (.ok d))
  rw [run_append, run_cons] at hg ⊢
  rw [run_status hinv (by rw [hstatus]; simp) (hg.trans hgen.symm), hstatus]

/-- a status `valid` that was not there before comes from a load that commits -/
theorem exists_delivered {s : St} {ops : List Op} {n : Nat} (hs : s.status ≠ .valid n)
    (h : (run s ops).status = .valid n) : ∃ l d, Delivered s ops l d ∧ d.size = n ∧ n ≠ 0 := by
  rcases supplied_cases s ops with hu | ⟨before, o, after, rfl, ho, hu⟩
  · exact absurd (run_valid_before hu h).1 hs
  · rw [run_append, run_cons] at h
    obtain ⟨hvalid, hg⟩ := run_valid_before hu h
    rcases supply_cases ho with ⟨-, hnone⟩ | ⟨l, hl, hcommit⟩
    · rw [hnone] at hvalid
      cases hvalid
    · set d := (step (run s before) o).entries
      obtain ⟨hstatus, hgen⟩ := committed_status hl d
      rw [← hcommit] at hstatus hgen
      refine ⟨l, d, ⟨before, after, by rw [hcommit], hl, ?_⟩, ?_⟩
      · rw [run_append, run_cons, hg, hgen]
      · rw [hvalid] at hstatus
        split_ifs at hstatus with h0
        obtain rfl := Status.valid.inj hstatus
        exact ⟨rfl, h0⟩

/-! ## Paths -/

/-- where a cache looks after some operations when it has looked at a path: other settings move it, unless they mean
the same file -/
def moved (root path : Path) (ops : List Op) : Path :=
  ops.foldl (fun p o =>
    match o with
    | .repoint setting => if Path.same p (Path.databaseFile root setting) then p else Path.databaseFile root setting
    | _ => p) path

theorem commit_path (s : St) (n : Nat) (o : Outcome) : (commit s n o).path = s.path := by
  rw [commit_eq]; rfl

theorem settle_path (s : St) (n : Nat) : (settle s n).path = s.path := by
  rw [settle_eq]; rfl

theorem repoint_path_eq {s : St} {root p : Path} (hr : s.root = some root) (hp : s.path = some p) (setting : Path) :
    (repoint s setting).path = some (moved root p [.repoint setting]) := by
  simp only [repoint, hr, hp, Option.any_some, moved, List.foldl_cons, List.foldl_nil]
  split_ifs
  · exact hp
  · rw [startLoad_path]; rfl
  · rw [startLoad_path]

theorem step_path {s : St} {root p : Path} (hr : s.root = some root) (hp : s.path = some p) (o : Op) :
    (step s o).path = some (moved root p [o]) := by
  cases o with
  | repoint setting => exact repoint_path_eq hr hp setting
  | close => exact hp
  | _ => rw [step_eq (by simp) (by simp)]; exact hp

theorem run_path {s : St} {root p : Path} (hr : s.root = some root) (hp : s.path = some p) (ops : List Op) :
    (run s ops).path = some (moved root p ops) := by
  induction ops generalizing s p with
  | nil => exact hp
  | cons o ops ih => exact ih ((step_root s o).trans hr) (step_path hr hp o)

/-- a load that starts reads the path that the cache looks at then; nothing else moves the cache -/
theorem path_of_deed (s : St) (o : Op) :
    (∃ n p, deed s o = .started n p ∧ (step s o).path = some p) ∨
      (∀ n p, deed s o ≠ .started n p) ∧ (step s o).path = s.path := by
  have hload : (∃ n p, loadDeed s = .started n p ∧ s.path = some p) ∨ ∀ n p, loadDeed s ≠ .started n p := by
    unfold loadDeed
    split
    · next path _ hp => exact Or.inl ⟨_, path, rfl, hp⟩
    · exact Or.inr (by simp)
  have hnews : ∀ e, (∃ n p, newsDeed s e = .started n p ∧ s.path = some p) ∨ ∀ n p, newsDeed s e ≠ .started n p := by
    intro e
    unfold newsDeed
    split_ifs
    · exact Or.inr (by simp)
    · cases e
      · exact hload
      · exact hload
      · exact Or.inr (by simp)
  cases o with
  | reload =>
    rcases hload with ⟨n, p, hd, hp⟩ | hd
    · exact Or.inl ⟨n, p, hd, (startLoad_path s).trans hp⟩
    · exact Or.inr ⟨hd, startLoad_path s⟩
  | event e =>
    rcases hnews e with ⟨n, p, hd, hp⟩ | hd
    · exact Or.inl ⟨n, p, hd, (handle_path s e).trans hp⟩
    · exact Or.inr ⟨hd, handle_path s e⟩
  | repoint setting =>
    simp only [deed, repointDeed, step, repoint]
    cases s.root with
    | none => exact Or.inr ⟨by simp, rfl⟩
    | some root =>
      simp only
      split_ifs
      · exact Or.inr ⟨by simp, rfl⟩
      · exact Or.inl ⟨_, _, rfl, by rw [startLoad_path]; rfl⟩
      · exact Or.inl ⟨_, _, rfl, by rw [startLoad_path]⟩
  | commit n outcome =>
    refine Or.inr ⟨fun m p hd => ?_, commit_path s n outcome⟩
    simp only [deed] at hd
    split_ifs at hd
  | settle n =>
    refine Or.inr ⟨fun m p hd => ?_, settle_path s n⟩
    simp only [deed] at hd
    split_ifs at hd
  | news epoch e =>
    simp only [deed, step, hear]
    split_ifs
    · rcases hnews e with ⟨n, p, hd, hp⟩ | hd
      · exact Or.inl ⟨n, p, hd, (handle_path s e).trans hp⟩
      · exact Or.inr ⟨hd, handle_path s e⟩
    · exact Or.inr ⟨by simp, rfl⟩
  | close => exact Or.inr ⟨by simp [deed], rfl⟩

/-- the load with the last number reads the file that the cache looks at -/
def ReadsCurrent (s : St) : Prop :=
  ∀ l ∈ s.loads, l.generation = s.generation → s.path = some l.path

theorem step_readsCurrent {s : St} (hi : s.ledger.Inv) (h : ReadsCurrent s) (o : Op) : ReadsCurrent (step s o) := by
  have hl := step_ledger s o
  have hperm := step_permits s o
  intro l hm hg
  rw [← ledger_loads, hl] at hm
  rw [← ledger_generation, hl] at hg
  rcases path_of_deed s o with ⟨n, p, hd, hp⟩ | ⟨hno, hp⟩
  · rw [hd] at hm hg hperm
    obtain rfl : n = s.generation + 1 := hperm
    simp only [Ledger.after, ledger_loads, List.mem_append, List.mem_singleton] at hm hg
    rcases hm with hm | rfl
    · -- an older load has a smaller number
      have := hi.numbered l hm
      simp only [ledger_generation] at this; omega
    · exact hp
  · rw [hp]
    cases hd : deed s o with
    | quiet =>
      rw [hd] at hm hg
      exact h l hm hg
    | started n p => exact absurd hd (hno n p)
    | cleared n =>
      rw [hd] at hm hg hperm
      obtain rfl : n = s.generation + 1 := hperm
      have := hi.numbered l hm
      simp only [Ledger.after, ledger_generation] at hg this; omega
    | finished n outcome =>
      rw [hd] at hm hg
      rw [Ledger.finished_generation] at hg
      obtain ⟨l₀, hm₀, rfl⟩ := List.mem_map.1 hm
      rw [Ledger.mark_generation] at hg
      have hpath : (Ledger.mark n l₀).path = l₀.path := by
        unfold Ledger.mark
        split_ifs <;> rfl
      rw [hpath]
      exact h l₀ hm₀ hg
    | settled n =>
      rw [hd] at hm hg
      exact h l (List.mem_of_mem_filter hm) hg

theorem init_readsCurrent (root : Option Path) (setting : Path) (watching : Bool) :
    ReadsCurrent (init root setting watching) := by
  cases root with
  | none => intro l hl; cases hl
  | some root =>
    intro l hl _
    have hloads : (init (some root) setting watching).loads = [⟨1, Path.databaseFile root setting, false⟩] := by
      cases watching <;> rfl
    rw [hloads, List.mem_singleton] at hl
    rw [hl]
    cases watching <;> rfl

theorem run_readsCurrent {s : St} (hi : s.ledger.Inv) (h : ReadsCurrent s) (ops : List Op) :
    ReadsCurrent (run s ops) := by
  induction ops generalizing s with
  | nil => exact h
  | cons o ops ih => exact ih (step_inv hi o) (step_readsCurrent hi h o)

/-- a cache moves only when it takes a number -/
theorem run_path_of_generation {s : St} {ops : List Op} (h : (run s ops).generation = s.generation) :
    (run s ops).path = s.path := by
  induction ops generalizing s with
  | nil => rfl
  | cons o ops ih =>
    have hle : (step s o).generation ≤ (run (step s o) ops).generation := generation_le_run _ _
    have hge : s.generation ≤ (step s o).generation := generation_le_run s [o]
    rw [run_cons] at h
    rcases path_of_deed s o with ⟨n, p, hd, -⟩ | ⟨-, hp⟩
    · have hperm := step_permits s o
      have hl := congrArg Ledger.generation (step_ledger s o)
      rw [hd] at hperm hl
      obtain rfl : n = s.generation + 1 := hperm
      simp only [ledger_generation, Ledger.after] at hl; omega
    · rw [run_cons, ih (by omega), hp]

/-! ## The file of the entries -/

/-- the last to supply the entries after a run is a load that has committed them under the last number; some
operations have followed since -/
def SuppliedBy (s : St) (ops : List Op) (l : Load) (since : List Op) : Prop :=
  ∃ before, ops = before ++ .commit l.generation (.ok (run s ops).entries) :: since ∧ Current (run s before) l ∧
    Unsupplied (step (run s before) (.commit l.generation (.ok (run s ops).entries))) since

theorem exists_suppliedBy {s : St} {ops : List Op} (h0 : s.entries = {}) (h : (run s ops).entries ≠ {}) :
    ∃ l since, SuppliedBy s ops l since := by
  rcases supplied_cases s ops with hu | ⟨before, o, since, rfl, hs, hu⟩
  · exact absurd ((run_entries hu).trans h0) h
  · have he : (run s (before ++ o :: since)).entries = (step (run s before) o).entries := by
      rw [run_append, run_cons, run_entries hu]
    rcases supply_cases hs with ⟨hempty, -⟩ | ⟨l, hl, ho⟩
    · exact absurd (he.trans hempty) h
    · rw [← he] at ho
      exact ⟨l, since, before, by rw [← ho], hl, by rw [← ho]; exact hu⟩

/-- the path of the load that has supplied the entries, and where the cache looks since -/
theorem SuppliedBy.path {root setting : Path} {watching : Bool} {ops since : List Op} {l : Load}
    (h : SuppliedBy (init (some root) setting watching) ops l since) :
    (run (init (some root) setting watching) ops).path = some (moved root l.path since) ∧
      ∀ k, (run (init (some root) setting watching) ops).status = .valid k → moved root l.path since = l.path := by
  obtain ⟨before, hops, hl, hu⟩ := h
  set s := run (init (some root) setting watching) ops with hs
  set c := step (run (init (some root) setting watching) before) (.commit l.generation (.ok s.entries)) with hc
  have hroot : c.root = some root := (step_root _ _).trans ((run_root _ _).trans (init_root _ _ _))
  have hreads := run_readsCurrent (init_inv _ _ _) (init_readsCurrent (some root) setting watching) before
  have hpath : c.path = some l.path := (commit_path _ _ _).trans (hreads l hl.underWay hl.last)
  have hend : s = run c since := by
    calc s = run (init (some root) setting watching) (before ++ .commit l.generation (.ok s.entries) :: since) := by
          rw [hs]; exact congrArg _ hops
      _ = run c since := by rw [run_append, run_cons]
  have hmoved : s.path = some (moved root l.path since) := hend ▸ run_path hroot hpath since
  refine ⟨hmoved, fun k hk => ?_⟩
  -- with the status `valid` no number has been taken since, so the cache still looks at the file of that load
  rw [hend] at hk
  have hsame := run_path_of_generation (run_valid_before hu hk).2
  rw [← hend, hmoved, hpath] at hsame
  exact Option.some.inj hsame

/-- every load that commits in a run commits what it has read at its path, in some tree -/
def Reads (root : Path) (s : St) (ops : List Op) : Prop :=
  ∀ before n outcome since, ops = before ++ .commit n outcome :: since → ∀ l ∈ (run s before).loads,
    l.generation = n → ∃ t here, outcome = Database.load t here root l.path

theorem isValid_of_rootless (setting : Path) (watching : Bool) (ops : List Op) :
    isValid (run (init none setting watching) ops) = false := by
  have hledger : (run (init none setting watching) ops).ledger = (init none setting watching).ledger :=
    run_ledger_of_rootless rfl rfl ops
  have hfound : (run (init none setting watching) ops).found = false := congrArg Ledger.found hledger
  simp [isValid, hfound]

/-- **When a valid cache serves the file it looks at.** Every load has settled, and the cache is valid. Then some load
has supplied the entries, which are those of the file it has read; since then the cache looks where the settings have
moved it. The entries are of the file it looks at exactly when the status is `valid`, or when the load of that file
has failed and the moves have led back to the file of the entries. Without a root a cache is never valid. -/
theorem valid_serves_own_iff (setting : Path) (watching : Bool) (ops : List Op) :
    (∀ root,
      let c := init (some root) setting watching
      let s := run c ops
      isSettled s = true → isValid s = true →
        ∃ l since, SuppliedBy c ops l since ∧
          (Reads root c ops → ∃ t here, Database.load t here root l.path = .ok s.entries) ∧
          ((∃ q, s.path = some q ∧ Path.same l.path q = true) ↔
            (∃ n, s.status = .valid n) ∨
              (∃ message, s.status = .parseFailed message) ∧ Path.same l.path (moved root l.path since) = true)) ∧
    isValid (run (init none setting watching) ops) = false := by
  refine ⟨fun root => ?_, isValid_of_rootless setting watching ops⟩
  intro c s hsettled hvalid
  have hi : s.ledger.Inv := run_inv (init_inv _ _ _) ops
  obtain ⟨hfound, hsize⟩ : s.found = true ∧ s.entries.size ≠ 0 := by simpa [isValid] using hvalid
  have hstatus : (∃ n, s.status = .valid n) ∨ (∃ message, s.status = .parseFailed message) ∧ s.entries.size ≠ 0 :=
    ((run_tells root setting watching ops).valid_iff (status_ne_of_isReady hi (isReady_of_isSettled hi hsettled))).1
      ⟨hfound, hsize⟩
  have h0 : (init (some root) setting watching).entries = {} := by cases watching <;> rfl
  have hsome : s.entries ≠ {} := fun he => hsize (by rw [he]; rfl)
  obtain ⟨l, since, hl⟩ : ∃ l since, SuppliedBy (init (some root) setting watching) ops l since :=
    exists_suppliedBy h0 hsome
  obtain ⟨hpath, hown⟩ := hl.path
  refine ⟨l, since, hl, fun hreads => ?_, ?_⟩
  · obtain ⟨before, hops, hcur, -⟩ := hl
    obtain ⟨t, here, hload⟩ := hreads before _ _ since hops l hcur.underWay rfl
    exact ⟨t, here, hload.symm⟩
  · constructor
    · rintro ⟨q, hq, hsame⟩
      obtain rfl : moved root l.path since = q := Option.some.inj (hpath.symm.trans hq)
      rcases hstatus with hv | ⟨hf, -⟩
      · exact Or.inl hv
      · exact Or.inr ⟨hf, hsame⟩
    · rintro (⟨n, hn⟩ | ⟨-, hsame⟩)
      · exact ⟨_, hpath, by rw [hown n hn]; exact Path.same_refl _⟩
      · exact ⟨_, hpath, hsame⟩

/-- the file moved to is read at the second attempt: its entries take the place of those from before -/
theorem valid_serves_own_reread :
    let ops : List Op :=
      [.commit 1 (.ok oneFile), .settle 1, .repoint "b.json",
        .commit 2 (.error (.unreadable "/p/b.json" .notUtf8)), .settle 2, .event .changed, .commit 3 (.ok oneFile),
        .settle 3]
    let s := run (init (some "/p") [] false) ops
    isSettled s = true ∧ isValid s = true ∧ s.path = some "/p/b.json" ∧
      ∃ l since, SuppliedBy (init (some "/p") [] false) ops l since ∧ Path.same l.path "/p/b.json" = true := by
  intro ops s
  have hsettled : isSettled s = true := by decide
  have hvalid : isValid s = true := by decide
  have hpath : s.path = some "/p/b.json" := by decide
  obtain ⟨l, since, hl, -, hiff⟩ := (valid_serves_own_iff [] false ops).1 "/p" hsettled hvalid
  obtain ⟨q, hq, hsame⟩ := hiff.2 (Or.inl ⟨1, by decide⟩)
  obtain rfl : ("/p/b.json" : Path) = q := Option.some.inj (hpath.symm.trans hq)
  exact ⟨hsettled, hvalid, hpath, l, since, hl, hsame⟩

/-- a project with a database for one file, and another that breaks off -/
def brokenOffProject : Tree where
  nodes :=
    let file (t : Text) : Node := .file (t.map fun c => c.toNat.toUInt8) Node.plainMode
    [(["p"], .directory), (["bad.json", "p"], file "["),
     (["compile_commands.json", "p"], file "[\x7b\"file\":\"a.c\",\"command\":\"cc -c a.c\"\x7d]")]

/-- **A cache can be valid with the entries of another file.** It has moved to a file that cannot be parsed: that
counts as found, and the entries of the file from before are kept. -/
theorem moved_cache_serves_former_file :
    let read (path : Path) : Outcome := Database.load brokenOffProject [] "/p" path
    let former : Load := ⟨1, "/p/compile_commands.json", false⟩
    let since : List Op := [.settle 1, .repoint "bad.json", .commit 2 (read "/p/bad.json"), .settle 2]
    let ops : List Op := .commit 1 (read former.path) :: since
    let s := run (init (some "/p") [] false) ops
    isSettled s = true ∧ isValid s = true ∧
      s.status = .parseFailed "failed to parse /p/bad.json: EOF while parsing a list at line 1 column 1" ∧
      SuppliedBy (init (some "/p") [] false) ops former since ∧ s.path = some "/p/bad.json" ∧
      Path.same former.path "/p/bad.json" = false := by
  intro read former since ops s
  have hread : read former.path = .ok oneFile := by decide +kernel
  have hentries : s.entries = oneFile := by decide +kernel
  have hsupplied : SuppliedBy (init (some "/p") [] false) ops former since := by
    refine ⟨[], ?_, ⟨by decide, by decide, by decide⟩, ?_⟩
    · rw [show (run (init (some "/p") [] false) ops).entries = oneFile from hentries, ← hread]
      rfl
    · rw [show (run (init (some "/p") [] false) ops).entries = oneFile from hentries]
      decide +kernel
  exact ⟨by decide +kernel, by decide +kernel, by decide +kernel, hsupplied, by decide +kernel, by decide⟩

end IncludeAudit.Cache
