/-
What a query reads once it is past its wait. A query waits until the number that was the last one taken when it was
asked has settled, and a load settles whether its outcome counts or not. So a query can get past its wait before
anything has been written since it was asked: when the load it waits for is superseded before it ends.

- `writers`: the numbers under which a run writes what queries read, by deletes and by loads that commit while their
  number is the last one taken.
- `run_shows`: what a run that writes nothing leaves as it was.
- `run_writtenBy`: unless a load is under way, the last number taken is the last to have written.
- `query_freshness`: past its wait, a query reads what a number at least as new as its own has written, or a load
  under way has superseded the one it waits for, the status says so, and nothing has been written since it was asked.
- `wait_ends_on_older_data`: a run in which a query reads a cache that nothing has been written to.
-/
import IncludeAudit.Proofs.Cache.Ledger

namespace IncludeAudit.Cache

/-! ## What is written -/

namespace Ledger

/-- the number under which a deed writes what queries read: a delete does, and a load that finishes while its number
is the last one taken -/
def writes? (c : Ledger) : Deed → Option Nat
  | .cleared n => some n
  | .finished n _ => if c.generation = n then some n else none
  | _ => none

/-- queries read the same from both, except that a load may have started since -/
structure Shows (c c' : Ledger) : Prop where
  entries : c'.entries = c.entries
  found : c'.found = c.found
  status : c'.status = c.status ∨ c'.status = .loading

theorem Shows.refl (c : Ledger) : c.Shows c :=
  ⟨rfl, rfl, Or.inl rfl⟩

theorem Shows.trans {c c' c'' : Ledger} (h : c.Shows c') (h' : c'.Shows c'') : c.Shows c'' := by
  refine ⟨h'.entries.trans h.entries, h'.found.trans h.found, ?_⟩
  rcases h'.status with e' | e'
  · rcases h.status with e | e
    · exact Or.inl (e'.trans e)
    · exact Or.inr (e'.trans e)
  · exact Or.inr e'

/-- a deed that writes nothing shows as a load that has started, or not at all -/
theorem shows_after {c : Ledger} {d : Deed} (h : c.writes? d = none) : c.Shows (c.after d) := by
  cases d with
  | quiet => exact Shows.refl c
  | started n path => exact ⟨rfl, rfl, Or.inr rfl⟩
  | cleared n => cases h
  | finished n outcome =>
    have hn : ¬ c.generation = n := fun e => by simp [writes?, e] at h
    simp only [after, if_neg hn]
    exact ⟨rfl, rfl, Or.inl rfl⟩
  | settled n => exact ⟨rfl, rfl, Or.inl rfl⟩

/-- only a delete or a load that starts takes a number -/
theorem generation_of_writes_none {c : Ledger} {d : Deed} (h : c.writes? d = none) :
    (c.after d).status = .loading ∨ (c.after d).generation = c.generation := by
  cases d with
  | started n path => exact Or.inl rfl
  | cleared n => cases h
  | finished n outcome => exact Or.inr (finished_generation c n outcome)
  | _ => exact Or.inr rfl

theorem generation_of_writes {c : Ledger} {d : Deed} {n : Nat} (h : c.writes? d = some n) :
    (c.after d).generation = n := by
  cases d with
  | cleared m => cases h; rfl
  | finished m outcome =>
    simp only [writes?] at h
    split_ifs at h with hm
    · cases h
      rw [finished_generation, hm]
  | _ => cases h

theorem generation_le_after {c : Ledger} {d : Deed} (hd : c.Permits d) : c.generation ≤ (c.after d).generation := by
  cases d with
  | started n path => obtain rfl : n = _ := hd; exact Nat.le_succ _
  | cleared n => obtain rfl : n = _ := hd; exact Nat.le_succ _
  | finished n outcome => exact (finished_generation c n outcome).ge
  | _ => exact le_rfl

theorem settled_le_after (c : Ledger) (d : Deed) : c.settled ≤ (c.after d).settled := by
  cases d with
  | finished n outcome => exact (finished_settled c n outcome).ge
  | cleared n => exact le_max_left _ _
  | settled n => exact le_max_left _ _
  | _ => exact le_rfl

end Ledger

/-! ## Over a run -/

/-- the numbers under which a run writes, in order -/
def writers (s : St) : List Op → List Nat
  | [] => []
  | o :: ops => (s.ledger.writes? (deed s o)).toList ++ writers (step s o) ops

theorem writers_append (s : St) (ops ops' : List Op) :
    writers s (ops ++ ops') = writers s ops ++ writers (run s ops) ops' := by
  induction ops generalizing s with
  | nil => rfl
  | cons o ops ih => rw [List.cons_append, writers, writers, ih, List.append_assoc, run_cons]

/-- the last to write in a run is delete `n`, or load `n` when it committed, and queries read what it has left -/
def WrittenBy (s : St) (ops : List Op) (n : Nat) : Prop :=
  ∃ before o after, ops = before ++ o :: after ∧
    (run s before).ledger.writes? (deed (run s before) o) = some n ∧ writers (step (run s before) o) after = [] ∧
    ((run s before).ledger.after (deed (run s before) o)).Shows (run s ops).ledger

theorem generation_le_run (s : St) (ops : List Op) : s.generation ≤ (run s ops).generation := by
  induction ops generalizing s with
  | nil => exact le_rfl
  | cons o ops ih =>
    have h : s.generation ≤ (step s o).generation := by
      rw [← ledger_generation (step s o), step_ledger]
      exact Ledger.generation_le_after (step_permits s o)
    exact h.trans (ih _)

theorem settled_le_run (s : St) (ops : List Op) : s.settled ≤ (run s ops).settled := by
  induction ops generalizing s with
  | nil => exact le_rfl
  | cons o ops ih =>
    have h : s.settled ≤ (step s o).settled := by
      rw [← ledger_settled (step s o), step_ledger]
      exact Ledger.settled_le_after s.ledger _
    exact h.trans (ih _)

/-- a query that is past its wait stays so -/
theorem isReady_run {s : St} {n : Nat} (h : isReady s n = true) (ops : List Op) : isReady (run s ops) n = true :=
  decide_eq_true ((of_decide_eq_true h).trans (settled_le_run s ops))

theorem run_shows {s : St} {ops : List Op} (h : writers s ops = []) : s.ledger.Shows (run s ops).ledger := by
  induction ops generalizing s with
  | nil => exact Ledger.Shows.refl _
  | cons o ops ih =>
    obtain ⟨ho, hops⟩ := List.append_eq_nil_iff.1 h
    have hs : s.ledger.Shows (step s o).ledger := by
      rw [step_ledger]
      exact Ledger.shows_after (Option.toList_eq_nil_iff.1 ho)
    exact hs.trans (ih hops)

/-- a run that writes nothing takes a number only for a load, and then the status says that it is under way -/
theorem run_generation {s : St} {ops : List Op} (h : writers s ops = []) :
    (run s ops).status = .loading ∨ (run s ops).generation = s.generation := by
  induction ops generalizing s with
  | nil => exact Or.inr rfl
  | cons o ops ih =>
    obtain ⟨ho, hops⟩ := List.append_eq_nil_iff.1 h
    rcases ih hops with e | e
    · exact Or.inl e
    · rcases Ledger.generation_of_writes_none (Option.toList_eq_nil_iff.1 ho) with e' | e'
      · rw [← step_ledger] at e'
        rcases (run_shows hops).status with h' | h'
        · exact Or.inl (h'.trans e')
        · exact Or.inl h'
      · rw [← step_ledger] at e'
        exact Or.inr (e.trans e')

/-- a run that writes something has a last step that does -/
theorem exists_last_write {s : St} {ops : List Op} (h : writers s ops ≠ []) :
    ∃ before o after n, ops = before ++ o :: after ∧
      (run s before).ledger.writes? (deed (run s before) o) = some n ∧
      writers (step (run s before) o) after = [] := by
  induction ops generalizing s with
  | nil => exact absurd rfl h
  | cons o ops ih =>
    by_cases hops : writers (step s o) ops = []
    · cases hw : s.ledger.writes? (deed s o) with
      | none => exact absurd (by simp [writers, hw, hops]) h
      | some n => exact ⟨[], o, ops, n, rfl, hw, hops⟩
    · obtain ⟨before, o', after, n, rfl, hw, ha⟩ := ih hops
      exact ⟨o :: before, o', after, n, rfl, hw, ha⟩

/-- whoever writes last in a run is no older than the last number taken before it -/
theorem exists_writtenBy {s : St} {ops : List Op} (h : writers s ops ≠ []) :
    ∃ n, s.generation ≤ n ∧ WrittenBy s ops n ∧
      ((run s ops).status = .loading ∨ (run s ops).generation = n) := by
  obtain ⟨before, o, after, n, rfl, hw, ha⟩ := exists_last_write h
  have hn : (step (run s before) o).generation = n := by
    rw [← ledger_generation, step_ledger]
    exact Ledger.generation_of_writes hw
  have hrun : run s (before ++ o :: after) = run (step (run s before) o) after := by rw [run_append, run_cons]
  refine ⟨n, ?_, ⟨before, o, after, rfl, hw, ha, ?_⟩, ?_⟩
  · have := generation_le_run s (before ++ [o])
    rw [run_append, run_cons, run_nil, hn] at this
    exact this
  · rw [hrun, ← step_ledger]
    exact run_shows ha
  · rw [hrun, ← hn]
    exact run_generation ha

theorem WrittenBy.append_left {s : St} {before ops : List Op} {n : Nat} (h : WrittenBy (run s before) ops n) :
    WrittenBy s (before ++ ops) n := by
  obtain ⟨b, o, after, rfl, hw, ha, hs⟩ := h
  refine ⟨before ++ b, o, after, by rw [List.append_assoc], ?_, ?_, ?_⟩
  · rw [run_append]; exact hw
  · rw [run_append]; exact ha
  · rw [run_append, run_append]; exact hs

theorem WrittenBy.mem_writers {s : St} {ops : List Op} {n : Nat} (h : WrittenBy s ops n) : n ∈ writers s ops := by
  obtain ⟨before, o, after, rfl, hw, -⟩ := h
  induction before generalizing s with
  | nil => simp [writers, show s.ledger.writes? (deed s o) = some n from hw]
  | cons x before ih => exact List.mem_append_right _ (ih hw)

/-! ## Past the wait -/

/-- unless a load has yet to commit, the last number taken is the last to have written -/
theorem run_writtenBy (root setting : Path) (watching : Bool) (ops : List Op)
    (h : (run (init (some root) setting watching) ops).status ≠ .loading) :
    WrittenBy (init (some root) setting watching) ops (run (init (some root) setting watching) ops).generation := by
  have h0 : (init (some root) setting watching).status = .loading := by cases watching <;> rfl
  by_cases hw : writers (init (some root) setting watching) ops = []
  · -- the status of the first load would still stand
    rcases (run_shows hw).status with e | e
    · exact absurd (e.trans h0) h
    · exact absurd e h
  · obtain ⟨n, -, hn, e | rfl⟩ := exists_writtenBy hw
    · exact absurd e h
    · exact hn

theorem step_generation_of_rootless {s : St} (h : s.root = none) (o : Op) : (step s o).generation = s.generation := by
  have hload : loadDeed s = .quiet := by simp [loadDeed, h]
  have hnews : ∀ e, newsDeed s e = .quiet := fun e => by simp [newsDeed, h]
  rw [← ledger_generation, step_ledger]
  cases o with
  | reload => rw [deed, hload]; rfl
  | event e => rw [deed, hnews]; rfl
  | repoint setting => simp only [deed, repointDeed, h]; rfl
  | commit n outcome =>
    rcases deed_commit s n outcome with ⟨-, -, -, -, hd⟩ | ⟨-, hd⟩
    · rw [hd, Ledger.finished_generation]; rfl
    · rw [hd]; rfl
  | settle n =>
    rcases deed_settle s n with ⟨-, -, -, -, hd⟩ | ⟨-, hd⟩
    · rw [hd]; rfl
    · rw [hd]; rfl
  | news epoch e =>
    simp only [deed, hnews, ite_self]; rfl
  | close => rfl

/-- without a root no number is ever taken -/
theorem run_generation_of_rootless {s : St} (h : s.root = none) (ops : List Op) :
    (run s ops).generation = s.generation := by
  induction ops generalizing s with
  | nil => rfl
  | cons o ops ih => rw [run_cons, ih ((step_root s o).trans h), step_generation_of_rootless h]

/-- the load that was under way in a state has been superseded before it could commit, by one that has yet to commit
itself, and nothing has been written since -/
structure Superseded (s : St) (ops : List Op) : Prop where
  unwritten : writers s ops = []
  before : s.status = .loading
  status : (run s ops).status = .loading
  entries : (run s ops).entries = s.entries
  found : (run s ops).found = s.found
  later : ∃ l ∈ (run s ops).loads, l.generation = (run s ops).generation ∧ l.committed = false ∧
    s.generation < l.generation

theorem superseded_of_unwritten {s : St} (hi : s.ledger.Inv) {ops : List Op} (hw : writers s ops = [])
    (hs : (run s ops).status = .loading) (hr : isReady (run s ops) (target s) = true) (hb : s.status = .loading) :
    Superseded s ops := by
  have hi' := run_inv hi ops
  obtain ⟨l, hl, hg, hc⟩ := hi'.loading.1 hs
  -- the last number is unsettled, so it is not the one that the query waits for
  have hp : (run s ops).settled < (run s ops).generation := hi'.pending.2 ⟨l, hl, hg⟩
  have ht : s.generation ≤ (run s ops).settled := of_decide_eq_true hr
  have hg : l.generation = (run s ops).generation := hg
  exact ⟨hw, hb, hs, (run_shows hw).entries, (run_shows hw).found, l, hl, hg, hc, by omega⟩

/-- **What a query reads.** A query is asked, gets past its wait, and reads some steps later. Then it reads what a
load has committed or a delete has left under a number at least as new as the last one taken when it was asked; a load
that fails keeps the entries from before. Or else the load that it waited for has been superseded, the status says
that a later one is under way, and nothing has been written since the query was asked. Unless the status says so, the
last number taken is the last to have written. -/
theorem query_freshness (root : Option Path) (setting : Path) (watching : Bool) (before waiting late : List Op)
    (hg : 1 ≤ target (run (init root setting watching) before))
    (hr : isReady (run (run (init root setting watching) before) waiting)
      (target (run (init root setting watching) before)) = true) :
    let s := init root setting watching
    let asked := run s before
    let since := waiting ++ late
    ((∃ n, target asked ≤ n ∧ WrittenBy s (before ++ since) n) ∨ Superseded asked since) ∧
      ((run asked since).status ≠ .loading → WrittenBy s (before ++ since) (run asked since).generation) := by
  intro s asked since
  cases root with
  | none =>
    have h0 : (run (init none setting watching) before).generation = 0 := run_generation_of_rootless rfl before
    simp only [target, h0] at hg
    omega
  | some root =>
    have hready : isReady (run asked since) (target asked) = true := by
      rw [run_append]
      exact isReady_run hr late
    have hlast : ∀ ops, (run s ops).status ≠ .loading → WrittenBy s ops (run s ops).generation :=
      fun ops => run_writtenBy root setting watching ops
    have hend : run s (before ++ since) = run asked since := run_append s before since
    refine ⟨?_, fun h => ?_⟩
    · by_cases hw : writers asked since = []
      · by_cases ha : asked.status = .loading
        · -- nothing is written, so the status still stands
          have hs : (run asked since).status = .loading := by
            rcases (run_shows hw).status with e | e
            · exact e.trans ha
            · exact e
          exact Or.inr (superseded_of_unwritten (run_inv (init_inv _ _ _) before) hw hs hready ha)
        · obtain ⟨b, o, a, rfl, hb, hn, hshow⟩ := hlast before ha
          refine Or.inl ⟨asked.generation, le_rfl, b, o, a ++ since, by simp, hb, ?_, ?_⟩
          · rw [writers_append, hn, ← run_cons, ← run_append]
            exact hw
          · rw [hend]
            exact hshow.trans (run_shows hw)
      · obtain ⟨n, hn, hwr, -⟩ := exists_writtenBy hw
        exact Or.inl ⟨n, hn, hwr.append_left⟩
    · rw [← hend] at h ⊢
      exact hlast _ h

/-- the first load is superseded before it ends: its end lets the query past its wait, with nothing written at all -/
theorem query_freshness_superseded :
    let s := init (some "/p") [] false
    let waiting : List Op := [.reload, .commit 1 (.ok oneFile), .settle 1]
    1 ≤ target s ∧ isReady (run s waiting) (target s) = true ∧ Superseded s waiting := by
  intro s waiting
  have hg : 1 ≤ target s := by decide
  have hr : isReady (run s waiting) (target s) = true := by decide
  refine ⟨hg, hr, ?_⟩
  rcases (query_freshness (some "/p") [] false [] waiting [] hg hr).1 with ⟨n, -, h⟩ | h
  · have hw : writers s waiting = [] := by decide
    have := h.mem_writers
    rw [show writers s ([] ++ (waiting ++ [])) = [] from hw] at this
    cases this
  · exact h

/-- **A wait can end on older data.** A query that waits for a load which is superseded reads the cache as it was when
the query was asked, here with nothing written yet. -/
theorem wait_ends_on_older_data :
    let s := init (some "/p") [] false
    let waiting : List Op := [.reload, .commit 1 (.ok oneFile), .settle 1]
    target s = 1 ∧ isReady (run s waiting) (target s) = true ∧ (¬ ∃ n, target s ≤ n ∧ WrittenBy s waiting n) ∧
      isValid (run s waiting) = false ∧ (run s waiting).entries = {} ∧ (run s waiting).status = .loading := by
  refine ⟨by decide, by decide, ?_, by decide, by decide, by decide⟩
  rintro ⟨n, -, h⟩
  have := h.mem_writers
  rw [show writers _ _ = [] by decide] at this
  cases this

end IncludeAudit.Cache
