/-
The history of a cache decides its entries. A history is the list of deeds of a run, from the first load on. It alone
tells which load has `Gave` its database: one that has succeeded, that finished while its number was still the last
one taken, and that started after the last delete.

- `run_recorded`: a ledger goes with its history. It numbers the deeds, a load that is yet to commit has not
  finished, and the entries are what the history `Leaves`.
- `entries_from_history`: the entries of every reachable state are the whole database of the load with the highest
  number that has given one, and there are none if no load has. Failures and superseded loads change no entry, and
  after a delete there are no entries until a load that has started since gives some.
-/
import IncludeAudit.Proofs.Cache.Ledger

namespace IncludeAudit.Cache

/-! ## Histories -/

/-- the number that a deed takes -/
def Deed.number? : Deed → Option Nat
  | .started n _ => some n
  | .cleared n => some n
  | _ => none

/-- all deeds of a run of a cache, from its first load on -/
def history (root setting : Path) (watching : Bool) (ops : List Op) : List Deed :=
  .started 1 (Path.databaseFile root setting) :: deeds (init (some root) setting watching) ops

theorem history_append (root setting : Path) (watching : Bool) (ops ops' : List Op) :
    history root setting watching (ops ++ ops') =
      history root setting watching ops ++ deeds (run (init (some root) setting watching) ops) ops' := by
  simp only [history, deeds_append, List.cons_append]

/-- the last number that has been taken is that of load `n` -/
def Latest (h : List Deed) (n : Nat) : Prop :=
  ∃ before path after, h = before ++ .started n path :: after ∧ ∀ x ∈ after, x.number? = none

/-- load `n` has succeeded with `d` while its number was the last one taken, and no delete has come after its start -/
def Gave (h : List Deed) (n : Nat) (d : Database) : Prop :=
  ∃ before after, h = before ++ .finished n (.ok d) :: after ∧ Latest before n ∧ ∀ x ∈ after, ∀ m, x ≠ .cleared m

/-- `d` is the whole database of the load with the highest number that has given one, or empty if none has -/
def Leaves (h : List Deed) (d : Database) : Prop :=
  (∃ n, Gave h n d ∧ ∀ m e, Gave h m e → m < n ∨ m = n ∧ e = d) ∨ (∀ n e, ¬ Gave h n e) ∧ d = {}

theorem eq_concat_cases {α : Type} {h a b : List α} {x y : α} (e : h ++ [x] = a ++ y :: b) :
    (b = [] ∧ h = a ∧ x = y) ∨ ∃ b', b = b' ++ [x] ∧ h = a ++ y :: b' := by
  rcases List.eq_nil_or_concat b with rfl | ⟨b', z, rfl⟩
  · obtain ⟨h1, h2⟩ := List.append_singleton_inj.1 e
    exact Or.inl ⟨rfl, h1, h2⟩
  · rw [List.concat_eq_append, ← List.cons_append, ← List.append_assoc] at e
    obtain ⟨h1, rfl⟩ := List.append_singleton_inj.1 e
    exact Or.inr ⟨b', List.concat_eq_append, h1⟩

theorem latest_concat {h : List Deed} {x : Deed} {n : Nat} :
    Latest (h ++ [x]) n ↔ (∃ path, x = .started n path) ∨ Latest h n ∧ x.number? = none := by
  constructor
  · rintro ⟨before, path, after, e, hn⟩
    rcases eq_concat_cases e with ⟨-, -, rfl⟩ | ⟨after, rfl, rfl⟩
    · exact Or.inl ⟨path, rfl⟩
    · exact Or.inr ⟨⟨before, path, after, rfl, fun y hy => hn y (by simp [hy])⟩, hn x (by simp)⟩
  · rintro (⟨path, rfl⟩ | ⟨⟨before, path, after, rfl, hn⟩, hx⟩)
    · exact ⟨h, path, [], rfl, by simp⟩
    · refine ⟨before, path, after ++ [x], by simp, fun y hy => ?_⟩
      rcases List.mem_append.1 hy with hy | hy
      · exact hn y hy
      · rw [List.mem_singleton.1 hy]; exact hx

theorem gave_concat {h : List Deed} {x : Deed} {n : Nat} {d : Database} :
    Gave (h ++ [x]) n d ↔ (Gave h n d ∧ ∀ m, x ≠ .cleared m) ∨ x = .finished n (.ok d) ∧ Latest h n := by
  constructor
  · rintro ⟨before, after, e, hl, hn⟩
    rcases eq_concat_cases e with ⟨-, rfl, rfl⟩ | ⟨after, rfl, rfl⟩
    · exact Or.inr ⟨rfl, hl⟩
    · exact Or.inl ⟨⟨before, after, rfl, hl, fun y hy => hn y (by simp [hy])⟩, hn x (by simp)⟩
  · rintro (⟨⟨before, after, rfl, hl, hn⟩, hx⟩ | ⟨rfl, hl⟩)
    · refine ⟨before, after ++ [x], by simp, hl, fun y hy => ?_⟩
      rcases List.mem_append.1 hy with hy | hy
      · exact hn y hy
      · rw [List.mem_singleton.1 hy]; exact hx
    · exact ⟨h, [], rfl, hl, by simp⟩

theorem Gave.finished_mem {h : List Deed} {n : Nat} {d : Database} (hg : Gave h n d) : .finished n (.ok d) ∈ h := by
  obtain ⟨before, after, rfl, -, -⟩ := hg
  simp

/-- a deed that neither deletes nor succeeds with the last number leaves the same entries -/
theorem Leaves.concat {h : List Deed} {d : Database} (hl : Leaves h d) {x : Deed} (hc : ∀ m, x ≠ .cleared m)
    (hf : ∀ n e, x = .finished n (.ok e) → ¬ Latest h n) : Leaves (h ++ [x]) d := by
  have hg : ∀ n e, Gave (h ++ [x]) n e ↔ Gave h n e := fun n e => by
    rw [gave_concat]
    constructor
    · rintro (⟨hg, -⟩ | ⟨hx, hl⟩)
      · exact hg
      · exact absurd hl (hf n e hx)
    · exact fun hg => Or.inl ⟨hg, hc⟩
  simpa only [Leaves, hg] using hl

/-! ## A ledger and its history -/

structure Recorded (h : List Deed) (c : Ledger) : Prop where
  number : (h.filterMap Deed.number?).getLast? = some c.generation
  finished_le : ∀ n o, .finished n o ∈ h → n ≤ c.generation
  unfinished : ∀ l ∈ c.loads, l.committed = false → ∀ o, .finished l.generation o ∉ h
  latest : ∀ l ∈ c.loads, l.generation = c.generation → l.committed = false → Latest h c.generation
  entries : Leaves h c.entries

theorem Recorded.eq_of_latest {h : List Deed} {c : Ledger} (hr : Recorded h c) {n : Nat} (hl : Latest h n) :
    n = c.generation := by
  obtain ⟨before, path, after, rfl, hn⟩ := hl
  have ha : after.filterMap Deed.number? = [] := List.filterMap_eq_nil_iff.2 hn
  have := hr.number
  simpa [List.filterMap_append, Deed.number?, ha] using this

theorem recorded_quiet {h : List Deed} {c : Ledger} (hr : Recorded h c) :
    Recorded (h ++ [.quiet]) (c.after .quiet) := by
  refine ⟨?_, fun n o hm => ?_, fun l hl hu o hm => ?_, fun l hl hg hu => ?_, ?_⟩
  · simpa [Deed.number?, Ledger.after] using hr.number
  · exact hr.finished_le n o (by simpa using hm)
  · exact hr.unfinished l hl hu o (by simpa using hm)
  · exact latest_concat.2 (Or.inr ⟨hr.latest l hl hg hu, rfl⟩)
  · exact hr.entries.concat (by simp) (by simp)

theorem recorded_started {h : List Deed} {c : Ledger} (hr : Recorded h c) (path : Path) :
    Recorded (h ++ [.started (c.generation + 1) path]) (c.after (.started (c.generation + 1) path)) := by
  refine ⟨by simp [Deed.number?, Ledger.after], fun n o hm => ?_, fun l hl hu o hm => ?_, fun _ _ _ _ => ?_, ?_⟩
  · exact Nat.le_succ_of_le (hr.finished_le n o (by simpa using hm))
  · have hm : .finished l.generation o ∈ h := by simpa using hm
    simp only [Ledger.after, List.mem_append, List.mem_singleton] at hl
    rcases hl with hl | rfl
    · exact hr.unfinished l hl hu o hm
    · -- the number is new, so no load has finished under it
      have := hr.finished_le _ o hm
      simp only at this; omega
  · exact latest_concat.2 (Or.inl ⟨path, rfl⟩)
  · exact hr.entries.concat (by simp) (by simp)

theorem recorded_cleared {h : List Deed} {c : Ledger} (hi : c.Inv) (hr : Recorded h c) :
    Recorded (h ++ [.cleared (c.generation + 1)]) (c.after (.cleared (c.generation + 1))) := by
  refine ⟨by simp [Deed.number?, Ledger.after], fun n o hm => ?_, fun l hl hu o hm => ?_, fun l hl hg _ => ?_, ?_⟩
  · exact Nat.le_succ_of_le (hr.finished_le n o (by simpa using hm))
  · exact hr.unfinished l hl hu o (by simpa using hm)
  · have := hi.numbered l hl
    simp only [Ledger.after] at hg; omega
  · refine Or.inr ⟨fun n e hg => ?_, rfl⟩
    rcases gave_concat.1 hg with ⟨-, hx⟩ | ⟨hx, -⟩
    · exact hx _ rfl
    · cases hx

theorem recorded_settled {h : List Deed} {c : Ledger} (hr : Recorded h c) (n : Nat) :
    Recorded (h ++ [.settled n]) (c.after (.settled n)) := by
  refine ⟨?_, fun n o hm => ?_, fun l hl hu o hm => ?_, fun l hl hg hu => ?_, ?_⟩
  · simpa [Deed.number?, Ledger.after] using hr.number
  · exact hr.finished_le n o (by simpa using hm)
  · exact hr.unfinished l (List.mem_of_mem_filter hl) hu o (by simpa using hm)
  · exact latest_concat.2 (Or.inr ⟨hr.latest l (List.mem_of_mem_filter hl) hg hu, rfl⟩)
  · exact hr.entries.concat (by simp) (by simp)

/-- a load that finishes while its number is the last one taken gives its database if it has succeeded -/
theorem leaves_finished {h : List Deed} {c : Ledger} (hr : Recorded h c) {l : Load} (hl : l ∈ c.loads)
    (hg : l.generation = c.generation) (hu : l.committed = false) (o : Database.Outcome) :
    Leaves (h ++ [.finished l.generation o]) (c.judge o).entries := by
  have hlat : Latest h l.generation := hg ▸ hr.latest l hl hg hu
  cases o with
  | error e =>
    rw [Ledger.judge_entries_error]
    exact hr.entries.concat (by simp) (by simp)
  | ok d =>
    refine Or.inl ⟨l.generation, gave_concat.2 (Or.inr ⟨rfl, hlat⟩), fun m e hm => ?_⟩
    rcases gave_concat.1 hm with ⟨hm, -⟩ | ⟨hx, -⟩
    · -- every other load that has given its database has finished before, so its number is smaller
      have hfin := hm.finished_mem
      have hle := hr.finished_le m _ hfin
      have hne : m ≠ l.generation := fun e' => hr.unfinished l hl hu _ (e' ▸ hfin)
      exact Or.inl (by omega)
    · simp only [Deed.finished.injEq, Except.ok.injEq] at hx
      exact Or.inr ⟨hx.1.symm, hx.2.symm⟩

theorem recorded_finished {h : List Deed} {c : Ledger} (hi : c.Inv) (hr : Recorded h c) {l : Load} (hl : l ∈ c.loads)
    (hu : l.committed = false) (o : Database.Outcome) :
    Recorded (h ++ [.finished l.generation o]) (c.after (.finished l.generation o)) := by
  have hgen := Ledger.finished_generation c l.generation o
  refine ⟨?_, fun n o' hm => ?_, fun l' hl' hu' o' hm => ?_, fun l' hl' hg' hu' => ?_, ?_⟩
  · rw [hgen]
    simpa [Deed.number?] using hr.number
  · rw [hgen]
    simp only [List.mem_append, List.mem_singleton, Deed.finished.injEq] at hm
    rcases hm with hm | ⟨rfl, -⟩
    · exact hr.finished_le n o' hm
    · exact hi.numbered l hl
  · obtain ⟨l₀, hl₀, rfl⟩ := List.mem_map.1 hl'
    obtain ⟨hne, hu₀⟩ := Ledger.mark_committed_false.1 hu'
    rw [Ledger.mark_generation] at hm
    simp only [List.mem_append, List.mem_singleton, Deed.finished.injEq] at hm
    rcases hm with hm | ⟨e, -⟩
    · exact hr.unfinished l₀ hl₀ hu₀ o' hm
    · exact hne e
  · obtain ⟨l₀, hl₀, rfl⟩ := List.mem_map.1 hl'
    obtain ⟨-, hu₀⟩ := Ledger.mark_committed_false.1 hu'
    rw [Ledger.mark_generation, hgen] at hg'
    rw [hgen]
    exact latest_concat.2 (Or.inr ⟨hr.latest l₀ hl₀ hg' hu₀, rfl⟩)
  · by_cases hg : c.generation = l.generation
    · simp only [Ledger.after, if_pos hg]
      exact leaves_finished hr hl hg.symm hu o
    · simp only [Ledger.after, if_neg hg]
      refine hr.entries.concat (by simp) fun n e hx hlat => hg ?_
      simp only [Deed.finished.injEq] at hx
      rw [hx.1, hr.eq_of_latest hlat]

theorem recorded_after {h : List Deed} {c : Ledger} {d : Deed} (hi : c.Inv) (hr : Recorded h c) (hd : c.Permits d) :
    Recorded (h ++ [d]) (c.after d) := by
  cases d with
  | quiet => exact recorded_quiet hr
  | started n path => obtain rfl : n = _ := hd; exact recorded_started hr path
  | cleared n => obtain rfl : n = _ := hd; exact recorded_cleared hi hr
  | finished n outcome => obtain ⟨l, hl, rfl, hu⟩ := hd; exact recorded_finished hi hr hl hu outcome
  | settled n => exact recorded_settled hr n

theorem recorded_init (path : Path) : Recorded [.started 1 path] (({} : Ledger).after (.started 1 path)) := by
  refine ⟨rfl, by simp, by simp, fun _ _ _ _ => ⟨[], path, [], rfl, by simp⟩, Or.inr ⟨fun n e hg => ?_, rfl⟩⟩
  have := hg.finished_mem
  simp at this

theorem run_recorded (root setting : Path) (watching : Bool) (ops : List Op) :
    Recorded (history root setting watching ops) (run (init (some root) setting watching) ops).ledger := by
  induction ops using List.reverseRecOn with
  | nil =>
    rw [run_nil, init_ledger]
    exact recorded_init _
  | append_singleton ops o ih =>
    rw [history_append, run_append, run_cons, run_nil, step_ledger]
    exact recorded_after (run_inv (init_inv _ _ _) ops) ih (step_permits _ o)

/-! ## After a delete -/

theorem latest_of_cleared {h h' : List Deed} {k n : Nat} (hl : Latest (h ++ .cleared k :: h') n) : Latest h' n := by
  induction h' using List.reverseRecOn with
  | nil =>
    rcases latest_concat.1 hl with ⟨path, e⟩ | ⟨-, e⟩
    · cases e
    · cases e
  | append_singleton h' x ih =>
    rw [← List.cons_append, ← List.append_assoc] at hl
    rcases latest_concat.1 hl with e | ⟨hl, e⟩
    · exact latest_concat.2 (Or.inl e)
    · exact latest_concat.2 (Or.inr ⟨ih hl, e⟩)

/-- what counts after a delete has started after it -/
theorem gave_of_cleared {h h' : List Deed} {k n : Nat} {d : Database} (hg : Gave (h ++ .cleared k :: h') n d) :
    Gave h' n d := by
  induction h' using List.reverseRecOn with
  | nil =>
    rcases gave_concat.1 hg with ⟨-, hx⟩ | ⟨hx, -⟩
    · exact absurd rfl (hx k)
    · cases hx
  | append_singleton h' x ih =>
    rw [← List.cons_append, ← List.append_assoc] at hg
    rcases gave_concat.1 hg with ⟨hg, hx⟩ | ⟨hx, hl⟩
    · exact gave_concat.2 (Or.inl ⟨ih hg, hx⟩)
    · exact gave_concat.2 (Or.inr ⟨hx, latest_of_cleared hl⟩)

/-! ## The entries -/

theorem commit_entries_of_ne {s : St} {n : Nat} {o : Database.Outcome} (h : (∃ e, o = .error e) ∨ n ≠ s.generation) :
    (step s (.commit n o)).entries = s.entries := by
  rw [← ledger_entries, step_ledger]
  rcases deed_commit s n o with ⟨-, -, -, -, hd⟩ | ⟨-, hd⟩
  · rw [hd]
    simp only [Ledger.after]
    split_ifs with hg
    · obtain ⟨e, rfl⟩ := h.resolve_right (not_not_intro hg.symm)
      exact Ledger.judge_entries_error _ e
    · rfl
  · rw [hd]; rfl

/-- **The history decides the entries.** The entries of a state that a cache with a root has reached are the whole
database of the load with the highest number that has succeeded, finished while its number was the last one taken and
started after the last delete; without such a load there are none. So a load that fails or is superseded changes no
entry, and after a delete there are none until a load that has started since gives its database. -/
theorem entries_from_history (root setting : Path) (watching : Bool) (ops : List Op) :
    let s := run (init (some root) setting watching) ops
    Leaves (history root setting watching ops) s.entries ∧
      (∀ n o, (∃ e, o = .error e) ∨ n ≠ s.generation → (step s (.commit n o)).entries = s.entries) ∧
      ∀ o k, deed s o = .cleared k → ∀ more, (∀ n d, ¬ Gave (deeds (step s o) more) n d) →
        (run s (o :: more)).entries = {} := by
  intro s
  refine ⟨(run_recorded root setting watching ops).entries, fun n o h => commit_entries_of_ne h,
    fun o k hd more hno => ?_⟩
  have hrec := (run_recorded root setting watching (ops ++ o :: more)).entries
  rw [run_append, history_append, deeds, hd] at hrec
  rcases hrec with ⟨n, hg, -⟩ | ⟨-, he⟩
  · exact absurd (gave_of_cleared hg) (hno n _)
  · exact he

end IncludeAudit.Cache
