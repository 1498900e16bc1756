/-
What the status says is so. The status, the entries and whether the file was found are written together by deletes
and by loads that commit, and a load that starts writes the status alone. So a status other than `loading` always
fits the entries it stands beside, however old the loads are that still end.

- `Ledger.Tells`: what each status says about the file and the entries.
- `Ledger.after_tells`: every deed keeps that, and `run_tells`: so does every run of a cache with a root.
- `run_ledger_of_rootless`: without a root nothing ever happens to the ledger.
- `status_tells`: the status is `loading` exactly while the load with the last number has yet to commit, any other
  status says what is so, and the cache is valid exactly when the status says so or a failure has left old entries.
-/
import IncludeAudit.Proofs.Cache.Ledger
import IncludeAudit.Proofs.Database.Entries

namespace IncludeAudit.Cache

/-! ## What a status says -/

namespace Ledger

/-- what the status says about the file and the entries is so; `loading` says nothing about them -/
structure Tells (c : Ledger) : Prop where
  initialized : c.status ≠ .uninitialized
  valid : ∀ n, c.status = .valid n → c.found = true ∧ c.entries.size = n ∧ 1 ≤ n
  empty : c.status = .empty → c.found = true ∧ c.entries = {}
  notFound : c.status = .notFound → c.found = false
  parseFailed : ∀ message, c.status = .parseFailed message → c.found = true

theorem started_tells (c : Ledger) (n : Nat) (path : Path) : (c.after (.started n path)).Tells := by
  constructor <;> simp [after]

theorem cleared_tells (c : Ledger) (n : Nat) : (c.after (.cleared n)).Tells := by
  constructor <;> simp [after]

/-- whatever comes of a load that counts, its status says so -/
theorem judge_tells (c : Ledger) (o : Database.Outcome) : (c.judge o).Tells := by
  rcases o with e | d
  · cases e <;> constructor <;> simp [judge]
  · by_cases hd : d.size = 0
    · have hs : (c.judge (.ok d)).status = .empty := by simp [judge, hd]
      exact ⟨by simp [hs], by simp [hs], fun _ => ⟨rfl, Database.size_eq_zero hd⟩, by simp [hs], by simp [hs]⟩
    · have hs : (c.judge (.ok d)).status = .valid d.size := by simp [judge, hd]
      refine ⟨by simp [hs], fun n hn => ?_, by simp [hs], by simp [hs], by simp [hs]⟩
      obtain rfl : d.size = n := Status.valid.inj (hs.symm.trans hn)
      exact ⟨rfl, rfl, Nat.one_le_iff_ne_zero.2 hd⟩

theorem Tells.with_loads {c : Ledger} (h : c.Tells) (settled : Nat) (loads : List Load) :
    ({ c with settled, loads } : Ledger).Tells :=
  ⟨h.initialized, h.valid, h.empty, h.notFound, h.parseFailed⟩

/-- a deed writes a status together with what it says, or leaves both -/
theorem after_tells {c : Ledger} (h : c.Tells) (d : Deed) : (c.after d).Tells := by
  cases d with
  | quiet => exact h
  | started n path => exact started_tells c n path
  | cleared n => exact cleared_tells c n
  | finished n outcome =>
    simp only [after]
    split_ifs
    · exact (judge_tells c outcome).with_loads _ _
    · exact h.with_loads _ _
  | settled n => exact h.with_loads _ _

theorem Tells.valid_iff {c : Ledger} (h : c.Tells) (hl : c.status ≠ .loading) :
    (c.found = true ∧ c.entries.size ≠ 0) ↔
      (∃ n, c.status = .valid n) ∨ (∃ message, c.status = .parseFailed message) ∧ c.entries.size ≠ 0 := by
  cases hs : c.status with
  | uninitialized => exact absurd hs h.initialized
  | loading => exact absurd hs hl
  | valid n =>
    obtain ⟨hf, hn, h1⟩ := h.valid n hs
    simp [hf, hn]; omega
  | empty => simp [(h.empty hs).2, Database.size]
  | notFound => simp [h.notFound hs]
  | parseFailed message => simp [h.parseFailed message hs]

end Ledger

/-! ## Over a run -/

theorem run_tells (root setting : Path) (watching : Bool) (ops : List Op) :
    (run (init (some root) setting watching) ops).ledger.Tells := by
  induction ops using List.reverseRecOn with
  | nil =>
    rw [run_nil, init_ledger]
    exact Ledger.started_tells _ _ _
  | append_singleton ops o ih =>
    rw [run_append, run_cons, run_nil, step_ledger]
    exact Ledger.after_tells ih _

/-- in a state where every load has settled, the last number taken has settled too -/
theorem isReady_of_isSettled {s : St} (hi : s.ledger.Inv) (h : isSettled s = true) : isReady s (target s) = true := by
  refine decide_eq_true (not_lt.1 fun hlt => ?_)
  obtain ⟨l, hl, -⟩ := hi.pending.1 hlt
  rw [ledger_loads, List.isEmpty_iff.1 h] at hl
  cases hl

/-- once the last number taken has settled, no load is still to be waited for -/
theorem status_ne_of_isReady {s : St} (hi : s.ledger.Inv) (h : isReady s (target s) = true) :
    s.status ≠ .loading := by
  intro hs
  obtain ⟨l, hl, hg, -⟩ := hi.loading.1 hs
  exact absurd (hi.pending.2 ⟨l, hl, hg⟩) (not_lt.2 (of_decide_eq_true h))

/-! ## Without a root -/

theorem deed_of_rootless {s : St} (hr : s.root = none) (hl : s.loads = []) (o : Op) : deed s o = .quiet := by
  cases o with
  | reload => simp [deed, loadDeed, hr]
  | event e => simp [deed, newsDeed, hr]
  | repoint setting => simp [deed, repointDeed, hr]
  | commit n outcome => simp [deed, hl]
  | settle n => simp [deed, hl]
  | news epoch e => simp [deed, newsDeed, hr]
  | close => rfl

theorem run_ledger_of_rootless {s : St} (hr : s.root = none) (hl : s.loads = []) (ops : List Op) :
    (run s ops).ledger = s.ledger := by
  induction ops generalizing s with
  | nil => rfl
  | cons o ops ih =>
    have hs : (step s o).ledger = s.ledger := by rw [step_ledger, deed_of_rootless hr hl]; rfl
    have hl' : (step s o).loads = [] := (congrArg Ledger.loads hs).trans hl
    rw [run_cons, ih ((step_root s o).trans hr) hl', hs]

/-! ## The status of a cache -/

/-- **What the status says is so.** In every state that a cache with a root can reach, the status is `loading` exactly
while the load with the last number has yet to commit, and any other status fits the file and the entries; there is no
uninitialized one. When every load has settled no query has to wait, and when none has to, the cache is valid exactly
when the status is, or when reading has failed and older entries are left. Without a root nothing ever changes: the
status stays `uninitialized`, no file is found, no number is taken and every lookup comes back empty. -/
theorem status_tells (setting : Path) (watching : Bool) (ops : List Op) :
    (∀ root,
      let s := run (init (some root) setting watching) ops
      (s.status = .loading ↔ ∃ l ∈ s.loads, l.generation = s.generation ∧ l.committed = false) ∧
      (∀ n, s.status = .valid n → s.found = true ∧ s.entries.size = n ∧ 1 ≤ n) ∧
      (s.status = .empty → s.found = true ∧ s.entries = {}) ∧
      (s.status = .notFound → s.found = false) ∧
      (∀ message, s.status = .parseFailed message → s.found = true) ∧
      s.status ≠ .uninitialized ∧
      (isSettled s = true → isReady s (target s) = true) ∧
      (isReady s (target s) = true → (isValid s = true ↔
        (∃ n, s.status = .valid n) ∨ (∃ message, s.status = .parseFailed message) ∧ s.entries.size ≠ 0))) ∧
    let s := run (init none setting watching) ops
    s.status = .uninitialized ∧ s.found = false ∧ s.entries = {} ∧ s.generation = 0 ∧
      ∀ t here file, lookup s (key? t here s file) = none := by
  refine ⟨fun root => ?_, ?_⟩
  · intro s
    have hi : s.ledger.Inv := run_inv (init_inv _ _ _) ops
    have ht : s.ledger.Tells := run_tells root setting watching ops
    refine ⟨hi.loading, ht.valid, ht.empty, ht.notFound, ht.parseFailed, ht.initialized, isReady_of_isSettled hi,
      fun h => ?_⟩
    rw [← ledger_status, ← ledger_entries, ← ht.valid_iff (status_ne_of_isReady hi h)]
    simp [isValid]
  · intro s
    have hs : s.ledger = (init none setting watching).ledger := run_ledger_of_rootless rfl rfl ops
    have hr : s.root = none := run_root _ _
    exact ⟨congrArg Ledger.status hs, congrArg Ledger.found hs, congrArg Ledger.entries hs,
      congrArg Ledger.generation hs, fun t here file => by simp [key?, hr, lookup]⟩

/-- a load that fails to read leaves the entries of the one before, and the cache stays valid; a superseded load that
ends later changes nothing about that -/
theorem status_tells_failed :
    let there : Path := "/p/compile_commands.json"
    let s := run (init (some "/p") [] false)
      [.commit 1 (.ok oneFile), .settle 1, .reload, .reload, .commit 3 (.error (.unreadable there .notUtf8)),
        .settle 3, .commit 2 (.error (.notFound there)), .settle 2]
    isSettled s = true ∧ s.entries.size = 1 ∧ isValid s = true := by
  intro there s
  have hs : isSettled s = true := by decide
  have hn : s.entries.size = 1 := by decide
  have hp : ∃ message, s.status = .parseFailed message := ⟨_, rfl⟩
  obtain ⟨-, -, -, -, -, -, hready, hvalid⟩ := (status_tells [] false _).1 "/p"
  exact ⟨hs, hn, (hvalid (hready hs)).2 (Or.inr ⟨hp, by rw [hn]; decide⟩)⟩

end IncludeAudit.Cache
