/-
Numbers are taken one after another and settle in any order, and no query waits in vain. A query waits for the number
that was the last one taken when it was asked. Loads settle out of order, a delete settles the number that it takes,
and a load that was superseded settles an old number late; still, a number that is yet to settle always has a load
under way to settle it.

- `numbers_eq`: the numbers that the deeds of a history take are 1, 2, ... up to the last one.
- `Ledger.after_covers`: every deed keeps it that each number above the highest settled one is that of a load under
  way, and `run_covers`: so does every run.
- `isReady_ending`: the end of a load lets every query past that waits for its number or an older one.
- `numbers_count_and_settle`: the last number counts loads and deletes, the highest settled one follows it, neither
  ever goes down, and a query waits only while the load with the number that it waits for is under way.
-/
import IncludeAudit.Proofs.Cache.Freshness
import IncludeAudit.Proofs.Cache.History
import IncludeAudit.Proofs.Cache.Status

namespace IncludeAudit.Cache

/-! ## Taking numbers -/

/-- a load has started -/
def Deed.starts : Deed → Bool
  | .started _ _ => true
  | _ => false

/-- a delete has been handled -/
def Deed.clears : Deed → Bool
  | .cleared _ => true
  | _ => false

/-- loads and deletes take a number each, and nothing else does -/
theorem length_numbers (h : List Deed) :
    (h.filterMap Deed.number?).length = h.countP Deed.starts + h.countP Deed.clears := by
  induction h with
  | nil => rfl
  | cons d h ih =>
    rw [List.filterMap_cons, List.countP_cons, List.countP_cons]
    cases d with
    | started n path =>
      simp only [Deed.number?, Deed.starts, Deed.clears, List.length_cons, ih, if_true, Bool.false_eq_true, if_false]
      omega
    | cleared n =>
      simp only [Deed.number?, Deed.starts, Deed.clears, List.length_cons, ih, if_true, Bool.false_eq_true, if_false]
      omega
    | _ => simpa [Deed.number?, Deed.starts, Deed.clears] using ih

theorem Ledger.number?_cases {c : Ledger} {d : Deed} (hd : c.Permits d) :
    (d.number? = some (c.generation + 1) ∧ (c.after d).generation = c.generation + 1) ∨
      (d.number? = none ∧ (c.after d).generation = c.generation) := by
  cases d with
  | started n path => obtain rfl : n = _ := hd; exact Or.inl ⟨rfl, rfl⟩
  | cleared n => obtain rfl : n = _ := hd; exact Or.inl ⟨rfl, rfl⟩
  | finished n outcome => exact Or.inr ⟨rfl, finished_generation c n outcome⟩
  | _ => exact Or.inr ⟨rfl, rfl⟩

/-- numbers are taken one after another, from 1 on, and none is left out -/
theorem numbers_eq (root setting : Path) (watching : Bool) (ops : List Op) :
    (history root setting watching ops).filterMap Deed.number? =
      List.range' 1 (run (init (some root) setting watching) ops).generation := by
  induction ops using List.reverseRecOn with
  | nil =>
    rw [run_nil, ← ledger_generation, init_ledger]
    rfl
  | append_singleton ops o ih =>
    have hstep := step_permits (run (init (some root) setting watching) ops) o
    rw [history_append, List.filterMap_append, ih, run_append, run_cons, run_nil, ← ledger_generation (step _ o),
      step_ledger]
    rcases Ledger.number?_cases hstep with ⟨hn, hg⟩ | ⟨hn, hg⟩
    · rw [hg, ledger_generation, List.range'_1_concat, Nat.add_comm 1]
      simp [deeds, hn]
    · rw [hg, ledger_generation]
      simp [deeds, hn]

/-! ## Settling them -/

namespace Ledger

/-- every number above the highest settled one is that of a load under way -/
def Covers (c : Ledger) : Prop :=
  ∀ n, c.settled < n → n ≤ c.generation → ∃ l ∈ c.loads, l.generation = n

theorem after_covers {c : Ledger} {d : Deed} (h : c.Covers) (hd : c.Permits d) : (c.after d).Covers := by
  intro n hs hn
  cases d with
  | quiet => exact h n hs hn
  | started m path =>
    obtain rfl : m = _ := hd
    rcases Nat.lt_or_eq_of_le hn with hlt | rfl
    · obtain ⟨l, hl, e⟩ := h n hs (Nat.le_of_lt_succ hlt)
      exact ⟨l, List.mem_append_left _ hl, e⟩
    · exact ⟨_, List.mem_append_right _ (List.mem_singleton_self _), rfl⟩
  | cleared m =>
    -- the number of a delete has settled at once
    have hm : m ≤ c.settled.max m := le_max_right _ _
    exact absurd hn (not_le.2 (lt_of_le_of_lt hm hs))
  | finished m outcome =>
    rw [finished_settled] at hs
    rw [finished_generation] at hn
    obtain ⟨l, hl, e⟩ := h n hs hn
    exact exists_mark.2 ⟨l, hl, (mark_generation m l).trans e⟩
  | settled m =>
    have hm : m < n := lt_of_le_of_lt (le_max_right _ _) hs
    obtain ⟨l, hl, rfl⟩ := h n (lt_of_le_of_lt (le_max_left _ _) hs) hn
    exact ⟨l, List.mem_filter.2 ⟨hl, decide_eq_true hm.ne'⟩, rfl⟩

end Ledger

theorem run_covers {s : St} (h : s.ledger.Covers) (ops : List Op) : (run s ops).ledger.Covers := by
  induction ops generalizing s with
  | nil => exact h
  | cons o ops ih =>
    refine ih ?_
    rw [step_ledger]
    exact Ledger.after_covers h (step_permits s o)

theorem init_covers (root setting : Path) (watching : Bool) : (init (some root) setting watching).ledger.Covers := by
  rw [init_ledger]
  exact Ledger.after_covers (fun n hs hn => absurd hn (not_le.2 hs)) rfl

/-! ## Waiting for them -/

/-- a load that is told to commit has committed then, if not before -/
theorem exists_committed {s : St} {l : Load} (hl : l ∈ s.loads) (outcome : Database.Outcome) :
    ∃ l' ∈ (step s (.commit l.generation outcome)).loads, l'.generation = l.generation ∧ l'.committed = true := by
  rw [← ledger_loads, step_ledger]
  rcases deed_commit s l.generation outcome with ⟨-, -, -, -, hd⟩ | ⟨hno, hd⟩
  · rw [hd]
    exact Ledger.exists_mark.2 ⟨l, hl, Ledger.mark_generation _ _, by simp [Ledger.mark]⟩
  · rw [hd]
    exact ⟨l, hl, rfl, Bool.eq_true_of_not_eq_false fun hc => hno l hl hc rfl⟩

theorem isReady_ending {s : St} {l : Load} (hl : l ∈ s.loads) {n : Nat} (hn : n ≤ l.generation)
    (outcome : Database.Outcome) : isReady (run s (ending l outcome)) n = true := by
  obtain ⟨l', hl', hg, hc⟩ := exists_committed hl outcome
  refine decide_eq_true (hn.trans ?_)
  rw [ending, run_cons, run_cons, run_nil, ← ledger_settled, step_ledger]
  rcases deed_settle (step s (.commit l.generation outcome)) l.generation with ⟨-, -, -, -, hd⟩ | ⟨hno, -⟩
  · rw [hd]
    exact le_max_right _ _
  · exact absurd hg (hno l' hl' hc)

/-- **Numbers count loads and deletes, and no query waits in vain.** In every state that a cache with a root can
reach, the numbers taken by loads and deletes are 1, 2, ... up to the last one. The highest settled number never
exceeds it, and falls short of it exactly while the load with the last number is under way. Neither ever goes down.
When no load is under way, a query is answered at once. One that waits does so for a load that is under way, and is
past its wait as soon as that load ends, or any later one, in whatever way. -/
theorem numbers_count_and_settle (root setting : Path) (watching : Bool) (ops : List Op) :
    let s := run (init (some root) setting watching) ops
    let h := history root setting watching ops
    h.filterMap Deed.number? = List.range' 1 s.generation ∧
    s.generation = h.countP Deed.starts + h.countP Deed.clears ∧
    s.settled ≤ s.generation ∧
    (s.settled < s.generation ↔ ∃ l ∈ s.loads, l.generation = s.generation) ∧
    (isSettled s = true → isReady s (target s) = true ∧ s.settled = s.generation) ∧
    ∀ more,
      let t := run s more
      s.generation ≤ t.generation ∧ s.settled ≤ t.settled ∧
      (isReady t (target s) = false →
        (∃ l ∈ t.loads, l.generation = target s) ∧
        ∀ l ∈ t.loads, target s ≤ l.generation → ∀ outcome,
          isReady (run t (ending l outcome)) (target s) = true) := by
  intro s h
  have hi : s.ledger.Inv := run_inv (init_inv _ _ _) ops
  have hnumbers : h.filterMap Deed.number? = List.range' 1 s.generation := numbers_eq root setting watching ops
  have hcount : s.generation = h.countP Deed.starts + h.countP Deed.clears := by
    rw [← length_numbers, hnumbers, List.length_range']
  refine ⟨hnumbers, hcount, hi.settled_le, hi.pending, fun hs => ?_, fun more => ?_⟩
  · have hready := isReady_of_isSettled hi hs
    exact ⟨hready, le_antisymm hi.settled_le (of_decide_eq_true hready)⟩
  · refine ⟨generation_le_run s more, settled_le_run s more, fun hwait => ⟨?_, fun l hl hn outcome => ?_⟩⟩
    · have hlt : (run s more).settled < s.generation := not_le.1 (of_decide_eq_false hwait)
      exact run_covers (run_covers (init_covers _ _ _) ops) more _ hlt (generation_le_run s more)
    · exact isReady_ending hl hn outcome

/-- three loads and a delete; the last load has settled, so no query waits, whatever becomes of the first two -/
example :
    let s := run (init (some "/p") [] false)
      [.reload, .event .deleted, .reload, .commit 4 (.ok oneFile), .settle 4]
    s.generation = 4 ∧ s.settled = 4 ∧ s.loads.map Load.generation = [1, 2] := by
  decide

end IncludeAudit.Cache
