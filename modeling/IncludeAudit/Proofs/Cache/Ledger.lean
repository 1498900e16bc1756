/-
What the operations of the cache come to. Most of its state keeps account of paths and watchers; loads and deletes
work on the `Ledger`: the entries, whether the file was found, the status, the last number taken, the highest number
that has settled, and the loads under way. Each operation comes to one `Deed` on the ledger.

- `step_ledger`: a step does to the ledger what its deed says, and nothing else; `step_eq`: most do nothing besides.
- `step_permits`: numbers are taken one after another, only a load under way finishes, and only a load that has
  finished settles.
- `run_inv`: in every state that a cache can reach, the loads under way are numbered in the order in which they
  started, the last number is unsettled exactly while its load is under way, and the status is `loading` exactly
  while that load has yet to commit.
-/
import Mathlib.Tactic
import IncludeAudit.Cache.State

namespace IncludeAudit.Cache

/-! ## Deeds -/

/-- what an operation comes to -/
inductive Deed where
  /-- nothing that loads and deletes have to do with -/
  | quiet
  /-- a load of a file has taken a number -/
  | started (n : Nat) (path : Path)
  /-- a delete has taken a number -/
  | cleared (n : Nat)
  /-- a load has ended with an outcome, whether that still counts or not -/
  | finished (n : Nat) (outcome : Database.Outcome)
  /-- a load that has finished is done with -/
  | settled (n : Nat)

/-- what an order to load comes to -/
def loadDeed (s : St) : Deed :=
  match s.root, s.path with
  | some _, some path => .started (s.generation + 1) path
  | _, _ => .quiet

/-- what news that counts comes to -/
def newsDeed (s : St) (e : FileEvent) : Deed :=
  if s.root.isNone then .quiet
  else
    match e with
    | .created | .changed => loadDeed s
    | .deleted => .cleared (s.generation + 1)

/-- what another setting comes to -/
def repointDeed (s : St) (setting : Path) : Deed :=
  match s.root with
  | none => .quiet
  | some root =>
    let path := Path.databaseFile root setting
    if s.path.any (Path.same · path) then .quiet else .started (s.generation + 1) path

/-- what an operation comes to in a state -/
def deed (s : St) : Op → Deed
  | .reload => loadDeed s
  | .event e => newsDeed s e
  | .repoint setting => repointDeed s setting
  | .commit n outcome => if s.loads.any fun l => l.generation = n && !l.committed then .finished n outcome else .quiet
  | .settle n => if s.loads.any fun l => l.generation = n && l.committed then .settled n else .quiet
  | .news epoch e => if s.watchers.any (·.epoch = epoch) && s.epoch = epoch then newsDeed s e else .quiet
  | .close => .quiet

/-- what the operations of a run come to -/
def deeds (s : St) : List Op → List Deed
  | [] => []
  | o :: ops => deed s o :: deeds (step s o) ops

theorem deeds_append (s : St) (ops ops' : List Op) :
    deeds s (ops ++ ops') = deeds s ops ++ deeds (run s ops) ops' := by
  induction ops generalizing s with
  | nil => rfl
  | cons o ops ih => simp only [List.cons_append, deeds, run_cons, ih]

/-! ## The ledger -/

/-- the part of the state that loads and deletes work on -/
structure Ledger where
  entries : Database := {}
  found : Bool := false
  status : Status := .loading
  generation : Nat := 0
  settled : Nat := 0
  loads : List Load := []
deriving DecidableEq, Repr

/-- the ledger of a state -/
def St.ledger (s : St) : Ledger where
  entries := s.entries
  found := s.found
  status := s.status
  generation := s.generation
  settled := s.settled
  loads := s.loads

@[simp] theorem ledger_entries (s : St) : s.ledger.entries = s.entries := rfl

@[simp] theorem ledger_found (s : St) : s.ledger.found = s.found := rfl

@[simp] theorem ledger_status (s : St) : s.ledger.status = s.status := rfl

@[simp] theorem ledger_generation (s : St) : s.ledger.generation = s.generation := rfl

@[simp] theorem ledger_settled (s : St) : s.ledger.settled = s.settled := rfl

@[simp] theorem ledger_loads (s : St) : s.ledger.loads = s.loads := rfl

namespace Ledger

/-- takes in an outcome that counts: entries come from a success as a whole, and a failure keeps those from before -/
def judge (c : Ledger) : Database.Outcome → Ledger
  | .ok d => { c with found := true, status := if d.size = 0 then .empty else .valid d.size, entries := d }
  | .error (.notFound _) => { c with found := false, status := .notFound }
  | .error e => { c with found := true, status := .parseFailed e.message }

/-- notes that the load with number `n` has committed -/
def mark (n : Nat) (l : Load) : Load :=
  if l.generation = n then { l with committed := true } else l

/-- the ledger after a deed -/
def after (c : Ledger) : Deed → Ledger
  | .quiet => c
  | .started n path => { c with status := .loading, generation := n, loads := c.loads ++ [{ generation := n, path }] }
  | .cleared n =>
    { c with entries := {}, found := false, status := .notFound, generation := n, settled := max c.settled n }
  | .finished n outcome => { (if c.generation = n then c.judge outcome else c) with loads := c.loads.map (mark n) }
  | .settled n => { c with settled := max c.settled n, loads := c.loads.filter (·.generation ≠ n) }

/-- where a deed can happen -/
def Permits (c : Ledger) : Deed → Prop
  | .quiet => True
  | .started n _ => n = c.generation + 1
  | .cleared n => n = c.generation + 1
  | .finished n _ => ∃ l ∈ c.loads, l.generation = n ∧ l.committed = false
  | .settled n => ∃ l ∈ c.loads, l.generation = n ∧ l.committed = true

/-! ## What an outcome leaves alone -/

@[simp] theorem judge_generation (c : Ledger) (o : Database.Outcome) : (c.judge o).generation = c.generation := by
  rcases o with e | d
  · cases e <;> rfl
  · rfl

@[simp] theorem judge_settled (c : Ledger) (o : Database.Outcome) : (c.judge o).settled = c.settled := by
  rcases o with e | d
  · cases e <;> rfl
  · rfl

@[simp] theorem judge_loads (c : Ledger) (o : Database.Outcome) : (c.judge o).loads = c.loads := by
  rcases o with e | d
  · cases e <;> rfl
  · rfl

theorem judge_status_ne (c : Ledger) (o : Database.Outcome) : (c.judge o).status ≠ .loading := by
  rcases o with e | d
  · cases e <;> simp [judge]
  · simp only [judge]
    split_ifs <;> simp

theorem judge_entries_error (c : Ledger) (e : Database.LoadError) : (c.judge (.error e)).entries = c.entries := by
  cases e <;> rfl

@[simp] theorem mark_generation (n : Nat) (l : Load) : (mark n l).generation = l.generation := by
  unfold mark
  split_ifs <;> rfl

theorem mark_of_ne {n : Nat} {l : Load} (h : l.generation ≠ n) : mark n l = l :=
  if_neg h

theorem mark_committed_false {n : Nat} {l : Load} :
    (mark n l).committed = false ↔ l.generation ≠ n ∧ l.committed = false := by
  unfold mark
  split_ifs with h <;> simp [h]

end Ledger

/-! ## A step on the ledger -/

/-- the state with another ledger -/
def St.withLedger (s : St) (c : Ledger) : St :=
  { s with
    entries := c.entries
    found := c.found
    status := c.status
    generation := c.generation
    settled := c.settled
    loads := c.loads }

theorem startLoad_eq (s : St) : startLoad s = s.withLedger (s.ledger.after (loadDeed s)) := by
  obtain ⟨root, path⟩ := s
  cases root with
  | none => rfl
  | some root =>
    cases path with
    | none => rfl
    | some path => rfl

theorem handle_eq (s : St) (e : FileEvent) : handle s e = s.withLedger (s.ledger.after (newsDeed s e)) := by
  unfold handle newsDeed
  split_ifs
  · rfl
  · cases e
    · exact startLoad_eq s
    · exact startLoad_eq s
    · rfl

theorem takeIn_eq (s : St) (n : Nat) (o : Database.Outcome) :
    takeIn s n o = s.withLedger (if s.generation = n then s.ledger.judge o else s.ledger) := by
  unfold takeIn
  by_cases h : s.generation = n
  · rw [if_neg (not_not_intro h), if_pos h]
    rcases o with e | d
    · cases e <;> rfl
    · rfl
  · rw [if_pos h, if_neg h]
    rfl

theorem commit_eq (s : St) (n : Nat) (o : Database.Outcome) :
    commit s n o = s.withLedger (s.ledger.after (deed s (.commit n o))) := by
  simp only [commit, deed]
  split_ifs
  · have hl : (if s.generation = n then s.ledger.judge o else s.ledger).loads = s.loads := by split_ifs <;> simp
    rw [takeIn_eq]
    show s.withLedger { (if s.generation = n then s.ledger.judge o else s.ledger) with
      loads := (if s.generation = n then s.ledger.judge o else s.ledger).loads.map (Ledger.mark n) } = _
    rw [hl]
    rfl
  · rfl

theorem settle_eq (s : St) (n : Nat) : settle s n = s.withLedger (s.ledger.after (deed s (.settle n))) := by
  simp only [settle, deed]
  split_ifs <;> rfl

theorem hear_eq (s : St) (epoch : Nat) (e : FileEvent) :
    hear s epoch e = s.withLedger (s.ledger.after (deed s (.news epoch e))) := by
  simp only [hear, deed]
  split_ifs
  · exact handle_eq s e
  · rfl

/-- apart from a move and the end of the watcher, every operation works on the ledger alone -/
theorem step_eq {s : St} {o : Op} (hr : ∀ setting, o ≠ .repoint setting) (hc : o ≠ .close) :
    step s o = s.withLedger (s.ledger.after (deed s o)) := by
  cases o with
  | reload => exact startLoad_eq s
  | event e => exact handle_eq s e
  | repoint setting => exact absurd rfl (hr setting)
  | commit n outcome => exact commit_eq s n outcome
  | settle n => exact settle_eq s n
  | news epoch e => exact hear_eq s epoch e
  | close => exact absurd rfl hc

theorem repoint_ledger (s : St) (setting : Path) :
    (repoint s setting).ledger = s.ledger.after (repointDeed s setting) := by
  unfold repoint repointDeed
  cases hr : s.root with
  | none => rfl
  | some root =>
    simp only
    split_ifs with hp hw
    · rfl
    · simp [startLoad, putUp, St.ledger, Ledger.after]
    · simp [startLoad, St.ledger, Ledger.after]

theorem step_ledger (s : St) (o : Op) : (step s o).ledger = s.ledger.after (deed s o) := by
  cases o with
  | repoint setting => exact repoint_ledger s setting
  | close => rfl
  | _ => rw [step_eq (by simp) (by simp)]; rfl

/-! ## Where deeds happen -/

theorem loadDeed_permits (s : St) : s.ledger.Permits (loadDeed s) := by
  unfold loadDeed
  split
  · exact rfl
  · trivial

theorem newsDeed_permits (s : St) (e : FileEvent) : s.ledger.Permits (newsDeed s e) := by
  unfold newsDeed
  split_ifs
  · trivial
  · cases e
    · exact loadDeed_permits s
    · exact loadDeed_permits s
    · exact rfl

theorem repointDeed_permits (s : St) (setting : Path) : s.ledger.Permits (repointDeed s setting) := by
  unfold repointDeed
  split
  · trivial
  · simp only
    split_ifs
    · trivial
    · exact rfl

theorem deed_commit (s : St) (n : Nat) (o : Database.Outcome) :
    (∃ l ∈ s.loads, l.generation = n ∧ l.committed = false ∧ deed s (.commit n o) = .finished n o) ∨
      ((∀ l ∈ s.loads, l.committed = false → l.generation ≠ n) ∧ deed s (.commit n o) = .quiet) := by
  simp only [deed]
  split_ifs with h
  · obtain ⟨l, hl, hn⟩ := List.any_eq_true.1 h
    have hn : l.generation = n ∧ l.committed = false := by simpa using hn
    exact Or.inl ⟨l, hl, hn.1, hn.2, rfl⟩
  · exact Or.inr ⟨fun l hl hc hn => h (List.any_eq_true.2 ⟨l, hl, by simp [hn, hc]⟩), rfl⟩

theorem deed_settle (s : St) (n : Nat) :
    (∃ l ∈ s.loads, l.generation = n ∧ l.committed = true ∧ deed s (.settle n) = .settled n) ∨
      ((∀ l ∈ s.loads, l.committed = true → l.generation ≠ n) ∧ deed s (.settle n) = .quiet) := by
  simp only [deed]
  split_ifs with h
  · obtain ⟨l, hl, hn⟩ := List.any_eq_true.1 h
    have hn : l.generation = n ∧ l.committed = true := by simpa using hn
    exact Or.inl ⟨l, hl, hn.1, hn.2, rfl⟩
  · exact Or.inr ⟨fun l hl hc hn => h (List.any_eq_true.2 ⟨l, hl, by simp [hn, hc]⟩), rfl⟩

/-- a deed happens only where it can -/
theorem step_permits (s : St) (o : Op) : s.ledger.Permits (deed s o) := by
  cases o with
  | reload => exact loadDeed_permits s
  | event e => exact newsDeed_permits s e
  | repoint setting => exact repointDeed_permits s setting
  | commit n outcome =>
    rcases deed_commit s n outcome with ⟨l, hl, hn, hu, hd⟩ | ⟨-, hd⟩
    · rw [hd]; exact ⟨l, hl, hn, hu⟩
    · rw [hd]; trivial
  | settle n =>
    rcases deed_settle s n with ⟨l, hl, hn, hc, hd⟩ | ⟨-, hd⟩
    · rw [hd]; exact ⟨l, hl, hn, hc⟩
    · rw [hd]; trivial
  | news epoch e =>
    simp only [deed]
    split_ifs
    · exact newsDeed_permits s e
    · trivial
  | close => trivial

/-! ## The invariant -/

namespace Ledger

structure Inv (c : Ledger) : Prop where
  /-- loads under way stand in the order in which they started, each with a number of its own -/
  ordered : (c.loads.map Load.generation).Pairwise (· < ·)
  numbered : ∀ l ∈ c.loads, l.generation ≤ c.generation
  settled_le : c.settled ≤ c.generation
  /-- the last number is unsettled exactly while its load is under way -/
  pending : c.settled < c.generation ↔ ∃ l ∈ c.loads, l.generation = c.generation
  /-- the status is `loading` exactly while the load with the last number has yet to commit -/
  loading : c.status = .loading ↔ ∃ l ∈ c.loads, l.generation = c.generation ∧ l.committed = false

theorem Inv.eq_of_generation {c : Ledger} (h : c.Inv) {l l' : Load} (hl : l ∈ c.loads) (hl' : l' ∈ c.loads)
    (e : l.generation = l'.generation) : l = l' :=
  List.inj_on_of_nodup_map (h.ordered.imp ne_of_lt) hl hl' e

theorem started_inv {c : Ledger} (h : c.Inv) (path : Path) : (c.after (.started (c.generation + 1) path)).Inv := by
  have hs := h.settled_le
  refine ⟨?_, ?_, ?_, ?_, ?_⟩
  · simp only [after, List.map_append, List.map_cons, List.map_nil, List.pairwise_append, List.mem_map]
    refine ⟨h.ordered, List.pairwise_singleton _ _, ?_⟩
    rintro n ⟨l, hl, rfl⟩ m hm
    have := h.numbered l hl
    rw [List.mem_singleton.1 hm]; omega
  · intro l hl
    simp only [after, List.mem_append, List.mem_singleton] at hl ⊢
    rcases hl with hl | rfl
    · exact Nat.le_succ_of_le (h.numbered l hl)
    · exact le_rfl
  · simp only [after]; omega
  · simp only [after]
    exact iff_of_true (by omega) ⟨_, List.mem_append_right _ (List.mem_singleton_self _), rfl⟩
  · simp only [after]
    exact iff_of_true trivial ⟨_, List.mem_append_right _ (List.mem_singleton_self _), rfl, rfl⟩

theorem cleared_inv {c : Ledger} (h : c.Inv) : (c.after (.cleared (c.generation + 1))).Inv := by
  have hs := h.settled_le
  -- a delete takes a number that no load under way has
  have hno : ∀ l ∈ c.loads, l.generation ≠ c.generation + 1 := fun l hl => by have := h.numbered l hl; omega
  refine ⟨h.ordered, fun l hl => Nat.le_succ_of_le (h.numbered l hl), ?_, ?_, ?_⟩
  · simp only [after]; omega
  · simp only [after]
    exact iff_of_false (by omega) fun ⟨l, hl, e⟩ => hno l hl e
  · simp only [after]
    exact iff_of_false (by simp) fun ⟨l, hl, e, _⟩ => hno l hl e

@[simp] theorem finished_generation (c : Ledger) (n : Nat) (o : Database.Outcome) :
    (c.after (.finished n o)).generation = c.generation := by
  simp only [after]; split_ifs <;> simp

@[simp] theorem finished_settled (c : Ledger) (n : Nat) (o : Database.Outcome) :
    (c.after (.finished n o)).settled = c.settled := by
  simp only [after]; split_ifs <;> simp

theorem exists_mark {c : Ledger} {n : Nat} {p : Load → Prop} :
    (∃ l ∈ c.loads.map (mark n), p l) ↔ ∃ l ∈ c.loads, p (mark n l) := by
  simp

theorem finished_inv {c : Ledger} (h : c.Inv) (n : Nat) (o : Database.Outcome) : (c.after (.finished n o)).Inv := by
  have hg := finished_generation c n o
  have hs := finished_settled c n o
  have hl : (c.after (.finished n o)).loads = c.loads.map (mark n) := rfl
  refine ⟨?_, ?_, ?_, ?_, ?_⟩
  · rw [hl, List.map_map, show Load.generation ∘ mark n = Load.generation from funext (mark_generation n)]
    exact h.ordered
  · intro l hm
    rw [hl] at hm
    obtain ⟨l', hl', rfl⟩ := List.mem_map.1 hm
    rw [hg, mark_generation]
    exact h.numbered l' hl'
  · rw [hs, hg]; exact h.settled_le
  · rw [hs, hg, hl, exists_mark, h.pending]
    simp only [mark_generation]
  · rw [hg, hl, exists_mark]
    simp only [mark_generation, mark_committed_false]
    by_cases hn : c.generation = n
    · have : (c.after (.finished n o)).status = (c.judge o).status := by simp only [after, if_pos hn]
      rw [this]
      exact iff_of_false (judge_status_ne c o) fun ⟨l, _, e, ne, _⟩ => ne (e.trans hn)
    · have : (c.after (.finished n o)).status = c.status := by simp only [after, if_neg hn]
      rw [this, h.loading]
      constructor
      · rintro ⟨l, hm, e, hc⟩
        exact ⟨l, hm, e, fun e' => hn (e.symm.trans e'), hc⟩
      · rintro ⟨l, hm, e, _, hc⟩
        exact ⟨l, hm, e, hc⟩

theorem settled_inv {c : Ledger} (h : c.Inv) {l : Load} (hl : l ∈ c.loads) (hc : l.committed = true) :
    (c.after (.settled l.generation)).Inv := by
  have hs := h.settled_le
  have hn := h.numbered l hl
  have hmem : ∀ x, x ∈ c.loads.filter (·.generation ≠ l.generation) ↔ x ∈ c.loads ∧ x.generation ≠ l.generation := by
    intro x; simp
  refine ⟨?_, ?_, ?_, ?_, ?_⟩
  · exact h.ordered.sublist (List.filter_sublist.map _)
  · intro x hx
    exact h.numbered x ((hmem x).1 hx).1
  · simp only [after]; omega
  · simp only [after, hmem]
    by_cases e : l.generation = c.generation
    · exact iff_of_false (by omega) fun ⟨x, ⟨_, ne⟩, e'⟩ => ne (e'.trans e.symm)
    · rw [show max c.settled l.generation < c.generation ↔ c.settled < c.generation by omega, h.pending]
      constructor
      · rintro ⟨x, hx, e'⟩
        exact ⟨x, ⟨hx, fun e'' => e (e''.symm.trans e')⟩, e'⟩
      · rintro ⟨x, ⟨hx, _⟩, e'⟩
        exact ⟨x, hx, e'⟩
  · simp only [after, hmem, h.loading]
    constructor
    · rintro ⟨x, hx, e, hu⟩
      refine ⟨x, ⟨hx, fun e' => ?_⟩, e, hu⟩
      rw [h.eq_of_generation hx hl e', hc] at hu
      cases hu
    · rintro ⟨x, ⟨hx, _⟩, e, hu⟩
      exact ⟨x, hx, e, hu⟩

theorem after_inv {c : Ledger} {d : Deed} (h : c.Inv) (hd : c.Permits d) : (c.after d).Inv := by
  cases d with
  | quiet => exact h
  | started n path => obtain rfl : n = _ := hd; exact started_inv h path
  | cleared n => obtain rfl : n = _ := hd; exact cleared_inv h
  | finished n outcome => exact finished_inv h n outcome
  | settled n => obtain ⟨l, hl, rfl, hc⟩ := hd; exact settled_inv h hl hc

end Ledger

theorem step_inv {s : St} (h : s.ledger.Inv) (o : Op) : (step s o).ledger.Inv := by
  rw [step_ledger]
  exact Ledger.after_inv h (step_permits s o)

theorem run_inv {s : St} (h : s.ledger.Inv) (ops : List Op) : (run s ops).ledger.Inv := by
  induction ops generalizing s with
  | nil => exact h
  | cons o ops ih => exact ih (step_inv h o)

/-! ## From the start -/

theorem init_ledger (root setting : Path) (watching : Bool) :
    (init (some root) setting watching).ledger =
      ({} : Ledger).after (.started 1 (Path.databaseFile root setting)) := by
  cases watching <;> rfl

theorem init_inv (root : Option Path) (setting : Path) (watching : Bool) :
    (init root setting watching).ledger.Inv := by
  cases root with
  | none => constructor <;> simp [init]
  | some root => rw [init_ledger]; constructor <;> simp [Ledger.after]

@[simp] theorem startLoad_root (s : St) : (startLoad s).root = s.root := by
  rw [startLoad_eq]; rfl

@[simp] theorem startLoad_path (s : St) : (startLoad s).path = s.path := by
  rw [startLoad_eq]; rfl

@[simp] theorem startLoad_watching (s : St) : (startLoad s).watching = s.watching := by
  rw [startLoad_eq]; rfl

@[simp] theorem handle_path (s : St) (e : FileEvent) : (handle s e).path = s.path := by
  rw [handle_eq]; rfl

/-- no operation touches the root, or whether the cache is to be watched -/
theorem step_kept (s : St) (o : Op) : (step s o).root = s.root ∧ (step s o).watching = s.watching := by
  cases o with
  | repoint setting =>
    simp only [step, repoint]
    split
    · exact ⟨rfl, rfl⟩
    · split_ifs
      · exact ⟨rfl, rfl⟩
      · rw [startLoad_root, startLoad_watching]; exact ⟨rfl, rfl⟩
      · rw [startLoad_root, startLoad_watching]; exact ⟨rfl, rfl⟩
  | close => exact ⟨rfl, rfl⟩
  | _ => rw [step_eq (by simp) (by simp)]; exact ⟨rfl, rfl⟩

theorem step_root (s : St) (o : Op) : (step s o).root = s.root :=
  (step_kept s o).1

theorem step_watching (s : St) (o : Op) : (step s o).watching = s.watching :=
  (step_kept s o).2

theorem run_root (s : St) (ops : List Op) : (run s ops).root = s.root := by
  induction ops generalizing s with
  | nil => rfl
  | cons o ops ih => rw [run_cons, ih, step_root]

/-- once a cache has a file to look at, it always has one -/
theorem step_path_isSome {s : St} (h : s.path.isSome) (o : Op) : (step s o).path.isSome := by
  cases o with
  | repoint setting =>
    simp only [step, repoint]
    split
    · exact h
    · split_ifs
      · exact h
      · rw [startLoad_path]; rfl
      · rw [startLoad_path]; rfl
  | close => exact h
  | _ => rw [step_eq (by simp) (by simp)]; exact h

theorem run_path_isSome {s : St} (h : s.path.isSome) (ops : List Op) : (run s ops).path.isSome := by
  induction ops generalizing s with
  | nil => exact h
  | cons o ops ih => exact ih (step_path_isSome h o)

theorem init_root (root : Option Path) (setting : Path) (watching : Bool) :
    (init root setting watching).root = root := by
  cases root <;> cases watching <;> rfl

theorem init_path_isSome (root setting : Path) (watching : Bool) :
    (init (some root) setting watching).path.isSome := by
  cases watching <;> rfl

/-- a database to show runs with: one file, built by one command -/
def oneFile : Database :=
  ⟨[("/p/a.c", { command := "cc -c a.c", directory := "/p" })]⟩

end IncludeAudit.Cache
