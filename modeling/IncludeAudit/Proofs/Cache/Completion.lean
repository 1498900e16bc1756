/-
Loads end in any order, and it makes no difference. From a settled state, calls from outside start loads and clear
the map; then every load that has started commits its outcome and settles, while steps of different loads may come in
any order. `takes` reads off the calls alone who takes a number, and `Ledger.verdict` tells from that what is left in
the end.

- `run_finishing`: when every load under way ends, the outcome of the one with the last number is judged, if there is
  such a load, and no other outcome shows.
- `run_calls`: what calls do before any of their loads ends.
- `last_started_decides`: the state after calls and the end of their loads, for every order in which they end.
-/
import IncludeAudit.Proofs.Cache.Ledger

namespace IncludeAudit.Cache

open Database (Outcome)

/-! ## Every load under way ends -/

/-- steps of loads, in an order in which each load of the list commits its outcome and settles after that -/
structure Finishing (out : Nat → Outcome) (loads : List Load) (steps : List Op) : Prop where
  only : ∀ o ∈ steps, ∃ l ∈ loads, o ∈ ending l (out l.generation)
  each : ∀ l ∈ loads, (ending l (out l.generation)).Sublist steps

/-- loads that end one by one, in any order -/
theorem finishing_of_perm (out : Nat → Outcome) {loads order : List Load} (h : order.Perm loads) :
    Finishing out loads (order.flatMap fun l => ending l (out l.generation)) := by
  refine ⟨fun o ho => ?_, fun l hl => ?_⟩
  · obtain ⟨l, hl, ho⟩ := List.mem_flatMap.1 ho
    exact ⟨l, h.mem_iff.1 hl, ho⟩
  · obtain ⟨a, b, rfl⟩ := List.append_of_mem (h.mem_iff.2 hl)
    simp only [List.flatMap_append, List.flatMap_cons]
    exact (List.sublist_append_left _ _).trans (List.sublist_append_right _ _)

/-- the steps that a list of loads still waits for: both steps of a load, or only the second if it has committed -/
structure Awaits (out : Nat → Outcome) (loads : List Load) (steps : List Op) : Prop where
  only : ∀ o ∈ steps, ∃ n, o = .commit n (out n) ∨ o = .settle n
  both : ∀ l ∈ loads, l.committed = false →
    List.Sublist [.commit l.generation (out l.generation), .settle l.generation] steps
  second : ∀ l ∈ loads, l.committed = true → .settle l.generation ∈ steps

theorem Finishing.awaits {out : Nat → Outcome} {loads : List Load} {steps : List Op} (h : Finishing out loads steps) :
    Awaits out loads steps := by
  refine ⟨fun o ho => ?_, fun l hl _ => h.each l hl, fun l hl _ => ?_⟩
  · obtain ⟨l, _, hm⟩ := h.only o ho
    exact ⟨l.generation, by simpa [ending] using hm⟩
  · exact (h.each l hl).subset (by simp [ending])

namespace Ledger

/-- a ledger with no load under way and every number settled -/
def closed (c : Ledger) : Ledger :=
  { c with settled := c.generation, loads := [] }

/-- the ledger when every load under way has ended: only a load with the last number can still count -/
def done (c : Ledger) (out : Nat → Outcome) : Ledger :=
  if c.status = .loading then c.closed.judge (out c.generation) else c.closed

theorem closed_judge (c : Ledger) (o : Outcome) : (c.judge o).closed = c.closed.judge o := by
  rcases o with e | d
  · cases e <;> rfl
  · rfl

theorem closed_eq {c : Ledger} (h : c.Inv) (hl : c.loads = []) : c.closed = c := by
  have hg : c.settled = c.generation := by
    refine le_antisymm h.settled_le (not_lt.1 fun hlt => ?_)
    obtain ⟨l, hm, -⟩ := h.pending.1 hlt
    rw [hl] at hm; cases hm
  cases c
  simp_all only [closed]

theorem done_nil {c : Ledger} (h : c.Inv) (hl : c.loads = []) (out : Nat → Outcome) : c.done out = c := by
  have hs : c.status ≠ .loading := fun e => by
    obtain ⟨l, hm, -⟩ := h.loading.1 e
    rw [hl] at hm; cases hm
  rw [done, if_neg hs, closed_eq h hl]

theorem done_settled (c : Ledger) (out : Nat → Outcome) (n : Nat) : (c.after (.settled n)).done out = c.done out :=
  rfl

theorem done_finished {c : Ledger} (h : c.Inv) (out : Nat → Outcome) {l : Load} (hl : l ∈ c.loads)
    (hu : l.committed = false) : (c.after (.finished l.generation (out l.generation))).done out = c.done out := by
  by_cases hn : c.generation = l.generation
  · have hs : c.status = .loading := h.loading.2 ⟨l, hl, hn.symm, hu⟩
    simp only [after, if_pos hn]
    rw [done, if_neg (judge_status_ne c _), done, if_pos hs, ← closed_judge, hn]
    rfl
  · simp only [after, if_neg hn]
    rfl

end Ledger

/-- a step that no load under way has waited for as its first leaves what they wait for -/
theorem Awaits.tail {out : Nat → Outcome} {loads : List Load} {o : Op} {steps : List Op}
    (h : Awaits out loads (o :: steps))
    (hb : ∀ l ∈ loads, l.committed = false → .commit l.generation (out l.generation) ≠ o)
    (hs : ∀ l ∈ loads, l.committed = true → .settle l.generation ≠ o) : Awaits out loads steps := by
  refine ⟨fun o' ho' => h.only o' (List.mem_cons_of_mem _ ho'), fun l hl hc => ?_, fun l hl hc => ?_⟩
  · exact List.Sublist.of_cons_of_ne (hb l hl hc) (h.both l hl hc)
  · exact (List.mem_cons.1 (h.second l hl hc)).resolve_left (hs l hl hc)

theorem Awaits.commit {out : Nat → Outcome} {loads : List Load} {n : Nat} {steps : List Op}
    (h : Awaits out loads (.commit n (out n) :: steps)) : Awaits out (loads.map (Ledger.mark n)) steps := by
  refine ⟨fun o ho => h.only o (List.mem_cons_of_mem _ ho), fun l' hl' hc => ?_, fun l' hl' hc => ?_⟩
  · obtain ⟨l, hl, rfl⟩ := List.mem_map.1 hl'
    obtain ⟨hn, hu⟩ := Ledger.mark_committed_false.1 hc
    rw [Ledger.mark_of_ne hn]
    exact List.Sublist.of_cons_of_ne (fun e => hn (by injection e)) (h.both l hl hu)
  · obtain ⟨l, hl, rfl⟩ := List.mem_map.1 hl'
    rw [Ledger.mark_generation]
    cases hu : l.committed
    · -- the load has committed just now
      exact List.singleton_sublist.1 (h.both l hl hu).tail
    · exact (List.mem_cons.1 (h.second l hl hu)).resolve_left (by simp)

theorem Awaits.settle {out : Nat → Outcome} {loads : List Load} {n : Nat} {steps : List Op}
    (h : Awaits out loads (.settle n :: steps)) : Awaits out (loads.filter (·.generation ≠ n)) steps := by
  refine ⟨fun o ho => h.only o (List.mem_cons_of_mem _ ho), fun l hl hc => ?_, fun l hl hc => ?_⟩
  · exact List.Sublist.of_cons_of_ne (by simp) (h.both l (List.mem_of_mem_filter hl) hc)
  · have hn : l.generation ≠ n := by simpa using List.of_mem_filter hl
    exact (List.mem_cons.1 (h.second l (List.mem_of_mem_filter hl) hc)).resolve_left fun e => hn (by injection e)

/-- **Every load under way ends.** Whatever the order, the outcome of the load with the last number is judged if that
load is still to commit, and no other outcome shows. -/
theorem run_finishing {s : St} (h : s.ledger.Inv) {out : Nat → Outcome} {steps : List Op}
    (hf : Awaits out s.loads steps) : (run s steps).ledger = s.ledger.done out := by
  induction steps generalizing s with
  | nil =>
    have hl : s.ledger.loads = [] := by
      refine List.eq_nil_iff_forall_not_mem.2 fun l hl => ?_
      cases hc : l.committed
      · have := hf.both l hl hc
        simp at this
      · have := hf.second l hl hc
        simp at this
    exact (Ledger.done_nil h hl out).symm
  | cons o steps ih =>
    rw [run_cons]
    have hi := step_inv h o
    have hq : deed s o = .quiet → Awaits out s.loads steps → (run (step s o) steps).ledger = s.ledger.done out := by
      intro hd ht
      have hs : (step s o).ledger = s.ledger := by rw [step_ledger, hd]; rfl
      have hl : (step s o).loads = s.loads := congrArg Ledger.loads hs
      rw [ih hi (hl ▸ ht), hs]
    obtain ⟨n, rfl | rfl⟩ := hf.only o List.mem_cons_self
    · rcases deed_commit s n (out n) with ⟨l, hl, rfl, hu, hd⟩ | ⟨hno, hd⟩
      · have hs := hd ▸ step_ledger s (.commit l.generation (out l.generation))
        have hloads : (step s (.commit l.generation (out l.generation))).loads =
            s.loads.map (Ledger.mark l.generation) := congrArg Ledger.loads hs
        rw [ih hi (hloads ▸ hf.commit), hs]
        exact Ledger.done_finished h out hl hu
      · exact hq hd (hf.tail (fun l hl hc e => hno l hl hc (by injection e)) fun l hl hc e => by cases e)
    · rcases deed_settle s n with ⟨-, -, -, -, hd⟩ | ⟨hno, hd⟩
      · have hs := hd ▸ step_ledger s (.settle n)
        have hloads : (step s (.settle n)).loads = s.loads.filter (·.generation ≠ n) := congrArg Ledger.loads hs
        rw [ih hi (hloads ▸ hf.settle), hs, Ledger.done_settled]
      · exact hq hd (hf.tail (fun l hl hc e => by cases e) fun l hl hc e => hno l hl hc (by injection e))

/-! ## Calls, before any of their loads ends -/

/-- a call from outside -/
inductive Call where
  | reload
  | event (e : FileEvent)
  | repoint (setting : Path)

def Call.op : Call → Op
  | .reload => .reload
  | .event e => .event e
  | .repoint setting => .repoint setting

/-- what a number is taken for -/
inductive Take where
  | load
  | delete
deriving DecidableEq, Repr

/-- the number that a call takes while the cache looks at a path: a setting for the same file takes none -/
def Call.take? (root : Path) (path : Option Path) : Call → Option Take
  | .reload => some .load
  | .event .deleted => some .delete
  | .event _ => some .load
  | .repoint setting => if path.any (Path.same · (Path.databaseFile root setting)) then none else some .load

/-- the path that the cache looks at after a call -/
def Call.moved (root : Path) (path : Option Path) : Call → Option Path
  | .repoint setting =>
    if path.any (Path.same · (Path.databaseFile root setting)) then path else some (Path.databaseFile root setting)
  | _ => path

/-- the numbers that calls take, one after another -/
def takes (root : Path) : Option Path → List Call → List Take
  | _, [] => []
  | path, c :: calls => (c.take? root path).toList ++ takes root (c.moved root path) calls

theorem call_path {s : St} {root : Path} (hr : s.root = some root) (c : Call) :
    (step s c.op).path = c.moved root s.path := by
  cases c with
  | reload => exact startLoad_path s
  | event e => exact handle_path s e
  | repoint setting =>
    simp only [Call.op, step, repoint, hr, Call.moved]
    split_ifs
    · rfl
    · rw [startLoad_path]; rfl
    · rw [startLoad_path]

/-- a call takes no number and changes nothing, starts a load, or clears the map -/
theorem call_cases {s : St} {root path : Path} (hr : s.root = some root) (hp : s.path = some path) (c : Call) :
    (c.take? root s.path = none ∧ step s c.op = s) ∨
      (c.take? root s.path = some .load ∧ ∃ p, deed s c.op = .started (s.generation + 1) p) ∨
      (c.take? root s.path = some .delete ∧ deed s c.op = .cleared (s.generation + 1)) := by
  have hload : ∃ p, loadDeed s = .started (s.generation + 1) p := ⟨path, by simp [loadDeed, hr, hp]⟩
  cases c with
  | reload => exact Or.inr (Or.inl ⟨rfl, hload⟩)
  | event e =>
    have hn : s.root.isNone = false := by simp [hr]
    cases e with
    | deleted => exact Or.inr (Or.inr ⟨rfl, by simp [Call.op, deed, newsDeed, hn]⟩)
    | _ => exact Or.inr (Or.inl ⟨rfl, by simpa [Call.op, deed, newsDeed, hn] using hload⟩)
  | repoint setting =>
    simp only [Call.op, Call.take?, step, repoint, deed, repointDeed, hr]
    split_ifs
    · exact Or.inl ⟨rfl, rfl⟩
    · exact Or.inr (Or.inl ⟨rfl, _, rfl⟩)
    · exact Or.inr (Or.inl ⟨rfl, _, rfl⟩)

/-- what calls have done to a state when they have taken some numbers and none of their loads has ended -/
structure Called (s t : St) (ts : List Take) : Prop where
  none_taken : ts = [] → t = s
  generation : t.generation = s.generation + ts.length
  entries : t.entries = if .delete ∈ ts then {} else s.entries
  last_load : ts.getLast? = some .load → t.status = .loading
  last_delete : ts.getLast? = some .delete → t.found = false ∧ t.status = .notFound

theorem Called.refl (s : St) : Called s s [] :=
  ⟨fun _ => rfl, rfl, rfl, by simp, by simp⟩

theorem Called.cons {s t u : St} {x : Take} {ts : List Take} (h1 : Called s t [x]) (h2 : Called t u ts) :
    Called s u (x :: ts) := by
  refine ⟨by simp, ?_, ?_, fun h => ?_, fun h => ?_⟩
  · have := h1.generation
    rw [h2.generation, this]; simp only [List.length_cons, List.length_nil]; omega
  · rw [h2.entries, h1.entries]
    by_cases hx : .delete = x <;> by_cases hts : .delete ∈ ts <;> simp [hx, hts]
  · cases ts with
    | nil => rw [h2.none_taken rfl]; exact h1.last_load h
    | cons y ts => exact h2.last_load (by simpa using h)
  · cases ts with
    | nil => rw [h2.none_taken rfl]; exact h1.last_delete h
    | cons y ts => exact h2.last_delete (by simpa using h)

theorem called_started {s t : St} {p : Path} (h : t.ledger = s.ledger.after (.started (s.generation + 1) p)) :
    Called s t [.load] := by
  refine ⟨by simp, congrArg Ledger.generation h, ?_, fun _ => congrArg Ledger.status h, by simp⟩
  have := congrArg Ledger.entries h
  simpa [Ledger.after] using this

theorem called_cleared {s t : St} (h : t.ledger = s.ledger.after (.cleared (s.generation + 1))) :
    Called s t [.delete] := by
  refine ⟨by simp, congrArg Ledger.generation h, ?_, by simp, fun _ => ?_⟩
  · have := congrArg Ledger.entries h
    simpa [Ledger.after] using this
  · exact ⟨congrArg Ledger.found h, congrArg Ledger.status h⟩

theorem run_calls {s : St} {root : Path} (hr : s.root = some root) (hp : s.path.isSome) (calls : List Call) :
    Called s (run s (calls.map Call.op)) (takes root s.path calls) := by
  induction calls generalizing s with
  | nil => exact Called.refl s
  | cons c calls ih =>
    obtain ⟨path, hpath⟩ := Option.isSome_iff_exists.1 hp
    have hrest := ih ((step_root s c.op).trans hr) (step_path_isSome hp c.op)
    rw [call_path hr] at hrest
    rw [List.map_cons, run_cons, takes]
    rcases call_cases hr hpath c with ⟨ht, hs⟩ | ⟨ht, p, hd⟩ | ⟨ht, hd⟩
    · rw [ht]
      rw [hs] at hrest ⊢
      exact hrest
    · rw [ht]
      exact (called_started (hd ▸ step_ledger s c.op)).cons hrest
    · rw [ht]
      exact (called_cleared (hd ▸ step_ledger s c.op)).cons hrest

/-! ## The last load decides -/

namespace Ledger

/-- a settled ledger after calls that take numbers and the end of all their loads. A delete empties the map; of the
loads only the last can change anything, and it does so unless a delete comes after it. -/
def verdict (c : Ledger) (ts : List Take) (out : Nat → Outcome) : Ledger :=
  let n := c.generation + ts.length
  let kept := if Take.delete ∈ ts then {} else c.entries
  let rest := { c with entries := kept, generation := n, settled := n, loads := [] }
  match ts.getLast? with
  | none => c
  | some .load => rest.judge (out n)
  | some .delete => { rest with found := false, status := .notFound }

theorem judge_congr {c c' : Ledger} (he : c.entries = c'.entries) (hg : c.generation = c'.generation)
    (hs : c.settled = c'.settled) (hl : c.loads = c'.loads) (o : Outcome) : c.judge o = c'.judge o := by
  cases c
  cases c'
  obtain rfl := he
  obtain rfl := hg
  obtain rfl := hs
  obtain rfl := hl
  rcases o with e | d
  · cases e <;> rfl
  · rfl

end Ledger

theorem Called.done {s t : St} {ts : List Take} (h : Called s t ts) (hi : s.ledger.Inv) (hl : s.loads = [])
    (out : Nat → Outcome) : t.ledger.done out = s.ledger.verdict ts out := by
  unfold Ledger.verdict
  cases hts : ts.getLast? with
  | none =>
    rw [h.none_taken (List.getLast?_eq_none_iff.1 hts)]
    exact Ledger.done_nil hi hl out
  | some x =>
    cases x with
    | load =>
      have hst : t.ledger.status = .loading := h.last_load hts
      rw [Ledger.done, if_pos hst, ledger_generation, h.generation]
      show t.ledger.closed.judge _ = Ledger.judge _ _
      apply Ledger.judge_congr
      · exact h.entries
      · exact h.generation
      · exact h.generation
      · rfl
    | delete =>
      obtain ⟨hf, hs⟩ := h.last_delete hts
      have hne : t.ledger.status ≠ .loading := by rw [ledger_status, hs]; simp
      rw [Ledger.done, if_neg hne]
      simp only [Ledger.closed, ledger_entries, ledger_found, ledger_status, ledger_generation, h.entries, hf, hs,
        h.generation]

/-- **The last load that has started decides.** From a settled state that a cache with a root has reached, calls are
made before any of their loads ends, and then those loads end in any order with any outcomes. What is left depends on
the calls and on the outcome of the load with the last number, and on nothing else; calls that take no number leave
everything as it was. -/
theorem last_started_decides (root setting : Path) (watching : Bool) (before : List Op) (calls : List Call)
    (out : Nat → Outcome) (steps : List Op) (hs : isSettled (run (init (some root) setting watching) before) = true)
    (hf : Finishing out (run (run (init (some root) setting watching) before) (calls.map Call.op)).loads steps) :
    let s := run (init (some root) setting watching) before
    let t := run (run s (calls.map Call.op)) steps
    let ts := takes root s.path calls
    t.ledger = s.ledger.verdict ts out ∧ (ts = [] → t = s) := by
  intro s t ts
  have hi : s.ledger.Inv := run_inv (init_inv _ _ _) before
  have hl : s.loads = [] := List.isEmpty_iff.1 hs
  have hr : s.root = some root := (run_root _ _).trans (init_root _ _ _)
  have hc : Called s (run s (calls.map Call.op)) ts :=
    run_calls hr (run_path_isSome (init_path_isSome _ _ _) _) calls
  refine ⟨?_, fun hts => ?_⟩
  · exact (run_finishing (run_inv hi _) hf.awaits).trans (hc.done hi hl out)
  · have hq := hc.none_taken hts
    -- no load has started, so there is no step to take
    have hnil : steps = [] := List.eq_nil_iff_forall_not_mem.2 fun o ho => by
      obtain ⟨l, hm, -⟩ := hf.only o ho
      rw [hq, hl] at hm; cases hm
    show run (run s (calls.map Call.op)) steps = s
    rw [hq, hnil]; rfl

/-- two loads, a move, a delete and a load of which only the last counts: it ends first and finds no file -/
theorem last_started_decides_out_of_order :
    let s := run (init (some "/p") [] true) [.commit 1 (.ok oneFile), .settle 1]
    let calls : List Call := [.reload, .repoint "out", .event .deleted, .event .created]
    let there : Path := "/p/out/compile_commands.json"
    let out : Nat → Outcome := fun n => if n = 5 then .error (.notFound there) else .ok oneFile
    let order : List Load := [⟨5, there, false⟩, ⟨3, there, false⟩, ⟨2, "/p/compile_commands.json", false⟩]
    isSettled s = true ∧ order.Perm (run s (calls.map Call.op)).loads ∧
      (run (run s (calls.map Call.op)) (order.flatMap fun l => ending l (out l.generation))).ledger =
        { entries := {}, found := false, status := .notFound, generation := 5, settled := 5, loads := [] } := by
  intro s calls there out order
  have hs : isSettled s = true := by decide
  have hp : order.Perm (run s (calls.map Call.op)).loads := by decide
  refine ⟨hs, hp, ?_⟩
  rw [(last_started_decides "/p" [] true _ calls out _ hs (finishing_of_perm out hp)).1]
  decide

end IncludeAudit.Cache
