/-
What a refused call says about the database. A call that prepares a file looks at the database twice before it
refuses: first it finds that the database is not valid, then it waits once more and names the status. Other things
may happen in between, so the status can be `valid` although the call refuses because the database is not.

- `Judges` and `Refuses`: the two looks, with what has happened before the first and between them.
- `attend_told`: every moment keeps what a call has been told so far.
- `Refuses.valid_iff`: what has to happen between the two looks for the status to be `valid`.
- `refusal_names_valid_iff`: a call refuses with the status `valid` exactly when a load that has started since the
  call has put its entries in place between the two looks, as the last to take a number.
- `refusal_names_valid`: a call that does.
-/
import IncludeAudit.Proofs.Cache.Supply
import IncludeAudit.Session.Meanwhile

namespace IncludeAudit.Session

open Cache (St Op Load run isReady isValid target Delivered)

/-! ## The two looks of a refused call -/

/-- what happens to the database in some moments -/
def happened (moments : List Moment) : List Op :=
  moments.filterMap fun
    | .op o => some o
    | .turn _ _ => none

@[simp] theorem happened_nil : happened [] = [] := rfl

@[simp] theorem happened_op (o : Op) (moments : List Moment) :
    happened (.op o :: moments) = o :: happened moments := rfl

@[simp] theorem happened_turn (t : Tree) (here : Place) (moments : List Moment) :
    happened (.turn t here :: moments) = happened moments := rfl

/-- the first look of a call that was asked in a state: after some operations its wait is over, and the database is
not valid -/
structure Judges (c : St) (before : List Op) (path : Option Path) : Prop where
  ready : isReady (run c before) (target c) = true
  invalid : isValid (run c before) = false
  path : (run c before).path = path

/-- how a call refuses: after some more operations its second wait is over, and it names the status -/
structure Refuses (c : St) (before between : List Op) (path : Option Path) (status : Status) : Prop
    extends Judges c before path where
  explained : isReady (run c (before ++ between)) (target (run c before)) = true
  status : (run c (before ++ between)).status = status

/-- what a call that was asked in a state has been told, after some operations -/
def Told (c : St) (ops : List Op) : Preparing → Prop
  | .judging n => n = target c
  | .explaining path n =>
    ∃ before between, ops = before ++ between ∧ Judges c before path ∧ n = target (run c before)
  | .done (.error (.databaseInvalid path status)) =>
    ∃ before between after, ops = before ++ between ++ after ∧ Refuses c before between path status
  | _ => True

theorem Told.op {c : St} {ops : List Op} {p : Preparing} (h : Told c ops p) (o : Op) : Told c (ops ++ [o]) p := by
  cases p with
  | judging n => exact h
  | explaining path n =>
    obtain ⟨before, between, rfl, hlook⟩ := h
    exact ⟨before, between ++ [o], List.append_assoc _ _ _, hlook⟩
  | identifying => trivial
  | seeking key n => trivial
  | done answer =>
    rcases answer with (⟨path, status⟩ | file) | prepared
    · obtain ⟨before, between, after, rfl, hr⟩ := h
      exact ⟨before, between, after ++ [o], List.append_assoc _ _ _, hr⟩
    · trivial
    · trivial

theorem Told.turn {s : Session} {c : St} {ops : List Op} {p : Preparing} (hc : s.cache = run c ops)
    (h : Told c ops p) (t : Tree) (here : Place) (file : Path) : Told c ops (advance t here s file p) := by
  cases p with
  | judging n =>
    obtain rfl : n = target c := h
    simp only [advance]
    split_ifs with hready hvalid
    · exact rfl
    · trivial
    · rw [hc] at hready hvalid ⊢
      exact ⟨ops, [], (List.append_nil _).symm, ⟨by simpa using hready, by simpa using hvalid, rfl⟩, rfl⟩
  | explaining path n =>
    simp only [advance]
    split_ifs with hready
    · exact h
    · obtain ⟨before, between, rfl, hlook, rfl⟩ := h
      rw [hc] at hready ⊢
      exact ⟨before, between, [], (List.append_nil _).symm, hlook, by simpa using hready, rfl⟩
  | identifying => trivial
  | seeking key n =>
    simp only [advance]
    split_ifs
    · trivial
    · split <;> trivial
  | done answer => exact h

/-- every moment keeps what a call has been told -/
theorem attend_told (file : Path) {c : St} (moments : List Moment) {s : Session} {ops : List Op} {p : Preparing}
    (hc : s.cache = run c ops) (h : Told c ops p) :
    Told c (ops ++ happened moments) (attend file s p moments).2 := by
  induction moments generalizing s ops p with
  | nil => simpa [attend] using h
  | cons m moments ih =>
    cases m with
    | op o =>
      have hstep : (s.step o).cache = run c (ops ++ [o]) := by
        rw [Cache.run_append, ← hc]; rfl
      have hnext := ih hstep (h.op o)
      rwa [List.append_assoc] at hnext
    | turn t here => exact ih hc (h.turn hc t here file)

/-! ## What the status says -/

/-- the status of a refusal is `valid` exactly when between the two looks a load that has started since the call has
put its entries in place, as the last to take a number -/
theorem Refuses.valid_iff {c : St} {before between : List Op} {path : Option Path} {status : Status}
    (h : Refuses c before between path status) (hi : c.ledger.Inv) (ht : (run c before).ledger.Tells) (n : Nat) :
    status = .valid n ↔
      ∃ l d, Delivered (run c before) between l d ∧ target c < l.generation ∧ d.size = n ∧ n ≠ 0 := by
  have hij : (run c before).ledger.Inv := Cache.run_inv hi before
  have hend : (run (run c before) between).status = status := by
    rw [← Cache.run_append, h.status]
  constructor
  · rintro rfl
    -- the status was not there at the first look, where the database was not valid
    have hbefore : (run c before).status ≠ .valid n := by
      intro hn
      obtain ⟨hf, hd, h1⟩ := ht.valid n hn
      have hinvalid := h.invalid
      simp only [Cache.ledger_found, Cache.ledger_entries] at hf hd
      simp [isValid, hf, hd] at hinvalid
      omega
    obtain ⟨l, d, hl, hd⟩ := Cache.exists_delivered hbefore hend
    obtain ⟨first, later, -, hcur, -⟩ := id hl
    have hready := of_decide_eq_true (Cache.isReady_run h.ready first)
    exact ⟨l, d, hl, hcur.lt_generation (Cache.run_inv hij first) hready, hd⟩
  · rintro ⟨l, d, hl, -, rfl, hn⟩
    exact hend.symm.trans (hl.status hij hn)

/-- **When a refused call names a valid database.** A call is asked in any state that a session can be in, and
whatever happens meanwhile it refuses because the database is not valid. Then it has looked twice: the wait for the
number that was the last one taken when it was asked was over and the database was not valid, which gives the path;
then the wait for the number that was the last one taken at that look was over, which gives the status. The status is
`valid` exactly when between the two looks a load that has started since the call put its entries in place, and no
number was taken after that. -/
theorem refusal_names_valid_iff (root setting : Path) (settings : Settings Path) (watching : Bool) (history : List Op)
    (file : Path) (moments : List Moment) (path : Option Path) (status : Status) :
    let s : Session := { root, settings, cache := run (Cache.init (some root) setting watching) history }
    (attend file s s.asked moments).2 = .done (.error (.databaseInvalid path status)) →
      ∃ before between after, happened moments = before ++ between ++ after ∧
        Refuses s.cache before between path status ∧
        ∀ n, status = .valid n ↔
          ∃ l d, Delivered (run s.cache before) between l d ∧ target s.cache < l.generation ∧ d.size = n ∧ n ≠ 0 := by
  intro s hrefused
  have hasked : Told s.cache [] s.asked := rfl
  have htold : Told s.cache (happened moments) (attend file s s.asked moments).2 :=
    attend_told file moments rfl hasked
  rw [hrefused] at htold
  obtain ⟨before, between, after, hops, hr⟩ := htold
  have hi : s.cache.ledger.Inv := Cache.run_inv (Cache.init_inv _ _ _) history
  have ht : (run s.cache before).ledger.Tells := by
    rw [← Cache.run_append]
    exact Cache.run_tells root setting watching (history ++ before)
  exact ⟨before, between, after, hops, hr, hr.valid_iff hi ht⟩

/-- the load that the call waits for is superseded, and the one that supersedes it finds no file -/
theorem refusal_names_valid_missing :
    let turn : Moment := .turn { nodes := [] } []
    let path : Path := "/p/compile_commands.json"
    let moments : List Moment :=
      [turn, .op (.event .changed), .op (.commit 1 (.ok Cache.oneFile)), .op (.settle 1), turn, turn,
        .op (.commit 2 (.error (.notFound path))), .op (.settle 2), turn]
    let s : Session := { root := "/p", settings := {}, cache := run (Cache.init (some "/p") [] false) [] }
    (attend "/p/a.c" s s.asked moments).2 = .done (.error (.databaseInvalid (some path) .notFound)) ∧
      ∃ before between after, happened moments = before ++ between ++ after ∧
        Refuses s.cache before between (some path) .notFound ∧
        ∀ l d, Delivered (run s.cache before) between l d → target s.cache < l.generation → d.size = 0 := by
  intro turn path moments s
  have hrefused : (attend "/p/a.c" s s.asked moments).2 = .done (.error (.databaseInvalid (some path) .notFound)) :=
    rfl
  obtain ⟨before, between, after, hops, hr, hiff⟩ :=
    refusal_names_valid_iff "/p" [] {} false [] "/p/a.c" moments (some path) .notFound hrefused
  refine ⟨hrefused, before, between, after, hops, hr, fun l d hl hlt => ?_⟩
  by_contra hd
  cases (hiff d.size).2 ⟨l, d, hl, hlt, rfl, hd⟩

/-- **A call can refuse a database and call it valid.** While it waits for its first load, news arrives that the file
is gone and then that it is back. The delete ends the wait: the database is not valid. The load that the return has
started is over when the status is named. -/
theorem refusal_names_valid :
    let s := init "/p" {} true
    let scene : Cache.Scene :=
      { tree := Cache.brokenOffProject, here := [], underWay := [.news 1 .deleted, .news 1 .created] }
    let refusal : Refusal := .databaseInvalid (some "/p/compile_commands.json") (.valid 1)
    (attend "/p/a.c" s s.asked (meanwhile scene s).2).2 = .done (.error refusal) ∧
      refusal.message =
        "compilation database /p/compile_commands.json is missing or invalid (valid (1 entries))" := by
  exact ⟨rfl, by decide⟩

end IncludeAudit.Session
