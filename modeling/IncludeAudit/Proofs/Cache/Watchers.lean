/-
Which watcher can act. Every watcher that is put up begins an epoch of its own, and so does taking one down; news
counts only under the epoch that runs. News can come in late, from any watcher there has ever been, and a watcher that
is asked for can be refused by the system: the one before is down all the same, and its epoch is over.

- `Shift` and `attempt_posts`: what becomes of path, epoch and watchers in a step, granted or refused.
- `attempts_inv`: each watcher has an epoch of its own, and the one that is up was put up last, on the current path.
- `up_of_attempt`: no step puts a watcher up again.
- `only_current_watcher_acts`: the news of a watcher that is down changes nothing, whatever happens in between; the
  watcher that is up is the only one that counts, and it watches the file that the cache looks at.
- `closed_unwatched_iff`: a cache that was closed has no watcher again exactly as long as it does not move or is refused
  a watcher whenever it does, and until then no change to the tree reaches it.
- `closed_then_moved_watches`: a closed cache that moves puts up a watcher.
-/
import Mathlib.Tactic
import IncludeAudit.Cache.News
import IncludeAudit.Proofs.Cache.Ledger
import IncludeAudit.Proofs.Path.DatabaseFile

namespace IncludeAudit.Cache

/-! ## Refusals -/

/-- a step in which the system refuses a watcher that the step asks for -/
def refused (s : St) (o : Op) : St :=
  { step s o with
    watch := (step s o).watch.filter (· ∈ s.watchers)
    watchers := s.watchers }

/-- something that happens, and whether the system grants a watcher that is asked for then -/
structure Attempt where
  op : Op
  granted : Bool := true

/-- one attempt -/
def attempt (s : St) (a : Attempt) : St :=
  if a.granted then step s a.op else refused s a.op

/-- one attempt after another -/
def attempts (s : St) (as : List Attempt) : St :=
  as.foldl attempt s

/-- a watched cache for a project, whose first watcher is granted or refused -/
def opened (granted : Bool) (root : Option Path) (setting : Path) : St :=
  if granted then init root setting true else { init root setting true with watch := none, watchers := [] }

/-! ## Posts -/

/-- the part of the state that keeps account of watchers -/
structure Posts where
  path : Option Path
  epoch : Nat
  watch : Option Watch
  watchers : List Watch

/-- the posts of a state -/
def St.posts (s : St) : Posts where
  path := s.path
  epoch := s.epoch
  watch := s.watch
  watchers := s.watchers

/-- what becomes of the watcher that is up -/
inductive Shift where
  | kept
  /-- it gives way to one of the file moved to -/
  | moved (path : Path)
  | closed

/-- what an operation does to the watcher that is up -/
def shift (s : St) : Op → Shift
  | .repoint setting =>
    match s.root with
    | none => .kept
    | some root =>
      let path := Path.databaseFile root setting
      if s.path.any (Path.same · path) then .kept else .moved path
  | .close => .closed
  | _ => .kept

namespace Posts

/-- the posts after a shift; a watcher that is asked for is granted or refused -/
def after (c : Posts) (granted : Bool) : Shift → Posts
  | .kept => c
  | .moved path =>
    let watch : Option Watch := if granted then some ⟨c.epoch + 1, path⟩ else none
    { path := some path, epoch := c.epoch + 1, watch, watchers := c.watchers ++ watch.toList }
  | .closed => { c with epoch := c.epoch + 1, watch := none }

structure Inv (c : Posts) : Prop where
  /-- each watcher has an epoch of its own, later ones a later one -/
  ordered : (c.watchers.map Watch.epoch).Pairwise (· < ·)
  past : ∀ w ∈ c.watchers, w.epoch ≤ c.epoch
  /-- the watcher that is up has the epoch that runs and watches the current file -/
  up : ∀ w, c.watch = some w → w ∈ c.watchers ∧ w.epoch = c.epoch ∧ c.path = some w.path
  /-- no other has the epoch that runs -/
  current : ∀ w ∈ c.watchers, w.epoch = c.epoch → c.watch = some w

/-- no watcher so far has the epoch that comes next -/
theorem Inv.epoch_ne {c : Posts} (h : c.Inv) {w : Watch} (hw : w ∈ c.watchers) : w.epoch ≠ c.epoch + 1 := by
  have := h.past w hw
  omega

theorem closed_inv {c : Posts} (h : c.Inv) (path : Option Path) :
    ({ path, epoch := c.epoch + 1, watch := none, watchers := c.watchers } : Posts).Inv where
  ordered := h.ordered
  past w hw := Nat.le_succ_of_le (h.past w hw)
  up w hw := by cases hw
  current w hw he := absurd he (h.epoch_ne hw)

theorem moved_inv {c : Posts} (h : c.Inv) (path : Path) : (c.after true (.moved path)).Inv := by
  refine ⟨?_, fun w hw => ?_, fun w hw => ?_, fun w hw he => ?_⟩
  · simp only [after, if_true, Option.toList_some, List.map_append, List.map_cons, List.map_nil,
      List.pairwise_append, List.mem_map]
    refine ⟨h.ordered, List.pairwise_singleton _ _, ?_⟩
    rintro n ⟨w, hw, rfl⟩ m hm
    have := h.past w hw
    rw [List.mem_singleton.1 hm]
    omega
  · simp only [after, if_true, Option.toList_some, List.mem_append, List.mem_singleton] at hw ⊢
    rcases hw with hw | rfl
    · exact Nat.le_succ_of_le (h.past w hw)
    · exact le_rfl
  · obtain rfl : ⟨c.epoch + 1, path⟩ = w := Option.some.inj hw
    exact ⟨List.mem_append_right _ (List.mem_singleton_self _), rfl, rfl⟩
  · simp only [after, if_true, Option.toList_some, List.mem_append, List.mem_singleton] at hw he ⊢
    rcases hw with hw | rfl
    · exact absurd he (h.epoch_ne hw)
    · rfl

theorem after_inv {c : Posts} (h : c.Inv) (granted : Bool) (d : Shift) : (c.after granted d).Inv := by
  cases d with
  | kept => exact h
  | moved path =>
    cases granted with
    | true => exact moved_inv h path
    | false =>
      have hr : c.after false (.moved path) = ⟨some path, c.epoch + 1, none, c.watchers⟩ := by simp [after]
      rw [hr]
      exact closed_inv h _
  | closed => exact closed_inv h _

theorem mem_after {c : Posts} {w : Watch} (hw : w ∈ c.watchers) (granted : Bool) (d : Shift) :
    w ∈ (c.after granted d).watchers := by
  cases d with
  | moved path => exact List.mem_append_left _ hw
  | _ => exact hw

/-- only a watcher that was up before, and did not have to give way, is up of those there were: one that is put up has
an epoch that no watcher has had -/
theorem up_of_after {c : Posts} (h : c.Inv) {w : Watch} (hw : w ∈ c.watchers) {granted : Bool} {d : Shift}
    (hu : (c.after granted d).watch = some w) : d = .kept ∧ c.watch = some w := by
  cases d with
  | kept => exact ⟨rfl, hu⟩
  | moved path =>
    simp only [after] at hu
    split_ifs at hu
    exact absurd (congrArg Watch.epoch (Option.some.inj hu)).symm (h.epoch_ne hw)
  | closed => cases hu

end Posts

/-! ## A step on the posts -/

theorem startLoad_posts (s : St) : (startLoad s).posts = s.posts := by
  rw [startLoad_eq]; rfl

/-- a database file can always be watched -/
theorem watch_databaseFile (n : Nat) (root setting : Path) :
    (Watch.on n (Path.databaseFile root setting)).toOption = some ⟨n, Path.databaseFile root setting⟩ := by
  rw [Watch.on, if_pos (Path.isSome_fileName_databaseFile root setting)]
  rfl

theorem repoint_posts {s : St} (hw : s.watching = true) (setting : Path) :
    (repoint s setting).posts = s.posts.after true (shift s (.repoint setting)) := by
  unfold repoint shift
  cases s.root with
  | none => rfl
  | some root =>
    simp only [hw, if_true]
    split_ifs
    · rfl
    · rw [startLoad_posts]
      simp [putUp, watch_databaseFile, St.posts, Posts.after]

theorem step_posts {s : St} (hw : s.watching = true) (o : Op) :
    (step s o).posts = s.posts.after true (shift s o) := by
  cases o with
  | repoint setting => exact repoint_posts hw setting
  | close => rfl
  | _ => rw [step_eq (by simp) (by simp)]; rfl

/-- where a watcher is refused, the one before is down all the same, and its epoch is over -/
theorem refused_posts {s : St} (hw : s.watching = true) (hi : s.posts.Inv) (o : Op) :
    (refused s o).posts = s.posts.after false (shift s o) := by
  have h : (refused s o).posts =
      { (step s o).posts with
        watch := (step s o).posts.watch.filter (· ∈ s.posts.watchers)
        watchers := s.posts.watchers } := rfl
  rw [h, step_posts hw]
  cases shift s o with
  | kept =>
    have hup : s.posts.watch.filter (· ∈ s.posts.watchers) = s.posts.watch := by
      refine Option.ext fun w => ?_
      rw [Option.filter_eq_some_iff]
      exact and_iff_left_of_imp fun hm => decide_eq_true (hi.up w hm).1
    simp only [Posts.after, hup]
  | moved path =>
    have hno : (⟨s.posts.epoch + 1, path⟩ : Watch) ∉ s.posts.watchers := fun hm => hi.epoch_ne hm rfl
    simp [Posts.after, hno]
  | closed => rfl

theorem attempt_posts {s : St} (hw : s.watching = true) (hi : s.posts.Inv) (a : Attempt) :
    (attempt s a).posts = s.posts.after a.granted (shift s a.op) := by
  unfold attempt
  cases a.granted with
  | true => exact step_posts hw a.op
  | false => exact refused_posts hw hi a.op

theorem attempt_watching (s : St) (a : Attempt) : (attempt s a).watching = s.watching := by
  unfold attempt
  split_ifs
  · exact step_watching s a.op
  · exact step_watching s a.op

/-! ## Over a run -/

/-- no watcher has been put up yet -/
theorem empty_inv : (⟨none, 0, none, []⟩ : Posts).Inv := by
  constructor <;> simp

theorem opened_posts (granted : Bool) (root setting : Path) :
    (opened granted (some root) setting).posts =
      (⟨none, 0, none, []⟩ : Posts).after granted (.moved (Path.databaseFile root setting)) := by
  have h : (init (some root) setting true).posts =
      (⟨none, 0, none, []⟩ : Posts).after true (.moved (Path.databaseFile root setting)) := by
    simp only [init, startLoad_posts]
    simp [putUp, watch_databaseFile, St.posts, Posts.after]
  cases granted with
  | true => exact h
  | false =>
    have hr : (opened false (some root) setting).posts =
        { (init (some root) setting true).posts with watch := none, watchers := [] } := rfl
    rw [hr, h]
    rfl

theorem opened_inv (granted : Bool) (root : Option Path) (setting : Path) :
    (opened granted root setting).watching = true ∧ (opened granted root setting).posts.Inv := by
  cases root with
  | none => cases granted <;> exact ⟨rfl, empty_inv⟩
  | some root =>
    refine ⟨by cases granted <;> rfl, ?_⟩
    rw [opened_posts]
    exact Posts.after_inv empty_inv granted _

theorem attempt_inv {s : St} (hw : s.watching = true) (hi : s.posts.Inv) (a : Attempt) : (attempt s a).posts.Inv := by
  rw [attempt_posts hw hi]
  exact Posts.after_inv hi a.granted _

theorem attempts_inv {s : St} (hw : s.watching = true) (hi : s.posts.Inv) (as : List Attempt) :
    (attempts s as).watching = true ∧ (attempts s as).posts.Inv := by
  induction as generalizing s with
  | nil => exact ⟨hw, hi⟩
  | cons a as ih => exact ih ((attempt_watching s a).trans hw) (attempt_inv hw hi a)

theorem mem_attempt {s : St} (hw : s.watching = true) (hi : s.posts.Inv) {w : Watch} (hm : w ∈ s.watchers)
    (a : Attempt) : w ∈ (attempt s a).watchers := by
  have h := Posts.mem_after (c := s.posts) hm a.granted (shift s a.op)
  rw [← attempt_posts hw hi] at h
  exact h

theorem up_of_attempt {s : St} (hw : s.watching = true) (hi : s.posts.Inv) {w : Watch} (hm : w ∈ s.watchers)
    {a : Attempt} (hu : (attempt s a).watch = some w) : shift s a.op = .kept ∧ s.watch = some w := by
  have hu : (attempt s a).posts.watch = some w := hu
  rw [attempt_posts hw hi] at hu
  exact Posts.up_of_after hi hm hu

theorem attempts_down {s : St} (hw : s.watching = true) (hi : s.posts.Inv) {w : Watch} (hm : w ∈ s.watchers)
    (hd : s.watch ≠ some w) (as : List Attempt) : w ∈ (attempts s as).watchers ∧ (attempts s as).watch ≠ some w := by
  induction as generalizing s with
  | nil => exact ⟨hm, hd⟩
  | cons a as ih =>
    exact ih ((attempt_watching s a).trans hw) (attempt_inv hw hi a) (mem_attempt hw hi hm a)
      fun hu => hd (up_of_attempt hw hi hm hu).2

/-! ## News -/

/-- news under an epoch that the watcher that is up does not have changes nothing -/
theorem news_unheard {s : St} (hi : s.posts.Inv) {n : Nat} (h : ∀ w, s.watch = some w → w.epoch ≠ n) (e : FileEvent) :
    step s (.news n e) = s := by
  simp only [step, hear]
  split_ifs with hc
  · rw [Bool.and_eq_true] at hc
    obtain ⟨w, hm, hn⟩ := List.any_eq_true.1 hc.1
    have hn : w.epoch = n := of_decide_eq_true hn
    have he : s.epoch = n := of_decide_eq_true hc.2
    exact absurd hn (h w (hi.current w hm (hn.trans he.symm)))
  · rfl

theorem news_up {s : St} (hi : s.posts.Inv) {w : Watch} (hu : s.watch = some w) (e : FileEvent) :
    step s (.news w.epoch e) = handle s e := by
  obtain ⟨hm, he, -⟩ := hi.up w hu
  have hany : s.watchers.any (·.epoch = w.epoch) = true := List.any_eq_true.2 ⟨w, hm, decide_eq_true rfl⟩
  simp [step, hear, hany, show s.epoch = w.epoch from he.symm]

/-- a watcher that is down is never heard of again -/
theorem attempts_silent {s : St} (hw : s.watching = true) (hi : s.posts.Inv) {w : Watch} (hm : w ∈ s.watchers)
    (hd : s.watch ≠ some w) (later : List Attempt) (e : FileEvent) :
    (attempts s later).watch ≠ some w ∧ step (attempts s later) (.news w.epoch e) = attempts s later := by
  obtain ⟨hm', hd'⟩ := attempts_down hw hi hm hd later
  have hi' := (attempts_inv hw hi later).2
  refine ⟨hd', news_unheard hi' (fun w' hu he => hd' ?_) e⟩
  exact hi'.current w hm' (he.symm.trans (hi'.up w' hu).2.1)

/-- a watcher is down once the cache has been closed or has moved -/
theorem attempt_replaced {s : St} (hw : s.watching = true) (hi : s.posts.Inv) {a : Attempt}
    (ha : a.op = .close ∨ (attempt s a).path ≠ s.path) {w : Watch} (hm : w ∈ s.watchers) :
    (attempt s a).watch ≠ some w := by
  intro hu
  have hk := (up_of_attempt hw hi hm hu).1
  rcases ha with h | h
  · simp [h, shift] at hk
  · have hp := attempt_posts hw hi a
    rw [hk] at hp
    exact h (congrArg Posts.path hp)

/-- unless it is refused, a watcher is up on the file that the cache has moved to -/
theorem attempt_moved {s : St} (hw : s.watching = true) (hi : s.posts.Inv) {a : Attempt} (hg : a.granted = true)
    (ha : (attempt s a).path ≠ s.path) : ∃ w, (attempt s a).watch = some w ∧ (attempt s a).path = some w.path := by
  have hp := attempt_posts hw hi a
  cases hs : shift s a.op with
  | moved path =>
    rw [hs, hg] at hp
    exact ⟨⟨s.epoch + 1, path⟩, congrArg Posts.watch hp, congrArg Posts.path hp⟩
  | _ =>
    rw [hs] at hp
    exact absurd (congrArg Posts.path hp) ha

/-- **Only the watcher on the current file acts.** Watchers are put up, replaced and taken down in any order, and each
is granted or refused; news comes in whenever it likes. A watcher that is down, because it was replaced or the cache
was closed, stays down, and its news changes nothing. The one that is up watches the current file and is the only one
whose news counts: it alone has the epoch that runs, and no two have ever had the same. A cache that moves has one up,
unless it is refused. -/
theorem only_current_watcher_acts (granted : Bool) (root : Option Path) (setting : Path) (before : List Attempt) :
    let s := attempts (opened granted root setting) before
    (∀ w ∈ s.watchers, s.watch ≠ some w → ∀ later e,
      let t := attempts s later
      t.watch ≠ some w ∧ step t (.news w.epoch e) = t) ∧
    (∀ a : Attempt, a.op = .close ∨ (attempt s a).path ≠ s.path → ∀ w ∈ s.watchers, ∀ later e,
      let t := attempts (attempt s a) later
      t.watch ≠ some w ∧ step t (.news w.epoch e) = t) ∧
    (∀ w, s.watch = some w →
      w ∈ s.watchers ∧ s.path = some w.path ∧ ∀ e, step s (.news w.epoch e) = handle s e) ∧
    (∀ w ∈ s.watchers, w.epoch = s.epoch ↔ s.watch = some w) ∧ (s.watchers.map Watch.epoch).Nodup ∧
    (∀ a : Attempt, a.granted = true → (attempt s a).path ≠ s.path →
      ∃ w, (attempt s a).watch = some w ∧ (attempt s a).path = some w.path) := by
  intro s
  obtain ⟨hw, hi⟩ := opened_inv granted root setting
  obtain ⟨hw, hi⟩ := attempts_inv hw hi before
  refine ⟨fun w hm hd later e => attempts_silent hw hi hm hd later e, fun a ha w hm later e => ?_, fun w hu => ?_,
    fun w hm => ⟨hi.current w hm, fun hu => (hi.up w hu).2.1⟩, hi.ordered.imp ne_of_lt,
    fun a hg ha => attempt_moved hw hi hg ha⟩
  · exact attempts_silent ((attempt_watching s a).trans hw) (attempt_inv hw hi a) (mem_attempt hw hi hm a)
      (attempt_replaced hw hi ha hm) later e
  · obtain ⟨hm, -, hp⟩ := hi.up w hu
    exact ⟨hm, hp, fun e => news_up hi hu e⟩

/-- the watcher of the first file is replaced, the next one is refused, and the delete that the first had still under
way comes in after that -/
theorem only_current_watcher_acts_late :
    let first : Watch := ⟨1, "/p/compile_commands.json"⟩
    let s := attempts (opened true (some "/p") [])
      [{ op := .commit 1 (.ok oneFile) }, { op := .settle 1 }, { op := .repoint "b.json" }]
    let t := attempts s [{ op := .repoint "c.json", granted := false }]
    s.watch = some ⟨2, "/p/b.json"⟩ ∧ t.watch = none ∧ t.entries.size = 1 ∧
      step t (.news first.epoch .deleted) = t := by
  intro first s t
  have hm : first ∈ s.watchers := by decide
  have hd : s.watch ≠ some first := by decide
  have h := (only_current_watcher_acts true (some "/p") [] _).1 first hm hd
    [{ op := .repoint "c.json", granted := false }] .deleted
  exact ⟨by decide, by decide, by decide, h.2⟩

/-! ## After the end -/

/-- news of a watcher, as against a call or a step of a load -/
def Op.isNews : Op → Bool
  | .news _ _ => true
  | _ => false

/-- something is so all the way through -/
def Throughout (p : St → Prop) (s : St) (as : List Attempt) : Prop :=
  ∀ earlier, earlier <+: as → p (attempts s earlier)

/-- whenever the path changes, the watcher that is asked for is refused -/
def MovesRefused (s : St) (as : List Attempt) : Prop :=
  ∀ earlier a, earlier ++ [a] <+: as → (attempts s (earlier ++ [a])).path ≠ (attempts s earlier).path →
    a.granted = false

theorem Throughout.head {p : St → Prop} {s : St} {as : List Attempt} (h : Throughout p s as) : p s :=
  h [] List.nil_prefix

theorem Throughout.last {p : St → Prop} {s : St} {as : List Attempt} (h : Throughout p s as) : p (attempts s as) :=
  h as List.prefix_rfl

theorem throughout_nil {p : St → Prop} {s : St} : Throughout p s [] ↔ p s :=
  ⟨Throughout.head, fun h earlier he => by rwa [List.prefix_nil.1 he]⟩

theorem throughout_cons {p : St → Prop} {s : St} {a : Attempt} {as : List Attempt} :
    Throughout p s (a :: as) ↔ p s ∧ Throughout p (attempt s a) as := by
  refine ⟨fun h => ⟨h.head, fun earlier he => h (a :: earlier) (List.cons_prefix_cons.2 ⟨rfl, he⟩)⟩, ?_⟩
  rintro ⟨hs, h⟩ earlier he
  rcases List.prefix_cons_iff.1 he with rfl | ⟨rest, rfl, hrest⟩
  · exact hs
  · exact h rest hrest

theorem movesRefused_nil (s : St) : MovesRefused s [] := fun earlier a ha => by
  simpa using List.prefix_nil.1 ha

theorem movesRefused_cons {s : St} {a : Attempt} {as : List Attempt} :
    MovesRefused s (a :: as) ↔
      ((attempt s a).path ≠ s.path → a.granted = false) ∧ MovesRefused (attempt s a) as := by
  constructor
  · intro h
    refine ⟨h [] a (List.cons_prefix_cons.2 ⟨rfl, List.nil_prefix⟩), fun earlier b hb => ?_⟩
    exact h (a :: earlier) b (List.cons_prefix_cons.2 ⟨rfl, hb⟩)
  · rintro ⟨ha, h⟩ earlier b hb
    cases earlier with
    | nil =>
      obtain ⟨rfl, -⟩ := List.cons_prefix_cons.1 hb
      exact ha
    | cons c earlier =>
      obtain ⟨rfl, hrest⟩ := List.cons_prefix_cons.1 hb
      exact h earlier b hrest

/-- nothing is asked for where the path stays -/
theorem Throughout.movesRefused {s : St} {as : List Attempt} (h : Throughout (·.path = s.path) s as) :
    MovesRefused s as := by
  intro earlier a ha hne
  have hbefore := h earlier ((List.prefix_append earlier [a]).trans ha)
  exact absurd ((h _ ha).trans hbefore.symm) hne

/-- a watcher is put up only for a path that is not the current one -/
theorem shift_moved_ne {s : St} {o : Op} {path : Path} (h : shift s o = .moved path) : s.path ≠ some path := by
  cases o with
  | repoint setting =>
    simp only [shift] at h
    split at h
    · cases h
    · split_ifs at h with hany
      obtain rfl := Shift.moved.inj h
      intro hp
      rw [hp] at hany
      exact hany (Path.same_refl _)
  | _ => cases h

/-- while no watcher is up, one is put up just where the path changes and it is granted -/
theorem attempt_unwatched_iff {s : St} (hw : s.watching = true) (hi : s.posts.Inv) (hn : s.watch = none)
    (a : Attempt) : (attempt s a).watch = none ↔ ((attempt s a).path ≠ s.path → a.granted = false) := by
  have hp := attempt_posts hw hi a
  have hwatch := congrArg Posts.watch hp
  have hpath := congrArg Posts.path hp
  cases hs : shift s a.op with
  | kept =>
    rw [hs] at hwatch hpath
    exact iff_of_true (hwatch.trans hn) fun hne => absurd hpath hne
  | moved path =>
    rw [hs] at hwatch hpath
    have hne : (attempt s a).path ≠ s.path := fun h => shift_moved_ne hs (h.symm.trans hpath)
    cases hg : a.granted with
    | true =>
      rw [hg] at hwatch
      exact iff_of_false (fun h => nomatch hwatch.symm.trans h) fun h => nomatch h hne
    | false =>
      rw [hg] at hwatch
      exact iff_of_true hwatch fun _ => rfl
  | closed =>
    rw [hs] at hwatch hpath
    exact iff_of_true hwatch fun hne => absurd hpath hne

theorem throughout_unwatched_iff {s : St} (hw : s.watching = true) (hi : s.posts.Inv) (hn : s.watch = none)
    (as : List Attempt) : Throughout (·.watch = none) s as ↔ MovesRefused s as := by
  induction as generalizing s with
  | nil => exact iff_of_true (throughout_nil.2 hn) (movesRefused_nil s)
  | cons a as ih =>
    rw [throughout_cons, movesRefused_cons, ← attempt_unwatched_iff hw hi hn a]
    constructor
    · rintro ⟨-, h⟩
      exact ⟨h.head, (ih ((attempt_watching s a).trans hw) (attempt_inv hw hi a) h.head).1 h⟩
    · rintro ⟨ha, h⟩
      exact ⟨hn, (ih ((attempt_watching s a).trans hw) (attempt_inv hw hi a) ha).2 h⟩

/-- news that nobody hears asks for no watcher either -/
theorem attempt_news_unwatched {s : St} (hi : s.posts.Inv) (hn : s.watch = none) (granted : Bool) (n : Nat)
    (e : FileEvent) : attempt s ⟨.news n e, granted⟩ = s := by
  have hstep : step s (.news n e) = s := news_unheard hi (by simp [hn]) e
  cases granted with
  | true => exact hstep
  | false =>
    change refused s (.news n e) = s
    rw [refused, hstep, hn, Option.filter_none, ← hn]

/-- while no watcher is up, all news might as well not be there -/
theorem attempts_unwatched {s : St} (hw : s.watching = true) (hi : s.posts.Inv) {as : List Attempt}
    (h : Throughout (·.watch = none) s as) : attempts s as = attempts s (as.filter (!·.op.isNews)) := by
  induction as generalizing s with
  | nil => rfl
  | cons a as ih =>
    obtain ⟨hn, h⟩ := throughout_cons.1 h
    have hrest := ih ((attempt_watching s a).trans hw) (attempt_inv hw hi a) h
    change attempts (attempt s a) as = _
    rw [hrest]
    obtain ⟨o, granted⟩ := a
    cases o with
    | news n e => rw [attempt_news_unwatched hi hn]; rfl
    | _ => rfl

theorem edit_unwatched {s : St} (h : s.watch = none) {scene scene' : Scene} {change : Tree → Place → Tree.Edit}
    (he : scene.edit s change = .ok scene') : scene'.underWay = scene.underWay := by
  unfold Scene.edit at he
  cases hc : change scene.tree scene.here with
  | error e => rw [hc] at he; cases he
  | ok r =>
    rw [hc] at he
    simp only [h, List.append_nil] at he
    cases he
    rfl

/-- **How long a closed cache is left alone.** A cache that was closed holds no watcher again exactly as long as every
move of it is refused one, and so as long as it stays at its path; a move that is granted a watcher puts it up. As long
as there is none, all that happens is the same without any news, and a change to the tree sends none. -/
theorem closed_unwatched_iff (granted : Bool) (root : Option Path) (setting : Path) (before after : List Attempt) :
    let s := step (attempts (opened granted root setting) before) .close
    (Throughout (·.watch = none) s after ↔ MovesRefused s after) ∧
      (Throughout (·.path = s.path) s after → Throughout (·.watch = none) s after) ∧
      (∀ a : Attempt, a.granted = true → (attempt (attempts s after) a).path ≠ (attempts s after).path →
        ∃ w, (attempt (attempts s after) a).watch = some w ∧ (attempt (attempts s after) a).path = some w.path) ∧
      (Throughout (·.watch = none) s after →
        attempts s after = attempts s (after.filter (!·.op.isNews)) ∧
        ∀ scene scene' change, Scene.edit scene (attempts s after) change = .ok scene' →
          scene'.underWay = scene.underWay) := by
  intro s
  obtain ⟨hw, hi⟩ := opened_inv granted root setting
  obtain ⟨hw, hi⟩ := attempts_inv hw hi before
  have hws : s.watching = true := hw
  have his : s.posts.Inv := attempt_inv hw hi { op := .close }
  obtain ⟨hwl, hil⟩ := attempts_inv hws his after
  have hiff : Throughout (·.watch = none) s after ↔ MovesRefused s after := throughout_unwatched_iff hws his rfl after
  refine ⟨hiff, fun h => hiff.2 h.movesRefused, fun a hg ha => attempt_moved hwl hil hg ha, fun h => ?_⟩
  exact ⟨attempts_unwatched hws his h, fun scene scene' change he => edit_unwatched h.last he⟩

/-- a project with two databases for the same file -/
def twoDatabases : Tree where
  nodes :=
    let text : Text := "[\x7b\"file\":\"a.c\",\"command\":\"cc -c a.c\"\x7d]"
    let file : Node := .file (text.map fun c => c.toNat.toUInt8) Node.plainMode
    [(["p"], .directory), (["b.json", "p"], file), (["compile_commands.json", "p"], file)]

/-- **A closed cache that moves is watched again.** The file moved to is removed, and the cache is empty without a
call. -/
theorem closed_then_moved_watches :
    let scene : Scene := { tree := twoDatabases, here := [] }
    let s := step (scene.settle (init (some "/p") [] true)) .close
    let t := scene.settle (step s (.repoint "b.json"))
    s.watch = none ∧ t.watch = some ⟨3, "/p/b.json"⟩ ∧ t.entries.size = 1 ∧
      ∃ scene', scene.edit t (·.remove · "/p/b.json") = .ok scene' ∧
        (run t scene'.underWay).generation = t.generation + 1 ∧ (run t scene'.underWay).entries.size = 0 := by
  refine ⟨by decide +kernel, by decide +kernel, by decide +kernel, _, rfl, by decide +kernel, by decide +kernel⟩

/-- a closed cache that moves and is refused a watcher stays unwatched -/
example :
    let s := step (opened true (some "/p") []) .close
    let t := attempt s { op := .repoint "b.json", granted := false }
    t.path ≠ s.path ∧ t.watch = none := by
  decide

end IncludeAudit.Cache
