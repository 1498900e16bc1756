/-
The lexical normal form. Folding takes a dot out of a path, a name together with the `..` right behind it, or a `..`
right behind the root. In whatever order that is done, it can only end at one list of steps, and the normal form is
its plain spelling. So it makes no difference whether a path is folded before or after another one is joined to it.

- `Fold`: one fold, anywhere in a list of steps.
- `normalSteps_append`: lists of steps may be folded before they are put together.
- `folds_to_end_iff`: folding ends at the normal steps and nowhere else.
- `components_normal`: the normal form spells the normal steps.
- `normal_join_normal`: paths may be brought to normal form before they are joined; what the normal form looks like,
  and that it is the only one.
-/
import IncludeAudit.Proofs.Tree.Place

namespace IncludeAudit.Path

open Relation (ReflTransGen)

/-! ## Folding twice -/

theorem normalSteps_concat (cs : List Component) (c : Component) :
    normalSteps (cs ++ [c]) = (push (cs.foldl push []) c).reverse := by
  rw [normalSteps, List.foldl_append]
  rfl

/-- pushing what a push leaves is pushing what was there and then the new step -/
theorem foldl_push_reverse (done top : List Component) (c : Component) :
    (push top c).reverse.foldl push done = push (top.reverse.foldl push done) c := by
  cases c with
  | current => rfl
  | root => simp [push]
  | name n => simp [push]
  | parent =>
    cases top with
    | nil => rfl
    | cons d top => cases d <;> simp [push]

/-- folded steps lead from anywhere to where the steps lead that were folded -/
theorem foldl_push_normalSteps (done cs : List Component) :
    (normalSteps cs).foldl push done = cs.foldl push done := by
  induction cs using List.reverseRecOn with
  | nil => rfl
  | append_singleton cs c ih =>
    rw [normalSteps_concat, foldl_push_reverse, List.foldl_append]
    exact congrArg (push · c) ih

theorem normalSteps_append (cs ds : List Component) :
    normalSteps (normalSteps cs ++ normalSteps ds) = normalSteps (cs ++ ds) := by
  simp only [normalSteps, List.foldl_append]
  rw [← normalSteps, ← normalSteps, foldl_push_normalSteps, foldl_push_normalSteps]

theorem normalSteps_normalSteps (cs : List Component) : normalSteps (normalSteps cs) = normalSteps cs := by
  rw [normalSteps, foldl_push_normalSteps, normalSteps]

/-! ## One fold at a time -/

/-- one fold, anywhere in a list of steps -/
inductive Fold : List Component → List Component → Prop
  | dot (before after : List Component) : Fold (before ++ .current :: after) (before ++ after)
  | back (before after : List Component) (n : Text) : Fold (before ++ .name n :: .parent :: after) (before ++ after)
  | top (before after : List Component) : Fold (before ++ .root :: .parent :: after) (before ++ .root :: after)

variable {cs ds : List Component}

theorem Fold.normalSteps_eq (h : Fold cs ds) : normalSteps cs = normalSteps ds := by
  cases h <;> simp only [normalSteps, List.foldl_append, List.foldl_cons] <;> rfl

theorem Fold.length_lt (h : Fold cs ds) : ds.length < cs.length := by
  cases h <;> simp

theorem Fold.append_right (h : Fold cs ds) (es : List Component) : Fold (cs ++ es) (ds ++ es) := by
  cases h with
  | dot before after => simpa using Fold.dot before (after ++ es)
  | back before after n => simpa using Fold.back before (after ++ es) n
  | top before after => simpa using Fold.top before (after ++ es)

theorem folds_normalSteps_eq (h : ReflTransGen Fold cs ds) : normalSteps cs = normalSteps ds := by
  induction h with
  | refl => rfl
  | tail _ hstep ih => rw [ih, hstep.normalSteps_eq]

/-- a push is at most one fold -/
theorem folds_push (done : List Component) (c : Component) :
    ReflTransGen Fold (done.reverse ++ [c]) (push done c).reverse := by
  cases c with
  | current => simpa [push] using ReflTransGen.single (Fold.dot done.reverse [])
  | root => simpa [push] using ReflTransGen.refl
  | name n => simpa [push] using ReflTransGen.refl
  | parent =>
    cases done with
    | nil => exact .refl
    | cons d done =>
      cases d with
      | name n => simpa [push] using ReflTransGen.single (Fold.back done.reverse [] n)
      | root => simpa [push] using ReflTransGen.single (Fold.top done.reverse [])
      | current => simpa [push] using ReflTransGen.refl
      | parent => simpa [push] using ReflTransGen.refl

theorem folds_normalSteps (cs : List Component) : ReflTransGen Fold cs (normalSteps cs) := by
  induction cs using List.reverseRecOn with
  | nil => exact .refl
  | append_singleton cs c ih =>
    have hbefore : ReflTransGen Fold (cs ++ [c]) (normalSteps cs ++ [c]) :=
      ReflTransGen.lift (· ++ [c]) (fun _ _ h => Fold.append_right h [c]) _ _ ih
    rw [normalSteps_concat]
    exact hbefore.trans (folds_push _ c)

theorem length_push_le (done : List Component) (c : Component) : (push done c).length ≤ done.length + 1 := by
  unfold push
  split
  · exact Nat.le_succ _
  · exact Nat.le_succ_of_le (Nat.le_succ _)
  · exact Nat.le_succ _
  · exact le_rfl

theorem length_normalSteps_le (cs : List Component) : (normalSteps cs).length ≤ cs.length := by
  induction cs using List.reverseRecOn with
  | nil => rfl
  | append_singleton cs c ih =>
    have hpush := length_push_le (cs.foldl push []) c
    rw [normalSteps, List.length_reverse] at ih
    rw [normalSteps_concat, List.length_reverse, List.length_append, List.length_singleton]
    omega

/-- steps can be folded further unless they are normal -/
theorem fold_iff_ne (cs : List Component) : (∃ ds, Fold cs ds) ↔ normalSteps cs ≠ cs := by
  constructor
  · rintro ⟨ds, h⟩ hcs
    have hshort := length_normalSteps_le ds
    rw [← h.normalSteps_eq, hcs] at hshort
    exact absurd h.length_lt (not_lt.2 hshort)
  · intro hne
    rcases (folds_normalSteps cs).cases_head with h | ⟨ds, h, -⟩
    · exact absurd h.symm hne
    · exact ⟨ds, h⟩

/-- folding ends at the normal steps and nowhere else -/
theorem folds_to_end_iff {cs ds : List Component} :
    (ReflTransGen Fold cs ds ∧ ∀ es, ¬ Fold ds es) ↔ ds = normalSteps cs := by
  constructor
  · rintro ⟨h, hend⟩
    have hds : normalSteps ds = ds := by
      by_contra hne
      obtain ⟨es, hes⟩ := (fold_iff_ne ds).2 hne
      exact hend es hes
    rw [folds_normalSteps_eq h, hds]
  · rintro rfl
    exact ⟨folds_normalSteps cs, fun es hes => (fold_iff_ne _).1 ⟨es, hes⟩ (normalSteps_normalSteps cs)⟩

/-! ## What is left -/

theorem mem_push {done : List Component} {c d : Component} (h : d ∈ push done c) : d ∈ done ∨ d = c := by
  unfold push at h
  split at h
  · exact Or.inl h
  · exact Or.inl (List.mem_cons_of_mem _ h)
  · exact Or.inl h
  · exact (List.mem_cons.1 h).symm

theorem mem_normalSteps {d : Component} (h : d ∈ normalSteps cs) : d ∈ cs := by
  induction cs using List.reverseRecOn with
  | nil => cases h
  | append_singleton cs c ih =>
    rw [normalSteps_concat, List.mem_reverse] at h
    rcases mem_push h with h | rfl
    · exact List.mem_append_left _ (ih (List.mem_reverse.2 h))
    · exact List.mem_append_right _ List.mem_cons_self

/-- below no root, a push leaves names on top of a run of `..` -/
theorem push_relative (names : List Text) (n : Nat) {c : Component} (hc : c.leads = false) :
    ∃ (left : List Text) (m : Nat),
      push (names.map .name ++ List.replicate n .parent) c = left.map .name ++ List.replicate m .parent := by
  cases c with
  | root => cases hc
  | current => cases hc
  | name x => exact ⟨x :: names, n, by simp [push]⟩
  | parent =>
    cases names with
    | cons x names => exact ⟨names, n, rfl⟩
    | nil => exact ⟨[], n + 1, by cases n <;> rfl⟩

theorem foldl_push_relative (h : ∀ c ∈ cs, c.leads = false) :
    ∃ (names : List Text) (n : Nat), cs.foldl push [] = names.map .name ++ List.replicate n .parent := by
  induction cs using List.reverseRecOn with
  | nil => exact ⟨[], 0, rfl⟩
  | append_singleton cs c ih =>
    obtain ⟨names, n, hn⟩ := ih fun d hd => h d (List.mem_append_left _ hd)
    rw [List.foldl_append, hn]
    exact push_relative names n (h c (List.mem_append_right _ List.mem_cons_self))

theorem normalSteps_relative (h : ∀ c ∈ cs, c.leads = false) :
    ∃ (n : Nat) (names : List Text), normalSteps cs = List.replicate n .parent ++ names.map .name := by
  obtain ⟨names, n, hn⟩ := foldl_push_relative h
  exact ⟨n, names.reverse, by rw [normalSteps, hn, List.reverse_append, List.reverse_replicate, List.map_reverse]⟩

/-! ## Spelling the normal steps -/

/-- a dot in front of a relative path is no step of its normal form -/
theorem normalSteps_of_relative {p : Path} (h : isAbsolute p = false) :
    normalSteps (components p) = normalSteps (steps p) := by
  have hr : p.head? ≠ some '/' := of_decide_eq_false h
  rw [components_eq, lead, if_neg hr]
  split_ifs <;> rfl

theorem components_normal (p : Path) : components (normal p) = normalSteps (components p) := by
  cases h : isAbsolute p with
  | true => rw [normal_eq_path h, Place.components_path (place_proper p), normalSteps_of_isAbsolute h]
  | false =>
    rw [normal, normalSteps_of_relative h]
    exact components_ofComponents fun c hc => proper_of_mem_steps (mem_normalSteps hc)

theorem normal_congr {p q : Path} (h : normalSteps (components p) = normalSteps (components q)) :
    normal p = normal q := by
  rw [normal, h, normal]

theorem normal_normal (p : Path) : normal (normal p) = normal p :=
  normal_congr (by rw [components_normal, normalSteps_normalSteps])

theorem isAbsolute_normal (p : Path) : isAbsolute (normal p) = isAbsolute p := by
  cases h : isAbsolute p with
  | true => rw [normal_eq_path h, Place.isAbsolute_path]
  | false =>
    rw [isAbsolute_eq, components_normal, normalSteps_of_relative h, decide_eq_false_iff_not]
    intro hroot
    exact absurd (steps_not_lead (mem_normalSteps (List.mem_of_mem_head? hroot))) (by decide)

theorem steps_normal {p : Path} (h : isAbsolute p = false) : steps (normal p) = normalSteps (steps p) := by
  rw [steps_eq_filter, components_normal, normalSteps_of_relative h]
  exact List.filter_eq_self.2 fun c hc => by simp [steps_not_lead (mem_normalSteps hc)]

/-- the steps of two joined paths, as far as folding is concerned -/
theorem normalSteps_join {p q : Path} (h : isAbsolute q = false) :
    normalSteps (components (join p q)) = normalSteps (components p ++ steps q) := by
  by_cases hp : p = []
  · rw [hp, join_nil_left, normalSteps_of_relative h]
    rfl
  · rw [components_join h hp]

theorem normal_join (p q : Path) : normal (join p q) = normal (join (normal p) (normal q)) := by
  cases h : isAbsolute q with
  | true => rw [join_of_isAbsolute h, join_of_isAbsolute ((isAbsolute_normal q).trans h), normal_normal]
  | false =>
    have hn : isAbsolute (normal q) = false := (isAbsolute_normal q).trans h
    refine normal_congr ?_
    rw [normalSteps_join h, normalSteps_join hn, components_normal, steps_normal h, normalSteps_append]

/-- the root and names, or a run of `..` and names -/
theorem components_normal_shape (p : Path) :
    ∃ (n : Nat) (names : List Text),
      components (normal p) = (if isAbsolute p then [.root] else List.replicate n .parent) ++ names.map .name := by
  rw [components_normal]
  cases h : isAbsolute p with
  | true => exact ⟨0, (place p).reverse, normalSteps_of_isAbsolute h⟩
  | false =>
    rw [normalSteps_of_relative h]
    exact normalSteps_relative fun c hc => steps_not_lead hc

/-- **Normal forms and joining.** Two joined paths have the normal form of their joined normal forms, and a normal form
is its own normal form. It is absolute exactly when the path is, and then it has nothing but names behind the root;
otherwise it has names behind a run of `..`. It is the only one: of all that folding makes of the path, dot by dot and
`..` by `..` in any order, its steps are the ones that cannot be folded any further. -/
theorem normal_join_normal (p q : Path) :
    normal (join p q) = normal (join (normal p) (normal q)) ∧
      normal (normal p) = normal p ∧
      isAbsolute (normal p) = isAbsolute p ∧
      (∃ (n : Nat) (names : List Text),
        components (normal p) = (if isAbsolute p then [.root] else List.replicate n .parent) ++ names.map .name) ∧
      ∀ cs, (ReflTransGen Fold (components p) cs ∧ ∀ ds, ¬ Fold cs ds) ↔ cs = components (normal p) := by
  refine ⟨normal_join p q, normal_normal p, isAbsolute_normal p, components_normal_shape p, fun cs => ?_⟩
  rw [components_normal]
  exact folds_to_end_iff

/-- `..` takes back a name of the path that it is joined to, and stays in front when there is none left -/
example : normal (join "a//./b" "../../../c/") = "../c" := by
  decide

end IncludeAudit.Path
