/-
Where walks end. Links are replaced by what they lead to, so a walk that starts at the root ends at a place on whose
way no link stands; and walking the plain spelling of such a place just follows its names.

- `steps_cons_ok`: what the first step of a walk that comes to its end can be.
- `Standing`: the places where a walk from the root can end, `walk_standing`: it ends at no other.
- `walk_path`: walking the plain spelling of such a place leads back to it.
- `walk_path_eq`: a walk along names without a link comes to its end at the place spelled, or at none.
- `walk_of_linkFree`: in a tree without links, the same is true of every absolute path and the place its steps lead to.
-/
import IncludeAudit.Proofs.Tree.Place

namespace IncludeAudit.Tree

variable {t : Tree} {jump : Place → List Text → Except OsError Place}

/-- a link stands at the place -/
def isLinkAt (t : Tree) (p : Place) : Bool :=
  match t.node? p with
  | some (.link _) => true
  | _ => false

/-- a link stands at the place or on the way to it -/
def Linked (t : Tree) (p : Place) : Prop :=
  ∃ d, d <:+ p ∧ t.isLinkAt d = true

instance (t : Tree) (p : Place) : Decidable (t.Linked p) :=
  decidable_of_iff (∃ d ∈ p.tails, t.isLinkAt d = true) (by simp [Linked])

/-! ## One step -/

/-- the first step of a walk that comes to its end leaves from a directory: over nothing, up, to the target of a link,
or to what else stands under a name -/
theorem steps_cons_ok {here q : Place} {p : Text} {rest : List Text} (h : steps t jump here (p :: rest) = .ok q) :
    t.isDirectoryAt here = true ∧
      ((Component.ofPiece p = none ∧ steps t jump here rest = .ok q) ∨
        (Component.ofPiece p = some .parent ∧ steps t jump here.tail rest = .ok q) ∨
        (Component.ofPiece p = some (.name p) ∧ Text.bytes p ≤ maxName ∧
          ((∃ target, t.node? (p :: here) = some (.link target) ∧
              jump (origin here target) (Text.pieces '/' target ++ rest) = .ok q) ∨
            ((t.node? (p :: here)).isSome ∧ t.isLinkAt (p :: here) = false ∧
              steps t jump (p :: here) rest = .ok q)))) := by
  simp only [steps] at h
  split_ifs at h with hd hn hp hb
  · exact ⟨by simpa using hd, Or.inl ⟨by rw [Component.ofPiece, if_pos hn], h⟩⟩
  · exact ⟨by simpa using hd, Or.inr (Or.inl ⟨by rw [Component.ofPiece, if_neg hn, if_pos hp], h⟩)⟩
  · refine ⟨by simpa using hd, Or.inr (Or.inr ⟨by rw [Component.ofPiece, if_neg hn, if_neg hp], not_lt.1 hb, ?_⟩)⟩
    split at h
    · cases h
    · next target ht => exact Or.inl ⟨target, ht, h⟩
    · next node hl ht =>
      refine Or.inr ⟨by simp [ht], ?_, h⟩
      rw [isLinkAt, ht]
      cases node with
      | link target => exact absurd rfl (hl target)
      | _ => rfl

/-- a step to what stands under a name in a directory, if that is no link -/
theorem steps_name {here : Place} {n : Text} (hd : t.isDirectoryAt here = true)
    (hn : Component.ofPiece n = some (.name n)) (hb : Text.bytes n ≤ maxName) (hs : (t.node? (n :: here)).isSome)
    (hl : t.isLinkAt (n :: here) = false) (rest : List Text) :
    steps t jump here (n :: rest) = steps t jump (n :: here) rest := by
  obtain ⟨node, ht⟩ := Option.isSome_iff_exists.1 hs
  unfold Component.ofPiece at hn
  split_ifs at hn with h1 h2
  · cases hn
  · simp only [steps, hd, h1, h2, not_lt.2 hb, if_false, Bool.true_eq_false, ht]
    cases node with
    | link target => simp [isLinkAt, ht] at hl
    | _ => rfl

/-! ## Where walks end -/

/-- a place where a walk from the root can end: its names lead down from directory to directory, past no link -/
inductive Standing (t : Tree) : Place → Prop
  | root : Standing t []
  | down {here : Place} {n : Text} (up : Standing t here) (directory : t.isDirectoryAt here = true)
      (proper : (Component.name n).Proper) (short : Text.bytes n ≤ maxName) (there : (t.node? (n :: here)).isSome)
      (noLink : t.isLinkAt (n :: here) = false) : Standing t (n :: here)

theorem Standing.proper {q : Place} (h : Standing t q) : q.Proper := by
  induction h with
  | root => exact Place.proper_nil
  | down _ _ hn _ _ _ ih => exact ih.cons hn

theorem Standing.tail {q : Place} (h : Standing t q) : Standing t q.tail := by
  cases h with
  | root => exact .root
  | down up => exact up

theorem Standing.not_linked {q : Place} (h : Standing t q) : ¬ t.Linked q := by
  induction h with
  | root =>
    rintro ⟨d, hd, hl⟩
    rw [List.suffix_nil.1 hd] at hl
    cases hl
  | down _ _ _ _ _ hno ih =>
    rintro ⟨d, hd, hl⟩
    rcases List.suffix_cons_iff.1 hd with rfl | hd
    · rw [hno] at hl; cases hl
    · exact ih ⟨d, hd, hl⟩

/-- a walk from such a place ends at such a place, if that is so for what comes behind its first link -/
theorem steps_standing (hj : ∀ {here q : Place} {ps : List Text}, Standing t here → (∀ p ∈ ps, '/' ∉ p) →
      jump here ps = .ok q → Standing t q) {ps : List Text} {here q : Place} (hh : Standing t here)
    (hs : ∀ p ∈ ps, '/' ∉ p) (h : steps t jump here ps = .ok q) : Standing t q := by
  induction ps generalizing here with
  | nil => cases h; exact hh
  | cons p ps ih =>
    have hp : '/' ∉ p := hs p List.mem_cons_self
    have hps : ∀ x ∈ ps, '/' ∉ x := fun x hx => hs x (List.mem_cons_of_mem _ hx)
    obtain ⟨hd, ⟨-, h⟩ | ⟨-, h⟩ | ⟨hn, hb, ⟨target, -, h⟩ | ⟨there, hl, h⟩⟩⟩ := steps_cons_ok h
    · exact ih hh hps h
    · exact ih hh.tail hps h
    · -- the target of a link is walked from the root or from the directory of the link, and both stand
      refine hj ?_ (fun x hx => ?_) h
      · unfold origin
        split_ifs
        · exact .root
        · exact hh
      · rcases List.mem_append.1 hx with hx | hx
        · exact Text.sep_not_mem_of_mem_pieces hx
        · exact hps x hx
    · exact ih (.down hh hd (Component.proper_of_ofPiece hp hn) hb there hl) hps h

theorem follow_standing {n : Nat} {ps : List Text} {here q : Place} (hh : Standing t here) (hs : ∀ p ∈ ps, '/' ∉ p)
    (h : follow t n here ps = .ok q) : Standing t q := by
  induction n generalizing here ps q with
  | zero => exact steps_standing (fun _ _ h => by cases h) hh hs h
  | succ n ih => exact steps_standing ih hh hs h

theorem walk_standing {here q : Place} {p : Path} (hp : Path.isAbsolute p = true) (h : walk t here p = .ok q) :
    Standing t q := by
  unfold walk at h
  split_ifs at h
  rw [origin, if_pos hp] at h
  exact follow_standing .root (fun _ hx => Text.sep_not_mem_of_mem_pieces hx) h

/-! ## Walking a plain spelling -/

theorem follow_eq_steps (t : Tree) (n : Nat) : ∃ jump, follow t n = steps t jump := by
  cases n with
  | zero => exact ⟨_, rfl⟩
  | succ n => exact ⟨_, rfl⟩

theorem steps_nothing (rest : List Text) : steps t jump [] ([] :: rest) = steps t jump [] rest := by
  have hroot : t.isDirectoryAt [] = true := by simp [isDirectoryAt, node?]
  simp [steps, hroot]

/-- a plain spelling is walked name by name from the root -/
theorem walk_path_eq_steps {q : Place} (hq : q.Proper) (here : Place) :
    ∃ jump, walk t here q.path = steps t jump [] q.reverse := by
  have hne : q.path ≠ [] := fun e => by
    have := q.isAbsolute_path
    rw [e] at this; cases this
  obtain ⟨jump, hj⟩ := follow_eq_steps t maxLinks
  refine ⟨jump, ?_⟩
  rw [walk, if_neg hne, origin, if_pos q.isAbsolute_path, hj, Place.pieces_path hq]
  split_ifs with h
  · rw [h, steps_nothing, steps_nothing]; rfl
  · exact steps_nothing _

theorem Standing.steps {q : Place} (h : Standing t q) (rest : List Text) :
    steps t jump [] (q.reverse ++ rest) = steps t jump q rest := by
  induction h generalizing rest with
  | root => rfl
  | down _ hd hn hb hs hl ih =>
    rw [List.reverse_cons, List.append_assoc, ih]
    exact steps_name hd hn.2 hb hs hl rest

/-- the plain spelling of a place where walks end leads back to it -/
theorem walk_path {q : Place} (h : Standing t q) (here : Place) : walk t here q.path = .ok q := by
  obtain ⟨jump, hw⟩ := walk_path_eq_steps (t := t) h.proper here
  have hs : steps t jump [] (q.reverse ++ []) = steps t jump q [] := h.steps []
  rw [hw, ← List.append_nil q.reverse, hs]
  rfl

theorem steps_of_not_linked {p q : Place} (hp : p.Proper) (hl : ¬ t.Linked p) {rest : List Text}
    (h : steps t jump [] (p.reverse ++ rest) = .ok q) : steps t jump p rest = .ok q := by
  induction p generalizing rest with
  | nil => exact h
  | cons n p ih =>
    have hup : ¬ t.Linked p := fun ⟨d, hd, hk⟩ => hl ⟨d, hd.trans (List.suffix_cons n p), hk⟩
    have hn : Component.ofPiece n = some (.name n) := (hp n List.mem_cons_self).2
    rw [List.reverse_cons, List.append_assoc] at h
    obtain ⟨-, ⟨ho, -⟩ | ⟨ho, -⟩ | ⟨-, -, ⟨target, ht, -⟩ | ⟨-, -, hs⟩⟩⟩ := steps_cons_ok (ih hp.tail hup h)
    · rw [hn] at ho; cases ho
    · rw [hn] at ho; cases ho
    · exact absurd ⟨n :: p, List.suffix_refl _, by rw [isLinkAt, ht]⟩ hl
    · exact hs

/-- along names without a link a walk ends at the place spelled, if it comes to its end -/
theorem walk_path_eq {p q here : Place} (hp : p.Proper) (hl : ¬ t.Linked p) (h : walk t here p.path = .ok q) :
    q = p := by
  obtain ⟨jump, hw⟩ := walk_path_eq_steps (t := t) hp here
  rw [hw, ← List.append_nil p.reverse] at h
  have hs := steps_of_not_linked hp hl h
  cases hs; rfl

/-! ## Trees without links -/

/-- no link stands anywhere in the tree -/
def LinkFree (t : Tree) : Prop :=
  ∀ p, t.isLinkAt p = false

theorem isLinkAt_of_not_mem {p : Place} (h : ∀ n ∈ t.nodes, n.1 ≠ p) : t.isLinkAt p = false := by
  have hnone : t.nodes.find? (·.1 = p) = none := List.find?_eq_none.2 fun n hn => by simpa using h n hn
  by_cases hp : p = []
  · rw [isLinkAt, node?, if_pos hp]
  · rw [isLinkAt, node?, if_neg hp, hnone]
    rfl

theorem linkFree_iff : t.LinkFree ↔ ∀ n ∈ t.nodes, t.isLinkAt n.1 = false := by
  constructor
  · exact fun h n _ => h n.1
  · intro h p
    by_cases hp : ∃ n ∈ t.nodes, n.1 = p
    · obtain ⟨n, hn, rfl⟩ := hp
      exact h n hn
    · exact isLinkAt_of_not_mem fun n hn e => hp ⟨n, hn, e⟩

instance (t : Tree) : Decidable t.LinkFree :=
  decidable_of_iff _ linkFree_iff.symm

/-- without links, a walk that comes to its end has just taken its steps -/
theorem steps_of_linkFree (hf : t.LinkFree) {ps : List Text} {here q : Place} (h : steps t jump here ps = .ok q) :
    q = (ps.filterMap Component.ofPiece).foldl Place.after here := by
  induction ps generalizing here with
  | nil => cases h; rfl
  | cons p ps ih =>
    obtain ⟨-, ⟨ho, h⟩ | ⟨ho, h⟩ | ⟨ho, -, ⟨target, ht, -⟩ | ⟨-, -, h⟩⟩⟩ := steps_cons_ok h
    · rw [List.filterMap_cons_none ho]
      exact ih h
    · rw [List.filterMap_cons_some ho]
      exact ih h
    · have hlink := hf (p :: here)
      rw [isLinkAt, ht] at hlink
      cases hlink
    · rw [List.filterMap_cons_some ho]
      exact ih h

theorem walk_of_linkFree (hf : t.LinkFree) {here q : Place} {p : Path} (hp : Path.isAbsolute p = true)
    (h : walk t here p = .ok q) : q = Path.place p := by
  obtain ⟨jump, hj⟩ := follow_eq_steps t maxLinks
  unfold walk at h
  split_ifs at h
  rw [origin, if_pos hp, hj] at h
  rw [Path.place, Path.components_of_isAbsolute hp]
  exact steps_of_linkFree hf h

end IncludeAudit.Tree
