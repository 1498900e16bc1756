/-
Places and the absolute paths that stand for them. A place is spelled by its names behind the root, and that plain
spelling leads back to the place. Taking the steps of any absolute path one by one, as if no link stood on the way,
leads to a place too, and the lexical normal form of the path is the plain spelling of that place.

- `components_path`: the plain spelling of a place stands for the root and its names.
- `place_path`: it leads back to the place, so different places are different paths (`same_path_iff`).
- `normal_eq_path`: the normal form of an absolute path spells the place that its steps lead to.
- `Plain`: no dots in a path, `Place.Proper.plain`: there are none in the spelling of a place.
-/
import IncludeAudit.Proofs.Path.Components
import IncludeAudit.Tree.Walk

namespace IncludeAudit

/-! ## Spelling a place -/

namespace Place

/-- every name of the place can be spelled -/
def Proper (p : Place) : Prop :=
  ∀ n ∈ p, (Component.name n).Proper

theorem proper_nil : Proper [] :=
  fun _ hn => by cases hn

theorem Proper.cons {n : Text} {p : Place} (hn : (Component.name n).Proper) (hp : p.Proper) : Proper (n :: p) := by
  intro m hm
  rcases List.mem_cons.1 hm with rfl | hm
  · exact hn
  · exact hp m hm

theorem Proper.tail {p : Place} (h : p.Proper) : Proper p.tail :=
  fun n hn => h n (List.mem_of_mem_tail hn)

theorem Proper.mem_names {p : Place} (h : p.Proper) {c : Component} (hc : c ∈ p.reverse.map Component.name) :
    c.Proper := by
  obtain ⟨n, hn, rfl⟩ := List.mem_map.1 hc
  exact h n (List.mem_reverse.1 hn)

theorem components_path {p : Place} (h : p.Proper) : Path.components p.path = .root :: p.reverse.map .name :=
  Path.components_ofComponents_root fun _ hc => h.mem_names hc

theorem isAbsolute_path (p : Place) : Path.isAbsolute p.path = true := by
  rw [path, Path.ofComponents_root]; rfl

/-- the pieces of a plain spelling are the names behind an empty piece; the root has a second empty one -/
theorem pieces_path {p : Place} (h : p.Proper) :
    Text.pieces '/' p.path = if p = [] then [[], []] else [] :: p.reverse := by
  rw [path, Path.ofComponents_root, Text.pieces_sep]
  split_ifs with hp
  · rw [hp]; rfl
  · have hnames : (p.reverse.map Component.name).map Component.piece = p.reverse := by
      rw [List.map_map]
      exact List.map_id _
    rw [Path.pieces_paste_proper (fun _ hc => h.mem_names hc) (by simpa using hp), hnames]

/-! ## Taking steps -/

/-- where a step leads when no link stands there -/
def after (p : Place) : Component → Place
  | .root => []
  | .current => p
  | .parent => p.tail
  | .name n => n :: p

theorem after_proper {p : Place} (hp : p.Proper) {c : Component} (hc : c.leads = true ∨ c.Proper) :
    (p.after c).Proper := by
  cases c with
  | root => exact proper_nil
  | current => exact hp
  | parent => exact hp.tail
  | name n => exact hp.cons (hc.resolve_left (by simp [Component.leads]))

theorem foldl_after_proper {p : Place} (hp : p.Proper) {cs : List Component}
    (h : ∀ c ∈ cs, c.leads = true ∨ c.Proper) : (cs.foldl after p).Proper := by
  induction cs generalizing p with
  | nil => exact hp
  | cons c cs ih =>
    exact ih (after_proper hp (h c List.mem_cons_self)) fun d hd => h d (List.mem_cons_of_mem _ hd)

theorem foldl_after_names (p : Place) : (p.reverse.map Component.name).foldl after [] = p := by
  rw [List.foldl_map, List.foldl_reverse]
  exact List.foldr_cons_nil

end Place

namespace Path

/-- the place that the steps of a path lead to when no link stands on the way -/
def place (p : Path) : Place :=
  (components p).foldl Place.after []

theorem place_proper (p : Path) : (place p).Proper := by
  refine Place.foldl_after_proper Place.proper_nil fun c hc => ?_
  rw [components_eq, List.mem_append] at hc
  rcases hc with hc | hc
  · exact Or.inl (lead_leads hc)
  · exact Or.inr (proper_of_mem_steps hc)

/-- a plain spelling leads back to its place -/
theorem place_path {q : Place} (h : q.Proper) : place q.path = q := by
  rw [place, Place.components_path h, List.foldl_cons]
  exact Place.foldl_after_names q

/-- plain spellings that are the same path are the same text, and spell the same place -/
theorem same_path_iff {p q : Place} (hp : p.Proper) (hq : q.Proper) : same p.path q.path = true ↔ p = q := by
  constructor
  · intro h
    rw [← place_path hp, ← place_path hq, place, place, same_iff.1 h]
  · rintro rfl
    exact same_refl _

theorem path_inj {p q : Place} (hp : p.Proper) (hq : q.Proper) : p.path = q.path ↔ p = q :=
  ⟨fun h => (same_path_iff hp hq).1 (h ▸ same_refl _), congrArg Place.path⟩

/-! ## Normal forms -/

/-- taking a step and folding it into the normal steps is the same, above the root -/
theorem push_names (q : Place) {c : Component} (hc : c.leads = false) :
    push (q.map .name ++ [.root]) c = (q.after c).map .name ++ [.root] := by
  cases c with
  | root => cases hc
  | current => cases hc
  | parent => cases q <;> rfl
  | name n => cases q <;> rfl

theorem foldl_push_names (q : Place) {cs : List Component} (h : ∀ c ∈ cs, c.leads = false) :
    cs.foldl push (q.map .name ++ [.root]) = (cs.foldl Place.after q).map .name ++ [.root] := by
  induction cs generalizing q with
  | nil => rfl
  | cons c cs ih =>
    rw [List.foldl_cons, push_names q (h c List.mem_cons_self), ih _ fun d hd => h d (List.mem_cons_of_mem _ hd),
      List.foldl_cons]

theorem components_of_isAbsolute {p : Path} (h : isAbsolute p = true) : components p = .root :: steps p := by
  have hp : p.head? = some '/' := of_decide_eq_true h
  rw [components_eq, lead, if_pos hp]
  rfl

/-- the steps of an absolute path are folded to the names of the place that they lead to -/
theorem normalSteps_of_isAbsolute {p : Path} (h : isAbsolute p = true) :
    normalSteps (components p) = .root :: (place p).reverse.map .name := by
  have hplace : place p = (steps p).foldl Place.after [] := by
    rw [place, components_of_isAbsolute h]; rfl
  have hfold : (components p).foldl push [] = (place p).map .name ++ [.root] := by
    rw [hplace, components_of_isAbsolute h]
    exact foldl_push_names [] fun c hc => steps_not_lead hc
  rw [normalSteps, hfold, List.reverse_append, List.reverse_singleton, List.map_reverse]
  rfl

theorem normal_eq_path {p : Path} (h : isAbsolute p = true) : normal p = (place p).path := by
  rw [normal, normalSteps_of_isAbsolute h]
  rfl

theorem normal_path {q : Place} (h : q.Proper) : normal q.path = q.path := by
  rw [normal_eq_path q.isAbsolute_path, place_path h]

/-! ## Without dots -/

/-- the path starts at the root, and between its slashes nothing is a dot or two dots -/
structure Plain (p : Path) : Prop where
  absolute : isAbsolute p = true
  noDot : ['.'] ∉ Text.pieces '/' p
  noDots : ['.', '.'] ∉ Text.pieces '/' p

/-- behind the root, the steps of a plain path are names -/
theorem Plain.components {p : Path} (h : p.Plain) {c : Component} (hc : c ∈ components p) :
    c = .root ∨ ∃ n, c = .name n := by
  rw [components_of_isAbsolute h.absolute] at hc
  rcases List.mem_cons.1 hc with rfl | hc
  · exact Or.inl rfl
  · obtain ⟨piece, hp, hread⟩ := List.mem_filterMap.1 hc
    unfold Component.ofPiece at hread
    split_ifs at hread with hempty hdots
    · exact absurd (hdots ▸ hp) h.noDots
    · exact Or.inr ⟨piece, (Option.some.inj hread).symm⟩

end Path

theorem Place.Proper.plain {q : Place} (h : q.Proper) : q.path.Plain := by
  have hnames : ∀ n ∈ Text.pieces '/' q.path, n = [] ∨ n ∈ q := by
    intro n hn
    rw [pieces_path h] at hn
    split_ifs at hn
    · exact Or.inl (by simpa using hn)
    · exact (List.mem_cons.1 hn).imp_right List.mem_reverse.1
  -- dots are not read back as a name
  refine ⟨q.isAbsolute_path, fun hdot => ?_, fun hdots => ?_⟩
  · exact absurd (h _ ((hnames _ hdot).resolve_left (List.cons_ne_nil _ _))).2 (by decide)
  · exact absurd (h _ ((hnames _ hdots).resolve_left (List.cons_ne_nil _ _))).2 (by decide)

theorem Path.plain_normal {p : Path} (h : isAbsolute p = true) : (normal p).Plain := by
  rw [normal_eq_path h]
  exact (place_proper p).plain

end IncludeAudit
