/-
Identities of files. A path that can be resolved throughout has the plain spelling of the place where it leads as its
identity, and no link stands on the way there. Any other path has its lexical normal form, and that one may lead past
a link all the same: a path can fail at a step that its normal form no longer has.

- `identity_standing`, `identity_of_not_resolves`: the two kinds of identities.
- `identity_eq_path`: either way the identity of an absolute path is the plain spelling of a place, so identities are
  the same path exactly when they are the same text (`same_identity_iff`).
- `identityBy`: identities by any way of resolving paths, `plain_identityBy`: without dots if what it gives has none.
- `identity_identity_iff`: an identity is its own identity unless the path does not resolve and its normal form
  resolves past a link.
- `identities_are_lexical`: in trees without links, identities are normal forms, whatever there is in the tree.
-/
import IncludeAudit.Proofs.Tree.Walk

namespace IncludeAudit.Tree

variable {t : Tree} {here : Place}

/-- the path leads somewhere, step by step -/
def Resolves (t : Tree) (here : Place) (p : Path) : Prop :=
  '\x00' ∉ p ∧ ∃ r, t.real here p = .ok r

instance (t : Tree) (here : Place) (p : Path) : Decidable (t.Resolves here p) :=
  decidable_of_iff ('\x00' ∉ p ∧ (t.real here p).isOk = true) <| by
    cases h : t.real here p <;> simp [Resolves, h, Except.isOk, Except.toBool]

/-! ## Canonical spellings -/

theorem real_standing {p r : Path} (hp : Path.isAbsolute p = true) (h : t.real here p = .ok r) :
    ∃ q, Standing t q ∧ Text.bytes q.path ≤ maxPath ∧ walk t here p = .ok q ∧ r = q.path := by
  unfold real at h
  split at h
  · next q hq =>
    split_ifs at h with hb
    cases h
    exact ⟨q, walk_standing hp hq, not_lt.1 hb, hq, rfl⟩
  · cases h

theorem real_path {q : Place} (h : Standing t q) (hb : Text.bytes q.path ≤ maxPath) (here : Place) :
    t.real here q.path = .ok q.path := by
  rw [real, walk_path h here]
  exact if_neg (not_lt.2 hb)

/-! ## The two kinds of identities -/

theorem identity_of_real {p r : Path} (hn : '\x00' ∉ p) (h : t.real here p = .ok r) : t.identity here p = r := by
  rw [identity, if_neg hn, h]

theorem identity_of_not_resolves {p : Path} (h : ¬ t.Resolves here p) : t.identity here p = Path.normal p := by
  unfold identity
  split_ifs with hn
  · rfl
  · split
    · next q hq => exact absurd ⟨hn, q, hq⟩ h
    · rfl

theorem identity_standing {p : Path} (hp : Path.isAbsolute p = true) (h : t.Resolves here p) :
    ∃ q, Standing t q ∧ Text.bytes q.path ≤ maxPath ∧ walk t here p = .ok q ∧ t.identity here p = q.path := by
  obtain ⟨hn, r, hr⟩ := h
  obtain ⟨q, hs, hb, hw, rfl⟩ := real_standing hp hr
  exact ⟨q, hs, hb, hw, identity_of_real hn hr⟩

/-- the identity of an absolute path is the plain spelling of a place -/
theorem identity_eq_path {p : Path} (hp : Path.isAbsolute p = true) (t : Tree) (here : Place) :
    ∃ q : Place, q.Proper ∧ t.identity here p = q.path := by
  by_cases h : t.Resolves here p
  · obtain ⟨q, hs, -, -, hi⟩ := identity_standing hp h
    exact ⟨q, hs.proper, hi⟩
  · exact ⟨Path.place p, Path.place_proper p, (identity_of_not_resolves h).trans (Path.normal_eq_path hp)⟩

theorem same_identity_iff {p q : Path} (hp : Path.isAbsolute p = true) (hq : Path.isAbsolute q = true) :
    Path.same (t.identity here p) (t.identity here q) = true ↔ t.identity here p = t.identity here q := by
  obtain ⟨x, hx, hi⟩ := identity_eq_path hp t here
  obtain ⟨y, hy, hj⟩ := identity_eq_path hq t here
  rw [hi, hj, Path.same_path_iff hx hy, Path.path_inj hx hy]

/-! ## Other ways of resolving -/

/-- what a path resolves to -/
def resolve? (t : Tree) (here : Place) (p : Path) : Option Path :=
  if '\x00' ∈ p then none else (t.real here p).toOption

/-- the identity of a path when something else resolves paths, in whatever tree there is at that time -/
def identityBy (resolve : Path → Option Path) (p : Path) : Path :=
  (resolve p).getD (Path.normal p)

theorem identity_eq_identityBy (t : Tree) (here : Place) : t.identity here = identityBy (t.resolve? here) := by
  funext p
  unfold identity identityBy resolve?
  split_ifs
  · rfl
  · cases t.real here p <;> rfl

theorem plain_of_resolve? {p r : Path} (hp : Path.isAbsolute p = true) (h : t.resolve? here p = some r) : r.Plain := by
  unfold resolve? at h
  split_ifs at h
  cases hr : t.real here p with
  | error e => rw [hr] at h; cases h
  | ok q =>
    rw [hr] at h
    cases h
    obtain ⟨x, hs, -, -, rfl⟩ := real_standing hp hr
    exact hs.proper.plain

theorem plain_identityBy {resolve : Path → Option Path} {p : Path} (hp : Path.isAbsolute p = true)
    (h : ∀ q, resolve p = some q → q.Plain) : (identityBy resolve p).Plain := by
  unfold identityBy
  cases hr : resolve p with
  | none => exact Path.plain_normal hp
  | some q => exact h q hr

/-! ## The identity of an identity -/

/-- where walks end, the plain spelling is its own identity -/
theorem identity_path {q : Place} (h : Standing t q) (hb : Text.bytes q.path ≤ maxPath) (here : Place) :
    t.identity here q.path = q.path := by
  by_cases hn : '\x00' ∈ q.path
  · rw [identity, if_pos hn, Path.normal_path h.proper]
  · exact identity_of_real hn (real_path h hb here)

theorem identity_identity_of_resolves {p : Path} (hp : Path.isAbsolute p = true) (h : t.Resolves here p) :
    t.identity here (t.identity here p) = t.identity here p := by
  obtain ⟨q, hs, hb, -, hi⟩ := identity_standing hp h
  rw [hi, identity_path hs hb]

/-- the plain spelling of a place is its own identity unless it resolves past a link -/
theorem identity_path_iff {q : Place} (hq : q.Proper) :
    t.identity here q.path = q.path ↔ ¬ (t.Resolves here q.path ∧ t.Linked q) := by
  by_cases hr : t.Resolves here q.path
  · obtain ⟨x, hs, -, hw, hi⟩ := identity_standing q.isAbsolute_path hr
    rw [hi, Path.path_inj hs.proper hq]
    constructor
    · rintro rfl ⟨-, hl⟩
      exact hs.not_linked hl
    · intro h
      exact walk_path_eq hq (fun hl => h ⟨hr, hl⟩) hw
  · rw [identity_of_not_resolves hr, Path.normal_path hq]
    exact iff_of_true rfl fun h => hr h.1

/-- an identity is its own identity, unless the path does not resolve and its normal form resolves past a link -/
theorem identity_identity_iff {p : Path} (hp : Path.isAbsolute p = true) :
    t.identity here (t.identity here p) = t.identity here p ↔
      ¬ (¬ t.Resolves here p ∧ t.Resolves here (Path.normal p) ∧ t.Linked (Path.place p)) := by
  by_cases hr : t.Resolves here p
  · exact iff_of_true (identity_identity_of_resolves hp hr) fun h => h.1 hr
  · rw [identity_of_not_resolves hr, Path.normal_eq_path hp, identity_path_iff (Path.place_proper p)]
    simp [hr]

/-! ## Trees without links -/

/-- without links, a path that resolves leads where its normal form says -/
theorem identity_eq_normal (hf : t.LinkFree) (here : Place) {p : Path} (hp : Path.isAbsolute p = true) :
    t.identity here p = Path.normal p := by
  by_cases hr : t.Resolves here p
  · obtain ⟨q, -, -, hw, hi⟩ := identity_standing hp hr
    rw [hi, walk_of_linkFree hf hp hw, Path.normal_eq_path hp]
  · exact identity_of_not_resolves hr

/-- **Without links, identities are normal forms.** It makes no difference whether the path resolves, so the identity
is the same in any other tree without links, before and after the file is there; and two absolute paths have the same
identity, each in its own tree, exactly when they have the same normal form. -/
theorem identities_are_lexical {t t' : Tree} (hf : t.LinkFree) (hf' : t'.LinkFree) (here here' : Place) {p q : Path}
    (hp : Path.isAbsolute p = true) (hq : Path.isAbsolute q = true) :
    t.identity here p = Path.normal p ∧ t'.identity here' p = t.identity here p ∧
      (Path.same (t.identity here p) (t'.identity here' q) = true ↔ Path.normal p = Path.normal q) := by
  rw [identity_eq_normal hf here hp, identity_eq_normal hf' here' hp, identity_eq_normal hf' here' hq]
  refine ⟨rfl, rfl, ?_⟩
  rw [Path.normal_eq_path hp, Path.normal_eq_path hq, Path.path_inj (Path.place_proper p) (Path.place_proper q)]
  exact Path.same_path_iff (Path.place_proper p) (Path.place_proper q)

/-- nothing is there at first; later one spelling resolves and the other still does not -/
theorem identities_are_lexical_later :
    let later : Tree :=
      { nodes := [(["p"], .directory), (["src", "p"], .directory), (["a.c", "p"], .file [] Node.plainMode)] }
    let p : Path := "/p/./src/../a.c"
    let q : Path := "/../p//gone/../a.c"
    later.Resolves [] p ∧ ¬ later.Resolves [] q ∧ ¬ Tree.Resolves {} [] p ∧
      Tree.identity {} [] p = "/p/a.c" ∧ later.identity [] p = Tree.identity {} [] p ∧
      Path.same (Tree.identity {} [] p) (later.identity [] q) = true := by
  intro later p q
  have hf : Tree.LinkFree {} := by decide
  have hf' : later.LinkFree := by decide
  obtain ⟨hnormal, hlater, hsame⟩ :=
    identities_are_lexical hf hf' [] [] (p := p) (q := q) (by decide) (by decide)
  exact ⟨by decide, by decide, by decide, hnormal.trans (by decide), hlater, hsame.2 (by decide)⟩

end IncludeAudit.Tree
