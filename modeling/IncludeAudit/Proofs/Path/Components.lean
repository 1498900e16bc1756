/-
How spellings are read, and what joining does to what they stand for. A spelling reads as a `lead`, the root or a dot
in front, followed by its `steps`; a slash anywhere cuts the steps in two.

- `components_eq`: a path is its lead and its steps.
- `components_join`: joining a relative path adds its steps, and nothing of its lead.
- `join_assoc`: paths may be joined from either end.
- `same_join`: joining the same paths gives the same path, however they are spelled.
- `components_ofComponents_root`: components that can be spelled are read back from a spelling behind the root.
-/
import Mathlib.Tactic
import IncludeAudit.Path.Basic

namespace IncludeAudit

/-! ## Pieces -/

namespace Text

theorem pieces_sep (sep : Char) (b : Text) : pieces sep (sep :: b) = [] :: pieces sep b := by
  simp [pieces]

theorem pieces_append_sep (sep : Char) (a b : Text) : pieces sep (a ++ sep :: b) = pieces sep a ++ pieces sep b := by
  induction a with
  | nil => rw [List.nil_append, pieces_sep]; rfl
  | cons c a ih =>
    by_cases h : c = sep
    · subst h
      rw [List.cons_append, pieces_sep, pieces_sep, ih]
      rfl
    · simp only [List.cons_append, pieces, if_neg h, ih]
      cases hp : pieces sep a with
      | nil => exact absurd hp (pieces_ne_nil sep a)
      | cons p ps => rfl

/-- the first piece is empty exactly when there is nothing in front of the first separator -/
theorem head_pieces_eq_nil {sep : Char} {t : Text} :
    (pieces sep t).head? = some [] ↔ t = [] ∨ t.head? = some sep := by
  cases t with
  | nil => simp [pieces]
  | cons c r =>
    by_cases h : c = sep
    · simp [pieces, h]
    · simp only [pieces, if_neg h]
      cases pieces sep r <;> simp [consFirst, h]

end Text

/-! ## Lead and steps -/

namespace Component

/-- a component that can only stand in front -/
def leads : Component → Bool
  | .root | .current => true
  | _ => false

theorem leads_of_ofPiece {p : Text} {c : Component} (h : ofPiece p = some c) : c.leads = false := by
  unfold ofPiece at h
  split_ifs at h <;> cases h <;> rfl

end Component

namespace Path

/-- what a spelling starts with -/
def lead (p : Path) : List Component :=
  if p.head? = some '/' then [.root]
  else if (Text.pieces '/' p).head? = some ['.'] then [.current]
  else []

/-- what the pieces of a spelling stand for -/
def steps (p : Path) : List Component :=
  (Text.pieces '/' p).filterMap Component.ofPiece

theorem components_eq (p : Path) : components p = lead p ++ steps p := by
  unfold components lead steps
  cases hp : Text.pieces '/' p with
  | nil => exact absurd hp (Text.pieces_ne_nil '/' p)
  | cons first rest =>
    simp only [List.head?_cons, Option.some.injEq]
    split_ifs with hr hd
    · have hf : (Text.pieces '/' p).head? = some [] := Text.head_pieces_eq_nil.2 (Or.inr hr)
      obtain rfl : first = [] := by simpa [hp] using hf
      rfl
    · subst hd
      rfl
    · rw [List.nil_append, List.filterMap_cons]
      cases Component.ofPiece first <;> rfl

theorem steps_not_lead {p : Path} {c : Component} (h : c ∈ steps p) : c.leads = false := by
  obtain ⟨t, -, ht⟩ := List.mem_filterMap.1 h
  exact Component.leads_of_ofPiece ht

theorem lead_leads {p : Path} {c : Component} (h : c ∈ lead p) : c.leads = true := by
  unfold lead at h
  split_ifs at h
  · rw [List.mem_singleton.1 h]; rfl
  · rw [List.mem_singleton.1 h]; rfl
  · cases h

/-- a path tells its steps from its lead -/
theorem steps_eq_filter (p : Path) : steps p = (components p).filter fun c => !c.leads := by
  have hl : (lead p).filter (fun c => !c.leads) = [] :=
    List.filter_eq_nil_iff.2 fun c hc => by simp [lead_leads hc]
  have hs : (steps p).filter (fun c => !c.leads) = steps p :=
    List.filter_eq_self.2 fun c hc => by simp [steps_not_lead hc]
  rw [components_eq, List.filter_append, hl, hs, List.nil_append]

theorem steps_append_slash (a b : Path) : steps (a ++ '/' :: b) = steps a ++ steps b := by
  simp only [steps, Text.pieces_append_sep, List.filterMap_append]

theorem head_pieces_append_slash (a b : Path) :
    (Text.pieces '/' (a ++ '/' :: b)).head? = (Text.pieces '/' a).head? := by
  rw [Text.pieces_append_sep]
  cases h : Text.pieces '/' a with
  | nil => exact absurd h (Text.pieces_ne_nil '/' a)
  | cons p ps => rfl

/-- what comes after a slash does not change what a path starts with -/
theorem lead_append_slash (a b c : Path) : lead (a ++ '/' :: b) = lead (a ++ '/' :: c) := by
  have hh : (a ++ '/' :: b).head? = (a ++ '/' :: c).head? := by cases a <;> rfl
  simp only [lead, hh, head_pieces_append_slash]

theorem lead_append_slash_of_ne {a : Path} (h : a ≠ []) (b : Path) : lead (a ++ '/' :: b) = lead a := by
  have hh : (a ++ '/' :: b).head? = a.head? := List.head?_append_of_ne_nil a h
  simp only [lead, hh, head_pieces_append_slash]

theorem components_eq_nil {p : Path} : components p = [] ↔ p = [] := by
  constructor
  · intro h
    by_contra hne
    rw [components_eq, List.append_eq_nil_iff] at h
    obtain ⟨hl, hs⟩ := h
    have hr : p.head? ≠ some '/' := fun e => by simp [lead, e] at hl
    have hd : (Text.pieces '/' p).head? ≠ some ['.'] := fun e => by simp [lead, hr, e] at hl
    cases hp : Text.pieces '/' p with
    | nil => exact Text.pieces_ne_nil '/' p hp
    | cons first rest =>
      -- the first piece is neither empty nor a dot, so it is a step
      have hf : first ≠ [] := fun e => by
        rcases Text.head_pieces_eq_nil.1 (by rw [hp, e]; rfl : (Text.pieces '/' p).head? = some []) with e | e
        · exact hne e
        · exact hr e
      have hf' : first ≠ ['.'] := fun e => hd (by rw [hp, e]; rfl)
      have ho : Component.ofPiece first = none := by
        simp only [steps, hp, List.filterMap_eq_nil_iff] at hs
        exact hs first (by simp)
      simp only [Component.ofPiece, hf, hf', or_self, if_false] at ho
      split_ifs at ho
  · rintro rfl
    rfl

theorem isAbsolute_eq (p : Path) : isAbsolute p = decide ((components p).head? = some .root) := by
  rw [components_eq]
  by_cases hr : p.head? = some '/'
  · simp [isAbsolute, lead, hr]
  · have hn : (lead p ++ steps p).head? ≠ some .root := by
      unfold lead
      rw [if_neg hr]
      split_ifs
      · simp
      · intro e
        exact absurd (steps_not_lead (List.mem_of_mem_head? e)) (by simp [Component.leads])
    exact decide_eq_decide.2 (iff_of_false hr hn)

/-! ## Joining -/

theorem eq_append_slash {p : Path} (h : p.getLast? = some '/') : ∃ a, p = a ++ ['/'] :=
  ⟨p.dropLast, (List.dropLast_append_getLast? '/' h).symm⟩

/-- a relative path adds its steps -/
theorem components_join {p q : Path} (hq : isAbsolute q = false) (hp : p ≠ []) :
    components (join p q) = components p ++ steps q := by
  have hj : join p q = if p.getLast? = some '/' then p ++ q else p ++ '/' :: q := by
    simp [join, hq, hp]
  rw [hj, components_eq, components_eq p]
  split_ifs with hl
  · obtain ⟨a, rfl⟩ := eq_append_slash hl
    rw [List.append_assoc, List.singleton_append, steps_append_slash, lead_append_slash a q [], steps_append_slash,
      show steps [] = [] from rfl, List.append_nil, List.append_assoc]
  · rw [steps_append_slash, lead_append_slash_of_ne hp, List.append_assoc]

theorem join_nil_left (q : Path) : join [] q = q := by
  unfold join
  split_ifs <;> simp_all

theorem join_of_isAbsolute {q : Path} (h : isAbsolute q = true) (p : Path) : join p q = q :=
  if_pos h

/-- what stands between a path and one that is joined to it -/
def gap (p : Path) : Text :=
  if p = [] ∨ p.getLast? = some '/' then [] else ['/']

theorem join_of_relative {q : Path} (h : isAbsolute q = false) (p : Path) : join p q = p ++ gap p ++ q := by
  rw [join, if_neg (by rw [h]; exact Bool.false_ne_true), gap]
  split_ifs
  · rw [List.append_nil]
  · rw [List.append_assoc, List.singleton_append]

theorem gap_append_gap (p : Path) : gap (p ++ gap p) = [] := by
  by_cases h : p = [] ∨ p.getLast? = some '/'
  · have hg : gap p = [] := if_pos h
    rw [hg, List.append_nil, hg]
  · have hg : gap p = ['/'] := if_neg h
    rw [hg, gap, if_pos (Or.inr List.getLast?_concat)]

theorem gap_append {q : Path} (h : q ≠ []) (p : Path) : gap (p ++ q) = gap q := by
  rw [gap, gap, List.getLast?_append_of_ne_nil p h]
  simp [h]

theorem isAbsolute_join_eq (p q : Path) : isAbsolute (join p q) = (isAbsolute p || isAbsolute q) := by
  cases hq : isAbsolute q with
  | true => rw [join_of_isAbsolute hq, hq, Bool.or_true]
  | false =>
    by_cases hp : p = []
    · rw [hp, join_nil_left, hq]
      rfl
    · rw [join_of_relative hq, Bool.or_false, isAbsolute, isAbsolute, List.append_assoc, List.head?_append_of_ne_nil p hp]

/-- what is joined to an absolute path is absolute -/
theorem isAbsolute_join {p : Path} (h : isAbsolute p = true) (q : Path) : isAbsolute (join p q) = true := by
  rw [isAbsolute_join_eq, h, Bool.true_or]

theorem join_ne_nil {p : Path} (h : p ≠ []) (q : Path) : join p q ≠ [] := by
  unfold join
  split_ifs with hq
  · rintro rfl
    cases hq
  · simp [h]
  · simp

/-- the spelling is the same, whichever paths are joined first -/
theorem join_assoc (p q r : Path) : join p (join q r) = join (join p q) r := by
  cases hr : isAbsolute r with
  | true => rw [join_of_isAbsolute hr, join_of_isAbsolute hr, join_of_isAbsolute hr]
  | false =>
    cases hq : isAbsolute q with
    | true => rw [join_of_isAbsolute (isAbsolute_join hq r), join_of_isAbsolute hq]
    | false =>
      have hgap : gap (p ++ gap p ++ q) = gap q := by
        by_cases hn : q = []
        · rw [hn, List.append_nil, gap_append_gap]
          rfl
        · exact gap_append hn _
      have hqr : isAbsolute (join q r) = false := by rw [isAbsolute_join_eq, hq, hr, Bool.or_false]
      rw [join_of_relative hqr, join_of_relative hr, join_of_relative hr, join_of_relative hq, hgap]
      simp only [List.append_assoc]

/-- a name adds itself -/
theorem components_join_name {n : Text} (hn : components n = [.name n]) (p : Path) :
    components (join p n) = components p ++ [.name n] := by
  have ha : isAbsolute n = false := by rw [isAbsolute_eq, hn]; rfl
  have hs : steps n = [.name n] := by rw [steps_eq_filter, hn]; rfl
  by_cases hp : p = []
  · rw [hp, join_nil_left, hn]
    rfl
  · rw [components_join ha hp, hs]

/-! ## Other spellings of the same path -/

theorem same_iff {p q : Path} : same p q = true ↔ components p = components q :=
  decide_eq_true_iff

@[simp] theorem same_refl (p : Path) : same p p = true :=
  same_iff.2 rfl

theorem same_symm {p q : Path} (h : same p q = true) : same q p = true :=
  same_iff.2 (same_iff.1 h).symm

theorem same_trans {p q r : Path} (h : same p q = true) (h' : same q r = true) : same p r = true :=
  same_iff.2 ((same_iff.1 h).trans (same_iff.1 h'))

theorem same_eq_nil {p q : Path} (h : same p q = true) : p = [] ↔ q = [] := by
  rw [← components_eq_nil, same_iff.1 h, components_eq_nil]

theorem same_isAbsolute {p q : Path} (h : same p q = true) : isAbsolute p = isAbsolute q := by
  rw [isAbsolute_eq, isAbsolute_eq, same_iff.1 h]

theorem same_steps {p q : Path} (h : same p q = true) : steps p = steps q := by
  rw [steps_eq_filter, steps_eq_filter, same_iff.1 h]

theorem same_fileName {p q : Path} (h : same p q = true) : fileName p = fileName q := by
  rw [fileName, fileName, same_iff.1 h]

theorem same_extension {p q : Path} (h : same p q = true) : extension p = extension q := by
  rw [extension, extension, same_fileName h]

/-- **Joining reads what the spellings stand for.** The same paths joined are the same path. -/
theorem same_join {p p' q q' : Path} (hp : same p p' = true) (hq : same q q' = true) :
    same (join p q) (join p' q') = true := by
  cases ha : isAbsolute q with
  | true =>
    rw [join_of_isAbsolute ha, join_of_isAbsolute ((same_isAbsolute hq).symm.trans ha)]
    exact hq
  | false =>
    have ha' : isAbsolute q' = false := (same_isAbsolute hq).symm.trans ha
    by_cases hn : p = []
    · rw [hn, (same_eq_nil hp).1 hn, join_nil_left, join_nil_left]
      exact hq
    · have hn' : p' ≠ [] := fun e => hn ((same_eq_nil hp).2 e)
      rw [same_iff, components_join ha hn, components_join ha' hn', same_iff.1 hp, same_steps hq]

end Path
end IncludeAudit

/-!
## Plain spellings

Spelling a list of steps and reading it back. A step is read as itself when its piece is not empty, not a dot and has
no slash inside; then the plainest spelling of the root and such steps stands for just these.

- `pieces_paste`: pieces without the separator come back when they are pasted and cut again.
- `proper_of_mem_steps`: the steps of every path can be spelled.
- `components_ofComponents_root`: the plain spelling of the root and proper steps stands for what it was made from.
- `components_ofComponents`: so does the plain spelling of proper steps without the root.
-/

namespace IncludeAudit

/-! ## Pieces -/

namespace Text

theorem pieces_of_not_mem {sep : Char} {t : Text} (h : sep ∉ t) : pieces sep t = [t] := by
  induction t with
  | nil => rfl
  | cons c t ih =>
    obtain ⟨hc, ht⟩ := List.ne_and_not_mem_of_not_mem_cons h
    rw [pieces, if_neg hc.symm, ih ht, consFirst]

theorem mem_consFirst {c : Char} {ps : List Text} {p : Text} (h : p ∈ consFirst c ps) :
    p ∈ ps ∨ p = [c] ∨ ∃ q ∈ ps, p = c :: q := by
  cases ps with
  | nil => exact Or.inr (Or.inl (List.mem_singleton.1 h))
  | cons q ps =>
    rcases List.mem_cons.1 h with rfl | h
    · exact Or.inr (Or.inr ⟨q, List.mem_cons_self, rfl⟩)
    · exact Or.inl (List.mem_cons_of_mem _ h)

theorem sep_not_mem_of_mem_pieces {sep : Char} {t p : Text} (h : p ∈ pieces sep t) : sep ∉ p := by
  induction t generalizing p with
  | nil => rw [List.mem_singleton.1 h]; exact List.not_mem_nil
  | cons c t ih =>
    simp only [pieces] at h
    split_ifs at h with hc
    · rcases List.mem_cons.1 h with rfl | h
      · exact List.not_mem_nil
      · exact ih h
    · rcases mem_consFirst h with h | rfl | ⟨q, hq, rfl⟩
      · exact ih h
      · simpa using Ne.symm hc
      · simpa [Ne.symm hc] using ih hq

theorem pieces_paste {sep : Char} {ps : List Text} (h : ∀ p ∈ ps, sep ∉ p) (hne : ps ≠ []) :
    pieces sep (paste [sep] ps) = ps := by
  induction ps with
  | nil => exact absurd rfl hne
  | cons p ps ih =>
    have hp : sep ∉ p := h p List.mem_cons_self
    cases ps with
    | nil => exact pieces_of_not_mem hp
    | cons q ps =>
      rw [paste, List.append_assoc, List.singleton_append, pieces_append_sep, pieces_of_not_mem hp,
        ih (fun x hx => h x (List.mem_cons_of_mem _ hx)) (List.cons_ne_nil _ _), List.singleton_append]

end Text

/-! ## Proper steps -/

namespace Component

/-- the step is read back from its piece, wherever it stands in a path -/
def Proper (c : Component) : Prop :=
  '/' ∉ c.piece ∧ ofPiece c.piece = some c

theorem proper_of_ofPiece {p : Text} {c : Component} (hs : '/' ∉ p) (h : ofPiece p = some c) : c.Proper := by
  have hp : c.piece = p := by
    unfold ofPiece at h
    split_ifs at h with h1 h2
    · cases h; exact h2.symm
    · cases h; rfl
  exact ⟨hp ▸ hs, hp ▸ h⟩

end Component

namespace Path

open Component

theorem proper_of_mem_steps {p : Path} {c : Component} (h : c ∈ steps p) : c.Proper := by
  obtain ⟨piece, hp, hc⟩ := List.mem_filterMap.1 h
  exact proper_of_ofPiece (Text.sep_not_mem_of_mem_pieces hp) hc

/-! ## Plain spellings -/

theorem pieces_paste_proper {cs : List Component} (h : ∀ c ∈ cs, c.Proper) (hne : cs ≠ []) :
    Text.pieces '/' (Text.paste ['/'] (cs.map piece)) = cs.map piece := by
  refine Text.pieces_paste (fun p hp => ?_) (by simpa using hne)
  obtain ⟨c, hc, rfl⟩ := List.mem_map.1 hp
  exact (h c hc).1

theorem steps_paste {cs : List Component} (h : ∀ c ∈ cs, c.Proper) :
    steps (Text.paste ['/'] (cs.map piece)) = cs := by
  by_cases hne : cs = []
  · rw [hne]; rfl
  · have hread : ∀ c ∈ cs, (ofPiece ∘ piece) c = some c := fun c hc => (h c hc).2
    rw [steps, pieces_paste_proper h hne, List.filterMap_map, List.filterMap_congr hread, List.filterMap_some]

theorem ofComponents_root (cs : List Component) :
    ofComponents (.root :: cs) = '/' :: Text.paste ['/'] (cs.map piece) := by
  cases cs with
  | nil => rfl
  | cons c cs => rfl

theorem components_ofComponents_root {cs : List Component} (h : ∀ c ∈ cs, c.Proper) :
    components (ofComponents (.root :: cs)) = .root :: cs := by
  have hs := steps_append_slash [] (Text.paste ['/'] (cs.map piece))
  rw [List.nil_append, steps_paste h] at hs
  rw [ofComponents_root, components_eq, hs]
  rfl

theorem ofComponents_proper {cs : List Component} (h : ∀ c ∈ cs, c.Proper) :
    ofComponents cs = Text.paste ['/'] (cs.map piece) := by
  unfold ofComponents
  split
  · next => exact absurd (h .root List.mem_cons_self).2 (by decide)
  · rfl

/-- the piece in front of a plain spelling is a step, so it is no lead -/
theorem lead_paste {cs : List Component} (h : ∀ c ∈ cs, c.Proper) : lead (Text.paste ['/'] (cs.map piece)) = [] := by
  cases cs with
  | nil => rfl
  | cons c cs =>
    have hp := pieces_paste_proper h (List.cons_ne_nil c cs)
    have hc : ofPiece c.piece = some c := (h c List.mem_cons_self).2
    have hempty : c.piece ≠ [] := fun e => by rw [e] at hc; cases hc
    have hdot : c.piece ≠ ['.'] := fun e => by rw [e] at hc; cases hc
    have hslash : (Text.paste ['/'] ((c :: cs).map piece)).head? ≠ some '/' := fun e => by
      have hfirst := Text.head_pieces_eq_nil.2 (Or.inr e)
      rw [hp] at hfirst
      exact hempty (Option.some.inj hfirst)
    rw [lead, if_neg hslash, hp, if_neg (by simpa using hdot)]

/-- the plain spelling of proper steps stands for just these -/
theorem components_ofComponents {cs : List Component} (h : ∀ c ∈ cs, c.Proper) : components (ofComponents cs) = cs := by
  rw [ofComponents_proper h, components_eq, lead_paste h, steps_paste h, List.nil_append]

end Path
end IncludeAudit
