/-
Which settings mean the same database file. Two spellings of one path need not: whether a setting names a directory
is read off its last character as well, and a closing slash is no step of the path.

- `components_databaseFile`: the steps that a setting adds to the root.
- `same_databaseFile_iff`: two spellings of one path mean the same file exactly when both name a directory or neither
  does.
- `same_namesDirectory_iff`: that fails only for a last name with the extension `json`, when one of the two spellings
  closes with a slash and the other does not.
- `namesJson_iff`: when a last name has the extension `json`.
- `isSome_fileName_databaseFile`: whatever the setting, the file has a name.
- `databaseFile_retracts`: the file that a setting means is absolute, has the extension `json` and, taken for a setting,
  means itself; the default name may be written out in a setting or left out.
-/
import Mathlib.Data.List.TakeWhile
import IncludeAudit.Proofs.Path.Components
import IncludeAudit.Cache.State
import IncludeAudit.Path.Basic

namespace IncludeAudit.Path

/-- the last name has the extension `json`, in any letter case -/
def namesJson (p : Path) : Bool :=
  (extension p).map Text.lower = some ("json" : Text)

/-- the spelling closes with a slash -/
def closes (p : Path) : Bool :=
  p.getLast? = some '/'

theorem namesDirectory_eq (p : Path) : namesDirectory p = (closes p || !namesJson p) := by
  simp only [namesDirectory, closes, namesJson, ne_eq, decide_not]

theorem same_namesJson {p q : Path} (h : same p q = true) : namesJson p = namesJson q := by
  rw [namesJson, namesJson, same_extension h]

/-- two spellings of one path differ in what they name only through a slash behind a `json` file -/
theorem same_namesDirectory_iff {p q : Path} (h : same p q = true) :
    namesDirectory p = namesDirectory q ↔ (namesJson q = true → closes p = closes q) := by
  rw [namesDirectory_eq, namesDirectory_eq, same_namesJson h]
  cases namesJson q with
  | true => simp
  | false => simp

theorem components_databaseName : components databaseName = [.name databaseName] := by
  decide

/-- the steps to the database file: a setting for a directory adds the default name -/
theorem components_databaseFile (root setting : Path) :
    components (databaseFile root setting) =
      components (if setting = [] then root else join root setting) ++
        if namesDirectory setting then [.name databaseName] else [] := by
  by_cases hs : setting = []
  · subst hs
    rw [databaseFile, if_pos rfl, if_pos rfl, if_pos (by decide), components_join_name components_databaseName]
  · rw [databaseFile, if_neg hs, if_neg hs]
    split_ifs
    · rw [components_join_name components_databaseName]
    · rw [List.append_nil]

theorem same_databaseFile_iff {p q : Path} (root : Path) (h : same p q = true) :
    same (databaseFile root p) (databaseFile root q) = true ↔ namesDirectory p = namesDirectory q := by
  have hd : components (if p = [] then root else join root p) =
      components (if q = [] then root else join root q) := by
    by_cases hp : p = []
    · rw [if_pos hp, if_pos ((same_eq_nil h).1 hp)]
    · rw [if_neg hp, if_neg fun hq => hp ((same_eq_nil h).2 hq)]
      exact same_iff.1 (same_join (same_refl root) h)
  rw [same_iff, components_databaseFile, components_databaseFile, hd, List.append_cancel_left_eq]
  cases namesDirectory p <;> cases namesDirectory q <;> simp

/-! ## The name of the file -/

theorem fileName_eq_some {p : Path} {n : Text} : fileName p = some n ↔ (components p).getLast? = some (.name n) := by
  unfold fileName
  split
  · next m hm => simp [hm]
  · next hno =>
    constructor
    · intro h
      cases h
    · intro h
      exact absurd h (hno n)

/-- joined behind another path, a path keeps its last name -/
theorem fileName_join {q : Path} {n : Text} (hq : fileName q = some n) (p : Path) : fileName (join p q) = some n := by
  by_cases ha : isAbsolute q = true
  · rwa [join_of_isAbsolute ha]
  by_cases hp : p = []
  · rwa [hp, join_nil_left]
  rw [fileName_eq_some] at hq ⊢
  rw [components_join (Bool.eq_false_of_not_eq_true ha) hp]
  rw [components_eq] at hq
  cases hs : (steps q).getLast? with
  | some c => rw [List.getLast?_append, hs] at hq ⊢; exact hq
  | none =>
    -- a lead is no name
    rw [List.getLast?_eq_none_iff.1 hs, List.append_nil] at hq
    exact absurd (lead_leads (List.mem_of_getLast? hq)) (by simp [Component.leads])

/-! ## The extension of the file -/

/-- a list that is longer than its first part goes on with an element that ends this part -/
theorem exists_of_length_takeWhile_lt {α : Type} {p : α → Bool} {l : List α} (h : (l.takeWhile p).length < l.length) :
    ∃ x r, p x = false ∧ l = l.takeWhile p ++ x :: r := by
  have hsplit := List.takeWhile_append_dropWhile (p := p) (l := l)
  have hnot := List.head?_dropWhile_not p l
  cases hd : l.dropWhile p with
  | nil =>
    rw [hd, List.append_nil] at hsplit
    rw [hsplit] at h
    exact absurd h (lt_irrefl _)
  | cons x r =>
    rw [hd] at hsplit hnot
    exact ⟨x, r, hnot, hsplit.symm⟩

/-- a name has an extension when a dot stands in it that is not its first character; the last dot counts -/
theorem extensionOf_eq_some {n ext : Text} :
    extensionOf n = some ext ↔ ∃ stem, stem ≠ [] ∧ n = stem ++ '.' :: ext ∧ '.' ∉ ext := by
  constructor
  · intro h
    simp only [extensionOf, Option.ite_none_right_eq_some, Option.some.injEq] at h
    obtain ⟨hlen, hext⟩ := h
    obtain ⟨c, r, hc, hn⟩ := exists_of_length_takeWhile_lt (p := fun c => decide (c ≠ '.')) (l := n.reverse)
      (by rw [List.length_reverse] at hlen ⊢; omega)
    obtain rfl : c = '.' := by simpa using hc
    have hdot : '.' ∉ ext := fun h => by
      rw [← hext, List.mem_reverse] at h
      simpa using List.mem_takeWhile_imp h
    have hn' : n = r.reverse ++ '.' :: ext := by
      have := congrArg List.reverse hn
      rwa [List.reverse_reverse, List.reverse_append, hext, List.reverse_cons, List.append_assoc] at this
    refine ⟨r.reverse, fun hr => ?_, hn', hdot⟩
    rw [hext, hn', hr] at hlen
    exact absurd hlen (lt_irrefl _)
  · rintro ⟨stem, hstem, rfl, hext⟩
    have hbehind : ((stem ++ '.' :: ext).reverse.takeWhile fun c => decide (c ≠ '.')).reverse = ext := by
      rw [List.append_cons]
      refine Text.takeWhile_reverse_append (by simp) fun c hc => ?_
      exact decide_eq_true fun e => hext (e ▸ hc)
    have hlen : ext.length + 1 < (stem ++ '.' :: ext).length := by
      have := List.length_pos_iff.2 hstem
      rw [List.length_append, List.length_cons]
      omega
    simp only [extensionOf, hbehind, if_pos hlen]

theorem namesJson_iff {p : Path} :
    namesJson p = true ↔
      ∃ stem ext, fileName p = some (stem ++ '.' :: ext) ∧ stem ≠ [] ∧ Text.lower ext = ("json" : Text) := by
  rw [namesJson, decide_eq_true_eq, extension]
  constructor
  · intro h
    obtain ⟨ext, hp, hjson⟩ := Option.map_eq_some_iff.1 h
    obtain ⟨n, hn, hext⟩ := Option.bind_eq_some_iff.1 hp
    obtain ⟨stem, hstem, rfl, -⟩ := extensionOf_eq_some.1 hext
    exact ⟨stem, ext, hn, hstem, hjson⟩
  · rintro ⟨stem, ext, hn, hstem, hjson⟩
    have hdot : '.' ∉ ext := fun h => by
      have : '.' ∈ Text.lower ext := List.mem_map.2 ⟨'.', h, rfl⟩
      rw [hjson] at this
      exact absurd this (by decide)
    rw [hn, Option.bind_some, extensionOf_eq_some.2 ⟨stem, hstem, rfl, hdot⟩, Option.map_some, hjson]

/-- joined behind another path, a path keeps the extension of its last name -/
theorem namesJson_join {q : Path} (h : namesJson q = true) (p : Path) : namesJson (join p q) = true := by
  obtain ⟨stem, ext, hname, hext⟩ := namesJson_iff.1 h
  exact namesJson_iff.2 ⟨stem, ext, fileName_join hname p, hext⟩

theorem closes_join {q : Path} (h : q ≠ []) (p : Path) : closes (join p q) = closes q := by
  unfold closes join
  split_ifs
  · rfl
  · rw [List.getLast?_append_of_ne_nil p h]
  · rw [List.getLast?_append_of_ne_nil p (List.cons_ne_nil _ _), List.getLast?_cons_of_ne_nil h]

theorem namesJson_of_namesDirectory {p : Path} (h : namesDirectory p = false) : namesJson p = true := by
  rw [namesDirectory_eq, Bool.or_eq_false_iff, Bool.not_eq_false'] at h
  exact h.2

/-- joined behind another path, the name of a file still names a file -/
theorem namesDirectory_join {q : Path} (h : namesDirectory q = false) (p : Path) : namesDirectory (join p q) = false := by
  have hq : q ≠ [] := fun e => by rw [e] at h; exact absurd h (by decide)
  have hjson := namesJson_of_namesDirectory h
  rw [namesDirectory_eq, closes_join hq, namesJson_join hjson, ← hjson, ← namesDirectory_eq, h]

theorem namesDirectory_databaseFile (root setting : Path) : namesDirectory (databaseFile root setting) = false := by
  have hname : namesDirectory databaseName = false := by decide
  unfold databaseFile
  split_ifs with hs hd
  · exact namesDirectory_join hname root
  · exact namesDirectory_join hname _
  · exact namesDirectory_join (Bool.eq_false_of_not_eq_true hd) root

/-- the last name of the file, with what stands in front of its extension -/
theorem fileName_databaseFile (root setting : Path) :
    ∃ stem ext, fileName (databaseFile root setting) = some (stem ++ '.' :: ext) ∧ stem ≠ [] ∧
      Text.lower ext = ("json" : Text) :=
  namesJson_iff.1 (namesJson_of_namesDirectory (namesDirectory_databaseFile root setting))

theorem isAbsolute_databaseFile {root : Path} (h : isAbsolute root = true) (setting : Path) :
    isAbsolute (databaseFile root setting) = true := by
  unfold databaseFile
  split_ifs
  · exact isAbsolute_join h _
  · exact isAbsolute_join (isAbsolute_join h _) _
  · exact isAbsolute_join h _

theorem isSome_fileName_databaseFile (root setting : Path) : (fileName (databaseFile root setting)).isSome := by
  obtain ⟨stem, ext, hname, -⟩ := fileName_databaseFile root setting
  rw [hname]
  rfl

/-! ## Resolving again -/

/-- what a setting means is a setting that means itself -/
theorem databaseFile_databaseFile {root : Path} (h : isAbsolute root = true) (other setting : Path) :
    databaseFile other (databaseFile root setting) = databaseFile root setting := by
  have habs : isAbsolute (databaseFile root setting) = true := isAbsolute_databaseFile h setting
  have hne : databaseFile root setting ≠ [] := fun e => by rw [e] at habs; cases habs
  rw [databaseFile, if_neg hne, namesDirectory_databaseFile, if_neg Bool.false_ne_true, join_of_isAbsolute habs]

theorem same_append_slash {p : Path} (h : p ≠ []) : same p (p ++ ['/']) = true := by
  rw [same_iff, components_eq, components_eq, lead_append_slash_of_ne h, steps_append_slash]
  exact congrArg _ (List.append_nil _).symm

theorem same_databaseFile_append_slash {d : Path} (hd : d ≠ []) (hjson : namesJson d = false) (root : Path) :
    same (databaseFile root d) (databaseFile root (d ++ ['/'])) = true := by
  have hcloses : closes (d ++ ['/']) = true := decide_eq_true List.getLast?_concat
  rw [same_databaseFile_iff root (same_append_slash hd), namesDirectory_eq, namesDirectory_eq, hjson, hcloses]
  simp

/-- the default file may as well be written out -/
theorem databaseFile_join_databaseName {d : Path} (hd : d ≠ []) (hjson : namesJson d = false) (root : Path) :
    databaseFile root (join d databaseName) = databaseFile root d := by
  have hfile : namesDirectory (join d databaseName) = false := namesDirectory_join (by decide) d
  have hdir : namesDirectory d = true := by rw [namesDirectory_eq, hjson, Bool.not_false, Bool.or_true]
  rw [databaseFile, if_neg (join_ne_nil hd _), hfile, if_neg Bool.false_ne_true, join_assoc, databaseFile, if_neg hd,
    if_pos hdir]

/-- **Resolving a setting is a retraction.** Under an absolute root every setting means an absolute path with a last
name that has the extension `json` in some letter case, so that a watcher never finds it to be no file; and that path,
taken for a setting in its turn, means itself under every root. A setting that is not empty and has no such extension
means the same file with a slash behind it, and with the default name joined to it. -/
theorem databaseFile_retracts {root : Path} (h : isAbsolute root = true) (setting : Path) :
    let file := databaseFile root setting
    isAbsolute file = true ∧
      (∃ stem ext, fileName file = some (stem ++ '.' :: ext) ∧ stem ≠ [] ∧ Text.lower ext = ("json" : Text)) ∧
      (∀ epoch, Cache.Watch.on epoch file = .ok ⟨epoch, file⟩) ∧
      (∀ other, databaseFile other file = file) ∧
      (setting ≠ [] → namesJson setting = false →
        same file (databaseFile root (setting ++ ['/'])) = true ∧
          same file (databaseFile root (join setting databaseName)) = true) := by
  intro file
  refine ⟨isAbsolute_databaseFile h setting, fileName_databaseFile root setting,
    fun epoch => if_pos (isSome_fileName_databaseFile root setting),
    fun other => databaseFile_databaseFile h other setting, fun hne hjson => ⟨?_, ?_⟩⟩
  · exact same_databaseFile_append_slash hne hjson root
  · rw [databaseFile_join_databaseName hne hjson]
    exact same_refl _

/-- a dot in front makes no extension, so this setting is a directory -/
theorem databaseFile_retracts_dotted :
    let root : Path := "/p/./q/"
    let setting : Path := "../.json"
    let file : Path := "/p/./q/../.json/compile_commands.json"
    isAbsolute root = true ∧ (setting ≠ [] ∧ namesJson setting = false) ∧ databaseFile root setting = file ∧
      (∀ other, databaseFile other file = file) ∧ same file (databaseFile root (setting ++ ['/'])) = true := by
  intro root setting file
  have habs : isAbsolute root = true := by decide
  have hne : setting ≠ [] := by decide
  have hjson : namesJson setting = false := by decide
  have hfile : databaseFile root setting = file := by decide
  obtain ⟨-, -, -, hagain, hspelled⟩ := databaseFile_retracts habs setting
  rw [hfile] at hagain hspelled
  exact ⟨habs, ⟨hne, hjson⟩, hfile, hagain, (hspelled hne hjson).1⟩

end IncludeAudit.Path
