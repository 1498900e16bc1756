/-
Settings key by key. A layer says something for some of the keys, settings say something for all of them but the two
patterns. So a layer on top of settings decides just the keys that it says something for, and of many layers the last
one that has a key decides it. A layer that is written out is read as itself, in any order of its keys, and so is
everything that settings say. Paths may be of any type whose texts are known; what cannot be written is a path that is
not text.

- `Key`, `get?`: what layers and settings say for a key, `ext_get?`: nothing else is in them.
- `get?_foldl_apply`: the last layer that has a key decides it, `foldl_apply`: any number of layers are as good as one.
- `parse_document`: a written layer is read as itself, and a key that is null or left out is open.
- `layers_overlay_by_key`: layers, and files of them, on top of settings.
- `Writable`, `write_eq`, `write_eq_error_iff`: settings are written key by key unless one of their paths is not text.
- `written_settings_read_back`: settings on top of any that have no pattern of their own.
-/
import IncludeAudit.Proofs.Json.Written
import IncludeAudit.Proofs.Settings.Files

namespace IncludeAudit

namespace Settings

variable {P : Type} [SystemPath P]

/-! ## Keys -/

/-- what can be set -/
inductive Key
  | tool
  | fixScript
  | database
  | mappingFiles
  | toolFlags
  | fixFlags
  | safeHeaders
  | comments
  | reorder
  | ignoreRe
  | onlyRe
  deriving DecidableEq, Repr

namespace Key

/-- every key, in the order in which settings are written -/
def all : List Key :=
  [tool, fixScript, database, mappingFiles, toolFlags, fixFlags, safeHeaders, comments, reorder, ignoreRe, onlyRe]

/-- what a key is set to, when paths are of type `P` -/
def Value (P : Type) : Key → Type
  | tool | fixScript | database => P
  | ignoreRe | onlyRe => Text
  | mappingFiles | toolFlags | fixFlags => List Text
  | safeHeaders | comments | reorder => Bool

/-- the name of a key in a document -/
def name : Key → Text
  | tool => "iwyu_path"
  | fixScript => "fix_includes_path"
  | database => "compile_commands"
  | mappingFiles => "mapping_files"
  | toolFlags => "iwyu_args"
  | fixFlags => "fix_args"
  | safeHeaders => "fix_safe_headers"
  | comments => "fix_comments"
  | reorder => "fix_reorder"
  | ignoreRe => "fix_ignore_re"
  | onlyRe => "fix_only_re"

/-- how a key is written -/
def write : (k : Key) → k.Value P → Except WriteError Json
  | tool | fixScript | database => fun p : P => writePath p
  | ignoreRe | onlyRe => fun t => .ok (.string t)
  | mappingFiles | toolFlags | fixFlags => fun ts => .ok (.strings ts)
  | safeHeaders | comments | reorder => fun b => .ok (.bool b)

/-- how a key is read -/
def read : (k : Key) → Json.Reader (k.Value P)
  | tool | fixScript | database => (Layer.readPath : Json.Reader P)
  | ignoreRe | onlyRe => Json.readText "a string"
  | mappingFiles | toolFlags | fixFlags => Json.readList (Json.readText "a string")
  | safeHeaders | comments | reorder => Json.readBool

theorem mem_all (k : Key) : k ∈ all := by
  cases k <;> decide

theorem name_inj {k k' : Key} (h : k.name = k'.name) : k = k' := by
  revert h
  cases k <;> cases k' <;> decide

theorem nodup_names {keys : List Key} (h : keys.Nodup) : (keys.map name).Nodup :=
  h.map fun _ _ => name_inj

/-- a written path is the text that spells it, and is read as the path again -/
theorem gives_writePath {p : P} {j : Json} (h : writePath p = .ok j) : Json.Gives Layer.readPath j p ∧ j ≠ .null := by
  cases ht : SystemPath.text? p with
  | none =>
    rw [writePath, ht] at h
    cases h
  | some t =>
    rw [writePath, ht] at h
    obtain rfl := Except.ok.inj h
    refine ⟨fun b u hb hu rest o => ?_, nofun⟩
    simp only [Layer.readPath, Json.gives_text _ t hb hu rest o, bind, Except.bind, pure, Except.pure,
      SystemPath.ofText_of_text? ht]

/-- what is written for a key is read as the same again, and is never null -/
theorem gives_write {k : Key} {v : k.Value P} {j : Json} (h : k.write v = .ok j) :
    Json.Gives k.read j v ∧ j ≠ .null := by
  cases k with
  | tool | fixScript | database => exact gives_writePath (P := P) h
  | ignoreRe | onlyRe =>
    obtain rfl := Except.ok.inj h
    exact ⟨Json.gives_text _ v, nofun⟩
  | mappingFiles | toolFlags | fixFlags =>
    obtain rfl := Except.ok.inj h
    exact ⟨Json.gives_strings _ v, nofun⟩
  | safeHeaders | comments | reorder =>
    obtain rfl := Except.ok.inj h
    exact ⟨Json.gives_bool v, nofun⟩

end Key

/-- what settings say for a key; only the two patterns may be missing -/
def get? (s : Settings P) : (k : Key) → Option (k.Value P)
  | .tool => some s.tool
  | .fixScript => some s.fixScript
  | .database => some s.database
  | .mappingFiles => some s.mappingFiles
  | .toolFlags => some s.toolFlags
  | .fixFlags => some s.fixFlags
  | .safeHeaders => some s.safeHeaders
  | .comments => some s.comments
  | .reorder => some s.reorder
  | .ignoreRe => s.ignoreRe
  | .onlyRe => s.onlyRe

theorem ext_get? {s u : Settings P} (h : ∀ k, s.get? k = u.get? k) : s = u := by
  have hsome : ∀ {k}, ∀ {v w : k.Value P}, s.get? k = some v → u.get? k = some w → v = w := fun hv hw =>
    Option.some.inj (hv.symm.trans ((h _).trans hw))
  obtain ⟨⟩ := s
  obtain ⟨⟩ := u
  simp only [Settings.mk.injEq]
  exact ⟨hsome (k := .tool) rfl rfl, hsome (k := .fixScript) rfl rfl, hsome (k := .database) rfl rfl,
    hsome (k := .mappingFiles) rfl rfl, hsome (k := .toolFlags) rfl rfl, hsome (k := .fixFlags) rfl rfl,
    hsome (k := .safeHeaders) rfl rfl, hsome (k := .comments) rfl rfl, hsome (k := .reorder) rfl rfl, h .ignoreRe,
    h .onlyRe⟩

end Settings

namespace Layer

open Settings (Key)

variable {P : Type}

/-- what a layer says for a key -/
def get? (l : Layer P) : (k : Key) → Option (k.Value P)
  | .tool => l.tool
  | .fixScript => l.fixScript
  | .database => l.database
  | .mappingFiles => l.mappingFiles
  | .toolFlags => l.toolFlags
  | .fixFlags => l.fixFlags
  | .safeHeaders => l.safeHeaders
  | .comments => l.comments
  | .reorder => l.reorder
  | .ignoreRe => l.ignoreRe
  | .onlyRe => l.onlyRe

/-- a layer that says something else for a key -/
def put : (k : Key) → Option (k.Value P) → Layer P → Layer P
  | .tool, v, l => { l with tool := v }
  | .fixScript, v, l => { l with fixScript := v }
  | .database, v, l => { l with database := v }
  | .mappingFiles, v, l => { l with mappingFiles := v }
  | .toolFlags, v, l => { l with toolFlags := v }
  | .fixFlags, v, l => { l with fixFlags := v }
  | .safeHeaders, v, l => { l with safeHeaders := v }
  | .comments, v, l => { l with comments := v }
  | .reorder, v, l => { l with reorder := v }
  | .ignoreRe, v, l => { l with ignoreRe := v }
  | .onlyRe, v, l => { l with onlyRe := v }

theorem ext_get? {l m : Layer P} (h : ∀ k, l.get? k = m.get? k) : l = m := by
  obtain ⟨⟩ := l
  obtain ⟨⟩ := m
  simp only [Layer.mk.injEq]
  exact ⟨h .tool, h .fixScript, h .database, h .mappingFiles, h .toolFlags, h .fixFlags, h .safeHeaders, h .comments,
    h .reorder, h .ignoreRe, h .onlyRe⟩

theorem get?_empty (k : Key) : ({} : Layer P).get? k = none := by
  cases k <;> rfl

theorem get?_put_self (k : Key) (v : Option (k.Value P)) (l : Layer P) : (l.put k v).get? k = v := by
  cases k <;> rfl

theorem get?_put_of_ne {k k' : Key} (h : k' ≠ k) (v : Option (k.Value P)) (l : Layer P) :
    (put k v l).get? k' = l.get? k' := by
  cases k <;> cases k' <;> first | rfl | exact absurd rfl h

theorem get?_foldl_put (l m : Layer P) (keys : List Key) (k : Key) :
    ((keys.map fun k => put k (l.get? k)).foldl (fun m f => f m) m).get? k =
      if k ∈ keys then l.get? k else m.get? k := by
  induction keys generalizing m with
  | nil => rfl
  | cons k' keys ih =>
    rw [List.map_cons, List.foldl_cons, ih]
    by_cases he : k = k'
    · subst he
      simp [get?_put_self]
    · simp [get?_put_of_ne he, he]

theorem get?_merge (l m : Layer P) (k : Key) : (l.merge m).get? k = (m.get? k).or (l.get? k) := by
  cases k <;> exact Option.orElse_eq_or

end Layer

/-! ## Layers on top -/

namespace Settings

variable {P : Type} [SystemPath P]

theorem get?_apply (s : Settings P) (l : Layer P) (k : Key) : (s.apply l).get? k = (l.get? k).or (s.get? k) := by
  cases k with
  | ignoreRe | onlyRe => exact Option.orElse_eq_or
  | _ => exact Option.or_some.symm

/-- the last layer that has a key decides it -/
theorem get?_foldl_apply (s : Settings P) (ls : List (Layer P)) (k : Key) :
    (ls.foldl apply s).get? k = (ls.filterMap (·.get? k)).getLast?.or (s.get? k) := by
  induction ls generalizing s with
  | nil => rfl
  | cons l ls ih =>
    rw [List.foldl_cons, ih, get?_apply, ← Option.or_assoc, List.filterMap_cons]
    cases hl : l.get? k with
    | none => rw [Option.or_none]
    | some v => rw [Option.or_some, List.getLast?_cons]

theorem apply_merge (s : Settings P) (l m : Layer P) : s.apply (l.merge m) = (s.apply l).apply m := by
  refine ext_get? fun k => ?_
  rw [get?_apply, get?_apply, get?_apply, Layer.get?_merge, Option.or_assoc]

/-- any number of layers are as good as one -/
theorem foldl_apply (s : Settings P) (ls : List (Layer P)) : ls.foldl apply s = s.apply (ls.foldl Layer.merge {}) := by
  have hall : ∀ l, ls.foldl apply (s.apply l) = s.apply (ls.foldl Layer.merge l) := by
    induction ls with
    | nil => exact fun l => rfl
    | cons m ls ih =>
      intro l
      rw [List.foldl_cons, List.foldl_cons, ← apply_merge, ih]
  -- on top of nothing: the empty layer leaves the settings as they are
  exact hall {}

end Settings

/-! ## Written layers -/

namespace Layer

open Settings (Key)

variable {P : Type} [SystemPath P]

/-- a key as a layer has it in a document: null when it is open -/
def member (l : Layer P) (k : Key) : Except Settings.WriteError (Text × Json) :=
  ((l.get? k).elim (.ok .null) k.write).map fun j => (k.name, j)

theorem find?_fields (k : Key) :
    (shape : Json.Shape (Layer P)).fields.find? (·.name = k.name) =
      some (Json.Field.optional k.name k.read (put k)) := by
  cases k <;> rfl

theorem member_eq_ok {l : Layer P} {k : Key} {m : Text × Json} (h : l.member k = .ok m) :
    m.1 = k.name ∧ Json.Takes shape m (put k (l.get? k)) := by
  unfold member at h
  cases hk : l.get? k with
  | none =>
    rw [hk] at h
    obtain rfl := Except.ok.inj h
    exact ⟨rfl, _, find?_fields k, Json.gives_field (Json.gives_null _)⟩
  | some v =>
    rw [hk] at h
    cases hw : k.write v with
    | error e =>
      rw [Option.elim, hw] at h
      cases h
    | ok j =>
      rw [Option.elim, hw] at h
      obtain rfl := Except.ok.inj h
      obtain ⟨hj, hne⟩ := Key.gives_write hw
      exact ⟨rfl, _, find?_fields k, Json.gives_field (Json.gives_optional hj hne)⟩

theorem mapM_member_eq_ok_iff {l : Layer P} {keys : List Key} {ms : List (Text × Json)} :
    keys.mapM l.member = .ok ms ↔ List.Forall₂ (fun k m => l.member k = .ok m) keys ms := by
  constructor
  · intro h
    induction keys generalizing ms with
    | nil =>
      obtain rfl := Except.ok.inj h
      exact .nil
    | cons k keys ih =>
      rw [List.mapM_cons] at h
      cases hk : l.member k with
      | error e =>
        rw [hk] at h
        cases h
      | ok m =>
        cases hrest : keys.mapM l.member with
        | error e =>
          rw [hk, hrest] at h
          cases h
        | ok rest =>
          rw [hk, hrest] at h
          obtain rfl := Except.ok.inj h
          exact .cons hk (ih hrest)
  · intro h
    induction h with
    | nil => rfl
    | cons hk _ ih =>
      rw [List.mapM_cons, hk, ih]
      rfl

/-- a written layer is read as itself; a key that is open may be null or left out -/
theorem parse_document {l : Layer P} {keys : List Key} {ms : List (Text × Json)} (hn : keys.Nodup)
    (hk : ∀ k, l.get? k ≠ none → k ∈ keys) (hm : keys.mapM l.member = .ok ms) {document : Text}
    (hd : Json.Document (.object ms) document) : parse document = .ok l := by
  have hmembers := mapM_member_eq_ok_iff.1 hm
  have htakes : List.Forall₂ (Json.Takes shape) ms (keys.map fun k => put k (l.get? k)) := by
    rw [List.forall₂_map_right_iff]
    exact hmembers.flip.imp fun _ _ h => (member_eq_ok h).2
  have hnames : ms.map Prod.fst = keys.map Key.name := by
    rw [← List.forall₂_eq_eq_eq, List.forall₂_map_left_iff, List.forall₂_map_right_iff]
    exact hmembers.flip.imp fun _ _ h => (member_eq_ok h).1
  have hall : (keys.map fun k => put k (l.get? k)).foldl (fun m f => f m) shape.start = l := by
    refine ext_get? fun k => ?_
    rw [get?_foldl_put]
    split_ifs with hmem
    · rfl
    · exact (get?_empty k).trans (not_not.1 fun hne => hmem (hk k (Ne.symm hne)))
  rw [parse, Json.readDocument_eq (Json.gives_record htakes (hnames ▸ Key.nodup_names hn)) hd, hall]

end Layer

namespace Settings

variable {P : Type} [SystemPath P]

/-- **Layers overlay key by key.** On top of settings, any number of layers leave for each key what the last layer that
has the key says for it, else what the settings say, whatever there is for other keys; so any number of layers do what
their merge does, in which the later one has the last word. Files give the layers that they say, a missing file the
empty one, up to the first file that is there and cannot be read or understood: what is wrong with it is all that is
given then. A document has a key for its layer exactly when the key is in it and not null. -/
theorem layers_overlay_by_key (t : Tree) (here : Place) (s : Settings P) :
    (∀ (ls : List (Layer P)) (k : Key),
      (ls.foldl apply s).get? k = (ls.filterMap (·.get? k)).getLast?.or (s.get? k)) ∧
    (∀ ls : List (Layer P), ls.foldl apply s = s.apply (ls.foldl Layer.merge {})) ∧
    (∀ l m : Layer P,
      (s.apply l).apply m = s.apply (l.merge m) ∧ ∀ k, (l.merge m).get? k = (m.get? k).or (l.get? k)) ∧
    (∀ (ps : List Path) (u : Settings P),
      applyFiles t here s ps = .ok u ↔ ∃ ls, List.Forall₂ (Says t here) ps ls ∧ u = ls.foldl apply s) ∧
    (∀ (ps : List Path) (e : FileError), applyFiles t here s ps = .error e ↔
      ∃ before p after, ps = before ++ p :: after ∧ (∃ ls : List (Layer P), List.Forall₂ (Says t here) before ls) ∧
        Breaks P t here p e) ∧
    ∀ (l : Layer P) (keys : List Key) (ms : List (Text × Json)) (document : Text), keys.Nodup →
      (∀ k, l.get? k ≠ none → k ∈ keys) → keys.mapM l.member = .ok ms → Json.Document (.object ms) document →
      Layer.parse document = .ok l :=
  ⟨get?_foldl_apply s, foldl_apply s, fun l m => ⟨(apply_merge s l m).symm, Layer.get?_merge l m⟩,
    fun _ _ => applyFiles_eq_ok_iff, fun _ _ => applyFiles_eq_error_iff,
    fun _ _ _ _ hn hk hm hd => Layer.parse_document hn hk hm hd⟩

/-- a layer with a key that is null and others that are left out: the base and the layer below keep their say -/
theorem layers_overlay_by_key_null :
    let l : Layer Path := { tool := some "/opt/\"a b\"", toolFlags := some ["-v", []] }
    let keys : List Key := [.toolFlags, .comments, .tool]
    let ms : List (Text × Json) :=
      [("iwyu_args", .strings ["-v", []]), ("fix_comments", .null), ("iwyu_path", .string "/opt/\"a b\"")]
    let document : Text := (Json.object ms).pretty
    let s : Settings Path := { comments := false, onlyRe := some "src" }
    let u : Settings Path := [({ comments := some true, tool := some "a" } : Layer Path), l].foldl apply s
    (keys.Nodup ∧ ∀ k, l.get? k ≠ none → k ∈ keys) ∧ keys.mapM l.member = .ok ms ∧ Layer.parse document = .ok l ∧
      u.get? .tool = some ("/opt/\"a b\"" : Text) ∧ u.get? .comments = some true ∧
      u.get? .onlyRe = some ("src" : Text) := by
  intro l keys ms document s u
  have hn : keys.Nodup := by decide
  have hk : ∀ k, l.get? k ≠ none → k ∈ keys := by
    intro k hne
    cases k with
    | tool | comments | toolFlags => decide
    | _ => exact absurd rfl hne
  have hm : keys.mapM l.member = .ok ms := rfl
  obtain ⟨hkeys, -, -, -, -, hparse⟩ := layers_overlay_by_key {} [] s
  exact ⟨⟨hn, hk⟩, hm, hparse l keys ms document hn hk hm (Json.written_prettyAt 0 _).document, hkeys _ .tool,
    hkeys _ .comments, hkeys _ .onlyRe⟩

/-! ## Written settings -/

/-- settings can be written when their paths are text -/
def Writable (s : Settings P) : Prop :=
  ∀ p ∈ [s.tool, s.fixScript, s.database], (SystemPath.text? p).isSome

/-- a layer that says what settings say -/
def toLayer (s : Settings P) : Layer P where
  tool := some s.tool
  fixScript := some s.fixScript
  database := some s.database
  mappingFiles := some s.mappingFiles
  toolFlags := some s.toolFlags
  fixFlags := some s.fixFlags
  safeHeaders := some s.safeHeaders
  comments := some s.comments
  reorder := some s.reorder
  ignoreRe := s.ignoreRe
  onlyRe := s.onlyRe

/-- a pattern that is not set is written as null -/
theorem member_pattern (re : Option Text) (name : Text) :
    ((re.elim (.ok .null) fun t => .ok (.string t) : Except WriteError Json).map fun j => (name, j)) =
      .ok (name, .optional (re.map .string)) := by
  cases re <;> rfl

/-- settings are written with all their keys, one after another -/
theorem write_eq (s : Settings P) : s.write = (Key.all.mapM s.toLayer.member).map .object := by
  have htool : s.toLayer.member .tool = (writePath s.tool).map fun j => (Key.tool.name, j) := rfl
  have hscript : s.toLayer.member .fixScript = (writePath s.fixScript).map fun j => (Key.fixScript.name, j) := rfl
  have hdatabase : s.toLayer.member .database = (writePath s.database).map fun j => (Key.database.name, j) := rfl
  have hignore : s.toLayer.member .ignoreRe = _ := member_pattern s.ignoreRe Key.ignoreRe.name
  have honly : s.toLayer.member .onlyRe = _ := member_pattern s.onlyRe Key.onlyRe.name
  simp only [write, Key.all, List.mapM_cons, List.mapM_nil, hignore, honly, htool, hscript, hdatabase]
  -- beyond the paths nothing can fail
  cases writePath s.tool with
  | error e => rfl
  | ok tool =>
    cases writePath s.fixScript with
    | error e => rfl
    | ok script =>
      cases writePath s.database with
      | error e => rfl
      | ok database => rfl

theorem exists_writePath_iff {p : P} : (∃ j, writePath p = .ok j) ↔ (SystemPath.text? p).isSome := by
  unfold writePath
  cases SystemPath.text? p with
  | some t => exact ⟨fun _ => rfl, fun _ => ⟨_, rfl⟩⟩
  | none => exact ⟨nofun, nofun⟩

theorem exists_member {s : Settings P} (h : s.Writable) (k : Key) : ∃ m, s.toLayer.member k = .ok m := by
  have hpath : ∀ p ∈ [s.tool, s.fixScript, s.database], ∀ name : Text,
      ∃ m, ((writePath p).map fun j => (name, j)) = .ok m := by
    intro p hp name
    obtain ⟨j, hj⟩ := exists_writePath_iff.2 (h p hp)
    exact ⟨(name, j), by rw [hj, Except.map]⟩
  cases k with
  | tool => exact hpath s.tool (by simp) _
  | fixScript => exact hpath s.fixScript (by simp) _
  | database => exact hpath s.database (by simp) _
  | ignoreRe => exact ⟨_, member_pattern s.ignoreRe _⟩
  | onlyRe => exact ⟨_, member_pattern s.onlyRe _⟩
  | _ => exact ⟨_, rfl⟩

/-- whatever the order of the keys -/
theorem exists_members {s : Settings P} (h : s.Writable) (keys : List Key) :
    ∃ ms, keys.mapM s.toLayer.member = .ok ms := by
  choose m hm using exists_member h
  refine ⟨keys.map m, Layer.mapM_member_eq_ok_iff.2 ?_⟩
  rw [List.forall₂_map_right_iff, List.forall₂_same]
  exact fun k _ => hm k

theorem writable_of_write {s : Settings P} {j : Json} (h : s.write = .ok j) : s.Writable := by
  unfold write at h
  cases htool : writePath s.tool with
  | error e =>
    rw [htool] at h
    cases h
  | ok tool =>
    cases hscript : writePath s.fixScript with
    | error e =>
      rw [htool, hscript] at h
      cases h
    | ok script =>
      cases hdatabase : writePath s.database with
      | error e =>
        rw [htool, hscript, hdatabase] at h
        cases h
      | ok database =>
        rw [Writable, List.forall_mem_cons, List.forall_mem_cons, List.forall_mem_singleton]
        exact ⟨exists_writePath_iff.1 ⟨_, htool⟩, exists_writePath_iff.1 ⟨_, hscript⟩,
          exists_writePath_iff.1 ⟨_, hdatabase⟩⟩

/-- settings are written unless one of their paths is not text -/
theorem write_eq_error_iff {s : Settings P} {e : WriteError} : s.write = .error e ↔ ¬ s.Writable := by
  cases hw : s.write with
  | ok j => exact ⟨nofun, fun h => absurd (writable_of_write hw) h⟩
  | error e' =>
    obtain ⟨⟩ := e
    obtain ⟨⟩ := e'
    refine iff_of_true rfl fun h => ?_
    obtain ⟨ms, hms⟩ := exists_members h Key.all
    rw [write_eq, hms] at hw
    cases hw

/-- what settings say takes the place of what a base says, unless a pattern of the base is left standing -/
theorem apply_toLayer_iff {s b : Settings P} :
    b.apply s.toLayer = s ↔ (s.ignoreRe = none → b.ignoreRe = none) ∧ (s.onlyRe = none → b.onlyRe = none) := by
  have hkeeps : ∀ {re base : Option Text}, (re <|> base) = re ↔ (re = none → base = none) := by
    intro re base
    cases re <;> simp
  constructor
  · intro h
    exact ⟨hkeeps.1 (congrArg ignoreRe h), hkeeps.1 (congrArg onlyRe h)⟩
  · rintro ⟨hi, ho⟩
    refine ext_get? fun k => ?_
    cases k with
    | ignoreRe => exact hkeeps.2 hi
    | onlyRe => exact hkeeps.2 ho
    | _ => rfl

theorem parse_members {s : Settings P} {keys : List Key} {ms : List (Text × Json)} (hk : keys.Perm Key.all)
    (hm : keys.mapM s.toLayer.member = .ok ms) {document : Text} (hd : Json.Document (.object ms) document) :
    Layer.parse document = .ok s.toLayer := by
  have hn : keys.Nodup := hk.nodup_iff.2 (by decide)
  exact Layer.parse_document hn (fun k _ => hk.mem_iff.2 k.mem_all) hm hd

/-- **Written settings are read back.** Settings with paths of any type, `BytePath` among them, are written exactly when
their three paths are text; what is wrong with others is that a path is not text, and there is no document then. The
document that settings are written to, in the compact form, the printed one or any other, and in whatever order its keys
stand, is understood, as the layer that says just what the settings say. On top of a base the layer gives the settings
back exactly when the base has no pattern where they have none; so it does on top of the defaults, and of every base
without patterns. -/
theorem written_settings_read_back (s : Settings P) :
    (∀ e, s.write = .error e ↔ ¬ s.Writable) ∧
    (s.Writable → ∃ j, s.write = .ok j ∧ Layer.parse j.compact = .ok s.toLayer ∧
      Layer.parse j.pretty = .ok s.toLayer) ∧
    (s.Writable → ∀ keys : List Key, keys.Perm Key.all → ∃ ms, keys.mapM s.toLayer.member = .ok ms ∧
      ∀ document, Json.Document (.object ms) document → Layer.parse document = .ok s.toLayer) ∧
    (∀ b : Settings P, b.ignoreRe = none → b.onlyRe = none → b.apply s.toLayer = s) ∧
    ∀ b : Settings P, b.apply s.toLayer = s ↔
      (s.ignoreRe = none → b.ignoreRe = none) ∧ (s.onlyRe = none → b.onlyRe = none) := by
  refine ⟨fun _ => write_eq_error_iff, fun h => ?_, fun h keys hk => ?_,
    fun _ hi ho => apply_toLayer_iff.2 ⟨fun _ => hi, fun _ => ho⟩, fun _ => apply_toLayer_iff⟩
  · obtain ⟨ms, hms⟩ := exists_members h Key.all
    refine ⟨.object ms, by rw [write_eq, hms]; rfl, ?_, ?_⟩
    · exact parse_members (.refl _) hms (Json.written_compact _).document
    · exact parse_members (.refl _) hms (Json.written_prettyAt 0 _).document
  · obtain ⟨ms, hms⟩ := exists_members h keys
    exact ⟨ms, hms, fun document hd => parse_members hk hms hd⟩

/-- quotes, control characters, empty texts and a pattern that is not set, in a document whose keys stand backwards -/
theorem written_settings_read_back_reversed :
    let tool : Text := "C:\\\"a b\"\n\t\x01é"
    let s : Settings BytePath :=
      { tool := .ofText tool, toolFlags := ["-v", []], comments := false, ignoreRe := some "^/usr" }
    let b : Settings BytePath := { tool := .ofText "a", fixFlags := ["x"], reorder := true }
    let c : Settings BytePath := { b with onlyRe := some "src" }
    (s.Writable ∧ Key.all.reverse.Perm Key.all) ∧
      (∃ j, s.write = .ok j ∧ Layer.parse j.compact = .ok s.toLayer) ∧
      (∃ ms, Key.all.reverse.mapM s.toLayer.member = .ok ms ∧
        Layer.parse (Json.object ms).pretty = .ok s.toLayer) ∧
      b.apply s.toLayer = s ∧ c.apply s.toLayer ≠ s := by
  intro tool s b c
  have hperm : Key.all.reverse.Perm Key.all := Key.all.reverse_perm
  have hs : s.Writable := by
    have htext : ∀ t : Text, (SystemPath.text? (BytePath.ofText t)).isSome := fun t =>
      Option.isSome_iff_exists.2 ⟨t, BytePath.text?_ofText t⟩
    exact List.forall_mem_cons.2 ⟨htext _, List.forall_mem_cons.2 ⟨htext _, List.forall_mem_singleton.2 (htext _)⟩⟩
  obtain ⟨-, hwritten, horder, hback, hiff⟩ := written_settings_read_back s
  obtain ⟨j, hj, hcompact, -⟩ := hwritten hs
  obtain ⟨ms, hms, hparse⟩ := horder hs _ hperm
  refine ⟨⟨hs, hperm⟩, ⟨j, hj, hcompact⟩, ⟨ms, hms, hparse _ (Json.written_prettyAt 0 _).document⟩, hback b rfl rfl, ?_⟩
  intro h
  exact nomatch ((hiff c).1 h).2 rfl

/-- the byte 255 stands in no text, so settings with a tool of that name are not written at all -/
theorem invalid_tool_unwritten :
    ({ tool := ⟨⟨#[255]⟩⟩ } : Settings BytePath).write = .error .notText ∧
      ¬ ∀ s b : Settings BytePath, b.ignoreRe = none → b.onlyRe = none →
        ∃ j l, s.write = .ok j ∧ Layer.parse j.compact = .ok l ∧ b.apply l = s := by
  have hw : ({ tool := ⟨⟨#[255]⟩⟩ } : Settings BytePath).write = .error .notText := by
    have htext : ¬ (SystemPath.text? (⟨⟨#[255]⟩⟩ : BytePath)).isSome := by decide
    exact write_eq_error_iff.2 fun h => htext (h _ List.mem_cons_self)
  refine ⟨hw, fun hall => ?_⟩
  obtain ⟨j, l, hj, -⟩ := hall { tool := ⟨⟨#[255]⟩⟩ } {} rfl rfl
  rw [hw] at hj
  cases hj

end Settings
end IncludeAudit
