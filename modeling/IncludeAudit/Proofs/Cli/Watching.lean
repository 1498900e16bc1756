/-
What a watch command makes of its settings files. News about the settings file reads all settings from scratch: the
defaults, the files, and the command line on top. When one of the files is broken nothing changes. A database that the
command line names stays where it is, whatever the files say.

- `Layered`: the settings as they should be, and `settingsOf_eq_ok_iff`: they are what is read.
- `reread_cases`: what news about the settings file does.
- `run_inv`: the settings held are those of some moment as a whole, and `run_pinned`: where a database named on the
  command line stays.
- `carryOut_eq_watching_iff`: which scenes a command starts to watch in.
- `settings_events_keep_layering`: all of this for every command that watches and everything that can happen to it.
-/
import IncludeAudit.Cli.Run
import IncludeAudit.Proofs.Cache.Supply
import IncludeAudit.Proofs.Settings.Files

namespace IncludeAudit.Cli

namespace Watching

variable {t : Tree} {here : Place} {root : Path} {user : Option Path} {l : Layer Path} {w : Watching}

/-! ## Settings in layers -/

/-- settings as they should be: the defaults, what the files of the project say, and the command line on top -/
def Layered (t : Tree) (here : Place) (user : Option Path) (root : Path) (l : Layer Path) (s : Settings Path) : Prop :=
  ∃ ls, List.Forall₂ (Settings.Says t here) (Settings.files user root) ls ∧ s = (ls ++ [l]).foldl Settings.apply {}

theorem settingsOf_eq_ok_iff {s : Settings Path} :
    settingsOf t here user root l = .ok s ↔ Layered t here user root l s := by
  unfold settingsOf Layered
  cases hload : (Settings.load t here user root : Except Settings.FileError (Settings Path)) with
  | ok u =>
    obtain ⟨ls, hs, rfl⟩ := Settings.load_eq_ok_iff.1 hload
    constructor
    · intro h
      exact ⟨ls, hs, by rw [List.foldl_append]; exact (Except.ok.inj h).symm⟩
    · rintro ⟨ls', hs', rfl⟩
      have hsame := hload.symm.trans (Settings.load_eq_ok_iff.2 ⟨ls', hs', rfl⟩)
      rw [Except.ok.inj hsame, List.foldl_append]
      rfl
  | error e =>
    refine ⟨(nomatch ·), ?_⟩
    rintro ⟨ls, hs, -⟩
    cases hload.symm.trans (Settings.load_eq_ok_iff.2 ⟨ls, hs, rfl⟩)

theorem Layered.unique {s u : Settings Path} (hs : Layered t here user root l s) (hu : Layered t here user root l u) :
    s = u :=
  Except.ok.inj ((settingsOf_eq_ok_iff.2 hs).symm.trans (settingsOf_eq_ok_iff.2 hu))

/-- the command line has the last word -/
theorem Layered.database {s : Settings Path} (h : Layered t here user root l s) {p : Path} (hp : l.database = some p) :
    s.database = p := by
  obtain ⟨ls, -, rfl⟩ := h
  simp [List.foldl_append, Settings.apply, hp]

/-- news about the settings file puts other settings in place as a whole, or it changes nothing -/
theorem reread_cases (t : Tree) (here : Place) (w : Watching) :
    (∃ s, Layered t here w.user w.session.root w.layer s ∧ w.reread t here = { w with session := w.session.apply s }) ∨
      (∀ s, ¬ Layered t here w.user w.session.root w.layer s) ∧ w.reread t here = w := by
  unfold reread
  cases hread : settingsOf t here w.user w.session.root w.layer with
  | ok s => exact Or.inl ⟨s, settingsOf_eq_ok_iff.1 hread, rfl⟩
  | error e =>
    refine Or.inr ⟨fun s hs => ?_, rfl⟩
    cases hread.symm.trans (settingsOf_eq_ok_iff.2 hs)

/-! ## What a watch command keeps -/

/-- what a watch command holds on to: its root, the file of the user, the settings of the command line, and settings
that were read as a whole -/
structure Inv (root : Path) (user : Option Path) (l : Layer Path) (w : Watching) : Prop where
  rooted : w.session.root = root
  ofUser : w.user = user
  ofLayer : w.layer = l
  layered : ∃ t here, Layered t here user root l w.session.settings

theorem step_inv (h : Inv root user l w) (o : Op) : Inv root user l (w.step o) := by
  cases o with
  | database op => exact ⟨h.rooted, h.ofUser, h.ofLayer, h.layered⟩
  | settings t here =>
    rcases reread_cases t here w with ⟨s, hs, he⟩ | ⟨-, he⟩
    · rw [h.rooted, h.ofUser, h.ofLayer] at hs
      simp only [step, he]
      exact ⟨h.rooted, h.ofUser, h.ofLayer, t, here, hs⟩
    · simp only [step, he]
      exact h

theorem run_inv (h : Inv root user l w) (ops : List Op) : Inv root user l (w.run ops) := by
  induction ops generalizing w with
  | nil => exact h
  | cons o ops ih => exact ih (step_inv h o)

/-- what can happen in a watch command: only its settings move the database -/
def Op.Occurs : Op → Prop
  | .database (.repoint _) => False
  | _ => True

instance : (o : Op) → Decidable o.Occurs
  | .database (.repoint _) => isFalse id
  | .database .reload | .database (.event _) | .database (.commit _ _) | .database (.settle _)
  | .database (.news _ _) | .database .close | .settings _ _ => isTrue trivial

/-- the database is where a path of the command line says -/
structure Pinned (root p : Path) (w : Watching) : Prop where
  rooted : w.session.cache.root = some root
  setting : w.session.settings.database = p
  path : w.session.cache.path = some (Path.databaseFile root p)

variable {p : Path}

/-- settings with the same database leave the cache alone, so that no load starts -/
theorem reread_cache (hp : w.layer.database = some p) (h : Pinned root p w) (t : Tree) (here : Place) :
    (w.reread t here).session.cache = w.session.cache := by
  rcases reread_cases t here w with ⟨s, hs, he⟩ | ⟨-, he⟩
  · have hsame : w.session.settings.sameDatabase s = true := by
      rw [Settings.sameDatabase, h.setting, hs.database hp]
      exact Path.same_refl p
    simp only [he, Session.apply, hsame, if_true]
  · rw [he]

theorem step_pinned (hp : w.layer.database = some p) (h : Pinned root p w) {o : Op} (ho : o.Occurs) :
    Pinned root p (w.step o) := by
  cases o with
  | database op =>
    refine ⟨(Cache.step_root _ op).trans h.rooted, h.setting, (Cache.step_path h.rooted h.path op).trans ?_⟩
    cases op with
    | repoint setting => exact absurd ho id
    | _ => rfl
  | settings t here =>
    have hcache := reread_cache hp h t here
    refine ⟨(congrArg Cache.St.root hcache).trans h.rooted, ?_, (congrArg Cache.St.path hcache).trans h.path⟩
    rcases reread_cases t here w with ⟨s, hs, he⟩ | ⟨-, he⟩
    · simp only [step, he]
      exact hs.database hp
    · simp only [step, he]
      exact h.setting

theorem run_pinned (hi : Inv root user l w) (hp : l.database = some p) (h : Pinned root p w) {ops : List Op}
    (hops : ∀ o ∈ ops, o.Occurs) : Pinned root p (w.run ops) := by
  induction ops generalizing w with
  | nil => exact h
  | cons o ops ih =>
    have hpw : w.layer.database = some p := by rw [hi.ofLayer, hp]
    exact ih (step_inv hi o) (step_pinned hpw h (hops o List.mem_cons_self))
      fun o' ho' => hops o' (List.mem_cons_of_mem o ho')

theorem start_inv {s : Settings Path} (h : Layered t here user root l s) : Inv root user l (start root s user l) :=
  ⟨rfl, rfl, rfl, t, here, h⟩

theorem start_pinned {s : Settings Path} (h : Layered t here user root l s) (hp : l.database = some p) :
    Pinned root p (start root s user l) := by
  obtain rfl := h.database hp
  exact ⟨Cache.init_root _ _ _, rfl, rfl⟩

end Watching

/-! ## The command -/

namespace Host

theorem settingsOf_eq_ok_iff {h : Host} {r : Request} {root : Path} {s : Settings Path} :
    h.settingsOf r root = .ok s ↔ Watching.Layered h.tree h.here h.userFile? root r.layer s := by
  rw [← Watching.settingsOf_eq_ok_iff, settingsOf]
  split <;> simp [*]

/-- a command watches when it is asked to, its log file can be opened, and its root and its settings can be read -/
theorem carryOut_eq_watching_iff {h : Host} {r : Request} {scene : Scene} :
    h.carryOut r = .watching scene ↔
      r.task = .watch ∧ ∃ opened root s, h.openLog r = .ok opened ∧ opened.rootOf r = .ok root ∧
        Watching.Layered opened.tree opened.here opened.userFile? root r.layer s ∧
        scene = ⟨opened.tree, opened.here, .start root s opened.userFile? r.layer, [], false, []⟩ := by
  simp only [← settingsOf_eq_ok_iff]
  unfold carryOut
  cases hopen : h.openLog r with
  | error f => simp
  | ok opened =>
    cases hroot : opened.rootOf r with
    | error f => cases hr : r.task <;> simp [hroot, bind, Except.bind]
    | ok root =>
      cases hs : opened.settingsOf r root <;> cases hr : r.task <;>
        simp [hr, hroot, hs, bind, Except.bind, pure, Except.pure, perform, eq_comm]

/-- opening the log file changes the tree only -/
theorem userFile?_of_openLog {h opened : Host} {r : Request} (ho : h.openLog r = .ok opened) :
    opened.userFile? = h.userFile? := by
  unfold openLog at ho
  split at ho
  · rw [Except.ok.inj ho]
  · split at ho
    · rw [← Except.ok.inj ho]; rfl
    · cases ho

end Host

/-- **News about the settings file keeps the layering.** At any time in a watch command the settings are those of some
moment as a whole. News about the settings file puts those of that moment in place: the defaults, what the file of the
user and the file of the project say then, and the command line on top. When one of the files is broken, nothing
changes. A database that the command line names stays where that says, and the news starts no load. All this holds
wherever the system keeps the configuration of the user, and also when it knows no such place. -/
theorem settings_events_keep_layering {h : Host} {r : Request} {scene : Scene} (hw : h.carryOut r = .watching scene)
    (ops : List Watching.Op) (t : Tree) (here : Place) :
    let root := scene.watching.session.root
    let w := scene.watching.run ops
    let w' := w.step (.settings t here)
    (∃ t here, Watching.Layered t here h.userFile? root r.layer w.session.settings) ∧
      (∀ s, Watching.Layered t here h.userFile? root r.layer s → w'.session.settings = s) ∧
      ((∀ s, ¬ Watching.Layered t here h.userFile? root r.layer s) → w' = w) ∧
      ((∀ o ∈ ops, o.Occurs) → ∀ p, r.layer.database = some p →
        w.session.cache.path = some (Path.databaseFile root p) ∧ w'.session.cache = w.session.cache) := by
  intro root w w'
  obtain ⟨-, opened, root', s₀, hopen, -, hs₀, hscene⟩ := Host.carryOut_eq_watching_iff.1 hw
  rw [Host.userFile?_of_openLog hopen] at hs₀ hscene
  have hstart : scene.watching = .start root s₀ h.userFile? r.layer := by
    simp only [root, hscene]; rfl
  obtain rfl : root' = root := by
    simp only [root, hscene]; rfl
  have hinv : Watching.Inv root h.userFile? r.layer w := by
    simp only [w, hstart]
    exact Watching.run_inv (Watching.start_inv hs₀) ops
  have hnews := Watching.reread_cases t here w
  rw [hinv.ofUser, hinv.rooted, hinv.ofLayer] at hnews
  refine ⟨hinv.layered, fun s hs => ?_, fun hno => ?_, fun hops p hp => ?_⟩
  · rcases hnews with ⟨s', hs', he⟩ | ⟨hno, -⟩
    · obtain rfl := hs'.unique hs
      exact congrArg (·.session.settings) he
    · exact absurd hs (hno s)
  · rcases hnews with ⟨s, hs, -⟩ | ⟨-, he⟩
    · exact absurd hs (hno s)
    · exact he
  · have hpinned : Watching.Pinned root p w := by
      simp only [w, hstart]
      exact Watching.run_pinned (Watching.start_inv hs₀) hp (Watching.start_pinned hs₀ hp) hops
    exact ⟨hpinned.path, Watching.reread_cache (by rw [hinv.ofLayer, hp]) hpinned t here⟩

/-- a project with a settings file, for a user whose own file turns comments off and adds an argument -/
def projectWith (document : Text) : Tree where
  nodes :=
    let file (t : Text) : Node := .file (t.map fun c => c.toNat.toUInt8) Node.plainMode
    let config : Place := [".config", "u"]
    [(["p"], .directory), ([".iwyu-assist.json", "p"], file document), (["u"], .directory), (config, .directory),
     ("iwyu-assist" :: config, .directory),
     ("settings.json" :: "iwyu-assist" :: config,
       file "\x7b\"fix_comments\":false,\"iwyu_args\":[\"-u\"]\x7d")]

/-- a project file breaks and is mended: first nothing changes, then its list takes the place of that of the user, and
the database stays where the command line says -/
theorem settings_events_keep_layering_mended :
    let h : Host := ⟨projectWith "\x7b\x7d", [], some "/u/.config", fun _ _ _ _ => .unstarted (.os .noEntry)⟩
    let r : Request := { task := .watch, root := some "/p", layer := { database := some "build" } }
    let first : Settings Path := { database := "build", comments := false, toolFlags := ["-u"] }
    let w : Watching := .start "/p" first h.userFile? r.layer
    let broken : Tree := projectWith "\x7b"
    let mended : Tree := projectWith "\x7b\"compile_commands\":\"other\",\"iwyu_args\":[\"-p\"]\x7d"
    let w₁ := w.run [.settings broken [], .database (.news 1 .changed)]
    let w₂ := w₁.step (.settings mended [])
    h.carryOut r = .watching ⟨h.tree, h.here, w, [], false, []⟩ ∧ w.step (.settings broken []) = w ∧
      w₂.session.settings = { first with toolFlags := ["-p"] } ∧
      w₁.session.cache.path = some "/p/build/compile_commands.json" ∧ w₂.session.cache = w₁.session.cache := by
  intro h r first w broken mended w₁ w₂
  have hw : h.carryOut r = .watching ⟨h.tree, h.here, w, [], false, []⟩ := by
    refine Host.carryOut_eq_watching_iff.2 ⟨rfl, h, "/p", first, rfl, by decide +kernel, ?_, rfl⟩
    exact Watching.settingsOf_eq_ok_iff.1 (by decide +kernel)
  have hbroken : ∀ s, ¬ Watching.Layered broken [] h.userFile? "/p" r.layer s := fun s hs => by
    have hnone : (Watching.settingsOf broken [] h.userFile? "/p" r.layer).toOption = none := by decide +kernel
    rw [Watching.settingsOf_eq_ok_iff.2 hs] at hnone
    cases hnone
  have hmended : Watching.Layered mended [] h.userFile? "/p" r.layer { first with toolFlags := ["-p"] } :=
    Watching.settingsOf_eq_ok_iff.1 (by decide +kernel)
  obtain ⟨-, -, hkept, -⟩ := settings_events_keep_layering hw [] broken []
  obtain ⟨-, hsettings, -, hdatabase⟩ :=
    settings_events_keep_layering hw [.settings broken [], .database (.news 1 .changed)] mended []
  obtain ⟨hpath, hcache⟩ := hdatabase (by decide) "build" rfl
  refine ⟨hw, ?_, ?_, ?_, ?_⟩
  · simpa only [Watching.run, List.foldl_nil] using hkept hbroken
  · simpa only [w₂, w₁] using hsettings _ hmended
  · exact hpath.trans (congrArg some (by decide))
  · simpa only [w₂, w₁] using hcache

end IncludeAudit.Cli
