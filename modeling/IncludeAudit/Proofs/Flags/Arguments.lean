/-
The argument list of the tool, written as one line and read back. What the list holds has come out of a line already
or is free of quotes by itself, and filtering leaves only words that it would keep again. So the line of the list,
behind any compiler that asks for nothing, gives the same list.

- `Lasts`: a word that comes through writing, reading and filtering as it is.
- `lasts_of_mem_arguments`: every word of an argument list is one.
- `arguments_of_lasts`: a list of such words comes back from its line.
- `arguments_ofWords_arguments`: so argument lists are fixed points.
-/
import IncludeAudit.Cli.Run
import IncludeAudit.Proofs.Command.RoundTrip
import IncludeAudit.Proofs.Flags.Filtering

namespace IncludeAudit.Options

open Command (words ofWords)

/-! ## Words that last -/

/-- the word comes through writing, reading and filtering as it is -/
structure Lasts (w : Text) : Prop where
  ne_nil : w ≠ []
  unquoted : '"' ∉ w
  kept : Flags.fate w = .keep

theorem lasts_passthrough : Lasts passthrough := by
  constructor <;> decide

theorem lasts_pchInCode : Lasts pchInCode := by
  constructor <;> decide

theorem lasts_driverMode : Lasts Flags.driverMode := by
  constructor <;> decide

theorem unquoted_join {p q : Path} (hp : '"' ∉ p) (hq : '"' ∉ q) : '"' ∉ Path.join p q := by
  unfold Path.join
  split_ifs
  · exact hq
  · simp [hp, hq]
  · simp [hp, hq]

/-- quotes in the name of a mapping file are left out, so only the root could bring some in -/
theorem lasts_mappingFile {o : Options} (h : '"' ∉ o.root) (file : Text) :
    Lasts ("--mapping_file=" ++ o.mappingFile file) := by
  have hfile : '"' ∉ o.mappingFile file := unquoted_join h (by simp)
  refine ⟨by simp, ?_, Flags.fate_dashes _ _⟩
  rw [List.mem_append, not_or]
  exact ⟨by decide, hfile⟩

theorem lasts_of_mem_toolWords {o : Options} (hroot : '"' ∉ o.root) (htool : ∀ w ∈ o.toolFlags, Lasts w)
    {pch : Bool} {w : Text} (h : w ∈ o.toolWords pch) : Lasts w := by
  simp only [toolWords, List.mem_append, List.mem_map] at h
  rcases h with (⟨file, -, rfl⟩ | h) | h
  · exact lasts_mappingFile hroot file
  · exact htool w h
  · split_ifs at h
    · rw [List.mem_singleton.1 h]
      exact lasts_pchInCode
    · cases h

/-- the flags that are left of a line are words of the line, or ask for the driver mode -/
theorem lasts_of_mem_flags {line w : Text} (h : w ∈ (Filtered.ofCommand (words line)).flags) : Lasts w := by
  rcases Filtered.mem_flags_ofCommand h with rfl | ⟨hw, hk⟩
  · exact lasts_driverMode
  · obtain ⟨hne, hq⟩ := Command.word_of_mem_words hw
    exact ⟨hne, hq, hk⟩

theorem lasts_of_mem_arguments {o : Options} (hroot : '"' ∉ o.root) (htool : ∀ w ∈ o.toolFlags, Lasts w)
    {line w : Text} (h : w ∈ o.arguments line) : Lasts w := by
  simp only [arguments, assemble, List.mem_append, List.mem_flatMap] at h
  rcases h with ⟨v, hv, h⟩ | h
  · rcases List.mem_cons.1 h with rfl | h
    · exact lasts_passthrough
    · rw [List.mem_singleton.1 h]
      exact lasts_of_mem_toolWords hroot htool hv
  · exact lasts_of_mem_flags h

/-! ## Reading them back -/

theorem words_ofWords_of_lasts {ws : List Text} (h : ∀ w ∈ ws, Lasts w) : words (ofWords ws) = ws := by
  rw [Command.words_ofWords_of_clean fun w hw => (h w hw).unquoted]
  exact List.filter_eq_self.2 fun w hw => by simpa using (h w hw).ne_nil

theorem arguments_of_lasts {ws : List Text} (h : ∀ w ∈ ws, Lasts w) {x : Text} (hx : x ≠ []) (hs : ' ' ∉ x)
    (hq : '"' ∉ x) (hm : Filtered.isMsvcDriver x = false) : arguments {} (x ++ ' ' :: ofWords ws) = ws := by
  have hline : words (x ++ ' ' :: ofWords ws) = x :: ws := by
    have := Command.words_spell_space hq (ofWords ws)
    rwa [Command.spell, if_neg hs, words_ofWords_of_lasts h, List.filter_cons_of_pos (by simpa using hx),
      List.filter_nil] at this
  -- without options nothing is put in front, and no word asks for the switch that tells of precompiled headers
  rw [arguments, hline, Filtered.ofCommand, hm, Filtered.ofFlags_of_kept fun w hw => (h w hw).kept]
  rfl

/-- **Argument lists are fixed points.** Take any line and any options whose root has no quotes and whose tool flags
are words without quotes that no rule drops. The argument list that they give, written as one line behind a compiler
that is a plain word and no driver with MSVC-style flags, gives the same list again; the line by itself is read as
just these words. So what the command prints for a project with such settings is read back word by word. -/
theorem arguments_ofWords_arguments (o : Options) (hroot : '"' ∉ o.root)
    (htool : ∀ w ∈ o.toolFlags, w ≠ [] ∧ '"' ∉ w ∧ ¬ Flags.Droppable w) (line : Text) :
    (∀ x : Text, x ≠ [] → ' ' ∉ x → '"' ∉ x → Filtered.isMsvcDriver x = false →
        arguments {} (x ++ ' ' :: ofWords (o.arguments line)) = o.arguments line) ∧
      words (ofWords (o.arguments line)) = o.arguments line ∧
      ∀ (host : Cli.Host) (root : Path) (s : Settings Path) (typed : List Text),
        s.options root = o → Cli.lineOfWords typed = line →
          ∃ printed, (host.translate root s typed).output = Text.lines [printed] ∧
            words printed = o.arguments line := by
  have hflags : ∀ w ∈ o.toolFlags, Lasts w := fun w hw => by
    obtain ⟨hne, hq, hd⟩ := htool w hw
    exact ⟨hne, hq, Flags.fate_eq_keep_iff.2 hd⟩
  have hlasts : ∀ w ∈ o.arguments line, Lasts w := fun w hw => lasts_of_mem_arguments hroot hflags hw
  have hback : words (ofWords (o.arguments line)) = o.arguments line := words_ofWords_of_lasts hlasts
  refine ⟨fun x hx hs hq hm => arguments_of_lasts hlasts hx hs hq hm, hback, ?_⟩
  rintro host root s typed rfl rfl
  exact ⟨_, rfl, hback⟩

/-- mapping files with quotes and spaces in their names, flags with spaces, and a line with an open quote -/
theorem arguments_ofWords_arguments_spaced :
    let o : Options :=
      { root := "/my proj", mappingFiles := ["\"qt.imp\"", "/abs/a \" b.imp"]
        toolFlags := ["--no_fwd_decls", "-I a"] }
    let line : Text := "\"C:/LLVM bin\\Clang-CL.exe\" /Yu \"p ch.h\" \"-DX=1 2\" -- -o c -o /FIa.h \" b c"
    o.arguments line =
        ["-Xiwyu", "--mapping_file=/my proj/qt.imp", "-Xiwyu", "--mapping_file=/abs/a  b.imp", "-Xiwyu",
          "--no_fwd_decls", "-Xiwyu", "-I a", "-Xiwyu", "--pch_in_code", "--driver-mode=cl", "-DX=1 2", " b c"] ∧
      arguments {} (("c++" : Text) ++ ' ' :: ofWords (o.arguments line)) = o.arguments line := by
  intro o line
  have hroot : '"' ∉ o.root := by decide
  have htool : ∀ w ∈ o.toolFlags, w ≠ [] ∧ '"' ∉ w ∧ ¬ Flags.Droppable w := by decide
  have hargs : o.arguments line =
      ["-Xiwyu", "--mapping_file=/my proj/qt.imp", "-Xiwyu", "--mapping_file=/abs/a  b.imp", "-Xiwyu",
        "--no_fwd_decls", "-Xiwyu", "-I a", "-Xiwyu", "--pch_in_code", "--driver-mode=cl", "-DX=1 2", " b c"] := by
    decide
  have hread := (arguments_ofWords_arguments o hroot htool line).1
  exact ⟨hargs, hread "c++" (by decide) (by decide) (by decide) (by decide)⟩

end IncludeAudit.Options
