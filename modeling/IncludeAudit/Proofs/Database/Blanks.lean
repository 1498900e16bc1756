/-
Entries that say nothing. A directory is never empty in a project whose root is not, but a command can be blank: the
arguments of a record count as soon as there is one, and it may be empty. What saves a line made of white space is a
space inside an argument, since that puts quotes around it.

- `isBlank_ofWords`: a line is blank exactly when its words are, and none of them has a space inside.
- `Record.Hollow`: the records that give a blank command, and `Record.isBlank_command_iff`: just these do.
- `blank_entry_iff`: every directory is named, and a command is blank exactly when the last usable record for its file
  is hollow.
- `blank_entries`: records that put blank commands into a database.
-/
import IncludeAudit.Proofs.Database.Records

namespace IncludeAudit

/-! ## Blank lines -/

namespace Text

theorem isBlank_append (a b : Text) : isBlank (a ++ b) = (isBlank a && isBlank b) :=
  List.all_append

theorem isBlank_eq_false_iff {t : Text} : isBlank t = false ↔ ∃ c ∈ t, isBlankChar c = false := by
  simp [isBlank]

/-- pasting with a blank separator gives nothing but white space exactly when the parts are nothing else -/
theorem isBlank_paste {sep : Text} (hs : isBlank sep = true) (ps : List Text) :
    isBlank (paste sep ps) = ps.all isBlank := by
  induction ps with
  | nil => rfl
  | cons p ps ih =>
    cases ps with
    | nil => simp [paste]
    | cons q ps => rw [paste, isBlank_append, isBlank_append, hs, Bool.and_true, ih, ← List.all_cons]

end Text

namespace Command

open Text (isBlank)

/-- a word with a space inside stands in quotes, and these are not white space -/
theorem isBlank_spell (w : Text) : isBlank (spell w) = (isBlank w && !decide (' ' ∈ w)) := by
  unfold spell
  split_ifs with hs
  · have hq : Text.isBlankChar '"' = false := by decide
    simp [isBlank, hs, hq]
  · simp [hs]

theorem isBlank_ofWords {ws : List Text} :
    isBlank (ofWords ws) = true ↔ ∀ w ∈ ws, isBlank w = true ∧ ' ' ∉ w := by
  rw [ofWords, Text.isBlank_paste (by decide), List.all_map, List.all_eq_true]
  simp [isBlank_spell]

end Command

/-! ## Hollow records -/

namespace Record

/-- the record has no command that is not blank, and all its arguments are white space without a space among it -/
def Hollow (r : Record) : Prop :=
  (∀ command, r.command = some command → Text.isBlank command = true) ∧
    ∀ arguments, r.arguments = some arguments → ∀ a ∈ arguments, Text.isBlank a = true ∧ ' ' ∉ a

theorem isBlank_command_iff (root : Path) (r : Record) :
    Text.isBlank (r.entryIn root).command = true ↔ r.Hollow := by
  -- without a command that counts, the line of the arguments is the command
  have hline : Text.isBlank (Command.ofWords (r.arguments.getD [])) = true ↔
      ∀ arguments, r.arguments = some arguments → ∀ a ∈ arguments, Text.isBlank a = true ∧ ' ' ∉ a := by
    rw [Command.isBlank_ofWords]
    cases r.arguments <;> simp
  cases hc : r.command with
  | none => simp [entryIn, Hollow, hc, hline]
  | some command =>
    by_cases hb : Text.isBlank command = true
    · simp [entryIn, Hollow, hc, hb, hline]
    · simp [entryIn, Hollow, hc, hb]

theorem directoryIn_ne_nil {root : Path} (h : root ≠ []) (r : Record) : r.directoryIn root ≠ [] := by
  unfold directoryIn
  split
  · exact h
  · exact h
  · exact Path.join_ne_nil h _

/-- the last usable record for a file -/
def lastFor? (t : Tree) (here : Place) (root : Path) (rs : List Record) (file : Path) : Option Record :=
  (rs.filter fun r => r.Usable ∧ r.identityIn t here root = file).getLast?

end Record

/-! ## Blank entries -/

namespace Database

open Record

/-- an entry says what the last usable record for its file says -/
theorem mem_entries_ofRecords {t : Tree} {here : Place} {root : Path} {rs : List Record} {file : Path} {e : Entry} :
    (file, e) ∈ (ofRecords t here root rs).entries ↔
      ∃ r, lastFor? t here root rs file = some r ∧ r.entryIn root = e := by
  have hfind : (ofRecords t here root rs).find? file = some e ↔
      ∃ r, lastFor? t here root rs file = some r ∧ r.entryIn root = e := by
    rw [find?_ofRecords, Option.map_eq_some_iff]
    rfl
  rw [← hfind]
  exact ⟨find?_of_mem (nodup_keys_ofRecords t here root rs), mem_of_find?⟩

/-- **Which entries say nothing.** In a project with a root that is not empty, every entry has a directory. Its
command has a character that is not white space unless the last usable record for its file is hollow, and then it has
none. So no command is blank exactly when no such record is hollow. -/
theorem blank_entry_iff (t : Tree) (here : Place) {root : Path} (h : root ≠ []) (rs : List Record) :
    let d := ofRecords t here root rs
    (∀ file e, (file, e) ∈ d.entries →
      e.directory ≠ [] ∧ ∃ r, lastFor? t here root rs file = some r ∧
        ((∃ c ∈ e.command, Text.isBlankChar c = false) ↔ ¬ r.Hollow)) ∧
    ((∀ file e, (file, e) ∈ d.entries → ∃ c ∈ e.command, Text.isBlankChar c = false) ↔
      ∀ file r, lastFor? t here root rs file = some r → ¬ r.Hollow) := by
  intro d
  have htells : ∀ r : Record, (∃ c ∈ (r.entryIn root).command, Text.isBlankChar c = false) ↔ ¬ r.Hollow := fun r => by
    rw [← Text.isBlank_eq_false_iff, ← isBlank_command_iff root r, Bool.not_eq_true]
  refine ⟨fun file e hm => ?_, ?_⟩
  · obtain ⟨r, hr, rfl⟩ := mem_entries_ofRecords.1 hm
    exact ⟨directoryIn_ne_nil h r, r, hr, htells r⟩
  · constructor
    · intro hall file r hr
      exact (htells r).1 (hall file _ (mem_entries_ofRecords.2 ⟨r, hr, rfl⟩))
    · intro hall file e hm
      obtain ⟨r, hr, rfl⟩ := mem_entries_ofRecords.1 hm
      exact (htells r).2 (hall file r hr)

/-- a blank command gives way to arguments that are white space as well, and the quotes around one of them are not -/
theorem blank_entry_iff_quoted :
    let r : Record := { directory := some [], command := some "\t", arguments := some [[], " "], file := some "a.c" }
    let e : Entry := { command := " \" \"", directory := "/p" }
    (("/p/a.c" : Path), e) ∈ (ofRecords { nodes := [] } [] "/p" [r]).entries ∧ e.directory ≠ [] ∧
      ∃ c ∈ e.command, Text.isBlankChar c = false := by
  intro r e
  have hm : (("/p/a.c" : Path), e) ∈ (ofRecords { nodes := [] } [] "/p" [r]).entries := by decide
  obtain ⟨hd, r', hr', hiff⟩ := (blank_entry_iff { nodes := [] } [] (by decide) [r]).1 _ e hm
  obtain rfl : r' = r := List.mem_singleton.1 (List.mem_of_mem_filter (List.mem_of_getLast? hr'))
  refine ⟨hm, hd, hiff.2 fun hollow => ?_⟩
  exact (hollow.2 _ rfl " " (by decide)).2 (by decide)

/-- **Blank commands get into a database.** An empty argument is enough: it is written as nothing, two of them as the
space between, and white space other than a space stands as it is. -/
theorem blank_entries :
    let made (args : List Text) : List (Path × Entry) :=
      (ofRecords { nodes := [] } [] "/p" [{ arguments := some args, file := some "a.c" }]).entries
    let blank (command : Text) : Path × Entry := ("/p/a.c", { command, directory := "/p" })
    made [[]] = [blank []] ∧ made [[], []] = [blank " "] ∧ made ["\t"] = [blank "\t"] := by
  decide

end Database
end IncludeAudit
