/-
Records that hold their command as a list of arguments. The entry keeps the list as one line, and the line is read as
words when it is wanted. A word is never empty and never has a quote, so only a list of such arguments survives; then
what is made of the line is what the list asks for.

- `Filtered.shown` and `assemble_eq_iff`: what an argument list tells of the flags it is made of, and no more.
- `entry_keeps_arguments_iff`: the arguments of a record survive exactly when none is empty and none has a quote.
- `entry_alters_arguments`: records of which an argument is altered, and of which one is lost.
-/
import IncludeAudit.Proofs.Database.Records
import IncludeAudit.Proofs.Flags.Arguments

namespace IncludeAudit

/-! ## What an argument list tells of its flags -/

/-- what an argument list tells of the flags that it is made of -/
def Filtered.shown (f : Filtered) : List Text :=
  (if f.pchInUse then [Options.passthrough, Options.pchInCode] else []) ++ f.flags

theorem Filtered.mem_shown {f : Filtered} {w : Text} (h : w ∈ f.shown) :
    w = Options.passthrough ∨ w = Options.pchInCode ∨ w ∈ f.flags := by
  rcases List.mem_append.1 h with hp | hf
  · split_ifs at hp
    · simpa [or_assoc] using Or.inl hp
    · cases hp
  · exact Or.inr (Or.inr hf)

namespace Options

/-- the flags stand at the end of the list, behind what the options put in front -/
theorem assemble_eq (o : Options) (f : Filtered) :
    o.assemble f = (o.toolWords false).flatMap (fun w => [passthrough, w]) ++ f.shown := by
  unfold assemble toolWords Filtered.shown
  cases f.pchInUse <;> simp

theorem assemble_eq_iff {o : Options} {f g : Filtered} : o.assemble f = o.assemble g ↔ f.shown = g.shown := by
  rw [assemble_eq, assemble_eq, List.append_cancel_left_eq]

end Options

/-! ## From the record to the argument list -/

namespace Database

open Command (words ofWords)

theorem command_of_arguments {t : Tree} {here : Place} {root key : Path} {r : Record} {e : Entry}
    (hc : r.command = none) {args : List Text} (ha : r.arguments = some args)
    (he : ofRecord? t here root r = some (key, e)) : e.command = ofWords args := by
  rw [ofRecord?_eq] at he
  split_ifs at he
  obtain ⟨-, rfl⟩ := Prod.mk.inj (Option.some.inj he)
  simp [Record.entryIn, hc, ha]

/-- **Which arguments survive in an entry.** A record has no command and a list of arguments, of which the first is
not empty. The command of its entry is read as these arguments exactly when none of them is empty and none has a
quote, and then every argument list made of it is the one that filtering the arguments themselves gives. In general it
is that one, whatever the options, exactly when filtering leaves as much to be shown of the words of the command as of
the arguments; so it is not when a flag that filtering keeps is empty or has a quote. Without quotes, the command stands
for the arguments that are not empty. -/
theorem entry_keeps_arguments_iff {r : Record} (hc : r.command = none) {compiler : Text} {flags : List Text}
    (ha : r.arguments = some (compiler :: flags)) (hne : compiler ≠ []) {t : Tree} {here : Place} {root key : Path}
    {e : Entry} (he : ofRecord? t here root r = some (key, e)) :
    (words e.command = compiler :: flags ↔ ∀ a ∈ compiler :: flags, a ≠ [] ∧ '"' ∉ a) ∧
      (words e.command = compiler :: flags →
        ∀ o : Options, o.arguments e.command = o.assemble (Filtered.ofCommand (compiler :: flags))) ∧
      (∀ o : Options, o.arguments e.command = o.assemble (Filtered.ofCommand (compiler :: flags)) ↔
        (Filtered.ofCommand (words e.command)).shown = (Filtered.ofCommand (compiler :: flags)).shown) ∧
      (∀ o : Options, o.arguments e.command = o.assemble (Filtered.ofCommand (compiler :: flags)) →
        ∀ w ∈ (Filtered.ofCommand (compiler :: flags)).flags, w ≠ [] ∧ '"' ∉ w) ∧
      ((∀ a ∈ compiler :: flags, '"' ∉ a) → ∀ o : Options,
        o.arguments e.command = o.assemble (Filtered.ofCommand (compiler :: flags.filter (· ≠ [])))) := by
  have hcommand : e.command = ofWords (compiler :: flags) := command_of_arguments hc ha he
  refine ⟨?_, fun hw o => by rw [Options.arguments, hw], fun o => Options.assemble_eq_iff, fun o ho w hw => ?_,
    fun hq o => ?_⟩
  · rw [hcommand]
    constructor
    · intro hw a hm
      rw [← hw] at hm
      exact Command.word_of_mem_words hm
    · intro hclean
      rw [Command.words_ofWords_of_clean fun a hm => (hclean a hm).2]
      exact List.filter_eq_self.2 fun a hm => by simpa using (hclean a hm).1
  · -- every flag in the list has come out of a line
    have hshown : w ∈ (Filtered.ofCommand (compiler :: flags)).shown := List.mem_append_right _ hw
    rw [← Options.assemble_eq_iff.1 ho] at hshown
    rcases Filtered.mem_shown hshown with rfl | rfl | hf
    · decide
    · decide
    · exact ⟨(Options.lasts_of_mem_flags hf).ne_nil, (Options.lasts_of_mem_flags hf).unquoted⟩
  · rw [Options.arguments, hcommand, Command.words_ofWords_of_clean hq, List.filter_cons_of_pos (by simpa using hne)]

/-- arguments with spaces survive, and a flag finds its value again -/
theorem entry_keeps_arguments_spaced :
    let args : List Text := ["/opt/clang-cl", "/Yu", "p h.h", "-I/my dir", "-o", "a b.o", " ", "a.c"]
    let r : Record := { arguments := some args, file := some "a.c" }
    let e : Entry :=
      { command := "/opt/clang-cl /Yu \"p h.h\" \"-I/my dir\" -o \"a b.o\" \" \" a.c", directory := "/p" }
    ofRecord? { nodes := [] } [] "/p" r = some (("/p/a.c" : Path), e) ∧ words e.command = args ∧
      ({ root := "/p" } : Options).arguments e.command =
        ["-Xiwyu", "--pch_in_code", "--driver-mode=cl", "-I/my dir", " ", "a.c"] := by
  intro args r e
  have he : ofRecord? { nodes := [] } [] "/p" r = some (("/p/a.c" : Path), e) := by decide
  have hclean : ∀ a ∈ args, a ≠ [] ∧ '"' ∉ a := by decide
  obtain ⟨hiff, hsame, -⟩ := entry_keeps_arguments_iff (r := r) rfl rfl (by decide) he
  exact ⟨he, hiff.2 hclean, (hsame (hiff.2 hclean) _).trans (by decide)⟩

/-- **Arguments are altered and lost.** A quote in an argument is taken for one around it, and an empty argument is no
word, so that the flag in front of it takes the next one for its value. -/
theorem entry_alters_arguments :
    let o : Options := { root := "/p" }
    let made (args : List Text) : Option (List Text) :=
      (ofRecord? { nodes := [] } [] "/p" { arguments := some args, file := some "a.c" }).map fun e =>
        o.arguments e.2.command
    let asked (args : List Text) : List Text := o.assemble (Filtered.ofCommand args)
    let quoted : List Text := ["cc", "-DX=\"y\"", "a.c"]
    let holed : List Text := ["cc", "-o", [], "a.c"]
    made quoted = some (["-DX=y", "a.c"] : List Text) ∧ asked quoted = ["-DX=\"y\"", "a.c"] ∧
      made holed = some [] ∧ asked holed = ["a.c"] := by
  decide

end Database
end IncludeAudit
