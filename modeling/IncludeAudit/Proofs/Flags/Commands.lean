/-
What becomes of a recorded command when more is written behind it, and what its compiler has to do with that. A flag
at the end of the command may take the first word of what follows for its value; otherwise the two parts are filtered
each for itself. Of the compiler only the file name counts, and of that only whether it names an MSVC-style driver.

- `scan_append`: a list is filtered behind another one as the state that the first one leaves says.
- `carry_eq`: that state, told by the last flag of the first list.
- `ofCommand_words_append`: so a command is filtered part by part.
- `isMsvcDriver_path`: directories have no say in which driver a compiler is.
- `arguments_tell_driver_only`: so argument lists do not tell compilers with one name apart, whatever the case of its
  letters.
-/
import Mathlib.Tactic
import IncludeAudit.Flags.Arguments
import IncludeAudit.Proofs.Command.Parity
import IncludeAudit.Proofs.Flags.Filtering

namespace IncludeAudit

namespace Filtered

open Flags
open Command (words)

/-! ## One list behind another -/

/-- what is left of one command, and behind it of a list of flags -/
def followedBy (f g : Filtered) : Filtered :=
  { f with
    flags := f.flags ++ g.flags
    pchInUse := f.pchInUse || g.pchInUse }

/-- whether the word behind a list is consumed -/
def carry (consumed : Bool) (ws : List Text) : Bool :=
  ws.foldl (fun consumed w => !consumed && takesValue w) consumed

theorem scan_driverMode (consumed : Bool) (ws : List Text) : (scan consumed ws).driverMode = false := by
  induction ws generalizing consumed with
  | nil => cases consumed <;> rfl
  | cons w ws ih =>
    rw [scan_cons]
    exact ih _

theorem nil_followedBy {g : Filtered} (h : g.driverMode = false) : followedBy {} g = g := by
  cases g
  cases h
  rfl

theorem scan_append (consumed : Bool) (ws vs : List Text) :
    scan consumed (ws ++ vs) = (scan consumed ws).followedBy (scan (carry consumed ws) vs) := by
  induction ws generalizing consumed with
  | nil =>
    have hnil : scan consumed [] = {} := by cases consumed <;> rfl
    rw [hnil, nil_followedBy (scan_driverMode _ _)]
    rfl
  | cons w ws ih =>
    have hcarry : carry consumed (w :: ws) = carry (!consumed && takesValue w) ws := rfl
    rw [List.cons_append, scan_cons, scan_cons, ih, hcarry]
    simp only [followedBy, Bool.or_assoc]
    split_ifs <;> rfl

/-- a consumed word is left out -/
theorem scan_true (ws : List Text) : scan true ws = scan false ws.tail := by
  cases ws <;> rfl

/-! ## A flag at the end -/

/-- the last word is a flag with its value in the next word, and is not consumed itself -/
def EndsOnFlag (ws : List Text) : Prop :=
  ∃ w, ws.getLast? = some w ∧ takesValue w = true ∧ ¬ Consumed ws (ws.length - 1)

theorem consumed_append (ws vs : List Text) : Consumed (ws ++ vs) ws.length ↔ Consumed ws ws.length := by
  rw [Consumed, Consumed, chain, chain, List.take_left, List.take_length]

/-- such a list would consume a further word -/
theorem endsOnFlag_iff (ws : List Text) : EndsOnFlag ws ↔ Consumed ws ws.length := by
  rcases List.eq_nil_or_concat' ws with rfl | ⟨xs, w, rfl⟩
  · simp [EndsOnFlag, Consumed, chain]
  · have hw : (xs ++ [w])[xs.length]? = some w := List.getElem?_concat_length
    rw [EndsOnFlag, List.length_append, List.length_singleton, consumed_succ hw]
    simp

instance (ws : List Text) : Decidable (EndsOnFlag ws) :=
  decidable_of_iff _ (endsOnFlag_iff ws).symm

theorem carry_eq (ws : List Text) : carry false ws = decide (EndsOnFlag ws) := by
  simp only [endsOnFlag_iff]
  induction ws using List.reverseRecOn with
  | nil => rfl
  | append_singleton ws w ih =>
    have hw : (ws ++ [w])[ws.length]? = some w := List.getElem?_concat_length
    have hcarry : carry false (ws ++ [w]) = (!carry false ws && takesValue w) := List.foldl_concat _ _ _ _
    rw [hcarry, ih, List.length_append, List.length_singleton, Bool.eq_iff_iff]
    simp [consumed_succ hw, consumed_append, and_comm]

theorem ofFlags_append (ws vs : List Text) :
    ofFlags (ws ++ vs) = (ofFlags ws).followedBy (ofFlags (if EndsOnFlag ws then vs.tail else vs)) := by
  rw [ofFlags, scan_append, carry_eq]
  split_ifs with h
  · rw [decide_eq_true h, scan_true]
    rfl
  · rw [decide_eq_false h]
    rfl

theorem ofCommand_append (compiler : Text) (ws vs : List Text) :
    ofCommand (compiler :: ws ++ vs) =
      (ofCommand (compiler :: ws)).followedBy (ofFlags (if EndsOnFlag ws then vs.tail else vs)) := by
  simp only [List.cons_append, ofCommand, ofFlags_append]
  split_ifs <;> rfl

/-- **A command is filtered part by part.** Behind a line that closes its quotes and has a compiler in it, any other
text adds the flags that are left of its own words. Only when the line ends on a flag that waits for its value, the
first word of the text is that value. The driver mode is that of the line. -/
theorem ofCommand_words_append {line : Text} (hq : Even (line.count '"')) (hw : words line ≠ []) (more : Text) :
    ofCommand (words (line ++ ' ' :: more)) =
      (ofCommand (words line)).followedBy
        (ofFlags (if EndsOnFlag (words line).tail then (words more).tail else words more)) := by
  rw [Command.words_append_space hq]
  cases hc : words line with
  | nil => exact absurd hc hw
  | cons compiler ws => exact ofCommand_append compiler ws (words more)

/-- the last `-o` is the value of the one before it, and `-Yu` waits for its header -/
theorem ofCommand_words_append_waiting :
    let line : Text := "\"C:/LLVM bin/clang-cl.exe\" \"-DX=1 2\" -o -o -Yu"
    let more : Text := "\"p ch.h\" -c /FIa.h -o\" b c"
    (Even (line.count '"') ∧ words line ≠ []) ∧ EndsOnFlag (words line).tail ∧
      ofCommand (words (line ++ ' ' :: more)) =
        (ofCommand (words line)).followedBy (ofFlags ["-c", "/FIa.h", "-o b c"]) := by
  intro line more
  have hq : Even (line.count '"') := by decide
  have hw : words line ≠ [] := by decide
  have he : EndsOnFlag (words line).tail := by decide
  have hmore : (words more).tail = ["-c", "/FIa.h", "-o b c"] := by decide
  have hparts := ofCommand_words_append hq hw more
  rw [if_pos he, hmore] at hparts
  exact ⟨⟨hq, hw⟩, he, hparts⟩

end Filtered

/-! ## Compilers -/

namespace Text

/-- a search looks at the part of the text behind every position -/
theorem contains_iff (part t : Text) : contains part t = true ↔ part <:+: t := by
  induction t with
  | nil => simp [contains]
  | cons c t ih => rw [contains, Bool.or_eq_true, List.isPrefixOf_iff_prefix, ih, List.infix_cons_iff]

end Text

/-- a compiler, as a line can name it in quotes: a directory, which may be none, and a file in it -/
structure Compiler where
  /-- with the separator behind it -/
  dir : Text
  name : Text
  dir_closed : dir = [] ∨ dir.getLast? = some '/' ∨ dir.getLast? = some '\\' := by decide
  dir_unquoted : '"' ∉ dir := by decide
  name_ne_nil : name ≠ [] := by decide
  name_undivided : '/' ∉ name ∧ '\\' ∉ name := by decide
  name_unquoted : '"' ∉ name := by decide

namespace Compiler

/-- the whole path -/
def path (c : Compiler) : Text :=
  c.dir ++ c.name

/-- the path in quotes, and behind it the rest of a line -/
def line (c : Compiler) (rest : Text) : Text :=
  '"' :: (c.path ++ ['"'] ++ ' ' :: rest)

/-- the file name says that the driver takes MSVC-style flags -/
def IsMsvc (c : Compiler) : Prop :=
  ("clang-cl" : Text) <:+: Text.lower c.name

instance (c : Compiler) : Decidable c.IsMsvc :=
  inferInstanceAs (Decidable (_ <:+: _))

theorem words_line (c : Compiler) (rest : Text) : Command.words (c.line rest) = c.path :: Command.words rest := by
  have hq : '"' ∉ c.path := by simp [path, c.dir_unquoted, c.name_unquoted]
  have hne : c.path.reverse ≠ [] := by simp [path, c.name_ne_nil]
  rw [Command.words, line, Command.scan_quote, Bool.not_false, List.append_assoc, Command.scan_quoted_append hq,
    List.append_nil, List.singleton_append, Command.scan_quote, Bool.not_true, Command.scan_space,
    Command.close_ne_nil hne, List.reverse_reverse]
  rfl

/-- the name begins where the directory ends, whatever the directory is called -/
theorem baseName_path (c : Compiler) : Filtered.baseName c.path = c.name := by
  refine Text.takeWhile_reverse_append (fun x hx => ?_) fun x hx => ?_
  · rcases c.dir_closed with h | h | h
    · rw [h] at hx
      cases hx
    · rw [h] at hx
      cases hx
      rfl
    · rw [h] at hx
      cases hx
      rfl
  · exact decide_eq_true ⟨fun e => c.name_undivided.1 (e ▸ hx), fun e => c.name_undivided.2 (e ▸ hx)⟩

theorem isMsvcDriver_path (c : Compiler) : Filtered.isMsvcDriver c.path = decide c.IsMsvc := by
  rw [Filtered.isMsvcDriver, baseName_path, Bool.eq_iff_iff, Text.contains_iff, decide_eq_true_iff]
  rfl

end Compiler

namespace Options

open Command (words)

/-- what the compiler gives to the argument list is one flag at most, in front of the flags of the rest -/
theorem arguments_line (o : Options) (c : Compiler) (rest : Text) :
    o.arguments (c.line rest) =
      (o.toolWords (Filtered.ofFlags (words rest)).pchInUse).flatMap (fun w => [passthrough, w]) ++
        (if c.IsMsvc then [Flags.driverMode] else []) ++ (Filtered.ofFlags (words rest)).flags := by
  simp only [arguments, assemble, c.words_line, Filtered.ofCommand, c.isMsvcDriver_path, decide_eq_true_eq]
  split_ifs
  · rw [List.append_assoc, List.singleton_append]
  · rw [List.append_nil]

/-- **Of a compiler only the kind of its driver shows.** Two compilers whose names differ in the case of letters at
most, in any directories, give the same argument list, whatever stands behind them and whatever the options are. The
list is what is meant for the tool, then the driver mode, exactly when the name in small letters has `clang-cl` in it,
and then the flags that are left of the rest of the line by itself. -/
theorem arguments_tell_driver_only (o : Options) {a b : Compiler} (h : Text.lower a.name = Text.lower b.name)
    (rest : Text) :
    o.arguments (a.line rest) = o.arguments (b.line rest) ∧
      o.arguments (a.line rest) =
        (o.toolWords (Filtered.ofFlags (words rest)).pchInUse).flatMap (fun w => [passthrough, w]) ++
          (if ("clang-cl" : Text) <:+: Text.lower a.name then [Flags.driverMode] else []) ++
            (Filtered.ofFlags (words rest)).flags := by
  have hkind : a.IsMsvc ↔ b.IsMsvc := by rw [Compiler.IsMsvc, Compiler.IsMsvc, h]
  refine ⟨?_, o.arguments_line a rest⟩
  rw [o.arguments_line a, o.arguments_line b, if_congr hkind rfl rfl]

/-- directories that look like flags or like drivers, both separators, and a quote left open in the rest -/
theorem arguments_tell_driver_only_cased :
    let o : Options := { toolFlags := ["--no_fwd_decls"] }
    let a : Compiler := { dir := "C:\\LLVM bin/-o -c/", name := "My Clang-CL.exe" }
    let b : Compiler := { dir := [], name := "MY CLANG-cl.EXE" }
    let rest : Text := "/Yu \"p ch.h\" -o a.o \"a b.c"
    Text.lower a.name = Text.lower b.name ∧ o.arguments (a.line rest) = o.arguments (b.line rest) ∧
      o.arguments (a.line rest) =
        ["-Xiwyu", "--no_fwd_decls", "-Xiwyu", "--pch_in_code", "--driver-mode=cl", "a b.c"] := by
  intro o a b rest
  have h : Text.lower a.name = Text.lower b.name := by decide
  have hlist : o.arguments (a.line rest) =
      ["-Xiwyu", "--no_fwd_decls", "-Xiwyu", "--pch_in_code", "--driver-mode=cl", "a b.c"] := by
    decide
  exact ⟨h, (arguments_tell_driver_only o h rest).1, hlist⟩

/-- a driver's name in the directory makes no driver -/
example : arguments {} (Compiler.line { dir := "/opt/clang-cl/", name := "gcc" } "-c a.c") = ["a.c"] := by
  decide

end Options
end IncludeAudit
