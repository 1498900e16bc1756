/-
What filtering leaves of a list of flags. A word is kept or dropped for its own spelling, except that some words drop
the one behind them too. So the words that are left would all be kept again, and with nothing dropped no word is taken
for the value of another.

- `fate_eq_keep_iff`: a word is kept exactly when none of the rules for dropping fits it.
- `scan_cons`: what filtering does with the first word of a list, whatever the word is.
- `kept_of_mem_scan`: filtering leaves only words of the list, and only such as are kept.
- `ofFlags_kept_append`: words that are all kept are left as they are, and what is behind them is judged for itself.
- `ofFlags_by_position`: which words are left, told by their positions alone.
- `filtered_flags_are_inert`: what is left of a list or a command stays, whatever is put behind it.
-/
import Mathlib.Tactic
import IncludeAudit.Flags.Filtered

namespace IncludeAudit

/-! ## Single words -/

namespace Flags

/-- some rule for dropping fits the word -/
def Droppable (word : Text) : Prop :=
  word ∈ modes ∨ startsWithAny pch word = true ∨ startsWithAny forcedIncludes word = true ∨ word = includePch ∨
    startsWithAny outputs word = true

instance (word : Text) : Decidable (Droppable word) :=
  inferInstanceAs (Decidable (_ ∨ _ ∨ _ ∨ _ ∨ _))

theorem fateOf_ne_keep (flags : List Text) (word : Text) : fateOf flags word ≠ .keep := by
  unfold fateOf
  split_ifs <;> simp

theorem fate_eq_keep_iff {word : Text} : fate word = .keep ↔ ¬ Droppable word := by
  unfold fate Droppable
  split_ifs <;> simp_all [fateOf_ne_keep]

/-- no rule fits a word that begins with two dashes and is longer: its first three characters decide that -/
theorem fate_dashes (c : Char) (r : Text) : fate ('-' :: '-' :: c :: r) = .keep :=
  rfl

/-- the word is spelled in full as a flag whose value is the next word -/
def takesValue (word : Text) : Bool :=
  word ∈ pch ++ forcedIncludes ++ outputs || word = includePch

theorem fate_of_takesValue {word : Text} (h : takesValue word = true) : fate word = .dropWithValue := by
  have hall : ∀ flag ∈ includePch :: (pch ++ forcedIncludes ++ outputs), fate flag = .dropWithValue := by decide
  simp only [takesValue, Bool.or_eq_true, decide_eq_true_eq] at h
  exact hall word (List.mem_cons.2 h.symm)

theorem takesValue_of_fate {word : Text} (h : fate word = .dropWithValue) : takesValue word = true := by
  unfold fate fateOf at h
  split_ifs at h <;> simp_all [takesValue]

theorem takesValue_eq (word : Text) : takesValue word = decide (fate word = .dropWithValue) := by
  rw [Bool.eq_iff_iff, decide_eq_true_eq]
  exact ⟨fate_of_takesValue, takesValue_of_fate⟩

/-- no marker of a compilation step begins like one of these flags -/
theorem isPch_eq (word : Text) : isPch word = (startsWithAny pch word || startsWithAny forcedIncludes word) := by
  have hall : ∀ mode ∈ modes, (startsWithAny pch mode || startsWithAny forcedIncludes mode) = false := by decide
  by_cases h : word ∈ modes
  · simp [isPch, h, hall word h]
  · simp [isPch, h]

theorem isPch_of_keep {word : Text} (h : fate word = .keep) : isPch word = false := by
  have hd := fate_eq_keep_iff.1 h
  simp only [Droppable, not_or, Bool.not_eq_true] at hd
  rw [isPch_eq, hd.2.1, hd.2.2.1]
  rfl

end Flags

/-! ## Lists of words -/

namespace Filtered

open Flags

/-- one word of a list: unless it is consumed, it is judged for itself and may consume the next one -/
theorem scan_cons (consumed : Bool) (w : Text) (r : List Text) :
    scan consumed (w :: r) =
      let f := scan (!consumed && takesValue w) r
      { f with
        flags := if consumed = false ∧ ¬ Droppable w then w :: f.flags else f.flags
        pchInUse := (!consumed && isPch w) || f.pchInUse } := by
  cases consumed with
  | true => simp [scan]
  | false =>
    have hd : Droppable w ↔ fate w ≠ .keep := by rw [ne_eq, fate_eq_keep_iff, not_not]
    rw [scan]
    cases hw : fate w with
    | keep => simp [keep, hd, takesValue_eq, hw, isPch_of_keep hw]
    | drop => simp [note, hd, takesValue_eq, hw]
    | dropWithValue => simp [note, hd, takesValue_eq, hw]

/-- whatever is left was in the list, and would be kept again -/
theorem kept_of_mem_scan {consumed : Bool} {ws : List Text} {w : Text} (h : w ∈ (scan consumed ws).flags) :
    w ∈ ws ∧ fate w = .keep := by
  induction ws generalizing consumed with
  | nil => cases consumed <;> cases h
  | cons v ws ih =>
    have hrest : ∀ {b}, w ∈ (scan b ws).flags → w ∈ v :: ws ∧ fate w = .keep := fun hw =>
      ⟨List.mem_cons_of_mem v (ih hw).1, (ih hw).2⟩
    rw [scan_cons] at h
    dsimp only at h
    split_ifs at h with hv
    · rcases List.mem_cons.1 h with rfl | h
      · exact ⟨List.mem_cons_self, fate_eq_keep_iff.2 hv.2⟩
      · exact hrest h
    · exact hrest h

/-- words that are all kept stay in front of whatever is left of the rest: they note nothing and take nothing -/
theorem ofFlags_kept_append {ws : List Text} (h : ∀ w ∈ ws, fate w = .keep) (more : List Text) :
    ofFlags (ws ++ more) = { ofFlags more with flags := ws ++ (ofFlags more).flags } := by
  induction ws with
  | nil => rfl
  | cons w ws ih =>
    have hrest := ih fun v hv => h v (List.mem_cons_of_mem w hv)
    rw [ofFlags] at hrest
    rw [List.cons_append, ofFlags, scan, h w List.mem_cons_self, hrest]
    rfl

/-- when every word is kept, nothing is dropped and nothing is noted -/
theorem ofFlags_of_kept {ws : List Text} (h : ∀ w ∈ ws, fate w = .keep) : ofFlags ws = { flags := ws } := by
  have happend := ofFlags_kept_append h []
  rw [List.append_nil] at happend
  rw [happend, show ofFlags [] = {} from rfl, List.append_nil]

/-- the flags of a command: those of its words that are left, behind the driver mode if its compiler asks for it -/
theorem mem_flags_ofCommand {ws : List Text} {w : Text} (h : w ∈ (ofCommand ws).flags) :
    w = Flags.driverMode ∨ w ∈ ws ∧ fate w = .keep := by
  cases ws with
  | nil => cases h
  | cons compiler flags =>
    have hrest : w ∈ (ofFlags flags).flags → w = Flags.driverMode ∨ w ∈ compiler :: flags ∧ fate w = .keep :=
      fun hw => Or.inr ⟨List.mem_cons_of_mem compiler (kept_of_mem_scan hw).1, (kept_of_mem_scan hw).2⟩
    simp only [ofCommand] at h
    split_ifs at h
    · rcases List.mem_cons.1 h with rfl | h
      · exact Or.inl rfl
      · exact hrest h
    · exact hrest h

/-- nor does the driver mode look like something to drop -/
theorem kept_of_mem_flags_ofCommand {ws : List Text} {w : Text} (h : w ∈ (ofCommand ws).flags) : fate w = .keep := by
  rcases mem_flags_ofCommand h with rfl | ⟨-, hw⟩
  · exact fate_dashes 'd' _
  · exact hw

/-! ## Positions

A word that takes the next one for its value may have been taken itself, by the word before it, and so on. Flags in a
row take each other in turn, so the length of the row directly before a word says whether the word is taken. -/

/-- how many words in a row, directly before a position, are flags with their value in the next word -/
def chain (ws : List Text) (i : Nat) : Nat :=
  ((ws.take i).reverse.takeWhile takesValue).length

/-- the word at a position is the value of the flag before it -/
def Consumed (ws : List Text) (i : Nat) : Prop :=
  Odd (chain ws i)

instance (ws : List Text) (i : Nat) : Decidable (Consumed ws i) :=
  inferInstanceAs (Decidable (Odd _))

/-- the words at positions that are not consumed, in their order -/
def live (ws : List Text) : List Text :=
  (ws.zipIdx.filter fun x => ¬ Consumed ws x.2).map Prod.fst

theorem chain_succ {ws : List Text} {i : Nat} {w : Text} (h : ws[i]? = some w) :
    chain ws (i + 1) = if takesValue w then chain ws i + 1 else 0 := by
  rw [chain, List.take_add_one, h, Option.toList_some, List.reverse_concat, List.takeWhile_cons]
  split_ifs <;> rfl

theorem consumed_succ {ws : List Text} {i : Nat} {w : Text} (h : ws[i]? = some w) :
    Consumed ws (i + 1) ↔ takesValue w = true ∧ ¬ Consumed ws i := by
  unfold Consumed
  rw [chain_succ h]
  split_ifs with hw
  · simp [hw, Nat.odd_add_one]
  · simp [hw]

/-- what is left of words none of which is consumed -/
def ofLive (ws : List Text) : Filtered where
  flags := ws.filter fun w => ¬ Droppable w
  pchInUse := ws.any isPch

/-- the rest of a list behind any position is judged by the positions of the whole list -/
theorem scan_drop (ws : List Text) {r : List Text} {k : Nat} (h : ws.drop k = r) :
    scan (decide (Consumed ws k)) r = ofLive (((r.zipIdx k).filter fun x => ¬ Consumed ws x.2).map Prod.fst) := by
  induction r generalizing k with
  | nil => cases decide (Consumed ws k) <;> rfl
  | cons w r ih =>
    obtain ⟨hw, hr⟩ := Text.of_drop_eq_cons h
    have hnext : (!decide (Consumed ws k) && takesValue w) = decide (Consumed ws (k + 1)) := by
      rw [Bool.eq_iff_iff]
      simp [consumed_succ hw, and_comm]
    rw [scan_cons, hnext, ih hr, List.zipIdx_cons, List.filter_cons]
    by_cases hc : Consumed ws k
    · simp [hc]
    · simp [hc, ofLive, List.filter_cons]

/-- **Which words are left, by position.** A word is consumed when the flags in a row directly before it, each with
its value in the next word, are odd in number. Of the words that are not consumed, those are left that no rule drops,
in their order; precompiled headers are in use exactly when one of them begins with such a flag or with a forced
include. -/
theorem ofFlags_by_position (ws : List Text) :
    ofFlags ws =
      { flags := (live ws).filter fun w => ¬ Droppable w
        pchInUse := (live ws).any fun w => startsWithAny pch w || startsWithAny forcedIncludes w } := by
  have hfirst : ¬ Consumed ws 0 := by simp [Consumed, chain]
  have hpch : isPch = fun w => startsWithAny pch w || startsWithAny forcedIncludes w := funext isPch_eq
  have hscan := scan_drop ws (List.drop_zero (l := ws))
  rw [decide_eq_false hfirst, ofLive, hpch] at hscan
  exact hscan

/-- the second `-o` is the value of the first, so `-Yu` is a flag, and `-c` its value -/
example : ofFlags ["-o", "-o", "-Yu", "-c", "a.c"] = { flags := ["a.c"], pchInUse := true } := by
  decide

/-! ## Filtering again -/

/-- **What is left stays.** What is left of a list of flags is left by itself: filtering it again drops nothing, notes
no precompiled headers, and so takes no word for the value of a new neighbour. The same is so for what is left of a
command, with the driver mode in front of it. And none of those words does anything to flags that are put behind
them. -/
theorem filtered_flags_are_inert (ws : List Text) :
    (ofFlags (ofFlags ws).flags = { flags := (ofFlags ws).flags, pchInUse := false } ∧
      ∀ more, ofFlags ((ofFlags ws).flags ++ more) =
        { ofFlags more with flags := (ofFlags ws).flags ++ (ofFlags more).flags }) ∧
    ofFlags (ofCommand ws).flags = { flags := (ofCommand ws).flags, pchInUse := false } ∧
      ∀ more, ofFlags ((ofCommand ws).flags ++ more) =
        { ofFlags more with flags := (ofCommand ws).flags ++ (ofFlags more).flags } := by
  have hlist : ∀ w ∈ (ofFlags ws).flags, fate w = .keep := fun w hw => (kept_of_mem_scan hw).2
  have hcommand : ∀ w ∈ (ofCommand ws).flags, fate w = .keep := fun w hw => kept_of_mem_flags_ofCommand hw
  exact ⟨⟨ofFlags_of_kept hlist, ofFlags_kept_append hlist⟩, ofFlags_of_kept hcommand, ofFlags_kept_append hcommand⟩

end Filtered
end IncludeAudit
