/-
Writing words as a line and reading them back. Only a word without double quotes is spelled so that the scanner takes
it up as it is, and an empty word leaves nothing to take up.

- `scan_spell`: a spelled word without quotes joins the word under construction, spaces included.
- `words_ofWords_of_clean`: without quotes every word comes back except the empty ones.
- `word_of_mem_words`: a word that was read is not empty and has no quotes, whatever the line.
- `words_ofWords_iff`: so the words that come back as they were are the ones that are not empty and have no quotes.
-/
import Mathlib.Tactic
import IncludeAudit.Command.Words

namespace IncludeAudit.Command

/-! ## Scanning a spelled word -/

/-- inside quotes everything up to the next quote belongs to the word -/
theorem scan_quoted_append {t : Text} (h : '"' ∉ t) (w r : Text) :
    scan true w (t ++ r) = scan true (t.reverse ++ w) r := by
  induction t generalizing w with
  | nil => rfl
  | cons c t ih =>
    obtain ⟨hc, ht⟩ := List.ne_and_not_mem_of_not_mem_cons h
    have hstep : scan true w (c :: (t ++ r)) = scan true (c :: w) (t ++ r) := by
      by_cases hs : c = ' '
      · rw [hs, scan_quoted_space]
      · rw [scan_other hc.symm hs]
    rw [List.cons_append, hstep, ih ht, List.reverse_cons, List.append_assoc, List.singleton_append]

/-- outside quotes a word reaches up to the next space -/
theorem scan_plain_append {t : Text} (h : '"' ∉ t) (hs : ' ' ∉ t) (w r : Text) :
    scan false w (t ++ r) = scan false (t.reverse ++ w) r := by
  induction t generalizing w with
  | nil => rfl
  | cons c t ih =>
    obtain ⟨hc, ht⟩ := List.ne_and_not_mem_of_not_mem_cons h
    obtain ⟨hcs, hts⟩ := List.ne_and_not_mem_of_not_mem_cons hs
    rw [List.cons_append, scan_other hc.symm hcs.symm, ih ht hts, List.reverse_cons, List.append_assoc,
      List.singleton_append]

theorem scan_spell {t : Text} (h : '"' ∉ t) (w r : Text) :
    scan false w (spell t ++ r) = scan false (t.reverse ++ w) r := by
  unfold spell
  split_ifs with hs
  · rw [List.cons_append, List.append_assoc, scan_quote, Bool.not_false, scan_quoted_append h, List.singleton_append,
      scan_quote, Bool.not_true]
  · exact scan_plain_append h hs w r

/-! ## Reading a line of spelled words -/

theorem close_eq (w : Text) (rest : List Text) : close w rest = [w.reverse].filter (· ≠ []) ++ rest := by
  by_cases hw : w = []
  · rw [hw]; rfl
  · rw [close_ne_nil hw]
    simp [hw]

theorem words_spell {w : Text} (h : '"' ∉ w) : words (spell w) = [w].filter (· ≠ []) := by
  have hscan := scan_spell h [] []
  rw [List.append_nil, List.append_nil] at hscan
  rw [words, hscan, scan, close_eq, List.reverse_reverse, List.append_nil]

/-- a spelled word is over where the next space stands -/
theorem words_spell_space {w : Text} (h : '"' ∉ w) (line : Text) :
    words (spell w ++ ' ' :: line) = [w].filter (· ≠ []) ++ words line := by
  rw [words, scan_spell h, List.append_nil, scan_space, close_eq, List.reverse_reverse]
  rfl

theorem words_ofWords_of_clean {ws : List Text} (h : ∀ w ∈ ws, '"' ∉ w) :
    words (ofWords ws) = ws.filter (· ≠ []) := by
  induction ws with
  | nil => rfl
  | cons w ws ih =>
    have hw : '"' ∉ w := h w List.mem_cons_self
    cases ws with
    | nil => exact words_spell hw
    | cons v ws =>
      have hline : ofWords (w :: v :: ws) = spell w ++ ' ' :: ofWords (v :: ws) := by
        simp [ofWords, Text.paste]
      rw [hline, words_spell_space hw, ih fun x hx => h x (List.mem_cons_of_mem _ hx), ← List.filter_append,
        List.singleton_append]

/-! ## What a word can be -/

theorem word_of_mem_close {w v : Text} {rest : List Text} (hw : '"' ∉ w) (hrest : v ∈ rest → v ≠ [] ∧ '"' ∉ v)
    (h : v ∈ close w rest) : v ≠ [] ∧ '"' ∉ v := by
  unfold close at h
  split_ifs at h with he
  · exact hrest h
  · rcases List.mem_cons.1 h with rfl | h
    · have hne : w ≠ [] := fun e => he (List.isEmpty_iff.2 e)
      exact ⟨by simpa using hne, by simpa using hw⟩
    · exact hrest h

/-- quotes never enter the word under construction, and an empty one is never closed -/
theorem word_of_mem_scan {q : Bool} {w line v : Text} (hw : '"' ∉ w) (h : v ∈ scan q w line) :
    v ≠ [] ∧ '"' ∉ v := by
  induction line generalizing q w with
  | nil => exact word_of_mem_close hw (fun hv => by cases hv) h
  | cons c r ih =>
    simp only [scan] at h
    split_ifs at h with hc hs
    · exact ih hw h
    · exact word_of_mem_close hw (fun hv => ih List.not_mem_nil hv) h
    · exact ih (by simpa [Ne.symm hc] using hw) h

theorem word_of_mem_words {line w : Text} (h : w ∈ words line) : w ≠ [] ∧ '"' ∉ w :=
  word_of_mem_scan List.not_mem_nil h

/-! ## The words that come back -/

/-- **Which words come back.** A list of words without double quotes comes back without its empty words. A list comes
back as it was exactly when none of its words is empty and none has a double quote: what quotes take away from a word
is never made up for by another one. -/
theorem words_ofWords_iff (ws : List Text) :
    ((∀ w ∈ ws, '"' ∉ w) → words (ofWords ws) = ws.filter (· ≠ [])) ∧
      (words (ofWords ws) = ws ↔ ∀ w ∈ ws, w ≠ [] ∧ '"' ∉ w) := by
  refine ⟨words_ofWords_of_clean, fun h w hw => ?_, fun h => ?_⟩
  · rw [← h] at hw
    exact word_of_mem_words hw
  · rw [words_ofWords_of_clean fun w hw => (h w hw).2]
    exact List.filter_eq_self.2 fun w hw => by simpa using (h w hw).1

/-- words with spaces in front, inside and behind come back, and so does one that is a space; empty words do not -/
theorem words_ofWords_spaced :
    (∀ w ∈ (["cc", [], "-I/my dir", " ", " a.c ", []] : List Text), '"' ∉ w) ∧
      words (ofWords ["cc", [], "-I/my dir", " ", " a.c ", []]) = ["cc", "-I/my dir", " ", " a.c "] := by
  have h : ∀ w ∈ (["cc", [], "-I/my dir", " ", " a.c ", []] : List Text), '"' ∉ w := by decide
  exact ⟨h, (words_ofWords_iff _).1 h⟩

end IncludeAudit.Command
