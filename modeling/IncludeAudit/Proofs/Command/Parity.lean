/-
The words of a line, told from the line as a whole. A space parts two words when the quotes in front of it are even in
number, in whatever words they stand and whether or not one of them is ever closed. What lies between two such spaces
is a word once its quotes are taken out, unless that leaves nothing.

- `stretches`: a line cut at the spaces that part it.
- `scan_drop`: the state of the scanner at any position, told by the quotes before it and the stretch it is in.
- `words_by_parity`: so the words are the stretches without their quotes, and nothing else of the line gets lost.
- `words_append_space`: behind a line that closes its quotes, the words of another line are added.
-/
import Mathlib.Tactic
import IncludeAudit.Proofs.Command.RoundTrip

namespace IncludeAudit.Command

/-! ## Stretches -/

/-- an even number of quotes stands before the position -/
def Outside (line : Text) (i : Nat) : Prop :=
  Even ((line.take i).count '"')

instance (line : Text) (i : Nat) : Decidable (Outside line i) :=
  inferInstanceAs (Decidable (Even _))

/-- a character, with its position, that is a space outside quotes -/
def parts (line : Text) (x : Char × Nat) : Bool :=
  x.1 = ' ' ∧ Outside line x.2

/-- the pieces of a line between the spaces outside quotes, with their quotes -/
def stretches (line : Text) : List Text :=
  (line.zipIdx.splitOnP (parts line)).map (·.map Prod.fst)

/-- a text without its quotes -/
def bare (t : Text) : Text :=
  t.filter (· ≠ '"')

/-- the words that pieces of a line come to -/
def ofStretches (ps : List Text) : List Text :=
  (ps.map bare).filter (· ≠ [])

theorem ofStretches_cons (p : Text) (ps : List Text) :
    ofStretches (p :: ps) = [bare p].filter (· ≠ []) ++ ofStretches ps := by
  rw [ofStretches, List.map_cons, ← List.singleton_append, List.filter_append]
  rfl

theorem bare_cons_quote (t : Text) : bare ('"' :: t) = bare t := by
  simp [bare]

theorem bare_cons {c : Char} (h : c ≠ '"') (t : Text) : bare (c :: t) = c :: bare t := by
  simp [bare, h]

/-! ## Where the scanner stands -/

theorem outside_zero (line : Text) : Outside line 0 := by
  simp [Outside]

theorem outside_succ {t : Text} {i : Nat} {c : Char} (h : t[i]? = some c) :
    Outside t (i + 1) ↔ (Outside t i ↔ c ≠ '"') := by
  unfold Outside
  rw [List.take_add_one, h, Option.toList_some, List.count_append]
  by_cases hc : c = '"'
  · simp [hc, Nat.even_add_one]
  · simp [hc]

/-- a character that is neither a quote nor a space outside quotes goes into the word -/
theorem scan_taken {q : Bool} {c : Char} (hc : c ≠ '"') (hs : ¬ (c = ' ' ∧ q = false)) (w r : Text) :
    scan q w (c :: r) = scan q (c :: w) r := by
  rw [scan, if_neg hc, if_neg hs]

/-- At any position the scanner is in quotes when those before it are odd in number, and the word under construction
is what it has read of the stretch, without quotes. -/
theorem scan_drop (t : Text) {r : Text} {k : Nat} (h : t.drop k = r) (read : List (Char × Nat)) :
    scan (decide (¬ Outside t k)) (bare (read.map Prod.fst)) r =
      ofStretches (((r.zipIdx k).splitOnPPrepend (parts t) read).map (·.map Prod.fst)) := by
  induction r generalizing k read with
  | nil =>
    rw [scan, close_eq, List.append_nil, List.zipIdx_nil, List.splitOnPPrepend_nil]
    simp [ofStretches, bare, List.filter_reverse]
  | cons c r ih =>
    obtain ⟨hc, hr⟩ := Text.of_drop_eq_cons h
    rw [List.zipIdx_cons, List.splitOnPPrepend_cons_eq_if]
    by_cases hq : c = '"'
    · -- the state changes sides, and the word stays as it is
      subst hq
      have hside : (!decide (¬ Outside t k)) = decide (¬ Outside t (k + 1)) := by simp [outside_succ hc]
      rw [if_neg (by simp [parts]), ← ih hr, List.map_cons, bare_cons_quote, scan_quote, hside]
    have hside : decide (¬ Outside t (k + 1)) = decide (¬ Outside t k) := by simp [outside_succ hc, hq]
    by_cases hp : parts t (c, k) = true
    · -- the stretch is over, and the next one begins outside quotes
      obtain ⟨rfl, ho⟩ : c = ' ' ∧ Outside t k := by simpa [parts] using hp
      have hfalse : decide (¬ Outside t k) = false := by simp [ho]
      have hrest := ih hr []
      rw [hside, hfalse] at hrest
      rw [if_pos hp, hfalse, scan_space, close_eq, List.map_cons, ofStretches_cons,
        ← List.splitOnPPrepend_nil_right, ← hrest]
      simp [bare, List.filter_reverse]
    · have hs : ¬ (c = ' ' ∧ decide (¬ Outside t k) = false) := by simpa [parts] using hp
      rw [if_neg hp, ← ih hr, List.map_cons, bare_cons hq, scan_taken hq hs, hside]

/-! ## The words -/

theorem words_eq_stretches (line : Text) : words line = ofStretches (stretches line) := by
  have h := scan_drop line List.drop_zero []
  rwa [decide_eq_false (not_not.2 (outside_zero line))] at h

/-- cutting loses just the elements that are cut at -/
theorem flatten_splitOnPPrepend {α : Type} (p : α → Bool) (xs acc : List α) :
    (xs.splitOnPPrepend p acc).flatten = acc.reverse ++ xs.filter fun x => !p x := by
  induction xs generalizing acc with
  | nil => simp
  | cons x xs ih =>
    rw [List.splitOnPPrepend_cons_eq_if]
    cases hx : p x with
    | true =>
      rw [if_pos rfl, List.flatten_cons, ← List.splitOnPPrepend_nil_right, ih, List.filter_cons_of_neg (by simp [hx])]
      rfl
    | false => simp [ih, hx]

theorem flatten_words (line : Text) :
    (words line).flatten = (line.zipIdx.filter fun x => x.1 ≠ '"' ∧ parts line x = false).map Prod.fst := by
  have hcut : (line.zipIdx.splitOnP (parts line)).flatten = line.zipIdx.filter fun x => !parts line x :=
    flatten_splitOnPPrepend (parts line) line.zipIdx []
  calc (words line).flatten = ((stretches line).map bare).flatten := by
        rw [words_eq_stretches, ofStretches, List.flatten_filter_ne_nil]
    _ = bare (stretches line).flatten := List.filter_flatten.symm
    _ = bare ((line.zipIdx.filter fun x => !parts line x).map Prod.fst) := by
        rw [stretches, ← List.map_flatten, hcut]
    _ = _ := by
        rw [bare, List.filter_map, List.filter_filter]
        congr 1
        refine List.filter_congr fun x _ => ?_
        simp

/-- **Words by parity.** Cut a line at just those spaces that have an even number of quotes before them, take the quotes
out of each piece and leave out the pieces that become empty: these are its words. So the words hold every character of
the line but the quotes and those spaces, once and in order, also behind a quote that is never closed. -/
theorem words_by_parity (line : Text) :
    words line = ((stretches line).map fun p => p.filter (· ≠ '"')).filter (· ≠ []) ∧
      (words line).flatten = (line.zipIdx.filter fun x => x.1 ≠ '"' ∧ parts line x = false).map Prod.fst :=
  ⟨words_eq_stretches line, flatten_words line⟩

/-- quotes open and close inside words, around nothing, and the last one reaches to the end -/
example :
    stretches " cc a\"b \"c  \"\" \"d e " = ["", "cc", "a\"b \"c", "", "\"\"", "\"d e "] ∧
      words " cc a\"b \"c  \"\" \"d e " = ["cc", "ab c", "d e "] := by
  decide

/-! ## One line behind another -/

theorem close_append (w : Text) (ws vs : List Text) : close w (ws ++ vs) = close w ws ++ vs := by
  rw [close_eq, close_eq, List.append_assoc]

/-- where the quotes come to an end, a space ends the word, and nothing of it reaches into what follows -/
theorem scan_append_space (line w more : Text) :
    scan (decide (Odd (line.count '"'))) w (line ++ ' ' :: more) =
      scan (decide (Odd (line.count '"'))) w line ++ words more := by
  induction line generalizing w with
  | nil =>
    have hnil : decide (Odd (([] : Text).count '"')) = false := by simp
    rw [hnil, List.nil_append, scan_space, scan, ← close_append, List.nil_append]
    rfl
  | cons c line ih =>
    rw [List.cons_append]
    by_cases hq : c = '"'
    · subst hq
      have hside : (!decide (Odd (('"' :: line).count '"'))) = decide (Odd (line.count '"')) := by
        rw [List.count_cons_self, ← decide_not, decide_eq_decide, Nat.odd_add_one, not_not]
      rw [scan_quote, scan_quote, hside, ih]
    have hside : (c :: line).count '"' = line.count '"' := List.count_cons_of_ne hq
    rw [hside]
    by_cases hs : c = ' ' ∧ decide (Odd (line.count '"')) = false
    · obtain ⟨rfl, hfalse⟩ := hs
      have hrest := ih []
      rw [hfalse] at hrest ⊢
      rw [scan_space, scan_space, hrest, close_append]
    · rw [scan_taken hq hs, scan_taken hq hs, ih]

theorem words_append_space {line : Text} (h : Even (line.count '"')) (more : Text) :
    words (line ++ ' ' :: more) = words line ++ words more := by
  have hscan := scan_append_space line [] more
  rwa [decide_eq_false (Nat.not_odd_iff_even.2 h)] at hscan

end IncludeAudit.Command
