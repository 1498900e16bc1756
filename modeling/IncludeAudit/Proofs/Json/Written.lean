/-
Reading what is written. A value has many written forms, since blanks may stand around every part of it; the compact
and the pretty form are two of them. A reader that suits the value gives the same for all of them, and it stops right
behind the value. A record gives what its members say one after another, whichever fields are left out.

- `Written`: the forms of a value, `written_compact`, `written_prettyAt`: both printed forms are among them.
- `Gives`: what a reader makes of a value, whatever its form.
- `gives_text`, `gives_bool`, `gives_list`, `gives_optional`, `gives_null`: the readers of values.
- `gives_record`: the reader of a record.
- `readDocument_eq`: a whole document.
-/
import Mathlib.Data.List.Forall2
import Mathlib.Tactic
import IncludeAudit.Json.Typed
import IncludeAudit.Json.Value

namespace IncludeAudit

theorem Text.bytes_append (a b : Text) : Text.bytes (a ++ b) = Text.bytes a + Text.bytes b := by
  induction a with
  | nil => simp [Text.bytes]
  | cons c a ih => simp [Text.bytes, ih, Nat.add_assoc]

namespace Json

/-! ## Forms -/

/-- nothing but blanks of the format -/
def Blanks (t : Text) : Prop :=
  ∀ c ∈ t, Cursor.isBlank c = true

/-- what stands in front of a part: blanks, and behind another part a comma among them -/
inductive Lead : (first : Bool) → Text → Prop
  | first {b : Text} (hb : Blanks b) : Lead true b
  | next {b b' : Text} (hb : Blanks b) (hb' : Blanks b') : Lead false (b ++ ',' :: b')

/-- parts one behind another, up to the end of what holds them -/
inductive Run {α : Type} (part : α → Text → Prop) : (first : Bool) → List α → Text → Prop
  | done {first : Bool} {b : Text} (hb : Blanks b) : Run part first [] b
  | part {first : Bool} {a : α} {as : List α} {l t r : Text} (hl : Lead first l) (ht : part a t)
      (hr : Run part false as r) : Run part first (a :: as) (l ++ (t ++ r))

/-- a name and a value with a colon between them -/
inductive Member (value : Json → Text → Prop) : Text × Json → Text → Prop
  | mk {name : Text} {j : Json} {b b' t : Text} (hb : Blanks b) (hb' : Blanks b') (ht : value j t) :
      Member value (name, j) (writeString name ++ (b ++ ':' :: (b' ++ t)))

/-- the text is a form of the value -/
inductive Written : Json → Text → Prop
  | null : Written .null "null"
  | bool (b : Bool) : Written (.bool b) (if b then "true" else "false")
  | nat (n : Nat) : Written (.nat n) (Text.ofNat n)
  | string (t : Text) : Written (.string t) (writeString t)
  | list {items : List Json} {t : Text} (ht : Run Written true items t) : Written (.list items) ('[' :: t ++ [']'])
  | object {fields : List (Text × Json)} {t : Text} (ht : Run (Member Written) true fields t) :
      Written (.object fields) ('{' :: t ++ ['}'])

/-- a document that holds the value and nothing else -/
inductive Document (j : Json) : Text → Prop
  | mk {b t b' : Text} (hb : Blanks b) (ht : Written j t) (hb' : Blanks b') : Document j (b ++ (t ++ b'))

theorem Blanks.nil : Blanks [] :=
  fun _ h => by cases h

theorem Blanks.append {b b' : Text} (h : Blanks b) (h' : Blanks b') : Blanks (b ++ b') := by
  intro c hc
  rcases List.mem_append.1 hc with hc | hc
  · exact h c hc
  · exact h' c hc

theorem blanks_newLine (depth : Nat) : Blanks (newLine depth) := by
  intro c hc
  rcases List.mem_cons.1 hc with rfl | hc
  · rfl
  · rw [List.eq_of_mem_replicate hc]; rfl

theorem Written.document {j : Json} {t : Text} (h : Written j t) : Document j t := by
  have hd := Document.mk .nil h .nil
  rwa [List.append_nil] at hd

/-- a form starts with a character that is no blank and closes nothing, and with an `n` only for null -/
theorem Written.head {j : Json} {t : Text} (h : Written j t) :
    ∃ x r, t = x :: r ∧ Cursor.isBlank x = false ∧ x ≠ ']' ∧ (x = 'n' → j = .null) := by
  cases h with
  | null => exact ⟨'n', _, rfl, rfl, by decide, fun _ => rfl⟩
  | bool b =>
    cases b
    · exact ⟨'f', _, rfl, rfl, by decide, fun h => absurd h (by decide)⟩
    · exact ⟨'t', _, rfl, rfl, by decide, fun h => absurd h (by decide)⟩
  | nat n =>
    cases hd : Text.ofNat n with
    | nil => exact absurd hd Nat.toDigits_ne_nil
    | cons x r =>
      have hmem : x ∈ Nat.toDigits 10 n := by
        rw [← Text.ofNat, hd]
        exact List.mem_cons_self
      have hx : x.isDigit = true := Nat.isDigit_of_mem_toDigits (by decide) (by decide) hmem
      refine ⟨x, r, rfl, ?_, ?_, ?_⟩
      · by_contra hb
        simp only [Cursor.isBlank, Bool.not_eq_false, Bool.or_eq_true, decide_eq_true_eq] at hb
        rcases hb with ((rfl | rfl) | rfl) | rfl <;> cases hx
      · rintro rfl; cases hx
      · rintro rfl; cases hx
  | string t => exact ⟨'"', _, rfl, rfl, by decide, fun h => absurd h (by decide)⟩
  | list ht => exact ⟨'[', _, rfl, rfl, by decide, fun h => absurd h (by decide)⟩
  | object ht => exact ⟨'{', _, rfl, rfl, by decide, fun h => absurd h (by decide)⟩

theorem Written.ne_nil {j : Json} {t : Text} (h : Written j t) : t ≠ [] := by
  obtain ⟨x, r, rfl, -⟩ := h.head
  exact List.cons_ne_nil x r

theorem Member.tight (n : Text) {j : Json} {t : Text} (h : Written j t) :
    Member Written (n, j) (writeString n ++ ':' :: t) :=
  .mk .nil .nil h

theorem Member.spaced (n : Text) {j : Json} {t : Text} (h : Written j t) :
    Member Written (n, j) (writeString n ++ ": " ++ t) := by
  have hb : Blanks [' '] := fun c hc => by rw [List.mem_singleton.1 hc]; rfl
  rw [List.append_assoc]
  exact .mk .nil hb h

theorem Member.ne_nil {m : Text × Json} {t : Text} (h : Member Written m t) : t ≠ [] := by
  cases h
  exact List.cons_ne_nil _ _

namespace Run

variable {α : Type} {part : α → Text → Prop} {first : Bool} {as : List α} {t : Text}

theorem append_blanks {b : Text} (h : Run part first as t) (hb : Blanks b) : Run part first as (t ++ b) := by
  induction h with
  | done hb' => exact .done (hb'.append hb)
  | part hl ht _ ih =>
    rw [List.append_assoc, List.append_assoc]
    exact .part hl ht ih

theorem behind_comma {a : α} (h : Run part true (a :: as) t) : Run part false (a :: as) (',' :: t) := by
  obtain _ | ⟨⟨hb⟩, ht, hr⟩ := h
  exact .part (.next .nil hb) ht hr

theorem single {a : α} {l : Text} (hl : Lead first l) (ht : part a t) : Run part first [a] (l ++ t) := by
  have h := Run.part hl ht (.done .nil)
  rwa [List.append_nil] at h

theorem length_le (hp : ∀ {a t}, part a t → t ≠ []) (h : Run part first as t) : as.length ≤ t.length := by
  induction h with
  | done => exact Nat.zero_le _
  | part _ ht _ ih =>
    have hpos := List.length_pos_iff.2 (hp ht)
    simp only [List.length_cons, List.length_append]
    omega

end Run

/-! ## Printed forms -/

mutual

theorem written_compact : (j : Json) → Written j j.compact
  | .null => .null
  | .bool b => .bool b
  | .nat n => .nat n
  | .string t => .string t
  | .list items => .list (run_compactItems items)
  | .object fields => .object (run_compactFields fields)

theorem run_compactItems : (items : List Json) → Run Written true items (compactItems items)
  | [] => .done .nil
  | [j] => .single (.first .nil) (written_compact j)
  | j :: k :: r => .part (.first .nil) (written_compact j) (run_compactItems (k :: r)).behind_comma

theorem run_compactFields :
    (fields : List (Text × Json)) → Run (Member Written) true fields (compactFields fields)
  | [] => .done .nil
  | [(n, j)] => .single (l := []) (.first .nil) (Member.tight n (written_compact j))
  | (n, j) :: f :: r => by
    have h := Run.part (.first .nil) (Member.tight n (written_compact j)) (run_compactFields (f :: r)).behind_comma
    simpa [compactFields] using h

end

mutual

theorem written_prettyAt (depth : Nat) : (j : Json) → Written j (prettyAt depth j)
  | .null => .null
  | .bool b => .bool b
  | .nat n => .nat n
  | .string t => .string t
  | .list [] => .list (.done .nil)
  | .list (j :: r) => .list ((run_prettyItems (depth + 1) (j :: r)).append_blanks (blanks_newLine depth))
  | .object [] => .object (.done .nil)
  | .object (f :: r) => .object ((run_prettyFields (depth + 1) (f :: r)).append_blanks (blanks_newLine depth))

theorem run_prettyItems (depth : Nat) : (items : List Json) → Run Written true items (prettyItems depth items)
  | [] => .done .nil
  | [j] => .single (.first (blanks_newLine depth)) (written_prettyAt depth j)
  | j :: k :: r => by
    have h := Run.part (.first (blanks_newLine depth)) (written_prettyAt depth j)
      (run_prettyItems depth (k :: r)).behind_comma
    simpa [prettyItems] using h

theorem run_prettyFields (depth : Nat) :
    (fields : List (Text × Json)) → Run (Member Written) true fields (prettyFields depth fields)
  | [] => .done .nil
  | [(n, j)] => by
    have h := Run.single (.first (blanks_newLine depth)) (Member.spaced n (written_prettyAt depth j))
    simpa [prettyFields] using h
  | (n, j) :: f :: r => by
    have h := Run.part (.first (blanks_newLine depth)) (Member.spaced n (written_prettyAt depth j))
      (run_prettyFields depth (f :: r)).behind_comma
    simpa [prettyFields] using h

end

/-! ## Cursors -/

theorem Blanks.bytes_eq {b : Text} (hb : Blanks b) : Text.bytes b = b.length := by
  induction b with
  | nil => rfl
  | cons c b ih =>
    have hc : c.utf8Size = 1 := by
      have h := hb c List.mem_cons_self
      simp only [Cursor.isBlank, Bool.or_eq_true, decide_eq_true_eq] at h
      rcases h with ((rfl | rfl) | rfl) | rfl <;> rfl
    rw [Text.bytes, hc, ih fun x hx => hb x (List.mem_cons_of_mem c hx), List.length_cons, Nat.add_comm]

theorem skipBlanks_append {b r : Text} (hb : Blanks b) (hr : ∀ x ∈ r.head?, Cursor.isBlank x = false) (o : Nat) :
    Cursor.skipBlanks ⟨b ++ r, o⟩ = ⟨r, o + Text.bytes b⟩ := by
  have hstop : r.dropWhile Cursor.isBlank = r ∧ r.takeWhile Cursor.isBlank = [] := by
    cases r with
    | nil => exact ⟨rfl, rfl⟩
    | cons x r => simp [hr x rfl]
  simp only [Cursor.skipBlanks, List.dropWhile_append_of_pos hb, List.takeWhile_append_of_pos hb, hstop,
    List.append_nil, hb.bytes_eq]

theorem skipBlanks_cons {b : Text} (hb : Blanks b) {x : Char} (hx : Cursor.isBlank x = false) (r : Text) (o : Nat) :
    Cursor.skipBlanks ⟨b ++ x :: r, o⟩ = ⟨x :: r, o + Text.bytes b⟩ :=
  skipBlanks_append hb (fun y hy => by cases hy; exact hx) o

theorem Written.skipBlanks {j : Json} {b t : Text} (h : Written j t) (hb : Blanks b) (rest : Text) (o : Nat) :
    Cursor.skipBlanks ⟨b ++ (t ++ rest), o⟩ = ⟨t ++ rest, o + Text.bytes b⟩ := by
  obtain ⟨x, r, rfl, hx, -⟩ := h.head
  exact skipBlanks_cons hb hx _ o

theorem Written.atValue {j : Json} {b t : Text} (h : Written j t) (hb : Blanks b) (rest : Text) (o : Nat) :
    atValue ⟨b ++ (t ++ rest), o⟩ = .ok ⟨t ++ rest, o + Text.bytes b⟩ := by
  rw [Json.atValue, h.skipBlanks hb]
  obtain ⟨x, r, rfl, -⟩ := h.head
  rfl

theorem next_cons (x : Char) (r : Text) (o : Nat) : Cursor.next ⟨x :: r, o⟩ = ⟨r, o + x.utf8Size⟩ := by
  simp [Cursor.next, Cursor.advance, Text.bytes]

/-- between brackets, behind the opening one -/
theorem next_enclosed (x y : Char) (t rest : Text) (o : Nat) :
    Cursor.next ⟨x :: t ++ [y] ++ rest, o⟩ = ⟨t ++ y :: rest, o + x.utf8Size⟩ := by
  rw [List.append_assoc]
  exact next_cons x _ o

theorem bytes_enclosed (x y : Char) (t : Text) :
    Text.bytes (x :: t ++ [y]) = x.utf8Size + (Text.bytes t + y.utf8Size) := by
  rw [List.cons_append, Text.bytes, Text.bytes_append]
  rfl

theorem readWord_append (w r : Text) (o : Nat) : readWord w ⟨w ++ r, o⟩ = .ok ⟨r, o + Text.bytes w⟩ := by
  induction w generalizing o with
  | nil => rfl
  | cons x w ih =>
    simp only [List.cons_append, readWord, if_true, ih, Text.bytes, Nat.add_assoc]

/-! ## Strings -/

theorem hexDigit?_digitChar : ∀ n < 16, hexDigit? (Nat.digitChar n) = some n := by
  decide

theorem utf8Size_digitChar : ∀ n < 16, (Nat.digitChar n).utf8Size = 1 := by
  decide

/-- a hex digit that another one follows -/
theorem readStringFrom_hex {h : Hex} {n v : Nat} (hn : n < 16) (hm : 1 < h.missing) (hv : h.value = some v)
    (first : Option Nat) (o : Nat) (before rest : Text) :
    readStringFrom (.hex first h) o before (Nat.digitChar n :: rest) =
      readStringFrom (.hex first ⟨h.missing - 1, some (v * 16 + n)⟩) (o + 1) before rest := by
  have hpush : h.push (Nat.digitChar n) = ⟨h.missing - 1, some (v * 16 + n)⟩ := by
    simp [Hex.push, hv, utf8Size_digitChar n hn, hexDigit?_digitChar n hn]
  have hmore : 0 < h.missing - 1 := by omega
  simp [readStringFrom, hpush, hmore, utf8Size_digitChar n hn]

/-- a character below 32, escaped by its number -/
theorem readStringFrom_code {c : Char} (hc : c.toNat < 0x20) (o : Nat) (before rest : Text) :
    let digits : Text := [Nat.digitChar 0, Nat.digitChar 0, Nat.digitChar (c.toNat / 16), Nat.digitChar (c.toNat % 16)]
    readStringFrom .plain o before ("\\u" ++ (digits ++ rest)) = readStringFrom .plain (o + 6) (c :: before) rest := by
  have hhi : c.toNat / 16 < 16 := by omega
  have hlo : c.toNat % 16 < 16 := by omega
  have hlast : Hex.push ⟨1, some (c.toNat / 16)⟩ (Nat.digitChar (c.toNat % 16)) = ⟨0, some c.toNat⟩ := by
    simp [Hex.push, utf8Size_digitChar _ hlo, hexDigit?_digitChar _ hlo]
    omega
  have hunit : unit none c.toNat = .ok (some c, .plain) := by
    have hl : isLow c.toNat = false := by simp [isLow]; omega
    have hh : isHigh c.toNat = false := by simp [isHigh]; omega
    simp [unit, hl, hh, Char.ofNat_toNat]
  intro digits
  have hopen : readStringFrom .plain o before ("\\u" ++ (digits ++ rest)) =
      readStringFrom (.hex none {}) (o + 2) before (digits ++ rest) := rfl
  rw [hopen]
  simp only [digits, List.cons_append, List.nil_append]
  rw [readStringFrom_hex (v := 0) (by decide) (by decide) rfl,
    readStringFrom_hex (v := 0) (by decide) (by decide) rfl, readStringFrom_hex (v := 0) hhi (by decide) rfl]
  simp [readStringFrom, hlast, hunit]

/-- the escape of a character is read as the character -/
theorem readStringFrom_escapeChar (c : Char) (o : Nat) (before rest : Text) :
    readStringFrom .plain o before (escapeChar c ++ rest) =
      readStringFrom .plain (o + Text.bytes (escapeChar c)) (c :: before) rest := by
  unfold escapeChar
  split_ifs with h1 h2 h3 h4 h5 h6 h7 h8
  · subst h1; rfl
  · subst h2; rfl
  · subst h3; rfl
  · subst h4; rfl
  · subst h5; rfl
  · subst h6; rfl
  · subst h7; rfl
  · have hsize : Text.bytes ("\\u00" ++ [Nat.digitChar (c.toNat / 16), Nat.digitChar (c.toNat % 16)]) = 6 := by
      simp only [Text.bytes_append, Text.bytes, utf8Size_digitChar (c.toNat / 16) (by omega),
        utf8Size_digitChar (c.toNat % 16) (by omega)]
      rfl
    rw [hsize]
    exact readStringFrom_code h8 o before rest
  · simp [readStringFrom, h1, h2, h8, Text.bytes]

theorem readStringFrom_escaped (t : Text) (o : Nat) (before rest : Text) :
    readStringFrom .plain o before (t.flatMap escapeChar ++ '"' :: rest) =
      .ok (before.reverse ++ t, ⟨rest, o + Text.bytes (t.flatMap escapeChar) + 1⟩) := by
  induction t generalizing o before with
  | nil => simp [readStringFrom, Text.bytes]
  | cons c t ih =>
    rw [List.flatMap_cons, List.append_assoc, readStringFrom_escapeChar, ih, Text.bytes_append, List.reverse_cons,
      List.append_assoc, Nat.add_assoc o]
    rfl

theorem readString_writeString (t rest : Text) (o : Nat) :
    readString (Cursor.next ⟨writeString t ++ rest, o⟩) = .ok (t, ⟨rest, o + Text.bytes (writeString t)⟩) := by
  rw [writeString, next_enclosed, readString, readStringFrom_escaped, bytes_enclosed, ← Nat.add_assoc,
    ← Nat.add_assoc]
  rfl

/-! ## Values -/

/-- whatever form a value is written in, the reader takes it for `a`, and it reads no further -/
def Gives {α : Type} (read : Reader α) (j : Json) (a : α) : Prop :=
  ∀ ⦃b t : Text⦄, Blanks b → Written j t →
    ∀ rest o, read ⟨b ++ (t ++ rest), o⟩ = .ok (a, ⟨rest, o + Text.bytes b + Text.bytes t⟩)

theorem gives_text (expected t : Text) : Gives (readText expected) (.string t) t := by
  intro b u hb hu rest o
  rw [readText, hu.atValue hb]
  cases hu
  exact readString_writeString t rest _

theorem gives_bool (v : Bool) : Gives readBool (.bool v) v := by
  intro b u hb hu rest o
  rw [readBool, hu.atValue hb]
  cases hu
  cases v with
  | true =>
    change (do return (true, ← readWord "rue" ⟨"rue" ++ rest, o + Text.bytes b + 1⟩)) = _
    rw [readWord_append]
    rfl
  | false =>
    change (do return (false, ← readWord "alse" ⟨"alse" ++ rest, o + Text.bytes b + 1⟩)) = _
    rw [readWord_append]
    rfl

theorem gives_null {α : Type} (read : Reader α) : Gives (readOptional read) .null none := by
  intro b u hb hu rest o
  rw [readOptional, hu.skipBlanks hb]
  cases hu
  change (do return (none, ← readWord "ull" ⟨"ull" ++ rest, o + Text.bytes b + 1⟩)) = _
  rw [readWord_append]
  rfl

theorem gives_optional {α : Type} {read : Reader α} {j : Json} {a : α} (h : Gives read j a) (hj : j ≠ .null) :
    Gives (readOptional read) j (some a) := by
  intro b u hb hu rest o
  have hread := h .nil hu rest (o + Text.bytes b)
  rw [readOptional, hu.skipBlanks hb]
  obtain ⟨x, r, rfl, -, -, hx⟩ := hu.head
  have hn : (x :: r ++ rest).head? ≠ some 'n' := fun e => hj (hx (Option.some.inj e))
  rw [List.nil_append] at hread
  simp only [if_neg hn, hread, Text.bytes, Nat.add_zero]
  rfl

/-! ## Lists -/

section Parts

variable {first : Bool} {l b : Text}

theorem nextElement_lead (hl : Lead first l) {x : Char} (hx : Cursor.isBlank x = false) (hc : x ≠ ']') (r : Text)
    (o : Nat) : nextElement first ⟨l ++ x :: r, o⟩ = .ok (some ⟨x :: r, o + Text.bytes l⟩) := by
  cases hl with
  | first hb => simp [nextElement, skipBlanks_cons hb hx, hc, pure, Except.pure]
  | next hb hb' =>
    have hcomma : Cursor.isBlank ',' = false := rfl
    simp [nextElement, skipBlanks_cons hb hcomma, next_cons, skipBlanks_cons hb' hx, hc, pure, Except.pure,
      Text.bytes_append, Text.bytes, Nat.add_assoc]

theorem nextElement_done (hb : Blanks b) (r : Text) (o : Nat) : nextElement first ⟨b ++ ']' :: r, o⟩ = .ok none := by
  simp [nextElement, skipBlanks_cons hb (x := ']') rfl, pure, Except.pure]

theorem endList_done (hb : Blanks b) (r : Text) (o : Nat) :
    endList ⟨b ++ ']' :: r, o⟩ = .ok ⟨r, o + Text.bytes b + 1⟩ := by
  simp only [endList, skipBlanks_cons hb (x := ']') rfl, next_cons]
  rfl

theorem nextKey_lead (hl : Lead first l) (name r : Text) (o : Nat) :
    nextKey first ⟨l ++ (writeString name ++ r), o⟩ =
      .ok (some (Cursor.next ⟨writeString name ++ r, o + Text.bytes l⟩)) := by
  have hquote : Cursor.isBlank '"' = false := rfl
  cases hl with
  | first hb => simp [nextKey, writeString, skipBlanks_cons hb hquote, pure, Except.pure]
  | next hb hb' =>
    have hcomma : Cursor.isBlank ',' = false := rfl
    simp [nextKey, writeString, skipBlanks_cons hb hcomma, next_cons, skipBlanks_cons hb' hquote, pure, Except.pure,
      Text.bytes_append, Text.bytes, Nat.add_assoc]

theorem nextKey_done (hb : Blanks b) (r : Text) (o : Nat) : nextKey first ⟨b ++ '}' :: r, o⟩ = .ok none := by
  simp [nextKey, skipBlanks_cons hb (x := '}') rfl, pure, Except.pure]

theorem readColon_append (hb : Blanks b) (r : Text) (o : Nat) :
    readColon ⟨b ++ ':' :: r, o⟩ = .ok ⟨r, o + Text.bytes b + 1⟩ := by
  simp only [readColon, skipBlanks_cons hb (x := ':') rfl, next_cons]
  rfl

end Parts

theorem readElements_cons {α : Type} {read : Reader α} {first : Bool} {c c₁ c₂ c₃ : Cursor} {a : α} {as : List α}
    {fuel : Nat} (hnext : nextElement first c = .ok (some c₁)) (hread : read c₁ = .ok (a, c₂))
    (hrest : readElements read fuel false c₂ = .ok (as, c₃)) :
    readElements read (fuel + 1) first c = .ok (a :: as, c₃) := by
  simp [readElements, hnext, hread, hrest, bind, Except.bind, pure, Except.pure]

theorem readElements_run {α : Type} {read : Reader α} {items : List Json} {first : Bool} {t : Text}
    (h : Run Written first items t) {as : List α} (ha : List.Forall₂ (Gives read) items as) {fuel : Nat}
    (hf : items.length < fuel) (rest : Text) (o : Nat) :
    readElements read fuel first ⟨t ++ ']' :: rest, o⟩ = .ok (as, ⟨rest, o + Text.bytes t + 1⟩) := by
  induction h generalizing as fuel o with
  | done hb =>
    obtain ⟨n, rfl⟩ := Nat.exists_eq_add_of_lt hf
    cases ha
    simp [readElements, nextElement_done hb, endList_done hb, bind, Except.bind, pure, Except.pure]
  | @part first j items l t r hl ht _ ih =>
    obtain _ | ⟨hgive, hmore⟩ := ha
    obtain ⟨n, rfl⟩ := Nat.exists_eq_succ_of_ne_zero (Nat.ne_zero_of_lt hf)
    have hread := hgive .nil ht (r ++ ']' :: rest) (o + Text.bytes l)
    have hrest := ih hmore (Nat.lt_of_succ_lt_succ hf) (o + Text.bytes l + Text.bytes t)
    obtain ⟨x, u, rfl, hx, hc, -⟩ := ht.head
    have hnext := nextElement_lead hl hx hc (u ++ (r ++ ']' :: rest)) o
    have hall := readElements_cons hnext hread hrest
    simpa only [List.append_assoc, List.cons_append, Text.bytes_append, Text.bytes, Nat.add_assoc] using hall

theorem gives_list {α : Type} {read : Reader α} {items : List Json} {as : List α}
    (h : List.Forall₂ (Gives read) items as) : Gives (readList read) (.list items) as := by
  intro b u hb hu rest o
  rw [readList, hu.atValue hb]
  obtain _ | _ | _ | _ | @⟨_, t, ht⟩ := hu
  have hfuel : items.length < ('[' :: t ++ [']'] ++ rest).length := by
    have hlen := ht.length_le Written.ne_nil
    simp only [List.length_append, List.length_cons]
    omega
  change readElements read _ true (Cursor.next _) = _
  rw [next_enclosed, readElements_run ht h hfuel, bytes_enclosed, ← Nat.add_assoc, ← Nat.add_assoc]
  rfl

theorem gives_strings (expected : Text) (ts : List Text) : Gives (readList (readText expected)) (.strings ts) ts := by
  refine gives_list ?_
  rw [List.forall₂_map_left_iff, List.forall₂_same]
  exact fun t _ => gives_text expected t

/-! ## Records -/

/-- the record has a field for the member, which is read as a change of the record -/
def Takes {α : Type} (s : Shape α) (m : Text × Json) (put : α → α) : Prop :=
  ∃ f, s.fields.find? (·.name = m.1) = some f ∧ Gives f.read m.2 put

theorem gives_field {α β : Type} {name : Text} {read : Reader β} {put : Option β → α → α} {j : Json} {v : Option β}
    (h : Gives (readOptional read) j v) : Gives (Field.optional name read put).read j (put v) := by
  intro b u hb hu rest o
  simp only [Field.optional, h hb hu rest o, bind, Except.bind]
  rfl

theorem readMembers_cons {α : Type} {s : Shape α} {first : Bool} {c c₁ c₂ c₃ c₄ : Cursor} {key : Text} {f : Field α}
    {put : α → α} {seen : List Text} {fuel : Nat} {a : α} (hnext : nextKey first c = .ok (some c₁))
    (hkey : readString c₁ = .ok (key, c₂)) (hfind : s.fields.find? (·.name = key) = some f) (hseen : key ∉ seen)
    (hcolon : readColon c₂ = .ok c₃) (hread : f.read c₃ = .ok (put, c₄)) :
    readMembers s (fuel + 1) first seen a c = readMembers s fuel false (key :: seen) (put a) c₄ := by
  simp [readMembers, hnext, hkey, hfind, hseen, hcolon, hread, bind, Except.bind]

theorem readMembers_run {α : Type} {s : Shape α} {ms : List (Text × Json)} {first : Bool} {t : Text}
    (h : Run (Member Written) first ms t) {puts : List (α → α)} (hp : List.Forall₂ (Takes s) ms puts)
    {seen : List Text} (hn : (seen ++ ms.map Prod.fst).Nodup) {fuel : Nat} (hf : ms.length < fuel) (a : α)
    (rest : Text) (o : Nat) :
    readMembers s fuel first seen a ⟨t ++ '}' :: rest, o⟩ =
      .ok (puts.foldl (fun a put => put a) a, ⟨rest, o + Text.bytes t + 1⟩) := by
  induction h generalizing puts seen fuel a o with
  | done hb =>
    obtain ⟨n, rfl⟩ := Nat.exists_eq_add_of_lt hf
    cases hp
    simp only [readMembers, nextKey_done hb, skipBlanks_cons hb (x := '}') rfl, next_cons]
    rfl
  | @part first m ms l t r hl ht _ ih =>
    obtain _ | @⟨_, put, _, puts, ⟨f, hfind, hgive⟩, hmore⟩ := hp
    obtain ⟨n, rfl⟩ := Nat.exists_eq_succ_of_ne_zero (Nat.ne_zero_of_lt hf)
    obtain @⟨name, j, b, b', v, hb, hb', hv⟩ := ht
    have hfresh : (name :: seen ++ ms.map Prod.fst).Nodup := List.nodup_middle.1 hn
    have hseen : name ∉ seen := fun hm => (List.nodup_cons.1 hfresh).1 (List.mem_append_left _ hm)
    have hnext := nextKey_lead hl name (b ++ ':' :: (b' ++ (v ++ (r ++ '}' :: rest)))) o
    have hkey := readString_writeString name (b ++ ':' :: (b' ++ (v ++ (r ++ '}' :: rest)))) (o + Text.bytes l)
    have hcolon := readColon_append hb (b' ++ (v ++ (r ++ '}' :: rest)))
      (o + Text.bytes l + Text.bytes (writeString name))
    have hread := hgive hb' hv (r ++ '}' :: rest) (o + Text.bytes l + Text.bytes (writeString name) + Text.bytes b + 1)
    have hrest := ih hmore hfresh (Nat.lt_of_succ_lt_succ hf) (put a)
      (o + Text.bytes l + Text.bytes (writeString name) + Text.bytes b + 1 + Text.bytes b' + Text.bytes v)
    have hall := (readMembers_cons hnext hkey hfind hseen hcolon hread).trans hrest
    have hone : (':' : Char).utf8Size = 1 := rfl
    simpa only [List.append_assoc, List.cons_append, Text.bytes_append, Text.bytes, Nat.add_assoc, hone,
      List.foldl_cons] using hall

/-- the members of an object change the record one after another, fields without a member are left as they are -/
theorem gives_record {α : Type} {s : Shape α} {ms : List (Text × Json)} {puts : List (α → α)}
    (hp : List.Forall₂ (Takes s) ms puts) (hn : (ms.map Prod.fst).Nodup) :
    Gives (readRecord s) (.object ms) (puts.foldl (fun a put => put a) s.start) := by
  intro b u hb hu rest o
  rw [readRecord, hu.atValue hb]
  obtain _ | _ | _ | _ | _ | @⟨_, t, ht⟩ := hu
  have hfuel : ms.length < ('{' :: t ++ ['}'] ++ rest).length := by
    have hlen := ht.length_le Member.ne_nil
    simp only [List.length_append, List.length_cons]
    omega
  change readMembers s _ true [] _ (Cursor.next _) = _
  rw [next_enclosed, readMembers_run ht hp hn hfuel, bytes_enclosed, ← Nat.add_assoc, ← Nat.add_assoc]
  rfl

/-! ## Documents -/

theorem readDocument_eq {α : Type} {read : Reader α} {j : Json} {a : α} (h : Gives read j a) {document : Text}
    (hd : Document j document) : readDocument read document = .ok a := by
  obtain @⟨b, t, b', hb, ht, hb'⟩ := hd
  have hread := h hb ht b' 0
  have hend := skipBlanks_append hb' (r := []) (by simp) (0 + Text.bytes b + Text.bytes t)
  rw [List.append_nil] at hend
  simp only [readDocument, Cursor.start, hread, hend, bind, Except.bind]
  rfl

end Json
end IncludeAudit
