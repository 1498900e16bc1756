/-
Text as a list of characters, with the few operations on it that the rest of the library shares: cutting at a
separator and pasting with one, case and blank tests, decimal numerals.

- `pieces_ne_nil`: there is always at least one piece.
-/

namespace IncludeAudit

/-- text is its list of characters, so that every function on it recurses over the data -/
abbrev Text := List Char

instance : Coe String Text := ⟨String.toList⟩

instance : LawfulBEq Text := inferInstance

namespace Text

/-! ## Cutting and pasting -/

/-- puts `c` in front of the first piece -/
def consFirst (c : Char) : List Text → List Text
  | [] => [[c]]
  | p :: ps => (c :: p) :: ps

/-- the pieces between the separators, empty ones included -/
def pieces (sep : Char) : Text → List Text
  | [] => [[]]
  | c :: r => if c = sep then [] :: pieces sep r else consFirst c (pieces sep r)

/-- the parts with `sep` between neighbours -/
def paste (sep : Text) : List Text → Text
  | [] => []
  | [p] => p
  | p :: q :: ps => p ++ sep ++ paste sep (q :: ps)

theorem pieces_ne_nil (sep : Char) (t : Text) : pieces sep t ≠ [] := by
  cases t with
  | nil => simp [pieces]
  | cons c r =>
    simp only [pieces]
    split
    · simp
    · cases pieces sep r <;> simp [consFirst]

/-- all parts one after another, each closed by a line feed -/
def lines (ls : List Text) : Text :=
  ls.flatMap (· ++ ['\n'])

/-- the first element behind a position is the one at the position -/
theorem of_drop_eq_cons {α : Type} {l r : List α} {x : α} {k : Nat} (h : l.drop k = x :: r) :
    l[k]? = some x ∧ l.drop (k + 1) = r := by
  constructor
  · rw [← List.head?_drop, h, List.head?_cons]
  · rw [← List.tail_drop, h, List.tail_cons]

/-- read from the end, a text stops where its first part ends -/
theorem takeWhile_reverse_append {p : Char → Bool} {a b : Text} (ha : ∀ x ∈ a.getLast?, p x = false)
    (hb : ∀ x ∈ b, p x = true) : ((a ++ b).reverse.takeWhile p).reverse = b := by
  have hstop : a.reverse.takeWhile p = [] := by
    rw [← List.head?_reverse] at ha
    cases hr : a.reverse with
    | nil => rfl
    | cons x r =>
      have hx : p x = false := ha x (by rw [hr]; rfl)
      rw [List.takeWhile_cons_of_neg (by rw [hx]; exact Bool.false_ne_true)]
  have hread : ∀ x ∈ b.reverse, p x = true := fun x hx => hb x (List.mem_reverse.1 hx)
  rw [List.reverse_append, List.takeWhile_append_of_pos hread, hstop, List.append_nil, List.reverse_reverse]

/-! ## Case and blanks -/

/-- letters A to Z become small, all else stays -/
def lower (t : Text) : Text :=
  t.map Char.toLower

def contains (part : Text) : Text → Bool
  | [] => part.isEmpty
  | c :: r => part.isPrefixOf (c :: r) || contains part r

/-- the characters with the white space property -/
def isBlankChar (c : Char) : Bool :=
  let n := c.toNat
  (9 ≤ n && n ≤ 13) || n == 0x20 || n == 0x85 || n == 0xA0 || n == 0x1680 || (0x2000 ≤ n && n ≤ 0x200A) ||
    n == 0x2028 || n == 0x2029 || n == 0x202F || n == 0x205F || n == 0x3000

/-- nothing but white space -/
def isBlank (t : Text) : Bool :=
  t.all isBlankChar

/-! ## Numerals -/

def ofNat (n : Nat) : Text :=
  Nat.toDigits 10 n

/-- the decimal numeral of an integer, with a minus sign when it is negative -/
def ofInt : Int → Text
  | .ofNat n => ofNat n
  | .negSucc n => '-' :: ofNat (n + 1)

def bytes : Text → Nat
  | [] => 0
  | c :: r => c.utf8Size + bytes r

end Text
end IncludeAudit
