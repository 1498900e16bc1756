/-
Command lines as words. A double quote toggles quoting and is dropped, a space outside quotes ends a word, and
empty words never arise. There is no escape and no error: an open quote reaches to the end of the line.

- `scan`: the scanner, with one equation for each kind of character: `scan_quote`, `scan_space`, `scan_quoted_space`,
  `scan_other`.
- `ofWords`: the line of a word list, each word with a space inside put in quotes.
-/
import IncludeAudit.Text

namespace IncludeAudit.Command

/-- closes the word under construction, which is kept reversed; an empty one vanishes -/
def close (word : Text) (rest : List Text) : List Text :=
  if word.isEmpty then rest else word.reverse :: rest

/-- the words of the rest of a line, inside or outside quotes, with the current word so far (reversed) -/
def scan : (quoted : Bool) → (word : Text) → Text → List Text
  | _, word, [] => close word []
  | quoted, word, c :: r =>
    if c = '"' then scan (!quoted) word r
    else if c = ' ' ∧ quoted = false then close word (scan false [] r)
    else scan quoted (c :: word) r

def words (line : Text) : List Text :=
  scan false [] line

/-- a word as it stands in a line: in quotes when it has a space inside -/
def spell (word : Text) : Text :=
  if ' ' ∈ word then '"' :: (word ++ ['"']) else word

def ofWords (ws : List Text) : Text :=
  Text.paste [' '] (ws.map spell)

/-! ## The scanner, character by character -/

theorem scan_quote (q : Bool) (w r : Text) : scan q w ('"' :: r) = scan (!q) w r := by
  simp [scan]

theorem scan_space (w r : Text) : scan false w (' ' :: r) = close w (scan false [] r) := by
  simp [scan]

theorem scan_quoted_space (w r : Text) : scan true w (' ' :: r) = scan true (' ' :: w) r := by
  simp [scan]

theorem scan_other {c : Char} (hq : c ≠ '"') (hs : c ≠ ' ') (q : Bool) (w r : Text) :
    scan q w (c :: r) = scan q (c :: w) r := by
  simp [scan, hq, hs]

theorem close_ne_nil {w : Text} (h : w ≠ []) (rest : List Text) : close w rest = w.reverse :: rest := by
  cases w with
  | nil => exact absurd rfl h
  | cons c w => rfl

end IncludeAudit.Command
