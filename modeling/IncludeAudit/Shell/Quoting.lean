/-
Values in quotes, so that a shell reads them back as they are.

- `Quoting.escaped`: with backslashes, `Quoting.single`: in single quotes, `Quoting.double`: in double quotes; what
cannot be seen is written by its number.
-/
import IncludeAudit.Text.Characters

namespace IncludeAudit.Shell.Quoting

/-- some character cannot be shown as it is, or some bytes are none -/
def isUnseen (t : Raw) : Bool :=
  (t.any fun c => c < ' ' || c = '\x7f') || !Raw.isSpelled t

/-- three digits in base eight -/
def octalDigits (n : Nat) : Raw :=
  let ds := Nat.toDigits 8 n
  List.replicate (3 - ds.length) '0' ++ ds

/-- characters with a letter of their own behind a backslash -/
def letters : List (Char × Char) :=
  [('\x1b', 'E'), ('\x07', 'a'), ('\x08', 'b'), ('\x0c', 'f'), ('\n', 'n'), ('\r', 'r'), ('\t', 't'), ('\x0b', 'v'),
   ('\\', '\\'), ('\'', '\'')]

/-- with letters and numbers for what cannot be seen -/
def dollar (t : Raw) : Raw :=
  let one (c : Char) : Raw :=
    match letters.find? (·.1 = c) with
    | some (_, l) => ['\\', l]
    | none =>
      if c < ' ' ∨ c = '\x7f' then '\\' :: octalDigits c.toNat
      else if Raw.isStray c then (Raw.ofCharacters [c]).flatMap fun b => '\\' :: octalDigits b.toNat
      else Raw.ofCharacters [c]
  '$' :: '\'' :: (Raw.characters t).flatMap one ++ ['\'']

/-- in single quotes, whatever there is -/
def plain (t : Raw) : Raw :=
  if t = ['\''] then "\\'"
  else '\'' :: t.flatMap (fun c => if c = '\'' then "'\\''" else [c]) ++ ['\'']

def single (t : Raw) : Raw :=
  if isUnseen t then dollar t else plain t

def isMeta (c : Char) : Bool :=
  c ∈ (" \t\n'\"\\|&;()<>!\x7b\x7d*[]?^$" : Raw) || c = '\x60'

/-- something in a text has a meaning of its own for a shell -/
def isSpecial (t : Raw) : Bool :=
  let isHome (p : Char × Char) : Bool := p.2 = '~' && (p.1 = '=' || p.1 = ':')
  t.any isMeta || t.head? = some '#' || t.head? = some '~' || (t.zip t.tail).any isHome

/-- with backslashes -/
def escaped (t : Raw) : Raw :=
  if t = [] then "''"
  else if isUnseen t then dollar t
  else
    let one (first : Bool) (c : Char) : Raw :=
      if isMeta c ∨ c = ',' ∨ (first ∧ (c = '#' ∨ c = '~')) then ['\\', c] else [c]
    one true (t.headD ' ') ++ t.tail.flatMap (one false)

def double (t : Raw) : Raw :=
  if isUnseen t then dollar t
  else '"' :: t.flatMap (fun c => if c ∈ ("\"$\\" : Raw) ∨ c = '\x60' then ['\\', c] else [c]) ++ ['"']

def sparing (t : Raw) : Raw :=
  if isUnseen t then dollar t
  else if t.any isMeta ∨ t.head?.any fun c => c = '#' || c = '~' then single t
  else t

/-- a character by its number, as far as it can be shown: in a world of single bytes its number stays -/
def codePoint (wide : Bool) (digits n : Nat) : Raw :=
  if n < 128 then [Char.ofNat n]
  else if wide then Raw.ofText [Char.ofNat n]
  else
    let shown := (Nat.toDigits 16 n).map Char.toUpper
    '\\' :: (if digits ≤ 4 then 'u' else 'U') :: List.replicate (digits - shown.length) '0' ++ shown

end IncludeAudit.Shell.Quoting
