/-
Raw text by characters: bytes that spell a character of UTF-8 become that character, and a byte that belongs to none
keeps a place of its own, so that nothing is lost.

- `Raw.characters` and `Raw.ofCharacters`: from bytes to characters and back.
-/
import IncludeAudit.Text.Utf8
import IncludeAudit.Text.Letters
import IncludeAudit.Text.Printable

namespace IncludeAudit.Raw

/-- where the places of bytes start that belong to no character -/
def strayBase : Nat := 0xF0000

/-- the place of a byte that belongs to no character -/
def stray (c : Char) : Char :=
  Char.ofNat (strayBase + c.toNat)

/-- a byte that belongs to no character -/
def isStray (c : Char) : Bool :=
  strayBase ≤ c.toNat && c.toNat < strayBase + 256

/-- the character at the start of some bytes, and how many bytes it takes -/
def characterAt? (r : Raw) : Option (Char × Nat) :=
  match r with
  | [] => none
  | c :: _ =>
    if c.toNat < 128 then some (c, 1)
    else
      match Utf8.lead (UInt8.ofNat c.toNat) with
      | .begins p =>
        match Utf8.decode? (toBytes (r.take (p.missing + 1))) with
        | some [d] => some (d, p.missing + 1)
        | _ => none
      | _ => none

def charactersFrom : (fuel : Nat) → Raw → Text
  | 0, _ => []
  | _, [] => []
  | fuel + 1, c :: r =>
    match characterAt? (c :: r) with
    | some (d, n) => d :: charactersFrom fuel (r.drop (n - 1))
    | none => stray c :: charactersFrom fuel r

def characters (r : Raw) : Text :=
  if r.all fun c => c.toNat < 128 then r else charactersFrom r.length r

def ofCharacters (t : Text) : Raw :=
  if t.all fun c => c.toNat < 128 then t
  else t.flatMap fun c => if isStray c then [Char.ofNat (c.toNat - strayBase)] else ofText [c]

/-- the bytes spell characters throughout -/
def isSpelled (r : Raw) : Bool :=
  r.all (fun c => c.toNat < 128) || (characters r).all fun c => !isStray c

def capitalChar (c : Char) : Char :=
  if c.toNat < 128 then c.toUpper
  else
    match Text.capital c with
    | [d] => d
    | _ => c

def smallChar (c : Char) : Char :=
  if c.toNat < 128 then c.toLower else Text.smallChar c

end IncludeAudit.Raw

/-!
## Sets of characters

Sets of characters as patterns write them in square brackets: single characters, ranges, and classes such as
`[:alpha:]`, or everything else.
-/

namespace IncludeAudit

/-- a class of characters by its name; letters are those of ASCII -/
def Raw.inClass? (name : Raw) : Option (Char → Bool) :=
  let table : List (Raw × (Char → Bool)) :=
    [("alpha", Char.isAlpha), ("digit", Char.isDigit), ("alnum", Char.isAlphanum), ("upper", Char.isUpper),
     ("lower", Char.isLower), ("space", Raw.isSpace), ("blank", fun c => c = ' ' || c = '\t'),
     ("punct", fun c => '!' ≤ c && c ≤ '~' && !c.isAlphanum), ("print", fun c => ' ' ≤ c && c ≤ '~'),
     ("graph", fun c => '!' ≤ c && c ≤ '~'), ("cntrl", fun c => c < ' ' || c = '\x7f'),
     ("xdigit", fun c => c.isDigit || ('a' ≤ c && c ≤ 'f') || ('A' ≤ c && c ≤ 'F'))]
  (table.find? (·.1 = name)).map (·.2)

def Text.inClass (name : Raw) (c : Char) : Bool :=
  let table : List (Raw × (Char → Bool)) :=
    [("alpha", Text.isLetter), ("alnum", Text.isAlnum), ("upper", Text.isCapital), ("lower", Text.isSmall),
     ("punct", fun c => Text.isPrintable c && !Text.isAlnum c), ("print", Text.isPrintable), ("graph", Text.isPrintable),
     ("cntrl", fun c => c.toNat < 160)]
  ((table.find? (·.1 = name)).map fun p => p.2 c).getD false

structure CharSet where
  negated : Bool := false
  ranges : List (Char × Char) := []
  classes : List Raw := []
  deriving DecidableEq, Repr

namespace CharSet

def has (s : CharSet) (c : Char) : Bool :=
  let inside := (s.ranges.any fun r => r.1 ≤ c && c ≤ r.2) ||
    (s.classes.any fun k => ((Raw.inClass? k).map fun test => test c).getD false)
  inside != s.negated

/-- the character is in the set, where characters beyond ASCII have their classes as well -/
def hasWide (s : CharSet) (c : Char) : Bool :=
  if c.toNat < 128 then s.has c
  else
    let inside := (s.ranges.any fun r => r.1 ≤ c && c ≤ r.2) || s.classes.any fun k => Text.inClass k c
    (inside != s.negated) && !Raw.isStray c

/-- the character is in the set in one case or the other, with the cases of all letters -/
def hasWideFolded (s : CharSet) (c : Char) : Bool :=
  let inside (c : Char) : Bool := { s with negated := false }.hasWide c
  ((inside c || inside (Raw.smallChar c) || inside (Raw.capitalChar c)) != s.negated) && !Raw.isStray c

def hasFolded (s : CharSet) (c : Char) : Bool :=
  let inside (c : Char) : Bool := { s with negated := false }.has c
  (inside c || inside c.toLower || inside c.toUpper) != s.negated

/-- a character of a pattern, and whether it stands for itself -/
abbrev Marked := Char × Bool

/-- the elements of a set up to its closing bracket -/
def readItems (escapes : Bool) : (fuel : Nat) → (first : Bool) → List Marked → CharSet → Option (CharSet × List Marked)
  | 0, _, _, _ => none
  | _, _, [], _ => none
  | fuel + 1, first, (c, quoted) :: r, s =>
    if c = ']' ∧ quoted = false ∧ first = false then some (s, r)
    else if c = '[' ∧ quoted = false ∧ (r.head?.map (·.1)) = some ':' then
      let name := (r.tail.map (·.1)).takeWhile (· ≠ ':')
      match r.tail.drop name.length with
      | (':', _) :: (']', _) :: r' => readItems escapes fuel false r' { s with classes := s.classes ++ [name] }
      | _ => readItems escapes fuel false r { s with ranges := s.ranges ++ [(c, c)] }
    else
      let (c, r) : Char × List Marked :=
        if escapes ∧ c = '\\' ∧ quoted = false then
          match r with
          | (d, _) :: r => (d, r)
          | [] => (c, r)
        else (c, r)
      match r with
      | ('-', false) :: (d, q) :: r' =>
        if d = ']' ∧ q = false then readItems escapes fuel false r { s with ranges := s.ranges ++ [(c, c)] }
        else
          let (d, r') : Char × List Marked :=
            if escapes ∧ d = '\\' ∧ q = false then
              match r' with
              | (e, _) :: r'' => (e, r'')
              | [] => (d, r')
            else (d, r')
          readItems escapes fuel false r' { s with ranges := s.ranges ++ [(c, d)] }
      | _ => readItems escapes fuel false r { s with ranges := s.ranges ++ [(c, c)] }

/-- the set behind an opening bracket, and what is behind it; `signs` are the signs for everything else -/
def read (signs : Raw) (escapes : Bool) (r : List Marked) : Option (CharSet × List Marked) :=
  match r with
  | (c, false) :: r' =>
    if c ∈ signs then readItems escapes (r.length + 1) true r' { negated := true }
    else readItems escapes (r.length + 1) true r {}
  | _ => readItems escapes (r.length + 1) true r {}

end CharSet
end IncludeAudit
