/-
Braces in words of the wider language: a word with alternatives in braces is several words, and so is one with a
range.

- `braceWords`: the words that a word stands for.
-/
import IncludeAudit.Shell.Script
import IncludeAudit.Text.Utf8

namespace IncludeAudit.Shell

/-- one character of a word that may be special, or a part as it is -/
inductive Bit
  | char (c : Char)
  | part (p : Part)

namespace Bit

def ofWord (w : Word) : List Bit :=
  w.flatMap fun p =>
    match p with
    | .text t false => t.map .char
    | p => [.part p]

def toWord (bs : List Bit) : Word :=
  bs.foldr (fun b w =>
    match b, w with
    | .char c, .text t false :: r => .text (c :: t) false :: r
    | .char c, w => .text [c] false :: w
    | .part p, w => p :: w) []

/-- the bits up to the brace that closes, cut at the commas, and what is behind it -/
def alternatives : (depth : Nat) → List Bit → (current : List Bit) → (done : List (List Bit)) →
    Option (List (List Bit) × List Bit)
  | _, [], _, _ => none
  | depth, .char c :: r, current, done =>
    if c = '\x7b' then alternatives (depth + 1) r (.char c :: current) done
    else if c = '\x7d' then
      if depth = 0 then some ((current.reverse :: done).reverse, r)
      else alternatives (depth - 1) r (.char c :: current) done
    else if c = ',' ∧ depth = 0 then alternatives depth r [] (current.reverse :: done)
    else alternatives depth r (.char c :: current) done
  | depth, b :: r, current, done => alternatives depth r (b :: current) done

def text? (bs : List Bit) : Option Raw :=
  bs.foldr (fun b t =>
    match b, t with
    | .char c, some t => some (c :: t)
    | _, _ => none) (some [])

/-- numbers or letters from one to another -/
def range? (t : Raw) : Option (List Raw) :=
  let cut := Text.pieces '.' t
  let steps (a b step : Int) : List Int :=
    let step : Nat := if step.natAbs = 0 then 1 else step.natAbs
    let n := (b - a).natAbs / step
    (List.range (n + 1)).map fun (k : Nat) => if a ≤ b then a + k * step else a - k * step
  let between (a b : Raw) (step : Int) : Option (List Raw) :=
    match Raw.int? a, Raw.int? b with
    | some m, some n =>
      let width (r : Raw) : Nat := if 1 < r.length ∧ (r.head? = some '0' ∨ ("-0" : Raw).isPrefixOf r) then r.length else 0
      let wanted := max (width a) (width b)
      let spell (k : Int) : Raw :=
        let digits := Text.ofNat k.natAbs
        let sign : Raw := if k < 0 then ['-'] else []
        sign ++ List.replicate (wanted - digits.length - sign.length) '0' ++ digits
      some ((steps m n step).map spell)
    | _, _ =>
      match a, b with
      | [x], [y] =>
        if x.isAlpha ∧ y.isAlpha then
          some ((steps x.toNat y.toNat step).map fun k => [Char.ofNat k.toNat])
        else none
      | _, _ => none
  match cut with
  | [a, [], b] => between a b 1
  | [a, [], b, [], s] => (Raw.int? s).bind (between a b)
  | _ => none

/-- all words that bits stand for -/
def expand : (fuel : Nat) → List Bit → List (List Bit)
  | 0, bs => [bs]
  | _, [] => [[]]
  | fuel + 1, .char c :: r =>
    let plain (_ : Unit) : List (List Bit) := (expand fuel r).map (.char c :: ·)
    if c = '\x7b' then
      match alternatives 0 r [] [] with
      | some ([one], behind) =>
        match (text? one).bind range? with
        | some ts => ts.flatMap fun t => (expand fuel behind).map (t.map .char ++ ·)
        | none => plain ()
      | some (many, behind) =>
        let tails := expand fuel behind
        many.flatMap fun m => (expand fuel m).flatMap fun front => tails.map (front ++ ·)
      | none => plain ()
    else plain ()
  | fuel + 1, b :: r => (expand fuel r).map (b :: ·)

end Bit

def braceWords (w : Word) : List Word :=
  let bits := Bit.ofWord w
  let isOpen := bits.any fun b => b matches .char '\x7b'
  if isOpen then (Bit.expand (bits.length + 1) bits).map Bit.toWord else [w]

end IncludeAudit.Shell
