/-
Bytes as letters and digits and back: 64 characters for three bytes as four, 32 characters for five bytes as eight.
-/
import IncludeAudit.Tool.Basic

namespace IncludeAudit.Tool

/-- an alphabet whose characters stand for so many bits each -/
structure Alphabet where
  characters : Raw
  bits : Nat
  /-- bytes of a whole group, and characters for them -/
  groupBytes : Nat
  groupCharacters : Nat

def alphabet64 : Alphabet where
  characters := "ABCDEFGHIJKLMNOPQRSTUVWXYZabcdefghijklmnopqrstuvwxyz0123456789+/"
  bits := 6
  groupBytes := 3
  groupCharacters := 4

def alphabet32 : Alphabet where
  characters := "ABCDEFGHIJKLMNOPQRSTUVWXYZ234567"
  bits := 5
  groupBytes := 5
  groupCharacters := 8

namespace Alphabet

variable (a : Alphabet)

/-- so many things of a list at a time -/
def groups (size : Nat) : (fuel : Nat) → Raw → List Raw
  | 0, _ => []
  | fuel + 1, r => if r = [] then [] else r.take size :: groups size fuel (r.drop size)

/-- one group of bytes as characters; signs fill up what the bytes do not need -/
def encodeGroup (bytes : Raw) : Raw :=
  let n := (bytes ++ List.replicate (a.groupBytes - bytes.length) '\x00').foldl (fun n c => n * 256 + c.toNat) 0
  let used := (bytes.length * 8 + a.bits - 1) / a.bits
  (List.range a.groupCharacters).map fun i =>
    if i < used then a.characters.getD (n >>> (a.bits * (a.groupCharacters - 1 - i)) % Nat.pow 2 a.bits) '=' else '='

/-- bytes as characters -/
def encode (r : Raw) : Raw :=
  (groups a.groupBytes r.length r).flatMap a.encodeGroup

/-- the number that a character stands for -/
def value? (c : Char) : Option Nat :=
  a.characters.findIdx? (· = c)

/-- one group of characters as bytes, and whether it is well formed -/
def decodeGroup (g : Raw) : Raw × Bool :=
  let sure := g.takeWhile fun c => (a.value? c).isSome
  let bytes := sure.length * a.bits / 8
  let n := sure.foldl (fun n c => n * Nat.pow 2 a.bits + (a.value? c).getD 0) 0
  let spare := sure.length * a.bits - bytes * 8
  let n := n >>> spare
  let decoded := (List.range bytes).map fun i => Char.ofNat (n >>> (8 * (bytes - 1 - i)) % 256)
  let filling := g.drop sure.length
  let fits := sure.length * a.bits < (bytes + 1) * 8 && spare < a.bits && bytes ≠ 0
  (decoded, g.length = a.groupCharacters && filling.all (· = '=') && fits)

/-- characters as bytes as far as they are well formed, and whether they all are -/
def decode : List Raw → Raw × Bool
  | [] => ([], true)
  | g :: rest =>
    match a.decodeGroup g with
    | (bytes, true) => let (more, good) := decode rest; (bytes ++ more, good)
    | (bytes, false) => (if a.bits = 5 ∧ g.length < 8 then [] else bytes, false)

end Alphabet

/-- prints a file in an alphabet, or what a file in it stands for -/
def encoded (a : Alphabet) (c : Call) : Answer :=
  c.parse [option 'd' "decode", option 'i' "ignore-garbage", valuedOption 'w' "wrap"] 1 fun p =>
    match Raw.nat? ((p.value? 'w').getD "76"), p.operands with
    | none, _ => c.fail ("invalid wrap size: " ++ quote ((p.value? 'w').getD [])) 1
    | some width, [] => answer p width ['-']
    | some width, [f] => answer p width f
    | _, _ :: f :: _ => c.misused ("extra operand " ++ quote f) 1
where
  /-- the answer for one file -/
  answer (p : Parsed) (width : Nat) (f : Raw) : Answer :=
    let taken := Call.takenBy [f]
    match c.readInput f with
    | .error .isDirectory => { c.fail "read error: Is a directory" 1 with taken }
    | .error e => c.fail (showName f ++ ": " ++ e.words) 1
    | .ok r =>
      if p.has 'd' then
        let kept := r.filter fun x => if p.has 'i' then x = '=' || (a.value? x).isSome else x ≠ '\n'
        let (bytes, good) := a.decode (Alphabet.groups a.groupCharacters kept.length kept)
        let out : List (Bool × Raw) := if bytes = [] then [] else [(false, bytes)]
        if good then { said := out, taken }
        else { said := out ++ [(true, c.name ++ ": invalid input\n")], status := 1, taken }
      else
        let text := a.encode r
        let lines := if width = 0 then [text] else Alphabet.groups width text.length text
        let ending : Raw := if width = 0 then [] else ['\n']
        { Answer.print (lines.flatMap fun l => l ++ ending) with taken }

end IncludeAudit.Tool
