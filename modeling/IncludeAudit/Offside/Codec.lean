/-
Texts as bytes and back, in several encodings, with several ways to deal with what cannot be said.

- `Codec.encode`, `Codec.decode`: the two directions; what is wrong is given with its place.
-/
import IncludeAudit.Offside.Strings
import IncludeAudit.Text.Utf8

namespace IncludeAudit.Offside

/-- encodings -/
inductive Codec
  | utf8
  /-- with a mark at the beginning -/
  | utf8Marked
  | ascii
  | latin
  | utf16 (big : Bool) (marked : Bool)
  | utf32 (big : Bool) (marked : Bool)
  deriving DecidableEq, Repr, Inhabited

namespace Codec

def named? (t : Text) : Option Codec :=
  let n := String.ofList ((t.map fun c => if c = '_' ∨ c = ' ' then '-' else c.toLower))
  match n with
  | "utf-8" | "utf8" | "u8" | "cp65001" => some .utf8
  | "utf-8-sig" | "utf8-sig" => some .utf8Marked
  | "ascii" | "us-ascii" | "646" => some .ascii
  | "latin-1" | "latin1" | "iso-8859-1" | "iso8859-1" | "l1" | "8859" | "cp819" => some .latin
  | "utf-16" | "utf16" | "u16" => some (.utf16 false true)
  | "utf-16-le" | "utf-16le" => some (.utf16 false false)
  | "utf-16-be" | "utf-16be" => some (.utf16 true false)
  | "utf-32" | "utf32" | "u32" => some (.utf32 false true)
  | "utf-32-le" | "utf-32le" => some (.utf32 false false)
  | "utf-32-be" | "utf-32be" => some (.utf32 true false)
  | _ => none

/-- the name of an encoding in complaints -/
def title : Codec → Text
  | .utf8 | .utf8Marked => "utf-8"
  | .ascii => "ascii"
  | .latin => "latin-1"
  | .utf16 _ true => "utf-16"
  | .utf16 false false => "utf-16-le"
  | .utf16 true false => "utf-16-be"
  | .utf32 _ true => "utf-32"
  | .utf32 false false => "utf-32-le"
  | .utf32 true false => "utf-32-be"

/-- what is wrong, from one place to another -/
structure Trouble where
  first : Nat
  last : Nat
  reason : Text
  deriving DecidableEq, Repr

def byte (n : Nat) : Char :=
  Char.ofNat (n % 256)

/-- numbers as bytes of a width -/
def word (big : Bool) (width n : Nat) : Raw :=
  let bytes := (List.range width).map fun (i : Nat) => byte (n / Nat.pow 256 i)
  if big then bytes.reverse else bytes

def number (big : Bool) (r : Raw) : Nat :=
  (if big then r else r.reverse).foldl (fun n c => n * 256 + c.toNat) 0

/-- what takes the place of a character that cannot be said; none when nothing can -/
def substitute? (errors : Text) (c : Char) : Option Text :=
  match String.ofList errors with
  | "ignore" => some []
  | "replace" => some ['?']
  | "backslashreplace" => some (Strings.escape c)
  | "xmlcharrefreplace" => some ("&#" ++ Text.ofNat c.toNat ++ [';'])
  | "namereplace" => some (Strings.escape c)
  | "surrogateescape" => if 0xdc80 ≤ c.toNat ∧ c.toNat ≤ 0xdcff then some [byte c.toNat] else none
  | _ => none

def encodeBelow (limit : Nat) (reason errors : Text) : (place : Nat) → Text → Raw → Except Trouble Raw
  | _, [], done => .ok done.reverse
  | n, c :: r, done =>
    if c.toNat < limit then encodeBelow limit reason errors (n + 1) r (c :: done)
    else
      match substitute? errors c with
      | some t => encodeBelow limit reason errors (n + 1) r (t.reverse ++ done)
      | none =>
        let bad := ((c :: r).takeWhile fun c => limit ≤ c.toNat).length
        .error { first := n, last := n + bad, reason }

def encode (codec : Codec) (errors t : Text) : Except Trouble Raw :=
  match codec with
  | .utf8 => .ok (Raw.ofText t)
  | .utf8Marked => .ok ("\xef\xbb\xbf".toList ++ Raw.ofText t)
  | .ascii => encodeBelow 128 "ordinal not in range(128)" errors 0 t []
  | .latin => encodeBelow 256 "ordinal not in range(256)" errors 0 t []
  | .utf16 big marked =>
    let one (c : Char) : Raw :=
      let n := c.toNat
      if n < 0x10000 then word big 2 n
      else
        let m := n - 0x10000
        word big 2 (0xd800 + m / 1024) ++ word big 2 (0xdc00 + m % 1024)
    .ok ((if marked then word big 2 0xfeff else []) ++ t.flatMap one)
  | .utf32 big marked => .ok ((if marked then word big 4 0xfeff else []) ++ t.flatMap fun c => word big 4 c.toNat)

/-- what is at the start of bytes: a character with its size, or the size of what is none and the reason -/
def first : Raw → (Char × Nat) ⊕ (Nat × String)
  | [] => .inr (1, "unexpected end of data")
  | c :: r =>
    let n := c.toNat
    if n < 0x80 then .inl (c, 1)
    else
      let (size, low, high) : Nat × Nat × Nat :=
        if 0xc2 ≤ n ∧ n ≤ 0xdf then (2, 0x80, 0xbf)
        else if n = 0xe0 then (3, 0xa0, 0xbf)
        else if n = 0xed then (3, 0x80, 0x9f)
        else if 0xe1 ≤ n ∧ n ≤ 0xef then (3, 0x80, 0xbf)
        else if n = 0xf0 then (4, 0x90, 0xbf)
        else if 0xf1 ≤ n ∧ n ≤ 0xf3 then (4, 0x80, 0xbf)
        else if n = 0xf4 then (4, 0x80, 0x8f)
        else (0, 0, 0)
      if size = 0 then .inr (1, "invalid start byte")
      else
        let rest := r.take (size - 1)
        let good := (rest.zipIdx.takeWhile fun (d, i) =>
          if i = 0 then low ≤ d.toNat && d.toNat ≤ high else 0x80 ≤ d.toNat && d.toNat ≤ 0xbf).length
        if good = size - 1 then
          let start := n % (if size = 2 then 32 else if size = 3 then 16 else 8)
          .inl (Char.ofNat (rest.foldl (fun m d => m * 64 + d.toNat % 64) start), size)
        else if good = rest.length then .inr (1 + good, "unexpected end of data")
        else .inr (1 + good, "invalid continuation byte")

/-- what takes the place of bytes that say nothing; none when nothing can -/
def patch? (errors : Text) (r : Raw) : Option Text :=
  match String.ofList errors with
  | "ignore" => some []
  | "replace" => some ['\ufffd']
  | "backslashreplace" => some (r.flatMap fun c => "\\x" ++ Strings.hex 2 c.toNat)
  | "surrogateescape" => some ['\ufffd']
  | _ => none

/-- bytes as text, character by character -/
def decodeUtf8 (errors : Text) : (fuel : Nat) → (place : Nat) → Raw → Text → Except Trouble Text
  | 0, _, _, done => .ok done.reverse
  | _, _, [], done => .ok done.reverse
  | fuel + 1, n, c :: r, done =>
    if c.toNat < 0x80 then decodeUtf8 errors fuel (n + 1) r (c :: done)
    else
      match first (c :: r) with
      | .inl (d, size) => decodeUtf8 errors fuel (n + size) (r.drop (size - 1)) (d :: done)
      | .inr (size, reason) =>
        match patch? errors ((c :: r).take size) with
        | some t => decodeUtf8 errors fuel (n + size) (r.drop (size - 1)) (t.reverse ++ done)
        | none => .error { first := n, last := n + size, reason := reason.toList }

def decodeBelow (limit : Nat) (errors : Text) : (place : Nat) → Raw → Text → Except Trouble Text
  | _, [], done => .ok done.reverse
  | n, c :: r, done =>
    if c.toNat < limit then decodeBelow limit errors (n + 1) r (c :: done)
    else
      match patch? errors [c] with
      | some t => decodeBelow limit errors (n + 1) r (t.reverse ++ done)
      | none => .error { first := n, last := n + 1, reason := "ordinal not in range(128)" }

def decodeWords (big : Bool) (width : Nat) : (fuel : Nat) → (place : Nat) → Raw → Text → Except Trouble Text
  | 0, _, _, done => .ok done.reverse
  | _, _, [], done => .ok done.reverse
  | fuel + 1, n, r, done =>
    if r.length < width then .error { first := n, last := n + r.length, reason := "truncated data" }
    else
      let a := number big (r.take width)
      let r' := r.drop width
      if width = 2 ∧ 0xd800 ≤ a ∧ a < 0xdc00 then
        if r'.length < 2 then .error { first := n, last := n + 2, reason := "unexpected end of data" }
        else
          let b := number big (r'.take 2)
          decodeWords big width fuel (n + 4) (r'.drop 2) (Char.ofNat (0x10000 + (a - 0xd800) * 1024 + (b - 0xdc00)) :: done)
      else decodeWords big width fuel (n + width) r' (Char.ofNat a :: done)

def decode (codec : Codec) (errors : Text) (r : Raw) : Except Trouble Text :=
  match codec with
  | .utf8 => decodeUtf8 errors (r.length + 1) 0 r []
  | .utf8Marked =>
    let r := if ("\xef\xbb\xbf".toList).isPrefixOf r then r.drop 3 else r
    decodeUtf8 errors (r.length + 1) 0 r []
  | .ascii => decodeBelow 128 errors 0 r []
  | .latin => .ok r
  | .utf16 big marked =>
    let mark := number false (r.take 2)
    let (big, r) : Bool × Raw :=
      if marked ∧ mark = 0xfeff then (false, r.drop 2) else if marked ∧ mark = 0xfffe then (true, r.drop 2) else (big, r)
    decodeWords big 2 (r.length + 1) 0 r []
  | .utf32 big marked =>
    let mark := number false (r.take 4)
    let (big, r) : Bool × Raw := if marked ∧ mark = 0xfeff then (false, r.drop 4) else (big, r)
    decodeWords big 4 (r.length + 1) 0 r []

/-- what is wrong with bytes, in words -/
def decodeTrouble (codec : Codec) (t : Trouble) (r : Raw) : Text :=
  let what : Text :=
    if t.last = t.first + 1 then
      "byte 0x" ++ Strings.hex 2 (((r[t.first]?).map Char.toNat).getD 0) ++ " in position " ++ Text.ofNat t.first
    else "bytes in position " ++ Text.ofNat t.first ++ '-' :: Text.ofNat (t.last - 1)
  '\'' :: codec.title ++ "' codec can't decode " ++ what ++ ": " ++ t.reason

/-- what is wrong with a text, in words -/
def encodeTrouble (codec : Codec) (t : Trouble) (s : Text) : Text :=
  let what : Text :=
    if t.last = t.first + 1 then
      "character '" ++ Strings.escape ((s[t.first]?).getD ' ') ++ "' in position " ++ Text.ofNat t.first
    else "characters in position " ++ Text.ofNat t.first ++ '-' :: Text.ofNat (t.last - 1)
  '\'' :: codec.title ++ "' codec can't encode " ++ what ++ ": " ++ t.reason

end Codec
end IncludeAudit.Offside
