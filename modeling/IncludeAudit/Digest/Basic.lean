/-
What digests have in common: bytes as words, a message filled up to whole blocks, and the bytes of a result.

- `blocks`: the words of a filled message, `hexadecimal`: how a digest is shown.
-/
import IncludeAudit.Text.Utf8

namespace IncludeAudit.Digest

/-- in which order the bytes of a word come -/
inductive Order
  | highFirst
  | lowFirst
  deriving DecidableEq, Repr

def Order.join (o : Order) (bytes : List Nat) : Nat :=
  (match o with
    | .highFirst => bytes
    | .lowFirst => bytes.reverse).foldl (fun n b => n * 256 + b) 0

/-- a number as so many bytes -/
def Order.bytes (o : Order) (count n : Nat) : List Nat :=
  let low := (List.range count).map fun i => n >>> (8 * i) % 256
  match o with
  | .highFirst => low.reverse
  | .lowFirst => low

/-- a message in whole blocks: a mark, zeros, and the length in bits as the last two words -/
def filled (o : Order) (wordBytes : Nat) (message : Raw) : Array Nat :=
  let block := 16 * wordBytes
  let used := message.length + 1 + 2 * wordBytes
  let zeros := (block - used % block) % block
  (message.map Char.toNat ++ 0x80 :: List.replicate zeros 0 ++ o.bytes (2 * wordBytes) (8 * message.length)).toArray

def blocks (o : Order) (w : Nat) (message : Raw) : List (Array (BitVec w)) :=
  let size := w / 8
  let bytes := filled o size message
  let word (i : Nat) : BitVec w :=
    BitVec.ofNat w (o.join ((List.range size).map fun j => bytes.getD (i * size + j) 0))
  (List.range (bytes.size / (16 * size))).map fun b => ((List.range 16).map fun i => word (b * 16 + i)).toArray

def bytesOf (o : Order) {w : Nat} (words : List (BitVec w)) : Raw :=
  words.flatMap fun x => (o.bytes (w / 8) x.toNat).map Char.ofNat

def hexadecimal (bytes : Raw) : Raw :=
  let digit (n : Nat) : Char := Char.ofNat (if n < 10 then 48 + n else 87 + n)
  bytes.flatMap fun c => [digit (c.toNat / 16), digit (c.toNat % 16)]

/-- the greatest root of a number that fits into so many bits -/
def root (power n : Nat) : (bits : Nat) → Nat → Nat
  | 0, r => r
  | b + 1, r => root power n b (if Nat.pow (r + Nat.pow 2 b) power ≤ n then r + Nat.pow 2 b else r)

def rootBits (power w n : Nat) : BitVec w :=
  BitVec.ofNat w (root power (n <<< (power * w)) (w + 8) 0)

/-- the first eighty primes -/
def primes : List Nat :=
  (List.range 410).filter fun n => 2 ≤ n && (List.range n).all fun d => d < 2 || n % d ≠ 0

end IncludeAudit.Digest

/-!
## Sums

Small checksums of one number: the remainder of a message as a polynomial, and two plain sums of its bytes.
-/

namespace IncludeAudit.Digest

/-- one more byte of a polynomial, reduced -/
def crcStep (r : BitVec 32) (byte : Nat) : BitVec 32 :=
  let start := r ^^^ (BitVec.ofNat 32 byte <<< 24)
  (List.range 8).foldl (fun (x : BitVec 32) _ => if x.msb then (x <<< 1) ^^^ 0x04c11db7 else x <<< 1) start

def lengthBytes (n : Nat) : List Nat :=
  (List.range 8).filterMap fun i => if n >>> (8 * i) = 0 then none else some (n >>> (8 * i) % 256)

/-- the remainder of a message with its length behind it -/
def crc (message : Raw) : Nat :=
  let r := message.foldl (fun r c => crcStep r c.toNat) 0
  (~~~((lengthBytes message.length).foldl crcStep r)).toNat

def turnedSum (message : Raw) : Nat :=
  (message.foldl (fun (s : BitVec 16) c => s.rotateRight 1 + BitVec.ofNat 16 c.toNat) 0).toNat

/-- the sum of the bytes, folded into 16 bits -/
def plainSum (message : Raw) : Nat :=
  let s := message.foldl (fun n c => n + c.toNat) 0 % 0x100000000
  let r := s % 65536 + s / 65536
  r % 65536 + r / 65536

end IncludeAudit.Digest

/-!
## Digests of 128 and 160 bits

The digests of 128 and 160 bits. Both stir blocks of sixteen words of 32 bits into a few words, the first with the
low byte of a word first, the second with the high byte first.
-/

namespace IncludeAudit.Digest

abbrev Word := BitVec 32

/-! ## 128 bits -/

/-- four words that a message is stirred into -/
structure Four where
  a : Word
  b : Word
  c : Word
  d : Word
  deriving DecidableEq, Repr

/-- the constants of the rounds: the sines of the natural numbers -/
def sines : Array Word :=
  #[0xd76aa478, 0xe8c7b756, 0x242070db, 0xc1bdceee, 0xf57c0faf, 0x4787c62a, 0xa8304613, 0xfd469501,
    0x698098d8, 0x8b44f7af, 0xffff5bb1, 0x895cd7be, 0x6b901122, 0xfd987193, 0xa679438e, 0x49b40821,
    0xf61e2562, 0xc040b340, 0x265e5a51, 0xe9b6c7aa, 0xd62f105d, 0x02441453, 0xd8a1e681, 0xe7d3fbc8,
    0x21e1cde6, 0xc33707d6, 0xf4d50d87, 0x455a14ed, 0xa9e3e905, 0xfcefa3f8, 0x676f02d9, 0x8d2a4c8a,
    0xfffa3942, 0x8771f681, 0x6d9d6122, 0xfde5380c, 0xa4beea44, 0x4bdecfa9, 0xf6bb4b60, 0xbebfbc70,
    0x289b7ec6, 0xeaa127fa, 0xd4ef3085, 0x04881d05, 0xd9d4d039, 0xe6db99e5, 0x1fa27cf8, 0xc4ac5665,
    0xf4292244, 0x432aff97, 0xab9423a7, 0xfc93a039, 0x655b59c3, 0x8f0ccc92, 0xffeff47d, 0x85845dd1,
    0x6fa87e4f, 0xfe2ce6e0, 0xa3014314, 0x4e0811a1, 0xf7537e82, 0xbd3af235, 0x2ad7d2bb, 0xeb86d391]

/-- how far words are turned, four numbers for each quarter of the rounds -/
def turns : Array Nat :=
  #[7, 12, 17, 22, 5, 9, 14, 20, 4, 11, 16, 23, 6, 10, 15, 21]

def round128 (block : Array Word) (s : Four) (i : Nat) : Four :=
  let (mixed, place) :=
    match i / 16 with
    | 0 => ((s.b &&& s.c) ||| (~~~s.b &&& s.d), i)
    | 1 => ((s.d &&& s.b) ||| (~~~s.d &&& s.c), 5 * i + 1)
    | 2 => (s.b ^^^ s.c ^^^ s.d, 3 * i + 5)
    | _ => (s.c ^^^ (s.b ||| ~~~s.d), 7 * i)
  let sum := s.a + mixed + sines.getD i 0 + block.getD (place % 16) 0
  { a := s.d, b := s.b + sum.rotateLeft (turns.getD (i / 16 * 4 + i % 4) 0), c := s.b, d := s.c }

def md5 (message : Raw) : Raw :=
  let start : Four := ⟨0x67452301, 0xefcdab89, 0x98badcfe, 0x10325476⟩
  let s := (blocks .lowFirst 32 message).foldl (fun s block =>
    let t := (List.range 64).foldl (round128 block) s
    ⟨s.a + t.a, s.b + t.b, s.c + t.c, s.d + t.d⟩) start
  bytesOf .lowFirst [s.a, s.b, s.c, s.d]

/-! ## 160 bits -/

/-- five words that a message is stirred into -/
structure Five where
  a : Word
  b : Word
  c : Word
  d : Word
  e : Word
  deriving DecidableEq, Repr

def stretched160 (block : Array Word) : Array Word :=
  (List.range 64).foldl (fun ws i =>
    let nth (k : Nat) := ws.getD (i + k) 0
    ws.push ((nth 13 ^^^ nth 8 ^^^ nth 2 ^^^ nth 0).rotateLeft 1)) block

def round160 (words : Array Word) (s : Five) (i : Nat) : Five :=
  let (mixed, constant) : Word × Word :=
    match i / 20 with
    | 0 => ((s.b &&& s.c) ||| (~~~s.b &&& s.d), 0x5a827999)
    | 1 => (s.b ^^^ s.c ^^^ s.d, 0x6ed9eba1)
    | 2 => ((s.b &&& s.c) ||| (s.b &&& s.d) ||| (s.c &&& s.d), 0x8f1bbcdc)
    | _ => (s.b ^^^ s.c ^^^ s.d, 0xca62c1d6)
  { a := s.a.rotateLeft 5 + mixed + s.e + constant + words.getD i 0
    b := s.a, c := s.b.rotateLeft 30, d := s.c, e := s.d }

def sha1 (message : Raw) : Raw :=
  let start : Five := ⟨0x67452301, 0xefcdab89, 0x98badcfe, 0x10325476, 0xc3d2e1f0⟩
  let s := (blocks .highFirst 32 message).foldl (fun s block =>
    let t := (List.range 80).foldl (round160 (stretched160 block)) s
    ⟨s.a + t.a, s.b + t.b, s.c + t.c, s.d + t.d, s.e + t.e⟩) start
  bytesOf .highFirst [s.a, s.b, s.c, s.d, s.e]

end IncludeAudit.Digest

/-!
## Digests of 224 to 512 bits

The digests of 224, 256, 384 and 512 bits: one scheme with words of 32 or 64 bits, whose constants are the first bits
of roots of primes.

- `sha224`, `sha256`, `sha384`, `sha512`: the digests.
-/

namespace IncludeAudit.Digest

/-- what tells the two sizes of the scheme apart -/
structure Scheme (w : Nat) where
  rounds : Nat
  /-- turns of the first and of the fifth word -/
  first : Nat × Nat × Nat
  fifth : Nat × Nat × Nat
  /-- two turns and a shift of an early and of a late word -/
  early : Nat × Nat × Nat
  late : Nat × Nat × Nat
  constants : Array (BitVec w)

/-- the scheme for words of 32 bits -/
def short : Scheme 32 where
  rounds := 64
  first := (2, 13, 22)
  fifth := (6, 11, 25)
  early := (7, 18, 3)
  late := (17, 19, 10)
  constants := ((primes.take 64).map (rootBits 3 32)).toArray

/-- the scheme for words of 64 bits -/
def long : Scheme 64 where
  rounds := 80
  first := (28, 34, 39)
  fifth := (14, 18, 41)
  early := (1, 8, 7)
  late := (19, 61, 6)
  constants := ((primes.take 80).map (rootBits 3 64)).toArray

namespace Scheme

variable {w : Nat} (s : Scheme w)

/-- three turns of a word, one over another -/
def turned (amounts : Nat × Nat × Nat) (x : BitVec w) : BitVec w :=
  x.rotateRight amounts.1 ^^^ x.rotateRight amounts.2.1 ^^^ x.rotateRight amounts.2.2

/-- two turns and a shift of a word, one over another -/
def shifted (amounts : Nat × Nat × Nat) (x : BitVec w) : BitVec w :=
  x.rotateRight amounts.1 ^^^ x.rotateRight amounts.2.1 ^^^ (x >>> amounts.2.2)

/-- the words of a block with those made of them -/
def stretched (block : Array (BitVec w)) : Array (BitVec w) :=
  (List.range (s.rounds - 16)).foldl (fun ws i =>
    let nth (k : Nat) := ws.getD (i + k) 0
    ws.push (nth 0 + shifted s.early (nth 1) + nth 9 + shifted s.late (nth 14))) block

def round (words : Array (BitVec w)) (v : List (BitVec w)) (i : Nat) : List (BitVec w) :=
  match v with
  | [a, b, c, d, e, f, g, h] =>
    let chosen := (e &&& f) ^^^ (~~~e &&& g)
    let most := (a &&& b) ^^^ (a &&& c) ^^^ (b &&& c)
    let x := h + turned s.fifth e + chosen + s.constants.getD i 0 + words.getD i 0
    let y := turned s.first a + most
    [x + y, a, b, c, d + x, e, f, g]
  | v => v

/-- one block stirred into the eight words -/
def compress (v : List (BitVec w)) (block : Array (BitVec w)) : List (BitVec w) :=
  let words := s.stretched block
  ((List.range s.rounds).foldl (s.round words) v).zipWith (· + ·) v

/-- the bytes of all eight words when a message has been stirred into them -/
def digest (start : List (BitVec w)) (message : Raw) : Raw :=
  bytesOf .highFirst ((blocks .highFirst w message).foldl s.compress start)

end Scheme

def sha256 (message : Raw) : Raw :=
  short.digest ((primes.take 8).map (rootBits 2 32)) message

def sha224 (message : Raw) : Raw :=
  let start := ((primes.drop 8).take 8).map fun p => (rootBits 2 64 p).truncate 32
  (short.digest start message).take 28

def sha512 (message : Raw) : Raw :=
  long.digest ((primes.take 8).map (rootBits 2 64)) message

def sha384 (message : Raw) : Raw :=
  (long.digest (((primes.drop 8).take 8).map (rootBits 2 64)) message).take 48

end IncludeAudit.Digest
