/-
Tools that print digests of files, and check files against digests printed before.

- `Algorithm`: a digest with its name, `digests`: a tool for one of them, `cksum`: a tool for all of them.
-/
import IncludeAudit.Digest.Basic
import IncludeAudit.Tool.Basic

namespace IncludeAudit.Tool

/-- a digest -/
structure Algorithm where
  /-- the name that stands in front of a digest -/
  tag : Raw
  /-- the name that is asked for -/
  name : Raw
  /-- the length in bytes -/
  size : Nat
  digest : Raw → Raw

/-- the digests that are shown in digits -/
def algorithms : List Algorithm :=
  [⟨"MD5", "md5", 16, Digest.md5⟩, ⟨"SHA1", "sha1", 20, Digest.sha1⟩, ⟨"SHA224", "sha224", 28, Digest.sha224⟩,
   ⟨"SHA256", "sha256", 32, Digest.sha256⟩, ⟨"SHA384", "sha384", 48, Digest.sha384⟩,
   ⟨"SHA512", "sha512", 64, Digest.sha512⟩]

namespace Checksum

/-- a name that stays on one line -/
def escaped (name : Raw) : Raw :=
  name.flatMap fun c => if c = '\n' then "\\n" else if c = '\r' then "\\r" else if c = '\\' then "\\\\" else [c]

/-- the name that an escaped one stands for -/
def unescaped : Raw → Option Raw
  | [] => some []
  | '\\' :: 'n' :: r => (unescaped r).map ('\n' :: ·)
  | '\\' :: 'r' :: r => (unescaped r).map ('\r' :: ·)
  | '\\' :: '\\' :: r => (unescaped r).map ('\\' :: ·)
  | '\\' :: _ => none
  | c :: r => (unescaped r).map (c :: ·)

/-! ## Printing -/

/-- how digests are shown -/
structure Style where
  tagged : Bool := false
  binary : Bool := false
  zero : Bool := false
  deriving DecidableEq, Repr

def line (a : Algorithm) (s : Style) (name content : Raw) : Raw :=
  let shown := if s.zero then name else escaped name
  let mark : Raw := if shown = name then [] else ['\\']
  let digest := Digest.hexadecimal (a.digest content)
  let text : Raw :=
    if s.tagged then a.tag ++ " (" ++ shown ++ ") = " ++ digest
    else digest ++ [' ', if s.binary then '*' else ' '] ++ shown
  mark ++ text ++ [if s.zero then '\x00' else '\n']

/-- what is said about files one by one -/
def each (c : Call) (files : List Raw) (f : Raw → Raw → Raw) : Answer :=
  let files := if files = [] then [['-']] else files
  let said := files.map fun name =>
    match c.readInput name with
    | .ok content => (false, f name content)
    | .error e => (true, c.name ++ ": " ++ showName name ++ ": " ++ e.words ++ ['\n'])
  { said, status := if said.any (·.1) then 1 else 0, taken := Call.takenBy files }

/-! ## Checking -/

/-- a line of a list of digests -/
structure Entry where
  digest : Raw
  name : Raw
  deriving DecidableEq, Repr

def isDigit (c : Char) : Bool :=
  c.isDigit || ('a' ≤ c && c ≤ 'f') || ('A' ≤ c && c ≤ 'F')

def isBlank (c : Char) : Bool :=
  c = ' ' || c = '\t'

/-- a line with the name of the digest in front -/
def taggedEntryOf (a : Algorithm) (isEscaped : Bool) (r : Raw) : Option Entry :=
  let body := r.drop a.tag.length
  let body := if body.head? = some ' ' then body.tail else body
  match body with
  | '(' :: body =>
    let behind := (body.reverse.takeWhile (· ≠ ')')).reverse
    let name := body.take (body.length - behind.length - 1)
    match behind.dropWhile isBlank with
    | '=' :: d =>
      let digest := d.dropWhile isBlank
      if behind.length < body.length ∧ digest.length = 2 * a.size ∧ digest.all isDigit then
        (if isEscaped then unescaped name else some name).map fun name => { digest, name }
      else none
    | _ => none
  | _ => none

/-- a line with the digest in front; a list where one blank stands between the two keeps to it -/
def plainEntryOf (a : Algorithm) (isEscaped : Bool) (single : Option Bool) (r : Raw) :
    Option (Entry × Option Bool) :=
  let digest := r.takeWhile isDigit
  let named (name : Raw) (single : Option Bool) : Option (Entry × Option Bool) :=
    (if isEscaped then unescaped name else some name).map fun name => ({ digest, name }, single)
  match r.drop digest.length with
  | blank :: rest =>
    if digest.length = 2 * a.size ∧ isBlank blank ∧ rest ≠ [] then
      match rest with
      | mark :: name =>
        if name = [] ∨ (mark ≠ ' ' ∧ mark ≠ '*') then
          if single = some false then none else named rest (some true)
        else if single = some true then named rest single
        else named name (some false)
      | [] => none
    else none
  | [] => none

/-- what a line of a list says, if it is well formed -/
def entryOf (a : Algorithm) (single : Option Bool) (r : Raw) : Option (Entry × Option Bool) :=
  let r := r.dropWhile isBlank
  let isEscaped := r.head? = some '\\'
  let r := if isEscaped then r.tail else r
  if a.tag.isPrefixOf r then (taggedEntryOf a isEscaped r).map fun e => (e, single)
  else plainEntryOf a isEscaped single r

/-- how much is said while files are checked -/
structure Manner where
  quiet : Bool := false
  status : Bool := false
  warn : Bool := false
  strict : Bool := false
  ignoreMissing : Bool := false
  deriving DecidableEq, Repr

/-- what has been found so far in a list -/
structure Found where
  said : List (Bool × Raw) := []
  single : Option Bool := none
  wellFormed : Nat := 0
  malformed : Nat := 0
  unread : Nat := 0
  wrong : Nat := 0
  right : Nat := 0

/-- checks the file of one line -/
def checkEntry (c : Call) (a : Algorithm) (m : Manner) (f : Found) (e : Entry) (single : Option Bool) : Found :=
  let f := { f with wellFormed := f.wellFormed + 1, single }
  let shown := escaped e.name
  let shown := if shown = e.name then shown else '\\' :: shown
  let verdict (t : Raw) : List (Bool × Raw) := if m.status then [] else [(false, shown ++ ": " ++ t ++ ['\n'])]
  match c.readInput e.name with
  | .ok content =>
    if Digest.hexadecimal (a.digest content) = e.digest.map Char.toLower then
      { f with right := f.right + 1, said := f.said ++ if m.quiet then [] else verdict "OK" }
    else { f with wrong := f.wrong + 1, said := f.said ++ verdict "FAILED" }
  | .error .noEntry =>
    if m.ignoreMissing then f
    else
      let complaint := c.name ++ ": " ++ showName e.name ++ ": No such file or directory\n"
      { f with unread := f.unread + 1, said := f.said ++ (true, complaint) :: verdict "FAILED open or read" }
  | .error err =>
    let complaint := c.name ++ ": " ++ showName e.name ++ ": " ++ err.words ++ ['\n']
    { f with unread := f.unread + 1, said := f.said ++ (true, complaint) :: verdict "FAILED open or read" }

def checkLine (c : Call) (as : List Algorithm) (m : Manner) (list : Raw) (f : Found) (l : Nat × Raw) : Found :=
  let text := if l.2.getLast? = some '\r' then l.2.dropLast else l.2
  if text = [] ∨ text.head? = some '#' then f
  else
    let start := text.dropWhile fun c => isBlank c || c = '\\'
    let as := if as.length = 1 then as else as.filter fun a => a.tag.isPrefixOf start
    match as.findSome? fun a => (entryOf a f.single text).map fun e => (a, e) with
    | some (a, e, single) => checkEntry c a m f e single
    | none =>
      let tag : Raw :=
        match as with
        | [a] => a.tag
        | _ => "CRC"
      let complaint := c.name ++ ": " ++ list ++ ": " ++ Text.ofNat (l.1 + 1) ++ ": improperly formatted " ++ tag ++
        " checksum line\n"
      { f with malformed := f.malformed + 1, said := f.said ++ if m.warn then [(true, complaint)] else [] }

/-- a warning that counts something -/
def warning (c : Call) (n : Nat) (one many : Raw) : List (Bool × Raw) :=
  if n = 0 then []
  else
    let t : Raw := if n = 1 then one else many
    [(true, c.name ++ ": WARNING: " ++ Text.ofNat n ++ t ++ ['\n'])]

/-- checks the files of one list: what is said and whether all is well -/
def checkList (c : Call) (as : List Algorithm) (m : Manner) (name : Raw) : List (Bool × Raw) × Bool :=
  let shown : Raw := if name = ['-'] then "'standard input'" else showName name
  let complaint (t : Raw) : List (Bool × Raw) := [(true, c.name ++ ": " ++ shown ++ ": " ++ t ++ ['\n'])]
  match c.readInput name with
  | .error .isDirectory => (complaint "read error", false)
  | .error e => (complaint e.words, false)
  | .ok text =>
    let ls := Raw.lines text
    let f := ((List.range ls.length).zip ls).foldl (checkLine c as m shown) {}
    if f.wellFormed = 0 then (complaint "no properly formatted checksum lines found", false)
    else
      let warnings :=
        if m.status then []
        else
          warning c f.malformed " line is improperly formatted" " lines are improperly formatted" ++
            warning c f.unread " listed file could not be read" " listed files could not be read" ++
            warning c f.wrong " computed checksum did NOT match" " computed checksums did NOT match" ++
            if m.ignoreMissing ∧ f.right + f.wrong = 0 then complaint "no file was verified" else []
      let nothing := m.ignoreMissing ∧ f.right = 0
      (f.said ++ warnings, f.wrong = 0 && f.unread = 0 && !(m.strict && f.malformed ≠ 0) && !nothing)

def checkLists (c : Call) (as : List Algorithm) (m : Manner) (lists : List Raw) : Answer :=
  let lists := if lists = [] then [['-']] else lists
  let results := lists.map (checkList c as m)
  { said := results.flatMap (·.1), status := if results.all (·.2) then 0 else 1, taken := Call.takenBy lists }

def commonOptions : List Option_ :=
  [option 'c' "check", option 'w' "warn", option 'z' "zero", option 'T' "tag", option 'I' "ignore-missing",
   option 'Q' "quiet", option 'S' "status", option 'R' "strict"]

/-- what an option asks for that means nothing here -/
def misuse? (p : Parsed) : Option Raw :=
  if p.has 'c' then
    if p.has 'T' then some "the --tag option is meaningless when verifying checksums"
    else if p.has 'z' then some "the --zero option is not supported when verifying checksums"
    else if p.has 'b' ∨ p.has 't' then
      some "the --binary and --text options are meaningless when verifying checksums"
    else none
  else
    let only (name : Raw) : Raw := "the --" ++ name ++ " option is meaningful only when verifying checksums"
    if p.has 'T' ∧ p.has 't' then some "--tag does not support --text mode"
    else if p.has 'I' then some (only "ignore-missing")
    else if p.has 'S' then some (only "status")
    else if p.has 'w' then some (only "warn")
    else if p.has 'Q' then some (only "quiet")
    else if p.has 'R' then some (only "strict")
    else none

/-- the manner that options ask for -/
def manner (p : Parsed) : Manner :=
  { quiet := p.has 'Q', status := p.has 'S', warn := p.has 'w', strict := p.has 'R', ignoreMissing := p.has 'I' }

end Checksum

/-- prints or checks digests of one kind -/
def digests (name : Raw) (c : Call) : Answer :=
  match algorithms.find? (·.name = name) with
  | none => { status := 1 }
  | some a =>
    c.parse ([option 'b' "binary", option 't' "text"] ++ Checksum.commonOptions) 1 fun p =>
      match Checksum.misuse? p with
      | some message => c.misused message 1
      | none =>
        if p.has 'c' then Checksum.checkLists c [a] (Checksum.manner p) p.operands
        else
          let marks := p.given.filter fun g => g.1 = 'b' || g.1 = 't'
          let style : Checksum.Style :=
            { tagged := p.has 'T', binary := marks.getLast?.map (·.1) = some 'b', zero := p.has 'z' }
          Checksum.each c p.operands (Checksum.line a style)

namespace Checksum

/-- how many blocks of a size hold a text -/
def blocksOf (size : Nat) (content : Raw) : Nat :=
  (content.length + size - 1) / size

def numbersLine (p : Parsed) (numbers : Raw → Raw) (name content : Raw) : Raw :=
  let shown : Raw := if p.operands = [] then [] else ' ' :: name
  numbers content ++ shown ++ [if p.has 'z' then '\x00' else '\n']

/-- the turned sum in five digits and the number of blocks -/
def turned (content : Raw) : Raw :=
  let n := Text.ofNat (Digest.turnedSum content)
  List.replicate (5 - n.length) '0' ++ n ++ ' ' :: Raw.pad 5 false (Text.ofNat (blocksOf 1024 content))

/-- the plain sum and the number of small blocks -/
def plain (content : Raw) : Raw :=
  Text.ofNat (Digest.plainSum content) ++ ' ' :: Text.ofNat (blocksOf 512 content)

def remainder (content : Raw) : Raw :=
  Text.ofNat (Digest.crc content) ++ ' ' :: Text.ofNat content.length

end Checksum

/-- prints sums of files -/
def sum (c : Call) : Answer :=
  c.parse [option 'r' [], option 's' "sysv"] 1 fun p =>
    let last := (p.given.filter fun g => g.1 = 's' || g.1 = 'r').getLast?.map (·.1)
    Checksum.each c p.operands
      (Checksum.numbersLine p (if last = some 's' then Checksum.plain else Checksum.turned))

/-- prints remainders of files, or digests of a kind -/
def cksum (c : Call) : Answer :=
  let known :=
    [valuedOption 'a' "algorithm", option 'u' "untagged", option 'b' "base64", option 'r' "raw", option 'd' "debug",
     valuedOption 'l' "length"] ++ Checksum.commonOptions
  c.parse known 1 fun p =>
    let kind : Raw := (p.value? 'a').getD "crc"
    let plainKinds : List (Raw × (Raw → Raw)) :=
      [("crc", Checksum.remainder), ("bsd", Checksum.turned), ("sysv", Checksum.plain)]
    match algorithms.find? (·.name = kind), plainKinds.find? (·.1 = kind) with
    | some a, _ =>
      if p.has 'c' then Checksum.checkLists c [a] (Checksum.manner p) p.operands
      else
        let style : Checksum.Style := { tagged := !p.has 'u', zero := p.has 'z' }
        Checksum.each c p.operands (Checksum.line a style)
    | none, some (_, numbers) =>
      if p.has 'c' then
        if p.has 'a' then c.fail ("--check is not supported with --algorithm=\x7bbsd,sysv,crc\x7d") 1
        else Checksum.checkLists c algorithms (Checksum.manner p) p.operands
      else Checksum.each c p.operands (Checksum.numbersLine p numbers)
    | none, none =>
      let names : List Raw :=
        ["bsd", "sysv", "crc", "md5", "sha1", "sha224", "sha256", "sha384", "sha512", "blake2b", "sm3"]
      let valid : Raw := names.flatMap fun n => ("\n  - " : Raw) ++ quote n
      c.misused ("invalid argument " ++ quote kind ++ " for '--algorithm'\nValid arguments are:" ++ valid) 1

end IncludeAudit.Tool
