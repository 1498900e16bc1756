/-
What a script reads: lines of its input, and the options that it has been called with.

- `St.read`: a line into variables, `St.readLines`: lines into an array, `St.getopts`: the next option.
-/
import IncludeAudit.Shell.Jobs
import IncludeAudit.Shell.Value

namespace IncludeAudit.Shell

structure Reading where
  /-- backslashes stand for themselves -/
  raw : Bool := false
  ending : Char := '\n'
  /-- characters at most -/
  most : Option Nat := none
  /-- the ending is a character like any other -/
  exact : Bool := false
  /-- a character may be several bytes -/
  wide : Bool := false

def goesOn (c : Char) : Bool :=
  0x80 ≤ c.toNat && c.toNat < 0xc0

/-- a line with its escapes taken in, how many bytes it takes, and whether it is whole -/
def readLine (o : Reading) : (fuel : Nat) → (most : Option Nat) → Raw → List Kept × Nat × Bool
  | 0, _, _ => ([], 0, false)
  | fuel + 1, most, r =>
    let isDone : Bool := most = some 0 && !(o.wide && r.head?.any goesOn && o.most ≠ some 0)
    if isDone then ([], 0, true)
    else
      match r with
      | [] => ([], 0, false)
      | c :: r =>
        let fewer := if o.wide ∧ goesOn c then most else most.map (· - 1)
        if c = o.ending ∧ !o.exact then ([], 1, true)
        else if c = '\\' ∧ o.raw = false then
          match r with
          | [] => ([], 1, false)
          | d :: r =>
            if d = '\n' then
              let (more, n, whole) := readLine o fuel most r
              (more, n + 2, whole)
            else
              let (more, n, whole) := readLine o fuel fewer r
              ((d, true) :: more, n + 2, whole)
        else
          let (more, n, whole) := readLine o fuel fewer r
          (if c = '\x00' then more else (c, false) :: more, n + 1, whole)

def allFields (separators : Raw) : (fuel : Nat) → List Kept → List Raw
  | 0, _ => []
  | fuel + 1, line =>
    match nextField? separators line with
    | none => []
    | some (field, rest) => field.map (·.1) :: allFields separators fuel rest

namespace St

/-- assigns to a variable or to an element of an array -/
def bindReference (s : St) (reference value : Raw) : St :=
  let name := reference.takeWhile (· ≠ '[')
  if name.length < reference.length then
    s.assignElement name (s.indexOf name ((reference.drop (name.length + 1)).dropLast)) value
  else s.bind reference value

/-- a variable, or an element of an array -/
def isReference (s : St) (t : Raw) : Bool :=
  let name := t.takeWhile (· ≠ '[')
  isName name && (name.length = t.length || (s.wide && t.getLast? = some ']'))

def openDescriptor (s : St) (t : Option Raw) : Except Raw Nat :=
  match t with
  | none => .ok 0
  | some t =>
    match Raw.nat? t with
    | some n => if (s.stream? n).isSome then .ok n else .error (t ++ ": invalid file descriptor: Bad file descriptor")
    | none => .error (t ++ ": invalid file descriptor specification")

def asked (t : Option Raw) (words : Raw) : Except Raw (Option Nat) :=
  match t with
  | none => .ok none
  | some t =>
    match Raw.nat? t with
    | some n => .ok (some n)
    | none => .error (t ++ words)

/-- a line of the input into variables -/
def read (s : St) (arguments : List Raw) : St :=
  match Tool.options (Tool.letters (if s.wide then "rp:t:u:d:n:N:sea:i:" else "rp:")) true arguments with
  | .error e => s.complain ("Illegal option -" ++ (e.reverse.drop 1).take 1) 2
  | .ok p =>
    let names := if p.operands.isEmpty ∧ s.wide then [("REPLY" : Raw)] else p.operands
    let checked : Except Raw (Nat × Option Nat) := do
      match p.value? 't' with
      | some t =>
        let digits := t.filter (· ≠ '.')
        if digits = [] ∨ digits.any (!·.isDigit) then throw (t ++ ": invalid timeout specification")
      | none => pure ()
      let n ← asked (p.value? 'n') ": invalid number"
      let m ← asked (p.value? 'N') ": invalid number"
      let fd ← s.openDescriptor (p.value? 'u')
      match ((p.value? 'a').toList ++ names).find? (!s.isReference ·) with
      | some x => throw (if s.wide then '\x60' :: x ++ "': not a valid identifier" else x ++ ": bad variable name")
      | none => pure ()
      return (fd, m.or n)
    if names.isEmpty then s.complain "arg count" 2
    else
      match checked with
      | .error message => s.complain message (if s.wide then 1 else 2)
      | .ok (fd, most) =>
        let isProbe : Bool := (p.value? 't').any fun t => t.all fun c => c = '0' || c = '.'
        if isProbe then { s with status := 0 }
        else
          let o : Reading :=
            { raw := p.has 'r', ending := ((p.value? 'd').map fun t => t.headD '\x00').getD '\n', most
              exact := p.has 'N', wide := s.byCharacters }
          let input := s.left fd
          let (line, size, whole) : List Kept × Nat × Bool := readLine o (input.length + 1) most input
          let line : List Kept := if s.byCharacters then markedCharacters line else line
          let separators := s.inward s.separators
          let s : St :=
            match s.stream? fd with
            | some n => { s with world := s.world.advance n size }
            | none => s
          let s : St :=
            match p.value? 'a' with
            | some a =>
              let fields : List Raw := (allFields separators (line.length + 1) line).map s.outward
              let es : List (Raw × Raw) := (List.range fields.length).zip fields |>.map fun q => (Text.ofNat q.1, q.2)
              s.put a { (s.variable_ a).getD {} with elements := some es, value := none }
            | none =>
              let values : List Raw :=
                if p.operands.isEmpty ∨ p.has 'N' then [line.map fun c => c.1] else lineValues separators names.length line
              (names.zip values).foldl (fun s p => s.bindReference p.1 (s.outward p.2)) s
          if s.isOn then { s with status := if whole then 0 else 1 } else s

/-- lines of the input into an array -/
def readLines (s : St) (arguments : List Raw) : St :=
  match Tool.options (Tool.letters "td:n:O:s:u:C:c:") true arguments with
  | .error e => s.complain (e ++ ": invalid option") 2
  | .ok p =>
    let name := p.operands.headD "MAPFILE"
    let checked : Except Raw (Nat × Nat × Nat × Nat) := do
      let fd ← s.openDescriptor (p.value? 'u')
      let count ← asked (p.value? 'n') ": invalid line count"
      let origin ← asked (p.value? 'O') ": invalid array origin"
      let skipped ← asked (p.value? 's') ": invalid line count"
      let _ ← asked (p.value? 'c') ": invalid callback quantum"
      if !isName name then throw ('\x60' :: name ++ "': not a valid identifier")
      return (fd, count.getD 0, origin.getD 0, skipped.getD 0)
    match checked with
    | .error message => s.complain message 1
    | .ok (fd, count, origin, skipped) =>
      let ending := ((p.value? 'd').map fun t => t.headD '\x00').getD '\n'
      let pieces := Text.pieces ending (s.left fd)
      let whole := pieces.dropLast.map (· ++ [ending])
      let lines := if pieces.getLastD [] = [] then whole else whole ++ [pieces.getLastD []]
      let taken := if count = 0 then lines else lines.take (skipped + count)
      let kept := taken.drop skipped
      let s : St :=
        match s.stream? fd with
        | some n => { s with world := s.world.advance n taken.flatten.length }
        | none => s
      let shown (l : Raw) : Raw := if p.has 't' ∧ l.getLast? = some ending then l.dropLast else l
      let old := if (p.value? 'O').isSome then s.elements name else []
      let es := (List.range kept.length).zip kept |>.foldl (fun es q =>
        setElement false es (Text.ofNat (origin + q.1)) (shown q.2)) old
      { s.put name { elements := some es } with status := 0 }

/-! ## Options of scripts -/

/-- reads the next option of a script into a variable -/
def getopts (s : St) (arguments : List Raw) : St :=
  match (if s.wide ∧ arguments.head? = some "--" then arguments.tail else arguments) with
  | known :: name :: more =>
    let words := if more.isEmpty then s.arguments else more
    let index := ((s.lookup? "OPTIND").map Raw.toNat).getD 1
    let quiet : Bool := known.head? = some ':'
    let isLoud : Bool := s.lookup? "OPTERR" ≠ some "0" || !s.wide
    let finish (s : St) (chosen value : Raw) (index letters status : Nat) : St :=
      let s := s.assign "OPTIND" (Text.ofNat index)
      if !isName chosen then
        if s.wide then { s.complain ('\x60' :: chosen ++ "': not a valid identifier") 1 with optionLetters := letters }
        else s.complain (chosen ++ ": bad variable name") 2
      else
        let s := s.assign chosen value
        if s.isOn then { s with optionLetters := letters, status } else s
    let complain (s : St) (wide plain : Raw) : St :=
      if isLoud then (s.write 2 (if s.wide then s.name ++ ": " ++ wide else plain)).unset "OPTARG" else s.unset "OPTARG"
    match words.drop (index - 1) with
    | [] => finish (s.unset "OPTARG") name "?" index 0 1
    | w :: rest =>
      if s.optionLetters = 0 ∧ w = "--" then finish (s.unset "OPTARG") name "?" (index + 1) 0 1
      else if s.optionLetters = 0 ∧ (w.head? ≠ some '-' ∨ w = "-") then finish (s.unset "OPTARG") name "?" index 0 1
      else
        let at_ := if s.optionLetters = 0 then 1 else s.optionLetters
        let c := (w.drop at_).headD '-'
        let last : Bool := w.length ≤ at_ + 1
        let (index', letters) : Nat × Nat := if last then (index + 1, 0) else (index, at_ + 1)
        match known.dropWhile (· ≠ c) with
        | found :: mark =>
          if found = ':' then finish s name "?" index' letters 0
          else if mark.head? = some ':' then
            if last then
              match rest with
              | v :: _ => finish (s.assign "OPTARG" v) name [c] (index + 2) 0 0
              | [] =>
                if quiet then finish (s.assign "OPTARG" [c]) name ":" index' 0 0
                else
                  let s := complain s ("option requires an argument -- " ++ [c, '\n']) ("No arg for -" ++ c :: " option\n")
                  finish s name "?" index' 0 0
            else finish (s.assign "OPTARG" (w.drop (at_ + 1))) name [c] (index + 1) 0 0
          else finish (s.assign "OPTARG" []) name [c] index' letters 0
        | [] =>
          if quiet then finish (s.assign "OPTARG" [c]) name "?" index' letters 0
          else
            let s := complain s ("illegal option -- " ++ [c, '\n']) ("Illegal option -" ++ [c, '\n'])
            finish s name "?" index' letters 0
  | _ => if s.wide then s.usage else s.complain "Usage: getopts optstring var [arg...]" 2

end St
end IncludeAudit.Shell
