/-
Moments as they are spelled: dates, times of day, zones, and steps from there in words.

- `readMoment`: the moment that words spell, `date`: the tool that shows moments.
-/
import IncludeAudit.Tool.Basic
import IncludeAudit.Tool.Calendar

namespace IncludeAudit.Tool

namespace Clock

/-- what words have said so far -/
structure Spoken where
  date : Option (Int × Int × Int) := none
  /-- seconds of the day and billionths -/
  time : Option (Nat × Nat) := none
  /-- how far the zone is ahead -/
  zone : Option Int := none
  moment : Option Moment := none
  years : Int := 0
  months : Int := 0
  days : Int := 0
  seconds : Int := 0
  weekday : Option Nat := none
  /-- numbers that stand by themselves -/
  numbers : List Nat := []
  month : Option Nat := none
  /-- a word for a day has been said, and the time of day is that of the start or of the present -/
  relative : Bool := false
  deriving DecidableEq, Repr

/-- digits with a sign between them as numbers -/
def numbersBetween (c : Char) (t : Raw) : Option (List Nat) :=
  (Text.pieces c t).mapM Raw.nat?

/-- a date with signs between its numbers -/
def readDate (t : Raw) : Option (Int × Int × Int) :=
  match numbersBetween '-' t, numbersBetween '/' t with
  | some [y, m, d], _ => some (y, m, d)
  | _, some [a, b, c] => if 31 < a then some (a, b, c) else some (c, a, b)
  | _, _ =>
    if t.length = 8 ∧ t.all Char.isDigit then
      some (Raw.toNat (t.take 4), Raw.toNat ((t.drop 4).take 2), Raw.toNat (t.drop 6))
    else none

/-- a zone as it is spelled in numbers -/
def readZone (t : Raw) : Option Int :=
  let sign (negative : Bool) (t : Raw) : Option Int :=
    let digits := t.filter (· ≠ ':')
    if digits.all Char.isDigit ∧ (digits.length = 2 ∨ digits.length = 4) then
      let n : Int := Raw.toNat (digits.take 2) * 3600 + Raw.toNat (digits.drop 2) * 60
      some (if negative then -n else n)
    else none
  match t with
  | '+' :: t => sign false t
  | '-' :: t => sign true t
  | _ => none

/-- names of zones, with how far they are ahead -/
def zones : List (Raw × Int) :=
  [("z", 0), ("utc", 0), ("gmt", 0), ("ut", 0), ("est", -5 * 3600), ("edt", -4 * 3600), ("cst", -6 * 3600),
   ("cdt", -5 * 3600), ("mst", -7 * 3600), ("mdt", -6 * 3600), ("pst", -8 * 3600), ("pdt", -7 * 3600), ("cet", 3600),
   ("cest", 7200), ("bst", 3600), ("eet", 7200), ("jst", 9 * 3600)]

/-- a time of day with colons: its seconds and billionths, and what is behind it -/
def readTime (t : Raw) : Option ((Nat × Nat) × Raw) :=
  let isPart (c : Char) : Bool := c.isDigit || c = ':'
  let front := t.takeWhile isPart
  let rest := t.drop front.length
  let (part, rest) : Raw × Raw :=
    match rest with
    | '.' :: r | ',' :: r => (r.takeWhile Char.isDigit, r.dropWhile Char.isDigit)
    | r => ([], r)
  let nanos := Raw.toNat ((part ++ List.replicate 9 '0').take 9)
  match numbersBetween ':' front with
  | some [h, m] => if h < 24 ∧ m < 60 then some ((h * 3600 + m * 60, nanos), rest) else none
  | some [h, m, s] => if h < 24 ∧ m < 60 ∧ s < 60 then some ((h * 3600 + m * 60 + s, nanos), rest) else none
  | _ => none

/-- a number with a point, of seconds since the start of 1970 -/
def readSeconds (t : Raw) : Option Moment :=
  let (negative, t) : Bool × Raw :=
    match t with
    | '-' :: t => (true, t)
    | '+' :: t => (false, t)
    | t => (false, t)
  let whole := t.takeWhile Char.isDigit
  let rest := t.drop whole.length
  let part? : Option Raw :=
    match rest with
    | [] => some []
    | '.' :: r => if r.all Char.isDigit then some r else none
    | _ => none
  match whole, part? with
  | [], _ => none
  | _, none => none
  | w, some part =>
    let nanos := Raw.toNat ((part ++ List.replicate 9 '0').take 9)
    let n : Int := Raw.toNat w
    if negative then (if nanos = 0 then some { seconds := -n } else some { seconds := -n - 1, nanos := 1000000000 - nanos })
    else some { seconds := n, nanos }

def Spoken.step (s : Spoken) (n : Int) (unit_ : Raw) : Option Spoken :=
  let singular := if unit_.getLast? = some 's' ∧ 3 < unit_.length then unit_.dropLast else unit_
  match String.ofList singular with
  | "year" => some { s with years := s.years + n }
  | "month" => some { s with months := s.months + n }
  | "fortnight" => some { s with days := s.days + 14 * n }
  | "week" => some { s with days := s.days + 7 * n }
  | "day" => some { s with days := s.days + n }
  | "hour" => some { s with seconds := s.seconds + 3600 * n }
  | "minute" | "min" => some { s with seconds := s.seconds + 60 * n }
  | "second" | "sec" => some { s with seconds := s.seconds + n }
  | _ => none

/-- the place of a name that a word shortens to three letters or more -/
def nameIndex (names : List Raw) (w : Raw) : Option Nat :=
  if w.length < 3 then none else (names.map fun n => n.map Char.toLower).findIdx? fun n => w.isPrefixOf n

def halfDay (n : Nat) (half : Raw) : Option Nat :=
  if n = 0 ∨ 12 < n then none
  else if half = ("am" : Raw) then some (n % 12)
  else if half = ("pm" : Raw) then some (n % 12 + 12)
  else none

/-- words one after another -/
def speak : (fuel : Nat) → List Raw → Spoken → Option Spoken
  | 0, _, _ => none
  | _, [], s => some s
  | fuel + 1, w :: rest, s =>
    let go := speak fuel
    let letters := w.dropWhile Char.isDigit
    let digits := w.takeWhile Char.isDigit
    match readDate w with
    | some d => if s.date.isSome then none else go rest { s with date := some d }
    | none =>
      match readTime w with
      | some (t, behind) =>
        if s.time.isSome then none
        else
          let half : Option Nat := if behind = [] then none else halfDay (t.1 / 3600) behind
          match behind, half with
          | [], _ =>
            match rest with
            | h :: rest' =>
              match halfDay (t.1 / 3600) h with
              | some k => go rest' { s with time := some (k * 3600 + t.1 % 3600, t.2) }
              | none => go rest { s with time := some t }
            | [] => go rest { s with time := some t }
          | _, some k => go rest { s with time := some (k * 3600 + t.1 % 3600, t.2) }
          | b, none =>
            match (readZone b).or ((zones.find? (·.1 = b)).map (·.2)) with
            | some z => go rest { s with time := some t, zone := some z }
            | none => none
      | none =>
        if w = ("now" : Raw) ∨ w = ("today" : Raw) then go rest { s with relative := true }
        else if w = ("tomorrow" : Raw) then go rest { s with days := s.days + 1, relative := true }
        else if w = ("yesterday" : Raw) then go rest { s with days := s.days - 1, relative := true }
        else if w = ("midnight" : Raw) then go rest { s with time := some (0, 0) }
        else if w = ("next" : Raw) ∨ w = ("last" : Raw) ∨ w = ("this" : Raw) then
          let n : Int := if w = ("next" : Raw) then 1 else if w = ("last" : Raw) then -1 else 0
          match rest with
          | u :: rest =>
            match s.step n u with
            | some s => go rest { s with relative := true }
            | none => none
          | [] => none
        else
          match (zones.find? (·.1 = w)).map (·.2), nameIndex monthNames w, nameIndex weekdayNames w with
          | some z, _, _ => go rest { s with zone := some z }
          | none, some m, _ => go rest { s with month := some (m + 1) }
          | none, none, some d => go rest { s with weekday := some d }
          | none, none, none =>
            match readZone w, s.time with
            | some z, some _ => go rest { s with zone := some z }
            | _, _ =>
              -- a number with a unit behind it, apart or attached
              let number? : Option Int := Raw.int? w
              match number?, rest with
              | some n, u :: rest' =>
                let back : Bool := rest'.head? = some "ago"
                match s.step (if back then -n else n) u with
                | some s => go (if back then rest'.tail else rest') { s with relative := true }
                | none =>
                  match halfDay n.natAbs u with
                  | some k => go rest' { s with time := some (k * 3600, 0) }
                  | none => if n < 0 then none else go rest { s with numbers := s.numbers ++ [n.natAbs] }
              | some n, [] => if n < 0 ∨ w.head? = some '+' then none else go rest { s with numbers := s.numbers ++ [n.natAbs] }
              | none, _ =>
                if digits ≠ [] then
                  match halfDay (Raw.toNat digits) letters, s.step (Raw.toNat digits) letters with
                  | some k, _ => go rest { s with time := some (k * 3600, 0) }
                  | none, some s => go rest { s with relative := true }
                  | none, none => none
                else
                  let back : Bool := rest.head? = some "ago"
                  match s.step (if back then -1 else 1) w with
                  | some s => go (if back then rest.tail else rest) { s with relative := true }
                  | none => none

def daysIn (y : Int) (m : Int) : Int :=
  let next := if m = 12 then dayNumber (y + 1) 1 1 else dayNumber y (m + 1) 1
  next - dayNumber y m 1

/-- what words have said, as a moment -/
def Spoken.moment? (s : Spoken) : Option Moment :=
  let today := Parts.ofMoment present 0
  let date? : Option (Int × Int × Int) :=
    match s.date, s.month, s.numbers with
    | some d, none, [] => some d
    | none, some m, [a, b] =>
      let (d, y) := if 31 < a then (b, a) else (a, b)
      some (y, m, d)
    | none, some m, [d] => some (today.year, m, d)
    | none, none, [] => some (today.year, today.month, today.day)
    | _, _, _ => none
  match date? with
  | none => none
  | some (y, m, d) =>
    if m < 1 ∨ 12 < m ∨ d < 1 ∨ daysIn y m < d then none
    else
      let isPresent := s.date.isNone && s.month.isNone && s.time.isNone
      let useClock : Bool := isPresent && s.relative
      let (clock, nanos) : Nat × Nat :=
        match s.time with
        | some t => t
        | none => if useClock then (today.hour * 3600 + today.minute * 60 + today.second, 0) else (0, 0)
      let months := y * 12 + (m - 1) + s.years * 12 + s.months
      let day := dayNumber (months / 12) (months % 12 + 1) d + s.days
      let day :=
        match s.weekday with
        | some w => if s.date.isSome ∨ s.month.isSome then day else day + ((w : Int) - (day + 4) % 7) % 7
        | none => day
      some { seconds := day * 86400 + clock - s.zone.getD 0 + s.seconds, nanos }

end Clock

/-- the moment that a text spells -/
def readMoment (t : Raw) : Option Moment :=
  let t := t.map fun c => if c = '\t' ∨ c = '\n' then ' ' else c
  match t.dropWhile (· = ' ') with
  | '@' :: n => Clock.readSeconds n
  | t =>
    let isDigitBefore (r : Raw) : Bool := r.getLast?.any Char.isDigit
    -- a letter between a date and a time parts them
    let (spaced, _) := t.foldl (fun (acc : Raw × Raw) c =>
      let (done, before) := acc
      if (c = 'T' ∨ c = 't') ∧ isDigitBefore before.reverse ∧ '-' ∈ before then (' ' :: done, [])
      else (c :: done, if c = ' ' then [] else c :: before)) ([], [])
    let words := Raw.words (spaced.reverse.map fun c => if c = ',' then ' ' else c.toLower)
    (Clock.speak (words.length + 1) words {}).bind Clock.Spoken.moment?

def dateOptions : List Option_ :=
  [option 'u' "utc", option 'u' "universal", valuedOption 'd' "date", valuedOption 'r' "reference", option 'R' "rfc-email",
   { letter := 'I', long := "iso-8601", attached := true }, valuedOption '\x01' "rfc-3339", valuedOption 's' "set",
   valuedOption 'f' "file"]

def standardFormat (sep : Raw) (t : Raw) : Option Raw :=
  let zone : Raw := "%:z"
  match String.ofList t with
  | "" | "date" => some "%Y-%m-%d"
  | "hours" => some ("%Y-%m-%d" ++ sep ++ "%H" ++ zone)
  | "minutes" => some ("%Y-%m-%d" ++ sep ++ "%H:%M" ++ zone)
  | "seconds" => some ("%Y-%m-%d" ++ sep ++ "%H:%M:%S" ++ zone)
  | "ns" => some ("%Y-%m-%d" ++ sep ++ "%H:%M:%S" ++ ".%N" ++ zone)
  | _ => none

/-- shows a moment, the present one if no other is named -/
def date (c : Call) : Answer :=
  c.parse dateOptions 1 fun p =>
    let given : Except Raw Moment :=
      match p.value? 'd', p.value? 'r' with
      | some t, _ =>
        match readMoment t with
        | some m => .ok m
        | none => .error ("invalid date " ++ quote t)
      | none, some f =>
        match c.stat f with
        | .ok _ => .ok present
        | .error e => .error (showName f ++ ": " ++ e.words)
      | none, none => .ok present
    let form? : Option Raw :=
      match p.operands with
      | ('+' :: f) :: _ => some f
      | _ => none
    let extra : Option Raw :=
      match p.operands with
      | _ :: x :: _ => some x
      | _ => none
    let wrong : Option Raw :=
      match p.operands with
      | [] | ('+' :: _) :: _ => none
      | x :: _ => some x
    match extra, wrong, given with
    | some x, _, _ => c.misused ("extra operand " ++ quote x) 1
    | none, some x, _ => c.fail ("invalid date " ++ quote x) 1
    | none, none, .error m => c.fail m 1
    | none, none, .ok m =>
      let form : Option Raw :=
        if p.has 'R' then some "%a, %d %b %Y %H:%M:%S %z"
        else if p.has 'I' then (standardFormat ['T'] ((p.value? 'I').getD [])).map fun f => f.map fun c => if c = '.' then ',' else c
        else if p.has '\x01' then standardFormat [' '] ((p.value? '\x01').getD [])
        else some (form?.getD "%a %b %e %H:%M:%S %Z %Y")
      match form with
      | none => c.misused "invalid argument" 1
      | some f => .print (m.shown "UTC" 0 (2 * f.length + 20) f ++ ['\n'])

end IncludeAudit.Tool
