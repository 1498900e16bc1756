/-
Days and times of day. A moment is a number of seconds since the start of 1970; its parts are those of the common
calendar, and formats show the parts that they name.

- `dayNumber`, `Parts.ofMoment`: the calendar in both directions, `Moment.shown`: a moment by a format.
-/
import IncludeAudit.Decimal.Fixed
import IncludeAudit.Text.Utf8

namespace IncludeAudit.Tool

/-- a moment: seconds since the start of 1970, and billionths of a second on top -/
structure Moment where
  seconds : Int
  nanos : Nat := 0
  deriving DecidableEq, Repr

structure Parts where
  year : Int
  month : Nat
  day : Nat
  hour : Nat
  minute : Nat
  second : Nat
  /-- the day of the week, from zero for Sunday on -/
  weekday : Nat
  /-- the day of the year, from zero on -/
  yearDay : Nat
  deriving DecidableEq, Repr

/-- days since the start of 1970; years are counted from March on, so that the odd day comes last -/
def dayNumber (year : Int) (month day : Int) : Int :=
  let y := if month ≤ 2 then year - 1 else year
  let era := y / 400
  let yearOfEra := y - era * 400
  let dayOfYear := (153 * ((month + 9) % 12) + 2) / 5 + day - 1
  let dayOfEra := yearOfEra * 365 + yearOfEra / 4 - yearOfEra / 100 + dayOfYear
  era * 146097 + dayOfEra - 719468

/-- the date of a day: year, month and day -/
def dateOf (n : Int) : Int × Nat × Nat :=
  let z := n + 719468
  let era := z / 146097
  let dayOfEra := z - era * 146097
  let yearOfEra := (dayOfEra - dayOfEra / 1460 + dayOfEra / 36524 - dayOfEra / 146096) / 365
  let dayOfYear := dayOfEra - (365 * yearOfEra + yearOfEra / 4 - yearOfEra / 100)
  let shifted := (5 * dayOfYear + 2) / 153
  let day := dayOfYear - (153 * shifted + 2) / 5 + 1
  let month := if shifted < 10 then shifted + 3 else shifted - 9
  let year := yearOfEra + era * 400 + if month ≤ 2 then 1 else 0
  (year, month.toNat, day.toNat)

def Parts.ofMoment (m : Moment) (ahead : Int) : Parts :=
  let t := m.seconds + ahead
  let n := t / 86400
  let rest := (t % 86400).toNat
  let (year, month, day) := dateOf n
  { year, month, day, hour := rest / 3600, minute := rest / 60 % 60, second := rest % 60
    weekday := ((n + 4) % 7).toNat, yearDay := (n - dayNumber year 1 1).toNat }

def weekdayNames : List Raw :=
  Raw.words "Sunday Monday Tuesday Wednesday Thursday Friday Saturday"

def monthNames : List Raw :=
  Raw.words "January February March April May June July August September October November December"

/-- the year has an odd day -/
def isLeap (y : Int) : Bool :=
  y % 4 = 0 && (y % 100 ≠ 0 || y % 400 = 0)

namespace Parts

/-- the week of the year by the rule that a week belongs to the year of its Thursday, and that year -/
def isoWeek (p : Parts) : Int × Int :=
  let fromMonday : Int := (p.weekday + 6) % 7
  let week := (p.yearDay - fromMonday + 10) / 7
  let weeksOf (y : Int) : Int :=
    let jan1 := (dayNumber y 1 1 + 4) % 7
    if jan1 = 4 ∨ (jan1 = 3 ∧ isLeap y) then 53 else 52
  if week < 1 then (p.year - 1, weeksOf (p.year - 1))
  else if weeksOf p.year < week then (p.year + 1, 1)
  else (p.year, week)

end Parts

/-- how a part of a moment is asked for -/
structure TimeDirective where
  /-- what fills the width in place of the usual character; none of the two for a minus sign -/
  fill : Option Char := none
  upper : Bool := false
  swapped : Bool := false
  width : Option Nat := none
  colons : Nat := 0
  deriving DecidableEq, Repr

namespace TimeDirective

def number (d : TimeDirective) (width : Nat) (filler : Char) (n : Int) : Raw :=
  let digits := Text.ofNat n.natAbs
  let sign : Raw := if n < 0 then ['-'] else []
  match d.fill with
  | some '-' => sign ++ digits
  | f =>
    let c :=
      match f with
      | some '_' => ' '
      | some c => c
      | none => filler
    let gap := (d.width.getD width) - (digits.length + sign.length)
    if c = ' ' then List.replicate gap c ++ sign ++ digits else sign ++ List.replicate gap c ++ digits

/-- a text, in the letters that are asked for -/
def text (d : TimeDirective) (t : Raw) : Raw :=
  let t := if d.upper then t.map Char.toUpper else t
  let c := if d.fill = some '0' then '0' else ' '
  List.replicate (d.width.getD 0 - t.length) c ++ t

end TimeDirective

/-- the flags, the width and the colons of a directive, and what is behind them -/
def readTimeDirective (r : Raw) : TimeDirective × Raw :=
  let flags := r.takeWhile (· ∈ ("-_0^#+" : Raw))
  let r := r.drop flags.length
  let digits := r.takeWhile Char.isDigit
  let r := r.drop digits.length
  let colons := r.takeWhile (· = ':')
  let r := r.drop colons.length
  let r := match r with
    | 'E' :: r | 'O' :: r => r
    | r => r
  let fill := (flags.reverse.find? (· ∈ ("-_0+" : Raw))).map fun c => if c = '+' then '0' else c
  ({ fill, upper := '^' ∈ flags, swapped := '#' ∈ flags, width := Raw.nat? digits, colons := colons.length }, r)

def zoneText (colons : Nat) (ahead : Int) : Raw :=
  let sign := if ahead < 0 then '-' else '+'
  let n := ahead.natAbs
  let two (k : Nat) : Raw := Decimal.padded 2 k
  let h := two (n / 3600)
  let m := two (n / 60 % 60)
  let s := two (n % 60)
  match colons with
  | 0 => sign :: h ++ m
  | 1 => sign :: h ++ ':' :: m
  | 2 => sign :: h ++ ':' :: m ++ ':' :: s
  | _ => if n % 60 ≠ 0 then sign :: h ++ ':' :: m ++ ':' :: s else if n / 60 % 60 ≠ 0 then sign :: h ++ ':' :: m else sign :: h

/-- formats that stand for others -/
def compoundFormat? (c : Char) : Option Raw :=
  match c with
  | 'c' => some "%a %b %e %H:%M:%S %Y"
  | 'D' | 'x' => some "%m/%d/%y"
  | 'F' => some "%Y-%m-%d"
  | 'r' => some "%I:%M:%S %p"
  | 'R' => some "%H:%M"
  | 'T' | 'X' => some "%H:%M:%S"
  | _ => none

/-- the part that a letter names; none for a letter without a meaning -/
def partShown (m : Moment) (p : Parts) (zone : Raw) (ahead : Int) (d : TimeDirective) (c : Char) : Option Raw :=
  let name (names : List Raw) (n : Nat) (short : Bool) : Raw :=
    let t := names.getD n []
    ({ d with upper := d.upper || d.swapped }).text (if short then t.take 3 else t)
  let hour12 := if p.hour % 12 = 0 then 12 else p.hour % 12
  let half : Raw := if p.hour < 12 then "AM" else "PM"
  match c with
  | 'a' => some (name weekdayNames p.weekday true)
  | 'A' => some (name weekdayNames p.weekday false)
  | 'b' | 'h' => some (name monthNames (p.month - 1) true)
  | 'B' => some (name monthNames (p.month - 1) false)
  | 'C' => some (d.number 2 '0' (p.year / 100))
  | 'd' => some (d.number 2 '0' p.day)
  | 'e' => some (d.number 2 ' ' p.day)
  | 'g' => some (d.number 2 '0' (p.isoWeek.1 % 100))
  | 'G' => some (d.number 4 '0' p.isoWeek.1)
  | 'H' => some (d.number 2 '0' p.hour)
  | 'I' => some (d.number 2 '0' hour12)
  | 'j' => some (d.number 3 '0' (p.yearDay + 1))
  | 'k' => some (d.number 2 ' ' p.hour)
  | 'l' => some (d.number 2 ' ' hour12)
  | 'm' => some (d.number 2 '0' p.month)
  | 'M' => some (d.number 2 '0' p.minute)
  | 'n' => some ['\n']
  | 't' => some ['\t']
  | '%' => some ['%']
  | 'N' =>
    some ((Decimal.padded 9 m.nanos).take (d.width.getD 9))
  | 'p' => some (d.text (if d.swapped then half.map Char.toLower else half))
  | 'P' => some (d.text (half.map Char.toLower))
  | 'q' => some (d.number 1 '0' ((p.month + 2) / 3 : Nat))
  | 's' => some (d.number 1 '0' m.seconds)
  | 'S' => some (d.number 2 '0' p.second)
  | 'u' => some (d.number 1 '0' (if p.weekday = 0 then 7 else p.weekday))
  | 'U' => some (d.number 2 '0' ((p.yearDay + 7 - p.weekday) / 7 : Nat))
  | 'V' => some (d.number 2 '0' p.isoWeek.2)
  | 'w' => some (d.number 1 '0' p.weekday)
  | 'W' => some (d.number 2 '0' ((p.yearDay + 7 - (p.weekday + 6) % 7) / 7 : Nat))
  | 'y' => some (d.number 2 '0' (p.year % 100))
  | 'Y' => some (d.number 4 '0' p.year)
  | 'z' => some (zoneText d.colons ahead)
  | 'Z' => some (d.text (if d.swapped then zone.map Char.toLower else zone))
  | _ => none

def Moment.shown (m : Moment) (zone : Raw) (ahead : Int) : (fuel : Nat) → (format : Raw) → Raw
  | 0, _ => []
  | _, [] => []
  | fuel + 1, '%' :: r =>
    let (d, behind) := readTimeDirective r
    match behind with
    | [] => '%' :: r
    | c :: rest =>
      match compoundFormat? c with
      | some f => d.text (m.shown zone ahead fuel f) ++ m.shown zone ahead fuel rest
      | none =>
        match partShown m (Parts.ofMoment m ahead) zone ahead d c with
        | some t => t ++ m.shown zone ahead fuel rest
        | none => '%' :: r.take (r.length - rest.length) ++ m.shown zone ahead fuel rest
  | fuel + 1, c :: r => c :: m.shown zone ahead fuel r

def present : Moment :=
  { seconds := 1735689600 }

end IncludeAudit.Tool
