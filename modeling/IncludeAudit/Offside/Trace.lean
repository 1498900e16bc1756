/-
Failures as they are shown: the way that a failure has taken, with marks below the parts of the source, what it says, and
the failures that it has come from.

- `entriesText`: a way, `headline`: what a failure says, `reportOf`: everything about a failure.
- `similar?`: a name that could have been meant.
-/
import IncludeAudit.Offside.Methods

namespace IncludeAudit.Offside

/-! ## Names that could have been meant -/

def mistakeCost (a b : Char) : Nat :=
  if a = b then 0 else if a.toLower = b.toLower then 1 else 2

/-- the costs of the next row: `left` is that of the place before, `row` are those above -/
def costRow (c : Char) : (corner left : Nat) → Text → List Nat → List Nat
  | corner, left, x :: xs, above :: row =>
    let here := min (corner + mistakeCost c x) (min left above + 2)
    here :: costRow c above here xs row
  | _, _, _, _ => []

/-- how much it costs to make one text of another -/
def distance (a b : Text) : Nat :=
  let first := (List.range b.length).map fun i => 2 * (i + 1)
  let (row, _) := a.foldl (fun (acc : List Nat × Nat) c =>
    (costRow c acc.2 (acc.2 + 2) b acc.1, acc.2 + 2)) (first, 0)
  (row.getLast?).getD (2 * a.length)

/-- without what two texts have in common at their ends -/
def unlike (a b : Text) : Text × Text :=
  let rec ahead : Text → Text → Text × Text
    | x :: xs, y :: ys => if x = y then ahead xs ys else (x :: xs, y :: ys)
    | xs, ys => (xs, ys)
  let (a, b) := ahead a b
  let (a, b) := ahead a.reverse b.reverse
  (a.reverse, b.reverse)

/-- the name among others that is most like a name, if one is like it -/
def similar? (name : Text) (others : List Text) : Option Text :=
  if 750 ≤ others.length then none
  else
    (others.foldl (fun (best : Option (Text × Nat)) other =>
      if other = name then best
      else
        let most := (Text.bytes name + Text.bytes other + 3) * 2 / 6
        let (a, b) := unlike name other
        let cost := if 40 < a.length ∨ 40 < b.length then most + 1 else distance a b
        if most < cost then best
        else
          match best with
          | some (_, k) => if cost < k then some (other, cost) else best
          | none => some (other, cost)) none).map (·.1)

/-! ## The way of a failure -/

/-- a line of the source of an entry with marks below the part that failed -/
def marks (line : Text) (s : Spot) : Text :=
  let indent := (line.takeWhile fun c => c = ' ' || c = '\t' || c = '\x0c').length
  let shown := line.drop indent
  let stop := (Strings.trimEnd Text.isBlankChar line).length
  let last := s.last.getD stop
  let anchor := if s.last.isSome then s.anchor else none
  let mark (i : Nat) : Char :=
    match anchor with
    | some (a, b) => if a ≤ i ∧ i < b then '^' else '~'
    | none => '^'
  let whole : Bool := last - s.first = shown.length && anchor.isNone
  let row : Text :=
    if whole ∨ last ≤ s.first then []
    else
      List.replicate (4 + s.first - indent) ' ' ++ ((List.range (last - s.first)).map fun i => mark (s.first + i)) ++ ['\n']
  "    " ++ shown ++ '\n' :: row

def entryText (w : World) (e : Entry) : Text :=
  let o := w.origins.getD e.source { file := "<string>" }
  let body : Text := match o.line? e.spot.line with
    | some l => if Strings.trimStart Text.isBlankChar l = [] then [] else marks l e.spot
    | none => []
  let number := (o.number? e.spot.line).getD e.spot.line
  "  File \"" ++ o.file ++ "\", line " ++ Text.ofNat number ++ ", in " ++ e.name ++ '\n' :: body

/-- how often an entry is shown when it comes again and again -/
def maxRepeats : Nat := 3

/-- what is said about entries that have been left out -/
def repeatedText (count : Nat) : Text :=
  if count ≤ maxRepeats then []
  else
    let more := count - maxRepeats
    "  [Previous line repeated " ++ Text.ofNat more ++ " more time" ++ (if more = 1 then [] else ['s']) ++ "]\n"

/-- entries of a way; `last` is the one before with the number of times that it has come -/
def entriesFrom (w : World) : (last : Option (Entry × Nat)) → List Entry → Text
  | last, [] => (last.map fun p => repeatedText p.2).getD []
  | last, e :: rest =>
    match last with
    | some (l, n) =>
      if l.source = e.source ∧ l.spot.line = e.spot.line ∧ l.name = e.name then
        (if n + 1 ≤ maxRepeats then entryText w e else []) ++ entriesFrom w (some (e, n + 1)) rest
      else repeatedText n ++ entryText w e ++ entriesFrom w (some (e, 1)) rest
    | none => entryText w e ++ entriesFrom w (some (e, 1)) rest

def visible (w : World) (es : List Entry) : List Entry :=
  es.filter fun e => (w.origins[e.source]?).all fun o => (o.number? e.spot.line).isSome

/-- the way of a failure -/
def entriesText (w : World) (es : List Entry) : Text :=
  entriesFrom w none (visible w es)

/-! ## What a failure says -/

def partOf (f : Failure) (name : Text) : Value :=
  ((f.parts.find? (·.1 = name)).map (·.2)).getD .none

def sourceText (f : Failure) : Text :=
  let whole (n : Text) : Int := match partOf f n with
    | .int k => k
    | _ => 0
  let file : Text := match partOf f "filename" with
    | .str t => t
    | _ => "<string>"
  let header : Text := match partOf f "lineno" with
    | .int l => "  File \"" ++ file ++ "\", line " ++ Text.ofInt l ++ ['\n']
    | _ => []
  let body : Text := match partOf f "text" with
    | .str t =>
      let line := t.takeWhile (· ≠ '\n')
      let indent := (line.takeWhile fun c => c = ' ' || c = '\t' || c = '\x0c').length
      let shown := line.drop indent
      let offset := whole "offset"
      let stop := min (whole "end_offset") ((line.length : Int) + 2)
      let count := if 0 < stop ∧ offset < stop then (stop - offset).toNat else 1
      let place := min (offset - 1 - indent) (shown.length : Int)
      let row : Text :=
        if place < 0 then [] else List.replicate (4 + place.toNat) ' ' ++ List.replicate count '^' ++ ['\n']
      "    " ++ shown ++ '\n' :: row
    | _ => []
  header ++ body

/-- names that a script could have meant in place of one that is not known -/
def hintFor (n : Nat) : Eval Text := do
  let w ← get
  let f ← failureAt n
  let cls := (w.object n).cls
  let offer (name? : Option Text) : Text :=
    match name? with
    | some t => ". Did you mean: '" ++ t ++ "'?"
    | none => []
  let namesIn (d : Nat) : List Text := (w.table d).toList.filterMap fun p => match p.1 with
    | .str t => some t
    | _ => none
  if w.isBelow cls Base.nameError.ref then
    match partOf f "name", f.trace.getLast? with
    | .str name, some e =>
      return offer (((similar? name e.slots.toList).or (similar? name (namesIn e.globals))).or
        (similar? name (namesIn w.builtins)))
    | _, _ => return []
  else if w.isBelow cls Base.attributeError.ref then
    match partOf f "name", partOf f "obj" with
    | .str _, .none | .str _, .absent => return []
    | .str name, v =>
      let names ← catching [.exception] (do
        match ← method? v "__dir__" with
        | some g => return (← itemsOf (← call g [])).filterMap fun x => match x with
          | .str t => some t
          | _ => none
        | none => namesOf v) fun _ => return []
      return offer (similar? name names)
    | _, _ => return []
  else return []

/-- the name of the class of a failure -/
def faultName (w : World) (cls : Nat) : Text :=
  let c := w.classAt cls
  match w.lookup? cls "__module__" with
  | some (.str m) => if m = ("builtins" : Text) ∨ m = ("__main__" : Text) then c.qualname else m ++ '.' :: c.qualname
  | _ => "<unknown>." ++ c.qualname

/-- what a failure says, with its name; hints are for the end of a script -/
def headline (n : Nat) (hints : Bool) : Eval Text := do
  let w ← get
  let cls := (w.object n).cls
  let name := faultName w cls
  if w.isBelow cls Base.syntaxError.ref ∧ (w.lookup? cls "__str__").all (fun v => match v with
      | .unbound _ _ => true
      | _ => false) then
    let f ← failureAt n
    let said ← match partOf f "msg" with
      | .none => pure ("None" : Text)
      | v => strOf v
    let place : Text := match partOf f "lineno", partOf f "filename" with
      | .none, .str t => " (" ++ t ++ [')']
      | _, _ => []
    return sourceText f ++ name ++ ": " ++ said ++ place ++ ['\n']
  else
    let said ← catching [.exception] (strOf (.ref n)) fun _ => return "<exception str() failed>"
    let hint ← if hints then hintFor n else pure []
    return (if said = [] ∧ hint = [] then name else if said = [] then name ++ hint else name ++ ": " ++ said ++ hint) ++ ['\n']

/-- notes that have been added to a failure -/
def notesOf (n : Nat) : Eval Text := do
  match (← get).own? n "__notes__" with
  | some v =>
    let texts ← catching [.exception] (do
      (← itemsOf v).mapM fun x => do
        return ((Text.pieces '\n' (← strOf x)).map (· ++ ['\n'])).flatten) fun _ => return []
    return texts.flatten
  | none => return []

def ownReport (n : Nat) (hints : Bool) : Eval Text := do
  let w ← get
  let f ← failureAt n
  let way : Text := if f.trace.isEmpty then [] else "Traceback (most recent call last):\n" ++ entriesText w f.trace
  return way ++ (← headline n hints) ++ (← notesOf n)

/-- a failure with those that it has come from, apart from those that have been shown -/
def reportFrom (hints : Bool) : (fuel : Nat) → (shown : List Nat) → (n : Nat) → Eval (Text × List Nat)
  | 0, shown, _ => return ([], shown)
  | fuel + 1, shown, n => do
    let shown := n :: shown
    let f ← failureAt n
    let (before, shown) ← match f.cause, f.context with
      | .ref c, _ =>
        if c ∈ shown then pure ([], shown)
        else
          let (t, shown) ← reportFrom hints fuel shown c
          let link : Text := "\nThe above exception was the direct cause of the following exception:\n\n"
          pure (t ++ link, shown)
      | _, .ref c =>
        if f.suppressed ∨ c ∈ shown then pure ([], shown)
        else
          let (t, shown) ← reportFrom hints fuel shown c
          let link : Text := "\nDuring handling of the above exception, another exception occurred:\n\n"
          pure (t ++ link, shown)
      | _, _ => pure ([], shown)
    return (before ++ (← ownReport n hints), shown)

/-- everything about a failure -/
def reportOf (n : Nat) (hints : Bool) : Eval Text := do
  return (← reportFrom hints 2000 [] n).1

end IncludeAudit.Offside
