/-
Values of parameters, and what the uses of a parameter make of them.
-/
import IncludeAudit.Shell.Fields
import IncludeAudit.Shell.Quoting
import IncludeAudit.Shell.State

namespace IncludeAudit.Shell

/-- what a parameter stands for -/
inductive Value
  | missing
  | one (v : Raw)
  | many (vs : List Raw)
  deriving DecidableEq, Repr

namespace Value

/-- there is no value; with `orEmpty` an empty one does not count -/
def lacks (v : Value) (orEmpty : Bool) : Bool :=
  match v with
  | .missing => true
  | .one t => orEmpty && t.isEmpty
  | .many ts => ts.isEmpty || (orEmpty && ts.all List.isEmpty)

/-- each text of the value changed -/
def map (f : Raw → Raw) : Value → Value
  | .missing => .missing
  | .one t => .one (f t)
  | .many ts => .many (ts.map f)

def spread (quoted : Bool) : List Raw → List Piece
  | [] => []
  | [t] => [.text t quoted (!quoted)]
  | t :: ts => .text t quoted (!quoted) :: .gap :: spread quoted ts

/-- the pieces of a word that the value gives; values in a row are joined where they make one text -/
def pieces (v : Value) (joined quoted : Bool) (joiner : Raw) : List Piece :=
  match v with
  | .missing => []
  | .one t => [.text t quoted (!quoted)]
  | .many ts => if joined then [.text (Text.paste joiner ts) quoted (!quoted)] else spread quoted ts

/-- a part from an offset on; a negative offset counts from the end, and so does a negative length -/
def cut {α : Type} (offset : Int) (length : Option Int) (xs : List α) : List α :=
  let size : Int := xs.length
  let start := if offset < 0 then size + offset else offset
  if start < 0 then []
  else
    match length with
    | none => xs.drop start.toNat
    | some n =>
      let stop := if n < 0 then size + n else start + n
      (xs.drop start.toNat).take (stop - start).toNat

end Value

/-- the first letter, or all letters, in another case, if they pass a test -/
def recase (wide upper all : Bool) (fits : Char → Bool) (t : Text) : Text :=
  let change (c : Char) : Char :=
    if wide then (if upper then Raw.capitalChar c else Raw.smallChar c) else if upper then c.toUpper else c.toLower
  let f (c : Char) : Char := if fits c then change c else c
  if all then t.map f else (t.take 1).map f ++ t.drop 1

/-- the parts of a word in front of and behind the first such sign that is not quoted -/
def splitWord (sign : Char) : Word → Word × Option Word
  | [] => ([], none)
  | .text t false :: r =>
    let front := t.takeWhile (· ≠ sign)
    if front.length < t.length then ([.text front false], some (.text (t.drop (front.length + 1)) false :: r))
    else
      let (a, b) := splitWord sign r
      (.text t false :: a, b)
  | p :: r =>
    let (a, b) := splitWord sign r
    (p :: a, b)

/-- a word whose only parts are one pair of quotes and all arguments in them -/
def isAllArguments (w : Word) : Bool :=
  let marks := w.filter fun p => p matches .text [] true
  marks.length = 1 && 1 < w.length && w.all fun p =>
    match p with
    | .text [] true => true
    | .parameter n i .value _ true => n = ['@'] || (i matches some [.text ['@'] _])
    | _ => false

namespace St

/-- what stands between values that are joined -/
def joiner (s : St) : Raw :=
  match s.lookup? "IFS" with
  | some t => t.take 1
  | none => [' ']

/-- the elements of an array; a plain value is its only one -/
def elements (s : St) (name : Raw) : List (Raw × Raw) :=
  let numbered (vs : List Raw) : List (Raw × Raw) := (List.range vs.length).zip vs |>.map fun p => (Text.ofNat p.1, p.2)
  if s.wide ∧ name = "FUNCNAME" then
    numbered (if s.calls = [] ∨ s.given then s.calls else s.calls ++ [("main" : Raw)])
  else if s.wide ∧ name = "BASH_SOURCE" then
    if s.given then numbered (s.calls.map fun _ => "environment")
    else numbered (s.calls.map (fun _ => s.sources.headD s.name) ++ s.sources ++ [s.name])
  else
    let plain : List (Raw × Raw) :=
      match s.meant name with
      | some v =>
        match v.elements with
        | some es => es
        | none => (if s.wide then s.parameter? name else v.value).toList.map fun x => (['0'], x)
      | none => []
    if s.wide = false then plain
    else
      match String.ofList name with
      | "PIPESTATUS" => numbered (s.statuses.map Text.ofNat)
      | "BASH_LINENO" => numbered (s.callLines.map Text.ofNat ++ if s.given then [] else [['0']])
      | "GROUPS" => numbered [['0']]
      | "DIRSTACK" => numbered (s.directory :: s.directories)
      | "BASH_ALIASES" => s.aliases.mergeSort fun a b => keySlot a.1 ≤ keySlot b.1
      | _ => plain

/-- the value of a parameter, or of an element of an array -/
def value (s : St) (name : Raw) (index : Option Raw) : Value :=
  match index with
  | some i =>
    if i = ['@'] ∨ i = ['*'] then .many ((s.elements name).map (·.2))
    else
      match (s.elements name).find? (·.1 = i) with
      | some e => .one e.2
      | none => .missing
  | none =>
    if name = ['@'] ∨ name = ['*'] then .many s.arguments
    else
      match s.parameter? name with
      | some v => .one v
      | none => .missing

/-- a complaint about a parameter without a value -/
def unsetFault (s : St) (name : Raw) : St :=
  if s.wide then
    let status := if s.given ∧ !s.sheltered ∧ !s.has 'e' then 127 else 1
    { s.complain (name ++ ": unbound variable") status with flow := .ended (.code status) }
  else s.die (name ++ ": parameter not set")

/-- the home directory in place of a tilde and a name -/
def home? (s : St) (user : Raw) : Option Raw :=
  if user = [] then s.lookup? "HOME"
  else if user = "root" then some "/root"
  else if s.wide ∧ user = ['+'] then some s.directory
  else if s.wide ∧ user = ['-'] then s.lookup? "OLDPWD"
  else none

/-- tildes in the text between two colons; `last` says that nothing follows the text in its word -/
def untilde (s : St) (last : Bool) (t : Raw) : Word :=
  match t with
  | '~' :: r =>
    let user := r.takeWhile (· ≠ '/')
    if user.length < r.length ∨ last then
      match s.home? user with
      | some h => [.text h true, .text (r.drop user.length) false]
      | none => [.text t false]
    else [.text t false]
  | _ => [.text t false]

/-- home directories in place of tildes at the start of a word, and in an assignment also behind colons -/
def tildes (s : St) (assigned : Bool) : (first : Bool) → Word → Word
  | _, [] => []
  | first, .text t false :: r =>
    let ts := if assigned then Text.pieces ':' t else [t]
    let n := ts.length
    let done := (List.range n).zip ts |>.map fun p =>
      let here := p.1 ≠ 0 ∨ first
      let w := if here then s.untilde (p.1 + 1 < n || r.isEmpty) p.2 else [.text p.2 false]
      if p.1 = 0 then w else .text [':'] false :: w
    done.flatten ++ tildes s assigned false r
  | _, p :: r => p :: tildes s assigned false r

/-! ## Arithmetic -/

/-- an index of an array, counted from behind the last element when it is negative -/
def placeIn (es : List (Raw × Raw)) (n : Int) : Raw :=
  let last := (es.getLast?.map fun e => Raw.toNat e.1 + 1).getD 0
  Text.ofInt (if n < 0 then last + n else n)

/-- the indices of an array are texts -/
def isKeyed (s : St) (name : Raw) : Bool :=
  ((s.meant name).map (·.keyed)).getD false

/-- the index of an element, as arithmetic gives it -/
def indexOf (s : St) (name index : Raw) : Raw :=
  match s.isKeyed name, Raw.int? index with
  | false, some n => placeIn (s.elements name) n
  | _, _ => index

/-- the value of a variable or of an element of an array, as arithmetic sees it -/
def number? (s : St) (t : Sum.Target) : Option Raw :=
  match t.2 with
  | some index => ((s.elements t.1).find? (·.1 = s.indexOf t.1 index)).map (·.2)
  | none => s.parameter? t.1

def store (s : St) (as : Sum.Assigned) : St :=
  as.reverse.foldl (fun s (p : Sum.Target × Int) =>
    match p.1.2 with
    | some index => s.assignElement p.1.1 (s.indexOf p.1.1 index) (Text.ofInt p.2)
    | none => s.assign p.1.1 (Text.ofInt p.2)) s

/-- an expression with a new random number in each place that asks for one -/
def withRandom (s : St) : (fuel : Nat) → Raw → Raw × St
  | 0, e => (e, s)
  | _, [] => ([], s)
  | fuel + 1, c :: r =>
    let word := (c :: r).takeWhile isNameChar
    if word = [] then
      let (more, s) := withRandom s fuel r
      (c :: more, s)
    else
      let rest := (c :: r).drop word.length
      if word = "RANDOM" then
        let s := s.roll
        let number := Text.ofNat s.seed.2
        let (more, s) := withRandom s fuel rest
        (number ++ more, s)
      else
        let (more, s) := withRandom s fuel rest
        (word ++ more, s)

/-- the value of an expression, unless there is a mistake in it -/
def compute (s : St) (expression : Raw) : St × Option Int :=
  let isRandom : Bool := s.wide && Text.contains "RANDOM" expression && !Text.contains "RANDOM=" expression
  let (expression, s) := if isRandom then s.withRandom expression.length expression else (expression, s)
  let fault (e : Raw) (message token : Raw) : St × Option Int :=
    (s.discard (Sum.skipBlanks e ++ ": " ++ message ++ " (error token is \"" ++ token ++ "\")"), none)
  let death (message : Raw) : St × Option Int := (s.die message, none)
  let last (e : Raw) : Raw := Sum.lastToken (e.length + 1) [] e
  match Sum.read s.wide expression with
  | .error m =>
    if s.wide then fault expression m.wideMessage (m.token expression)
    else death ("arithmetic expression: " ++ m.message ++ ": \"" ++ expression ++ ['"'])
  | .ok e =>
    let strict : Bool := s.wide && s.has 'u'
    let w : Sum.Environment := { wide := s.wide, strict, lookup := s.number?, isKeyed := s.isKeyed }
    match e.value w (16 * expression.length + 1000) [] with
    | .ok (n, as) => (s.store as, some n)
    | .error (.divisionByZero text) =>
      if s.wide then fault expression "division by 0" text
      else death ("arithmetic expression: division by zero: \"" ++ expression ++ ['"'])
    | .error (.unset name) => ({ s with command := none }.unsetFault name, none)
    | .error .negativeExponent => fault expression "exponent less than 0" (last expression)
    | .error (.illegalNumber t) => death ("Illegal number: " ++ t)
    | .error (.unreadable e m) => fault e m.wideMessage (m.token e)

/-- assigns a value; that of an integer variable is an expression -/
def bind (s : St) (name value : Raw) : St :=
  if ((s.meant name).map (·.integer)).getD false then
    match s.compute value with
    | (s, some n) => s.assign name (Text.ofInt n)
    | (s, none) => s
  else s.assign name value

/-- a value as it is declared, in double quotes; an array shows its elements with their indices -/
def declared (v : Variable) : Raw :=
  match v.elements, v.value with
  | some es, _ =>
    let key (i : Raw) : Raw := if v.keyed ∧ i.any (fun c => Quoting.isMeta c || c = ']') then Quoting.double i else i
    let one (e : Raw × Raw) : Raw := '[' :: key e.1 ++ "]=" ++ Quoting.double e.2
    if v.keyed then "=(" ++ es.flatMap (fun e => one e ++ [' ']) ++ [')']
    else "=(" ++ Text.paste [' '] (es.map one) ++ [')']
  | none, some t => '=' :: Quoting.double t
  | none, none => []

def attributes (v : Variable) : Raw :=
  let letters : List (Bool × Char) :=
    [(v.elements.isSome && !v.keyed, 'a'), (v.keyed, 'A'), (v.integer, 'i'), (v.refers, 'n'), (v.readonly, 'r'),
     (v.exported, 'x'), (v.casing = some false, 'l'), (v.casing = some true, 'u')]
  let shown := (letters.filter (·.1)).map (·.2)
  if shown = [] then ['-', '-'] else '-' :: shown

def declaration (name : Raw) (v : Variable) : Raw :=
  "declare " ++ attributes v ++ ' ' :: name ++ declared v ++ ['\n']

/-- variables in the order of their names -/
def sortedBindings (s : St) : List (Raw × Variable) :=
  s.bindings.mergeSort fun a b => Raw.le a.1 b.1

end St
end IncludeAudit.Shell
