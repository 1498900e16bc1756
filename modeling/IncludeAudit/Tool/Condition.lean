/-
Conditions on texts, numbers and files, as `test` takes them: words joined by `-a`, `-o`, `!` and round brackets.

- `test`: whether a condition holds, as an exit status.
-/
import IncludeAudit.Tool.Format

namespace IncludeAudit.Tool.Condition

/-- conditions on two words -/
def binaryOperators : List Raw :=
  ["=", "==", "!=", "<", ">", "-eq", "-ne", "-lt", "-le", "-gt", "-ge", "-nt", "-ot", "-ef"]

def unaryOperators : List Raw :=
  ["-r", "-w", "-x", "-e", "-f", "-d", "-c", "-b", "-p", "-u", "-g", "-k", "-s", "-t", "-z", "-n", "-h", "-L", "-O",
   "-G", "-S"]

/-- what a shell knows of itself and tells in conditions -/
structure Facts where
  /-- a variable, or an element, has a value -/
  isSet : Raw → Bool := fun _ => false
  /-- an option of the shell is on -/
  isOn : Raw → Bool := fun _ => false
  /-- a name stands for another one -/
  refers : Raw → Bool := fun _ => false

/-- the operator is a condition on one word for the wider shell -/
def isSingle (w : Raw) : Bool :=
  unaryOperators.contains w || w ∈ ([("-a" : Raw), "-o", "-v", "-N", "-R"] : List Raw)

inductive Fault
  | argumentExpected (operator : Raw)
  | unexpected (word : Raw)
  | unclosed
  /-- another word stands in the place of a closing bracket -/
  | foundInstead (word : Raw)
  | unaryExpected (word : Raw)
  | binaryExpected (word : Raw)
  | tooMany
  /-- a word that looks like an operator is left over -/
  | leftOver (word : Raw)
  | illegalNumber (word : Raw)
  deriving DecidableEq, Repr

/-- how a word is read -/
inductive Kind
  | finish
  | unary
  | binary
  | and_
  | or_
  | not_
  | open_
  | close
  | operand
  deriving DecidableEq, Repr

/-- the operator is known; the shell's own version knows only one sign for equality -/
def isBinary (m : Manner) (w : Raw) : Bool :=
  binaryOperators.contains w && (m ≠ .builtIn || w ≠ "==")

/-- the kind of the first word; a sign for a condition on one word is an operand when it stands in the place of one -/
def kindOf (m : Manner) : List Raw → Kind
  | [] => .finish
  | w :: r =>
    if unaryOperators.contains w then
      match r with
      | [] => .operand
      | [_] => .unary
      | s :: _ => if isBinary m s then .operand else .unary
    else if isBinary m w then .binary
    else if w = "-a" then .and_
    else if w = "-o" then .or_
    else if w = "!" then .not_
    else if w = "(" then if r.isEmpty then .operand else .open_
    else if w = ")" then .close
    else .operand

/-- the integer that a word spells, with blanks around it -/
def integer (w : Raw) : Except Fault Int :=
  let t := (w.dropWhile Raw.isSpace).reverse.dropWhile Raw.isSpace
  match Raw.int? t.reverse with
  | some n => .ok n
  | none => .error (.illegalNumber w)

def onFile (c : Call) (operator path : Raw) : Bool :=
  let p := Raw.toText path
  let isLink : Bool :=
    match c.tree.slot c.here p with
    | .ok (dir, name) =>
      match c.tree.node? (name :: dir) with
      | some (.link _) => !Tree.wantsDirectory p
      | _ => false
    | .error _ => false
  if operator = "-h" ∨ operator = "-L" then isLink
  else if operator = "-t" then false
  else
    match c.stat path with
    | .error _ => Call.isInputName path && (operator = "-e" || operator = "-r")
    | .ok n =>
      match n with
      | .directory => ["-e", "-d", "-r", "-w", "-x", "-s", "-O", "-G"].any fun o => operator = Raw.ofText o
      | .file bytes mode =>
        if operator = "-x" then Node.startable mode
        else if operator = "-s" then !bytes.isEmpty
        else ["-e", "-f", "-r", "-w", "-O", "-G"].any fun o => operator = Raw.ofText o
      | .device .pipe => ["-e", "-p", "-r", "-w", "-O", "-G"].any fun o => operator = Raw.ofText o
      | .device _ => ["-e", "-c", "-r", "-w", "-O", "-G"].any fun o => operator = Raw.ofText o
      | .link _ => false

def unary (c : Call) (operator word : Raw) : Bool :=
  if operator = "-z" then word = []
  else if operator = "-n" then word ≠ []
  else onFile c operator word

/-- a condition on two words -/
def binary (c : Call) (a operator b : Raw) : Except Fault Bool := do
  if operator = "=" ∨ operator = "==" then return a = b
  else if operator = "!=" then return a ≠ b
  else if operator = "<" then return a ≠ b && Raw.le a b
  else if operator = ">" then return a ≠ b && Raw.le b a
  else if operator = "-ef" then
    match c.tree.locate c.here (Raw.toText a), c.tree.locate c.here (Raw.toText b) with
    | .ok p, .ok q => return p = q
    | _, _ => return false
  else if operator = "-nt" then return (c.stat a).toOption.isSome && (c.stat b).toOption.isNone
  else if operator = "-ot" then return (c.stat a).toOption.isNone && (c.stat b).toOption.isSome
  else
    let m ← integer a
    let n ← integer b
    if operator = "-eq" then return m = n
    else if operator = "-ne" then return m ≠ n
    else if operator = "-lt" then return m < n
    else if operator = "-le" then return m ≤ n
    else if operator = "-gt" then return n < m
    else return n ≤ m

mutual

/-- conditions of which one has to hold, with the words from the last one that was used -/
def oneOf (m : Manner) (c : Call) : (fuel : Nat) → Kind → List Raw → Except Fault (Bool × List Raw)
  | 0, _, ws => .ok (false, ws)
  | fuel + 1, k, ws => do
    let (a, ws) ← allOf m c fuel k ws
    if kindOf m ws.tail = .or_ then
      let ws := ws.drop 2
      let (b, ws) ← oneOf m c fuel (kindOf m ws) ws
      return (a || b, ws)
    else return (a, ws)

/-- conditions that have to hold together -/
def allOf (m : Manner) (c : Call) : (fuel : Nat) → Kind → List Raw → Except Fault (Bool × List Raw)
  | 0, _, ws => .ok (false, ws)
  | fuel + 1, k, ws => do
    let (a, ws) ← opposite m c fuel k ws
    if kindOf m ws.tail = .and_ then
      let ws := ws.drop 2
      let (b, ws) ← allOf m c fuel (kindOf m ws) ws
      return (a && b, ws)
    else return (a, ws)

def opposite (m : Manner) (c : Call) : (fuel : Nat) → Kind → List Raw → Except Fault (Bool × List Raw)
  | 0, _, ws => .ok (false, ws)
  | fuel + 1, k, ws => do
    if k = .not_ then
      let k := kindOf m ws.tail
      let (a, ws) ← opposite m c fuel k (if k = .finish then ws else ws.tail)
      return (!a, ws)
    else primary m c fuel k ws

def primary (m : Manner) (c : Call) : (fuel : Nat) → Kind → List Raw → Except Fault (Bool × List Raw)
  | 0, _, ws => .ok (false, ws)
  | fuel + 1, k, ws => do
    if k = .finish then return (false, ws)
    else if k = .open_ then
      let ws := ws.tail
      let k := kindOf m ws
      if k = .close then return (false, ws)
      let (a, ws) ← oneOf m c fuel k ws
      let ws := ws.tail
      if kindOf m ws = .close then return (a, ws) else throw .unclosed
    else
      match k, ws with
      | .unary, o :: w :: r => return (unary c o w, w :: r)
      | .unary, [o] => throw (.argumentExpected o)
      | _, a :: o :: r =>
        if isBinary m o then
          match r with
          | b :: r => return (← binary c a o b, b :: r)
          | [] => throw (.argumentExpected o)
        else return (a ≠ [], a :: o :: r)
      | _, [a] => return (a ≠ [], [a])
      | _, [] => return (false, [])

end

/-! ## The wider shell -/

/-- a condition on one word, or on what the shell knows of itself -/
def single (k : Facts) (c : Call) (operator word : Raw) : Bool :=
  if operator = "-v" then k.isSet word
  else if operator = "-o" then k.isOn word
  else if operator = "-R" then k.refers word
  else if operator = "-a" ∨ operator = "-N" then onFile c "-e" word
  else unary c operator word

/-- the kind of an operator between two words -/
def isBetween (w : Raw) : Bool :=
  binaryOperators.contains w

mutual

/-- conditions joined by signs, of which `-a` binds more, and the words behind them -/
def joined (k : Facts) (c : Call) : (fuel : Nat) → (any : Bool) → List Raw → Except Fault (Bool × List Raw)
  | 0, _, ws => .ok (false, ws)
  | fuel + 1, any, ws => do
    let (a, ws) ← if any then joined k c fuel false ws else term k c fuel ws
    match ws with
    | o :: r =>
      if o = (if any then ("-o" : Raw) else "-a") then
        let (b, ws) ← joined k c fuel any r
        return (if any then a || b else a && b, ws)
      else return (a, ws)
    | [] => return (a, [])

/-- one condition, with signs for its opposite in front -/
def term (k : Facts) (c : Call) : (fuel : Nat) → List Raw → Except Fault (Bool × List Raw)
  | 0, ws => .ok (false, ws)
  | fuel + 1, ws => do
    match ws with
    | [] => throw (.argumentExpected [])
    | ['!'] :: r =>
      let (a, ws) ← term k c fuel r
      return (!a, ws)
    | ['('] :: r =>
      let (a, ws) ← joined k c fuel true r
      match ws with
      | [')'] :: r => return (a, r)
      | w :: _ => throw (.foundInstead w)
      | [] => throw .unclosed
    | a :: o :: b :: r =>
      if isBetween o then return (← binary c a o b, r)
      else if isSingle a then return (single k c a o, b :: r)
      else return (a ≠ [], o :: b :: r)
    | [a, b] => if isSingle a then return (single k c a b, []) else return (a ≠ [], [b])
    | [a] => return (a ≠ [], [])

end

/-- the answer for two words -/
def ofTwo (k : Facts) (c : Call) (a b : Raw) : Except Fault Bool :=
  if a = ['!'] then .ok (b = []) else if isSingle a then .ok (single k c a b) else .error (.unaryExpected a)

/-- the answer for three words -/
def ofThree (k : Facts) (c : Call) (a o b : Raw) : Except Fault Bool := do
  if isBetween o then binary c a o b
  else if o = "-a" then return a ≠ [] && b ≠ []
  else if o = "-o" then return a ≠ [] || b ≠ []
  else if a = ['!'] then return !(← ofTwo k c o b)
  else if a = ['('] ∧ b = [')'] then return o ≠ []
  else throw (.binaryExpected o)

/-- the answer of the wider shell -/
def holdsWidely (k : Facts) (c : Call) (ws : List Raw) : Except Fault Bool := do
  let whole : Except Fault Bool := do
    let (a, rest) ← joined k c (4 * ws.length + 8) true ws
    match rest with
    | [] => return a
    | w :: _ => throw (if w.head? = some '-' then .leftOver w else .tooMany)
  match ws with
  | [] => return false
  | [a] => return a ≠ []
  | [a, b] => ofTwo k c a b
  | [a, o, b] => ofThree k c a o b
  | [a, x, y, b] =>
    if a = ['!'] then return !(← ofThree k c x y b)
    else if a = ['('] ∧ b = [')'] then ofTwo k c x y
    else whole
  | _ => whole

/-! ## Answers -/

/-- the answer of a whole list of words -/
def holds (m : Manner) (c : Call) (ws : List Raw) : Except Fault Bool := do
  let fuel := 8 * ws.length + 16
  let whole (ws : List Raw) (k : Kind) : Except Fault Bool := do
    let (a, rest) ← oneOf m c fuel k ws
    match rest with
    | w :: _ :: _ => throw (.unexpected w)
    | _ => return a
  match ws with
  | [] => return false
  | [a, o, b] =>
    if isBinary m o then binary c a o b
    else if a = "(" ∧ b = ")" then whole [o] (kindOf m [o])
    else if a = "!" then return !(← whole [o, b] (kindOf m [o, b]))
    else whole ws (kindOf m ws)
  | [a, x, y, b] =>
    if a = "(" ∧ b = ")" then whole [x, y] (kindOf m [x, y])
    else if a = "!" then
      if isBinary m y then return !(← binary c x y b) else return !(← whole [x, y, b] (kindOf m [x, y, b]))
    else whole ws (kindOf m ws)
  | _ => whole ws (kindOf m ws)

/-- what is said of a condition without an answer -/
def Fault.message (m : Manner) (ws : List Raw) : Fault → Raw
  | .argumentExpected o =>
    match m with
    | .builtIn => o ++ ": argument expected"
    | .wide => "argument expected"
    | .free => "missing argument after " ++ quote o
  | .foundInstead w => "\x60)' expected, found " ++ w
  | .unaryExpected w => w ++ ": unary operator expected"
  | .binaryExpected w => w ++ ": binary operator expected"
  | .tooMany => "too many arguments"
  | .leftOver w => "syntax error: \x60" ++ w ++ "' unexpected"
  | .unexpected w =>
    match m, ws with
    | .builtIn, _ | .wide, _ => w ++ ": unexpected operator"
    | .free, [a, b] =>
      if a.head? = some '-' then quote a ++ ": unary operator expected" else "missing argument after " ++ quote b
    | .free, [_, b, _] => quote b ++ ": binary operator expected"
    | .free, _ => "extra argument " ++ quote ((ws.dropWhile (· ≠ w)).tail.headD [])
  | .unclosed =>
    match m with
    | .builtIn => "closing paren expected"
    | .wide => "\x60)' expected"
    | .free => "')' expected"
  | .illegalNumber w =>
    match m with
    | .builtIn => "Illegal number: " ++ w
    | .wide => w ++ ": integer expression expected"
    | .free => "invalid integer " ++ quote w

end IncludeAudit.Tool.Condition

namespace IncludeAudit.Tool

/-- an exit status that says whether a condition holds; `lead` stands in front of complaints -/
def test (m : Manner) (facts : Condition.Facts) (lead : Raw) (c : Call) : Answer :=
  let bracket := c.name.getLast? = some '['
  if bracket ∧ c.arguments.getLast? ≠ some "]" then
    let words : Raw :=
      match m with
      | .builtIn => "missing ]"
      | .wide => "missing \x60]'"
      | .free => "missing " ++ quote [']']
    .fail (lead ++ words) 2
  else
    let ws := if bracket then c.arguments.dropLast else c.arguments
    let answer := if m = .wide then Condition.holdsWidely facts c ws else Condition.holds m c ws
    match answer with
    | .ok a => { status := if a then 0 else 1 }
    | .error e => .fail (lead ++ e.message m ws) 2

end IncludeAudit.Tool
