/-
Reading values of a known type. Types are checked while reading, so a wrong type in front hides a wrong form behind
it. A record is written as an object or as the list of all its fields in order; every field may be null or left out.

- `readText`, `readBool`, `readList`, `readOptional`: values.
- `Field`, `Shape`, `readRecord`: records.
- `readDocument`: a value with nothing but blanks behind it.
-/
import IncludeAudit.Json.Scalar

/-!
## Skipped values

Moving over a value that nobody asked for. Only its form is checked: containers are kept on a stack, so nesting may
be as deep as it likes, and numbers may have any size.
-/

namespace IncludeAudit.Json

/-- a container that is still open -/
inductive Container
  | list
  | object
  deriving DecidableEq, Repr

namespace Container

/-- the bracket that closes it -/
def closing : Container → Char
  | .list => ']'
  | .object => '}'

/-- the document ended inside -/
def ended : Container → Cause
  | .list => .endInList
  | .object => .endInObject

/-- neither a comma nor the closing bracket came -/
def unfinished : Container → Cause
  | .list => .expectedListEnd
  | .object => .expectedObjectEnd

end Container

/-- moves over the first character -/
def Cursor.next (c : Cursor) : Cursor :=
  c.advance 1

/-- moves over a value without parts; a bracket opens a container instead -/
def skipScalar (c : Cursor) : Except Fault (Cursor × Option Container) := do
  match c.rest with
  | [] => throw (c.faultAtNext .endInValue)
  | x :: _ =>
    if x = 'n' then return (← readWord "ull" c.next, none)
    else if x = 't' then return (← readWord "rue" c.next, none)
    else if x = 'f' then return (← readWord "alse" c.next, none)
    else if x = '-' then return (← skipNumber c.next, none)
    else if x.isDigit then return (← skipNumber c, none)
    else if x = '"' then return (← skipString c.next, none)
    else if x = '[' then return (c.next, some .list)
    else if x = '{' then return (c.next, some .object)
    else throw (c.faultAtNext .expectedValue)

/-- moves over the key of a member and the colon behind it -/
def skipKey (c : Cursor) : Except Fault Cursor := do
  let c := c.skipBlanks
  match c.rest with
  | [] => throw (c.faultAtNext .endInObject)
  | x :: _ =>
    if x ≠ '"' then throw (c.faultAtNext .keyNotString)
    let c := (← skipString c.next).skipBlanks
    match c.rest with
    | [] => throw (c.faultAtNext .endInObject)
    | y :: _ => if y = ':' then return c.next else throw (c.faultAtNext .expectedColon)

/-- moves to the next value of the innermost open container, over every container that ends before it; `first`
says that the innermost one has no value yet -/
def skipToValue : (open_ : List Container) → (first : Bool) → Cursor → Except Fault (Cursor × List Container)
  | [], _, c => .ok (c, [])
  | k :: outer, first, c => do
    let c := c.skipBlanks
    let enter (c : Cursor) : Except Fault (Cursor × List Container) := do
      match k with
      | .list => return (c, k :: outer)
      | .object => return (← skipKey c, k :: outer)
    match c.rest with
    | [] => throw (c.faultAtNext k.ended)
    | x :: _ =>
      if x = k.closing then skipToValue outer false c.next
      else if first then enter c
      else if x = ',' then enter c.next
      else throw (c.faultAtNext k.unfinished)

/-- moves over values until every open container is closed -/
def skipValues : (fuel : Nat) → List Container → Cursor → Except Fault Cursor
  | 0, _, c => .error (c.faultAtNext .endInValue)
  | fuel + 1, open_, c => do
    let (c, opened) ← skipScalar c.skipBlanks
    let (c, open_) ← skipToValue (opened.toList ++ open_) opened.isSome c
    if open_.isEmpty then return c else skipValues fuel open_ c

/-- moves over one value of any kind; every value takes at least one character -/
def skipValue (c : Cursor) : Except Fault Cursor :=
  skipValues (c.rest.length + 1) [] c

end IncludeAudit.Json

namespace IncludeAudit.Json

/-- reads the value at a cursor where another kind was expected, to say what it is -/
def wrongType (expected : Text) (c : Cursor) : Fault :=
  let report (found : Found) (c : Cursor) : Fault := c.fault (.wrongType found expected)
  let word (rest : Text) (found : Found) : Fault :=
    match readWord rest c.next with
    | .ok c => report found c
    | .error f => f
  let number : Except Fault (Behind Number) → Fault
    | .ok (n, c) => report n.found c
    | .error f => f
  match c.rest with
  | [] => c.faultAtNext .expectedValue
  | x :: _ =>
    if x = 'n' then word "ull" .null
    else if x = 't' then word "rue" (.boolean true)
    else if x = 'f' then word "alse" (.boolean false)
    else if x = '-' then number (readNumber true c.next)
    else if x.isDigit then number (readNumber false c)
    else if x = '"' then
      match readString c.next with
      | .ok (t, c) => report (.string t) c
      | .error f => f
    else if x = '[' then report .sequence c
    else if x = '{' then report .map c
    else c.faultAtNext .expectedValue

/-- the cursor at the value behind blanks -/
def atValue (c : Cursor) : Except Fault Cursor :=
  let c := c.skipBlanks
  if c.rest.isEmpty then .error (c.faultAtNext .endInValue) else .ok c

/-- reads a string; `expected` names it in messages -/
def readText (expected : Text) (c : Cursor) : Except Fault (Behind Text) := do
  let c ← atValue c
  if c.rest.head? = some '"' then readString c.next else throw (wrongType expected c)

def readBool (c : Cursor) : Except Fault (Behind Bool) := do
  let c ← atValue c
  if c.rest.head? = some 't' then return (true, ← readWord "rue" c.next)
  else if c.rest.head? = some 'f' then return (false, ← readWord "alse" c.next)
  else throw (wrongType "a boolean" c)

def readOptional {α : Type} (read : Reader α) (c : Cursor) : Except Fault (Behind (Option α)) := do
  let c := c.skipBlanks
  if c.rest.head? = some 'n' then return (none, ← readWord "ull" c.next)
  else
    let (a, c) ← read c
    return (some a, c)

/-! ## Lists -/

/-- moves to the next element of a list, `none` at its end -/
def nextElement (first : Bool) (c : Cursor) : Except Fault (Option Cursor) := do
  let c := c.skipBlanks
  let element (c : Cursor) : Except Fault (Option Cursor) :=
    match c.rest with
    | [] => throw (c.faultAtNext .endInValue)
    | x :: _ => if x = ']' then throw (c.faultAtNext .trailingComma) else return some c
  match c.rest with
  | [] => throw (c.faultAtNext .endInList)
  | x :: _ =>
    if x = ']' then return none
    else if first then element c
    else if x = ',' then element c.next.skipBlanks
    else throw (c.faultAtNext .expectedListEnd)

/-- moves over the end of a list that is to have no more elements -/
def endList (c : Cursor) : Except Fault Cursor := do
  let c := c.skipBlanks
  match c.rest with
  | [] => throw (c.faultAtNext .endInList)
  | x :: _ =>
    if x = ']' then return c.next
    else if x = ',' then
      let c := c.next.skipBlanks
      throw (c.faultAtNext (if c.rest.head? = some ']' then .trailingComma else .trailingCharacters))
    else throw (c.faultAtNext .trailingCharacters)

/-- reads elements up to the end of the list -/
def readElements {α : Type} (read : Reader α) : (fuel : Nat) → (first : Bool) → Reader (List α)
  | 0, _, c => .error (c.faultAtNext .endInList)
  | fuel + 1, first, c => do
    match ← nextElement first c with
    | none => return ([], ← endList c)
    | some c =>
      let (a, c) ← read c
      let (as, c) ← readElements read fuel false c
      return (a :: as, c)

/-- reads a list; every element takes at least one character -/
def readList {α : Type} (read : Reader α) (c : Cursor) : Except Fault (Behind (List α)) := do
  let c ← atValue c
  if c.rest.head? = some '[' then readElements read c.rest.length true c.next
  else throw (wrongType "a sequence" c)

/-! ## Records -/

/-- a field of a record: its name, and how its value changes the record -/
structure Field (α : Type) where
  name : Text
  read : Reader (α → α)

/-- a record type: its name in messages, its fields in order, and whether other fields are refused -/
structure Shape (α : Type) where
  name : Text
  fields : List (Field α)
  strict : Bool
  start : α

/-- an optional field with its way into the record -/
def Field.optional {α β : Type} (name : Text) (read : Reader β) (put : Option β → α → α) : Field α where
  name := name
  read := fun c => do
    let (b, c) ← readOptional read c
    return (put b, c)

/-- where a fault in the fields of an object is reported: behind blanks and a closing bracket, if one follows -/
def closedOffset (c : Cursor) : Nat :=
  let c := c.skipBlanks
  if c.rest.head? = some '}' then c.offset + 1 else c.offset

/-- moves to the next key of an object, `none` at its end -/
def nextKey (first : Bool) (c : Cursor) : Except Fault (Option Cursor) := do
  let c := c.skipBlanks
  let key (c : Cursor) : Except Fault (Option Cursor) :=
    match c.rest with
    | [] => throw (c.faultAtNext .endInValue)
    | x :: _ =>
      if x = '"' then return some c.next
      else if x = '}' then throw (c.faultAtNext .trailingComma)
      else throw (c.faultAtNext .keyNotString)
  match c.rest with
  | [] => throw (c.faultAtNext .endInObject)
  | x :: _ =>
    if x = '}' then return none
    else if first then key c
    else if x = ',' then key c.next.skipBlanks
    else throw (c.faultAtNext .expectedObjectEnd)

/-- moves over the colon behind a key -/
def readColon (c : Cursor) : Except Fault Cursor :=
  let c := c.skipBlanks
  match c.rest with
  | [] => .error (c.faultAtNext .endInObject)
  | x :: _ => if x = ':' then .ok c.next else .error (c.faultAtNext .expectedColon)

/-- reads the members of an object; `seen` are the known keys so far -/
def readMembers {α : Type} (s : Shape α) :
    (fuel : Nat) → (first : Bool) → (seen : List Text) → α → Reader α
  | 0, _, _, _, c => .error (c.faultAtNext .endInObject)
  | fuel + 1, first, seen, a, c => do
    match ← nextKey first c with
    | none => return (a, c.skipBlanks.next)
    | some c =>
      let (key, c) ← readString c
      match s.fields.find? (·.name = key) with
      | some field =>
        if key ∈ seen then throw ⟨.duplicateField key, closedOffset c⟩
        let c ← readColon c
        let (put, c) ← field.read c
        readMembers s fuel false (key :: seen) (put a) c
      | none =>
        if s.strict then throw ⟨.unknownField key (s.fields.map (·.name)), closedOffset c⟩
        let c ← readColon c
        let c ← skipValue c
        readMembers s fuel false seen a c

/-- reads the fields of a record in order; `done` counts those before -/
def readInOrder {α : Type} (expected : Text) : List (Field α) → (done : Nat) → α → Reader α
  | [], _, a, c => do return (a, ← endList c)
  | field :: more, done, a, c => do
    match ← nextElement (done = 0) c with
    | none =>
      let c := c.skipBlanks.next
      throw (c.fault (.wrongLength done expected))
    | some c =>
      let (put, c) ← field.read c
      readInOrder expected more (done + 1) (put a) c

def readRecord {α : Type} (s : Shape α) (c : Cursor) : Except Fault (Behind α) := do
  let c ← atValue c
  if c.rest.head? = some '{' then readMembers s c.rest.length true [] s.start c.next
  else if c.rest.head? = some '[' then
    let expected := s.name ++ " with " ++ Text.ofNat s.fields.length ++ " elements"
    readInOrder expected s.fields 0 s.start c.next
  else throw (wrongType s.name c)

/-! ## Documents -/

def readDocument {α : Type} (read : Reader α) (document : Text) : Except Error α :=
  let whole : Except Fault α := do
    let (a, c) ← read (.start document)
    let c := c.skipBlanks
    if c.rest.isEmpty then return a else throw (c.faultAtNext .trailingCharacters)
  match whole with
  | .ok a => .ok a
  | .error f => .error (.of document f)

end IncludeAudit.Json
