/-
A place in a JSON document, and what is wrong with a document at a place. Places are counted in bytes of UTF-8. An
error either counts only what has been read, or one byte more, the one that was looked at.

- `Json.Error.of`: line and column of a fault in its document.
- `Json.Error.message`: the words for it.
-/
import IncludeAudit.Text.Printable

namespace IncludeAudit.Json

/-- what is left of a document, and the bytes before it -/
structure Cursor where
  rest : Text
  offset : Nat
  deriving DecidableEq, Repr

/-- the kind of value that stands where another is expected -/
inductive Found
  | null
  | boolean (b : Bool)
  | integer (n : Int)
  | floating (text : Text)
  | string (t : Text)
  | sequence
  | map
  deriving DecidableEq, Repr

/-- what is wrong with a document -/
inductive Cause
  | endInValue
  | endInList
  | endInObject
  | endInString
  | expectedValue
  | expectedIdent
  | expectedColon
  | expectedListEnd
  | expectedObjectEnd
  | trailingComma
  | keyNotString
  | trailingCharacters
  | invalidNumber
  | numberOutOfRange
  | invalidEscape
  | loneSurrogate
  | endOfEscape
  | controlCharacter
  | wrongType (found : Found) (expected : Text)
  | wrongLength (found : Nat) (expected : Text)
  | duplicateField (name : Text)
  | unknownField (name : Text) (known : List Text)
  deriving DecidableEq, Repr

/-- a cause and the byte it is reported at -/
structure Fault where
  cause : Cause
  offset : Nat
  deriving DecidableEq, Repr

/-- a value that was read and the cursor behind it -/
abbrev Behind (α : Type) := α × Cursor

abbrev Reader (α : Type) := Cursor → Except Fault (Behind α)

namespace Cursor

def start (document : Text) : Cursor :=
  ⟨document, 0⟩

/-- moves over the characters in front -/
def advance (c : Cursor) (n : Nat) : Cursor :=
  ⟨c.rest.drop n, c.offset + Text.bytes (c.rest.take n)⟩

/-- the four blanks of the format -/
def isBlank (x : Char) : Bool :=
  x = ' ' || x = '\t' || x = '\n' || x = '\r'

def skipBlanks (c : Cursor) : Cursor :=
  ⟨c.rest.dropWhile isBlank, c.offset + (c.rest.takeWhile isBlank).length⟩

/-- a fault that counts what has been read -/
def fault (c : Cursor) (cause : Cause) : Fault :=
  ⟨cause, c.offset⟩

/-- a fault that counts the byte looked at as well, if there is one -/
def faultAtNext (c : Cursor) (cause : Cause) : Fault :=
  ⟨cause, if c.rest.isEmpty then c.offset else c.offset + 1⟩

end Cursor

/-! ## Messages -/

namespace Found

def describe : Found → Text
  | .null => "null"
  | .boolean true => "boolean `true`"
  | .boolean false => "boolean `false`"
  | .integer n => "integer `" ++ Text.ofInt n ++ "`"
  | .floating t => "floating point `" ++ t ++ "`"
  | .string t => "string " ++ Text.quoted t
  | .sequence => "sequence"
  | .map => "map"

end Found

/-- names in backquotes, separated by commas -/
def quotedNames (names : List Text) : Text :=
  Text.paste ", " (names.map fun n => '`' :: n ++ ['`'])

namespace Cause

def message : Cause → Text
  | endInValue => "EOF while parsing a value"
  | endInList => "EOF while parsing a list"
  | endInObject => "EOF while parsing an object"
  | endInString => "EOF while parsing a string"
  | expectedValue => "expected value"
  | expectedIdent => "expected ident"
  | expectedColon => "expected `:`"
  | expectedListEnd => "expected `,` or `]`"
  | expectedObjectEnd => "expected `,` or `\x7d`"
  | trailingComma => "trailing comma"
  | keyNotString => "key must be a string"
  | trailingCharacters => "trailing characters"
  | invalidNumber => "invalid number"
  | numberOutOfRange => "number out of range"
  | invalidEscape => "invalid escape"
  | loneSurrogate => "lone leading surrogate in hex escape"
  | endOfEscape => "unexpected end of hex escape"
  | controlCharacter => "control character (\\u0000-\\u001F) found while parsing a string"
  | wrongType found expected => "invalid type: " ++ found.describe ++ ", expected " ++ expected
  | wrongLength n expected => "invalid length " ++ Text.ofNat n ++ ", expected " ++ expected
  | duplicateField name => "duplicate field `" ++ name ++ "`"
  | unknownField name known => "unknown field `" ++ name ++ "`, expected one of " ++ quotedNames known

end Cause

/-- a cause with its line and column in the document -/
structure Error where
  cause : Cause
  line : Nat
  column : Nat
  deriving DecidableEq, Repr

namespace Error

/-- line and column of a byte: the line feeds before it, and the bytes behind the last of them -/
def position : (line column offset : Nat) → Text → Nat × Nat
  | line, column, offset, [] => (line, column + offset)
  | line, column, offset, x :: r =>
    if offset < x.utf8Size then (line, column + offset)
    else if x = '\n' then position (line + 1) 0 (offset - 1) r
    else position line (column + x.utf8Size) (offset - x.utf8Size) r

/-- a fault as it is reported for its document -/
def of (document : Text) (f : Fault) : Error :=
  let p := position 1 0 f.offset document
  ⟨f.cause, p.1, p.2⟩

def message (e : Error) : Text :=
  e.cause.message ++ " at line " ++ Text.ofNat e.line ++ " column " ++ Text.ofNat e.column

end Error

end IncludeAudit.Json
