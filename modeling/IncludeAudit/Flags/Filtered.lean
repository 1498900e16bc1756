/-
Removal of build-only flags. Each word is classed by its spelling alone: kept, dropped, or dropped together with
the word after it. Precompiled-header and forced-include flags are remembered in `pchInUse`; a compiler that is an
MSVC-style driver puts one flag in front.
-/
import IncludeAudit.Text

namespace IncludeAudit

/-- what happens to one word of a compiler command -/
inductive Fate
  | keep
  | drop
  | dropWithValue
  deriving DecidableEq, Repr

namespace Flags

/-- put in front for a compiler that takes MSVC-style flags -/
def driverMode : Text := "--driver-mode=cl"

/-- markers of a compilation step -/
def modes : List Text := ["--", "-c", "/c"]

/-- making, using and naming precompiled headers -/
def pch : List Text := ["/Yc", "/Yu", "/Fp", "-Yc", "-Yu", "-Fp"]

def forcedIncludes : List Text := ["/FI", "-FI"]

/-- a precompiled header to include; the file is always the next word -/
def includePch : Text := "-include-pch"

/-- object and output files -/
def outputs : List Text := ["-o", "/Fo", "-Fo"]

/-- the word begins with one of the flags -/
def startsWithAny (flags : List Text) (word : Text) : Bool :=
  flags.any (·.isPrefixOf word)

/-- a flag spelled in full has its value in the next word, else the value is part of the word -/
def fateOf (flags : List Text) (word : Text) : Fate :=
  if word ∈ flags then .dropWithValue else .drop

/-- precompiled headers and forced includes, which the analysis has to be told about -/
def isPch (word : Text) : Bool :=
  word ∉ modes && (startsWithAny pch word || startsWithAny forcedIncludes word)

/-- the first rule that fits decides -/
def fate (word : Text) : Fate :=
  if word ∈ modes then .drop
  else if startsWithAny pch word then fateOf pch word
  else if startsWithAny forcedIncludes word then fateOf forcedIncludes word
  else if word = includePch then .dropWithValue
  else if startsWithAny outputs word then fateOf outputs word
  else .keep

end Flags

/-- the flags that are left of a compiler command -/
structure Filtered where
  flags : List Text := []
  pchInUse : Bool := false
  driverMode : Bool := false
  deriving DecidableEq, Repr

namespace Filtered

def keep (word : Text) (f : Filtered) : Filtered :=
  { f with flags := word :: f.flags }

/-- remembers a precompiled-header flag -/
def note (word : Text) (f : Filtered) : Filtered :=
  { f with pchInUse := Flags.isPch word || f.pchInUse }

/-- filters the rest of a flag list; `consumed` says that its first word is the value of the flag before it -/
def scan : (consumed : Bool) → List Text → Filtered
  | _, [] => {}
  | true, _ :: r => scan false r
  | false, w :: r =>
    match Flags.fate w with
    | .keep => keep w (scan false r)
    | .drop => note w (scan false r)
    | .dropWithValue => note w (scan true r)

def ofFlags (ws : List Text) : Filtered :=
  scan false ws

/-- the part of a compiler path behind the last slash or backslash -/
def baseName (compiler : Text) : Text :=
  (compiler.reverse.takeWhile fun c => c ≠ '/' ∧ c ≠ '\\').reverse

/-- the file name says that the compiler is a clang driver that takes MSVC-style flags -/
def isMsvcDriver (compiler : Text) : Bool :=
  Text.contains "clang-cl" (Text.lower (baseName compiler))

/-- filters a whole command, whose first word is the compiler -/
def ofCommand : List Text → Filtered
  | [] => {}
  | compiler :: flags =>
    let f := ofFlags flags
    if isMsvcDriver compiler then { f with flags := Flags.driverMode :: f.flags, driverMode := true } else f

end Filtered
end IncludeAudit
