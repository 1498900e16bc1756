/-
Shell scripts as trees: words made of text, quotes and expansions, redirections, and the commands made of them. All
text in a script goes by bytes.
-/
import IncludeAudit.Text.Utf8

namespace IncludeAudit.Shell

/-- what is done with the value of a parameter; `orEmpty` treats an empty value like a missing one -/
inductive Use
  | value
  | length
  /-- another word in place of a missing value -/
  | orElse (orEmpty : Bool)
  /-- the same, and the parameter gets that value -/
  | orAssign (orEmpty : Bool)
  /-- a missing value is an error -/
  | orFail (orEmpty : Bool)
  /-- another word in place of a value that is there -/
  | ifSet (orEmpty : Bool)
  /-- takes away what a pattern matches at the start -/
  | cutFront (longest : Bool)
  /-- takes away what a pattern matches at the end -/
  | cutBack (longest : Bool)
  /-- replaces what a pattern matches; the word is the pattern, a slash and the new text -/
  | replace (all : Bool)
  /-- a part of the value from an offset on -/
  | slice
  /-- changes the case of the first letter or of all -/
  | recase (upper all : Bool)
  /-- the value in another form, such as in quotes -/
  | shown (form : Char)
  /-- the names of all variables that start with the name -/
  | names
  /-- no expansion that is known -/
  | unknown
  deriving DecidableEq, Repr

/-- a piece of a word; what stands in quotes is never cut, and none of its characters is special in a pattern -/
inductive Part
  | text (t : Raw) (quoted : Bool)
  | parameter (name : Raw) (index : Option (List Part)) (use : Use) (word : List Part) (quoted : Bool)
  | command (source : Raw) (line : Nat) (quoted : Bool)
  | arithmetic (expression : List Part) (quoted : Bool)
  /-- a command whose output, or input, takes the place of a file -/
  | process (source : Raw) (line : Nat) (output : Bool)

abbrev Word := List Part

/-- what a redirection does -/
inductive Direction
  | input
  /-- input and output -/
  | both
  | output
  /-- output also where files are not to be overwritten -/
  | clobber
  | append
  /-- the descriptor goes where the target says -/
  | copyInput
  | copyOutput
  /-- the target is the input itself -/
  | here
  /-- the target with a line feed is the input itself -/
  | hereWord
  /-- output and errors -/
  | outputBoth (append : Bool)
  deriving DecidableEq, Repr

/-- a here-document as it is spelled -/
structure Document where
  mark : Raw
  /-- the mark is quoted, and the text stands for itself -/
  quoted : Bool
  /-- tabs at the start of the lines go -/
  noTabs : Bool
  body : Raw
  deriving DecidableEq, Repr

/-- a redirection of a file descriptor -/
structure Redirection where
  fd : Nat
  direction : Direction
  target : Word
  /-- a variable that is to hold the number of the descriptor, which is a new one -/
  holder : Option Raw := none
  /-- the target as it is spelled -/
  spelled : Raw := []
  document : Option Document := none

structure Assignment where
  name : Raw
  /-- the element of an array -/
  index : Option Word := none
  /-- added to the value before -/
  added : Bool := false
  value : Word := []
  /-- the elements of an array -/
  elements : Option (List Word) := none
  /-- the elements as they are spelled -/
  spelled : Raw := []

/-- what comes after the commands of a case -/
inductive After
  | stop
  /-- the commands of the next case -/
  | next
  /-- the cases that are left -/
  | others
  deriving DecidableEq, Repr

/-- a script; the numbers are lines, and some words are kept as they are spelled as well -/
inductive Script
  | nothing
  | simple (line : Nat) (assignments : List Assignment) (words : List Word) (redirections : List Redirection) (spelled : Raw)
  | sequence (first second : Script)
  | background (body : Script)
  | both (first second : Script)
  | either (first second : Script)
  | negated (body : Script)
  /-- the time that a pipeline takes is shown, in one form or the other -/
  | timed (plainly : Bool) (body : Script)
  | pipe (left right : Script)
  | choice (condition yes no : Script)
  | loop (until_ : Bool) (condition body : Script)
  | forEach (line : Nat) (name : Raw) (words : List Word) (body : Script) (spelled : Raw)
  /-- values are offered to be chosen from, again and again -/
  | menu (line : Nat) (name : Raw) (words : List Word) (body : Script) (spelled : Raw)
  | count (line : Nat) (start condition step : Word) (body : Script) (spelled : List Raw)
  | select (line : Nat) (word : Word) (cases : List (List Word × Raw × Script × After)) (spelled : Raw)
  | apart (body : Script) (redirections : List Redirection)
  /-- commands in braces -/
  | group (body : Script)
  | redirected (line : Nat) (body : Script) (redirections : List Redirection)
  | define (name : Raw) (line : Nat) (body : Script)
  /-- a command in the background with pipes to and from it -/
  | partner (line : Nat) (name : Raw) (body : Script)
  /-- a condition in double brackets, as its words -/
  | condition (line : Nat) (words : List Word) (spelled : Raw)
  /-- an arithmetic command -/
  | compute (line : Nat) (expression : Word) (spelled : Raw)

end IncludeAudit.Shell
