/-
One layer of settings. A key that a layer leaves open keeps the value of the layer below; a list replaces the list
below as a whole.
-/
import IncludeAudit.Json.Typed
import IncludeAudit.Settings.Basic

namespace IncludeAudit

/-- settings of which any key may be left open -/
structure Layer (P : Type) where
  tool : Option P := none
  fixScript : Option P := none
  database : Option P := none
  mappingFiles : Option (List Text) := none
  toolFlags : Option (List Text) := none
  fixFlags : Option (List Text) := none
  safeHeaders : Option Bool := none
  comments : Option Bool := none
  reorder : Option Bool := none
  ignoreRe : Option Text := none
  onlyRe : Option Text := none
  deriving DecidableEq, Repr

namespace Layer

variable {P : Type} [SystemPath P]

/-- a path is written as the text that spells it -/
def readPath : Json.Reader P := fun c => do
  let (t, c) ← Json.readText "path string" c
  return (SystemPath.ofText t, c)

/-- how a layer is written; keys of other names are refused -/
def shape : Json.Shape (Layer P) where
  name := "struct SettingsLayer"
  strict := true
  start := {}
  fields :=
    let text := Json.readText "a string"
    let texts := Json.readList text
    [.optional "iwyu_path" readPath fun v l => { l with tool := v },
     .optional "fix_includes_path" readPath fun v l => { l with fixScript := v },
     .optional "compile_commands" readPath fun v l => { l with database := v },
     .optional "mapping_files" texts fun v l => { l with mappingFiles := v },
     .optional "iwyu_args" texts fun v l => { l with toolFlags := v },
     .optional "fix_args" texts fun v l => { l with fixFlags := v },
     .optional "fix_safe_headers" Json.readBool fun v l => { l with safeHeaders := v },
     .optional "fix_comments" Json.readBool fun v l => { l with comments := v },
     .optional "fix_reorder" Json.readBool fun v l => { l with reorder := v },
     .optional "fix_ignore_re" text fun v l => { l with ignoreRe := v },
     .optional "fix_only_re" text fun v l => { l with onlyRe := v }]

def parse (document : Text) : Except Json.Error (Layer P) :=
  Json.readDocument (Json.readRecord shape) document

/-- two layers in one, the second on top -/
def merge {P : Type} (l m : Layer P) : Layer P where
  tool := m.tool <|> l.tool
  fixScript := m.fixScript <|> l.fixScript
  database := m.database <|> l.database
  mappingFiles := m.mappingFiles <|> l.mappingFiles
  toolFlags := m.toolFlags <|> l.toolFlags
  fixFlags := m.fixFlags <|> l.fixFlags
  safeHeaders := m.safeHeaders <|> l.safeHeaders
  comments := m.comments <|> l.comments
  reorder := m.reorder <|> l.reorder
  ignoreRe := m.ignoreRe <|> l.ignoreRe
  onlyRe := m.onlyRe <|> l.onlyRe

end Layer

/-- settings with a layer on top -/
def Settings.apply {P : Type} [SystemPath P] (s : Settings P) (l : Layer P) : Settings P where
  tool := l.tool.getD s.tool
  fixScript := l.fixScript.getD s.fixScript
  database := l.database.getD s.database
  mappingFiles := l.mappingFiles.getD s.mappingFiles
  toolFlags := l.toolFlags.getD s.toolFlags
  fixFlags := l.fixFlags.getD s.fixFlags
  safeHeaders := l.safeHeaders.getD s.safeHeaders
  comments := l.comments.getD s.comments
  reorder := l.reorder.getD s.reorder
  ignoreRe := l.ignoreRe <|> s.ignoreRe
  onlyRe := l.onlyRe <|> s.onlyRe

end IncludeAudit
