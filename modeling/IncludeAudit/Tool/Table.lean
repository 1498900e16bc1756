/-
The tools of the system by their names.
-/
import IncludeAudit.Offside.Run
import IncludeAudit.Tool.Awk.Run
import IncludeAudit.Tool.Checksum
import IncludeAudit.Tool.Condition
import IncludeAudit.Tool.Date
import IncludeAudit.Tool.Diff.Run
import IncludeAudit.Tool.Dump
import IncludeAudit.Tool.Encoded
import IncludeAudit.Tool.Find
import IncludeAudit.Tool.Grep
import IncludeAudit.Tool.Launch
import IncludeAudit.Tool.Listing
import IncludeAudit.Tool.Names
import IncludeAudit.Tool.Numbers
import IncludeAudit.Tool.Places
import IncludeAudit.Tool.Print
import IncludeAudit.Tool.Sed.Edit
import IncludeAudit.Tool.Sort

namespace IncludeAudit.Tool

def textTools : List (Raw × (Call → Answer)) :=
  [("true", fun _ => {}), ("false", fun _ => { status := 1 }), ("echo", fun c => echo .free false false c.arguments), ("cat", cat),
   ("tee", tee), ("head", ends false), ("tail", ends true), ("tac", tac), ("rev", rev), ("nl", nl), ("wc", wc),
   ("cut", cut), ("paste", paste), ("tr", tr), ("fold", fold), ("expand", expand), ("sort", sort), ("uniq", uniq),
   ("comm", comm), ("join", join), ("diff", diff), ("cmp", cmp), ("grep", grep), ("egrep", grep), ("fgrep", grep),
   ("sed", sed), ("awk", awk), ("mawk", awk)]

/-- tools that answer with names, numbers and conditions -/
def wordTools : List (Raw × (Call → Answer)) :=
  [("printf", fun c => printf .free c.isWide (c.name ++ ": ") c.arguments), ("test", fun c => test .free {} (c.name ++ ": ") c),
   ("[", fun c => test .free {} (c.name ++ ": ") c), ("expr", expr), ("seq", seq), ("basename", basename),
   ("dirname", dirname), ("pwd", pwd), ("realpath", realpath), ("readlink", readlink), ("yes", yes),
   ("which", which), ("whoami", fixedLine "root"), ("id", id), ("groups", fixedLine "root"), ("uname", uname),
   ("arch", fixedLine "x86_64"), ("tty", tty), ("date", date)]

def runningTools : List (Raw × (Call → Answer)) :=
  [("env", env), ("printenv", printenv), ("xargs", xargs), ("sleep", sleep), ("timeout", timeout), ("nohup", nohup),
   ("nice", nice), ("setsid", runPlainly [option 'w' "wait", option 'f' "fork", option 'c' "ctty"]),
   ("python3", Offside.interpreter), ("python3.11", Offside.interpreter),
   ("stdbuf", runPlainly [valuedOption 'i' "input", valuedOption 'o' "output", valuedOption 'e' "error"])]

/-- tools that change the file tree -/
def placeTools : List (Raw × (Call → Answer)) :=
  [("mkdir", mkdir), ("rmdir", rmdir), ("rm", rm), ("unlink", unlink), ("cp", cp), ("mv", mv), ("ln", ln), ("link", link),
   ("touch", touch), ("chmod", chmod), ("chown", chown), ("sync", fun _ => {}), ("ls", ls .single),
   ("dir", ls .down), ("stat", stat), ("find", find)]

def digestTools : List (Raw × (Call → Answer)) :=
  [("md5sum", digests "md5"), ("sha1sum", digests "sha1"), ("sha224sum", digests "sha224"),
   ("sha256sum", digests "sha256"), ("sha384sum", digests "sha384"), ("sha512sum", digests "sha512"),
   ("cksum", cksum), ("sum", sum), ("base64", encoded alphabet64), ("base32", encoded alphabet32),
   ("od", od)]

def table : List (Raw × (Call → Answer)) :=
  textTools ++ wordTools ++ runningTools ++ placeTools ++ digestTools

def find? (name : Raw) : Option (Call → Answer) :=
  (table.find? (·.1 = name)).map (·.2)

end IncludeAudit.Tool
