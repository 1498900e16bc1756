/-
Paths as the operating system takes them: any bytes at all, so a path need not be text. What the rest of this library
computes with are the paths that are text throughout.

- `SystemPath`: a type of paths, with the text that spells a path if there is one.
- `BytePath`: every path there is; not all of them have a text.
-/
import IncludeAudit.Path.Basic

namespace IncludeAudit

/-- paths of which each text spells one, and some may have no text -/
class SystemPath (P : Type) where
  ofText : Text → P
  text? : P → Option Text
  text?_ofText (t : Text) : text? (ofText t) = some t
  ofText_of_text? {p : P} {t : Text} (h : text? p = some t) : ofText t = p

/-- a text is the path that it spells -/
instance : SystemPath Text where
  ofText t := t
  text? := some
  text?_ofText _ := rfl
  ofText_of_text? h := (Option.some.inj h).symm

/-- a path by its bytes -/
structure BytePath where
  bytes : ByteArray

namespace BytePath

def ofText (t : Text) : BytePath :=
  ⟨(String.ofList t).toByteArray⟩

/-- the text that the bytes spell in UTF-8 -/
def text? (p : BytePath) : Option Text :=
  (String.fromUTF8? p.bytes).map String.toList

theorem text?_ofText (t : Text) : (ofText t).text? = some t := by
  have hvalid : (String.ofList t).toByteArray.IsValidUTF8 := (String.ofList t).isValidUTF8
  have hback : String.fromUTF8 (String.ofList t).toByteArray hvalid = String.ofList t := rfl
  rw [text?, ofText, String.fromUTF8?, dif_pos hvalid, hback, Option.map_some, String.toList_ofList]

theorem ofText_of_text? {p : BytePath} {t : Text} (h : p.text? = some t) : ofText t = p := by
  obtain ⟨s, hs, rfl⟩ := Option.map_eq_some_iff.1 h
  unfold String.fromUTF8? at hs
  split at hs
  · cases hs
    rw [ofText, String.ofList_toList]
    rfl
  · cases hs

instance : SystemPath BytePath where
  ofText := ofText
  text? := text?
  text?_ofText := text?_ofText
  ofText_of_text? := ofText_of_text?

end BytePath
end IncludeAudit
