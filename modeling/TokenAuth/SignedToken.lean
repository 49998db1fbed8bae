import TokenAuth.FieldError
import TokenAuth.Text.Blank

/-!
Token texts as they travel: any text that is not empty and has no blanks at its ends. What the text
says, and whether its signature holds, is for the token format to judge.
-/
namespace TokenAuth

structure SignedToken where
  text : String
  text_ne : text ≠ ""
  text_trimmed : Text.trimmed text = text
  deriving DecidableEq

namespace SignedToken

/-- Blanks at the ends are dropped first. -/
def ofText (s : String) : Except FieldError SignedToken :=
  if h : Text.trimmed s = "" then .error .length
  else .ok ⟨Text.trimmed s, h, Text.trimmed_trimmed s⟩

theorem ofText_text (t : SignedToken) : ofText t.text = .ok t := by
  simp [ofText, t.text_trimmed, t.text_ne]

end SignedToken

end TokenAuth
