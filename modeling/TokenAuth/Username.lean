import TokenAuth.FieldError

/-!
Display names of users: any text but the empty one.
-/
namespace TokenAuth

@[ext]
structure Username where
  text : String
  text_ne : text ≠ ""

namespace Username

instance : DecidableEq Username := fun _ _ => decidable_of_iff _ Username.ext_iff.symm

def ofText (s : String) : Except FieldError Username :=
  if h : s = "" then .error .length else .ok ⟨s, h⟩

theorem ofText_text (u : Username) : ofText u.text = .ok u := by
  simp [ofText, u.text_ne]

end Username

end TokenAuth
