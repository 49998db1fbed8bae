import TokenAuth.FieldError
import TokenAuth.PasswordHash
import TokenAuth.Text.Utf8

/-!
Passwords as they are presented, and hashed passwords as they are stored. Both are texts that are not
empty; a stored text is read as a hash only when a password is verified against it.
-/
namespace TokenAuth

structure Password where
  text : String
  text_ne : text ≠ ""

@[ext]
structure StoredHash where
  text : String
  text_ne : text ≠ ""

instance : DecidableEq StoredHash := fun _ _ => decidable_of_iff _ StoredHash.ext_iff.symm

def StoredHash.ofText (s : String) : Except FieldError StoredHash :=
  if h : s = "" then .error .length else .ok ⟨s, h⟩

namespace Password

def ofText (s : String) : Except FieldError Password :=
  if h : s = "" then .error .length else .ok ⟨s, h⟩

/-- How a password shows itself in logs. -/
def display (_ : Password) : String := "Password(..)"

/-- The stored form of a password under a salt. -/
def hash (p : Password) (salt : List UInt8) : StoredHash :=
  ⟨String.ofList (PasswordHash.make (Text.utf8 p.text) salt).render, by
    intro h
    have := congrArg String.toList h
    simp [PasswordHash.render] at this⟩

def verify (p : Password) (stored : StoredHash) : Except HashError Bool :=
  match PasswordHash.read? stored.text.toList with
  | none => .error .undecodable
  | some h => h.matches? (Text.utf8 p.text)

end Password

end TokenAuth
