/-!
Why a text is refused as a field of a user or of a token.
-/
namespace TokenAuth

inductive FieldError
  /-- A text that must not be empty is empty. -/
  | length
  /-- A text is no email address. -/
  | email
  deriving DecidableEq, Repr

def FieldError.code : FieldError → String
  | length => "length"
  | email => "email"

/-- What is told of a refused field outside of answers: not which one it was. -/
def FieldError.message (_ : FieldError) : String := "validation"

end TokenAuth
