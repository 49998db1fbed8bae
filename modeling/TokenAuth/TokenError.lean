import TokenAuth.Duration
import TokenAuth.Text.Decimal
import TokenAuth.TokenKind

/-!
What can go wrong when tokens are made or verified.
-/
namespace TokenAuth

/-- What keeps a token from being read. -/
inductive TokenDefect
  /-- There are not three segments. -/
  | segments
  | base64
  | header
  | contentType (found : String)
  | algorithm (found : String)
  | claims
  | noExpiry
  deriving DecidableEq

def TokenDefect.message : TokenDefect → String
  | segments => "invalid token structure"
  | base64 => "invalid base64 decoding"
  | header => "malformed token header"
  | contentType found => "unsupported content type: " ++ found
  | algorithm found => "token algorithm (" ++ found ++ ") differs from expected (HS256)"
  | claims => "cannot deserialize claims"
  | noExpiry => "No expiration is specified in token"

inductive TokenError
  | emptyKey (kind : TokenKind)
  | malformed (defect : TokenDefect)
  | kindMismatch (expected : TokenKind) (found : Option String)
  | invalidSignature
  | expired
  /-- The instant that a new token should expire at is out of range. -/
  | unreachableExpiry (lifetime : Duration)
  deriving DecidableEq

def TokenError.message : TokenError → String
  | emptyKey kind => "Signing key for " ++ kind.tag ++ " tokens must not be empty"
  | malformed defect => "Malformed token: " ++ defect.message
  | kindMismatch expected _ => "Token is not from type " ++ expected.tag
  | invalidSignature => "Token signature is invalid"
  | expired => "Token is expired"
  | unreachableExpiry lifetime =>
    "Failed to create token: Expiry " ++ String.ofList (Text.decimalInt lifetime.wholeSeconds) ++
      " seconds from now is out of range"

end TokenAuth
