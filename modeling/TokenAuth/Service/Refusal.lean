import TokenAuth.Json.Writer

/-!
Why the service refuses a request. Each reason has a code for programs, a sentence for people and the
status of the answer.
-/
namespace TokenAuth.Service

inductive Refusal
  | noAuthorizationHeader
  | noBearerScheme
  | noBasicScheme
  | malformedCredentialPair
  | noRefreshHeader
  | tokenInvalid
  | invalidCredentials
  | tokenCreationFailed
  | unauthenticated
  | internal
  deriving DecidableEq, Repr

namespace Refusal

def code : Refusal → String
  | noAuthorizationHeader => "no_authorization_header"
  | noBearerScheme => "no_bearer_scheme"
  | noBasicScheme => "no_basic_scheme"
  | malformedCredentialPair => "malformed_credential_pair"
  | noRefreshHeader => "no_refresh_header"
  | tokenInvalid => "token_invalid"
  | invalidCredentials => "invalid_credentials"
  | tokenCreationFailed => "token_creation_failed"
  | unauthenticated => "unauthenticated"
  | internal => "internal"

def message : Refusal → String
  | noAuthorizationHeader => "no authorization header in request"
  | noBearerScheme => "authorization requires Bearer scheme"
  | noBasicScheme => "authorization requires Basic scheme"
  | malformedCredentialPair => "malformed username:password pair"
  | noRefreshHeader => "no refresh token header in request"
  | tokenInvalid => "authorization failed"
  | invalidCredentials => "username or password wrong"
  | tokenCreationFailed => "internal error"
  | unauthenticated => "unauthenticated"
  | internal => "something went wrong"

def status : Refusal → Nat
  | malformedCredentialPair => 400
  | tokenCreationFailed | internal => 500
  | _ => 401

def body (r : Refusal) : List Char :=
  Json.renderObject [("code", Json.renderText r.code), ("error", Json.renderText r.message)]

end Refusal

end TokenAuth.Service
