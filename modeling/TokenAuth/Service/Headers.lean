import TokenAuth.Service.Refusal
import TokenAuth.SignedToken
import TokenAuth.Text.Base64
import TokenAuth.Text.Cut
import TokenAuth.Text.Utf8

/-!
Headers of requests and the credentials in them. Names are compared without regard to case, and of
several values with one name the first one counts. A value is readable if it holds only printable ASCII
characters and tabs.
-/
namespace TokenAuth.Service

open Text

abbrev Headers := List (String × List UInt8)

namespace Headers

def sameName (a b : String) : Bool := a.toList.map Char.toLower == b.toList.map Char.toLower

/-- The first value with this name. -/
def get? (h : Headers) (name : String) : Option (List UInt8) :=
  (h.find? fun e => sameName e.1 name).map (·.2)

def isReadable (b : UInt8) : Bool := b == 9 || (32 ≤ b && b ≤ 126)

/-- The characters of a readable value. -/
def readable? (value : List UInt8) : Option (List Char) :=
  if value.all isReadable then some (value.map fun b => Char.ofNat b.toNat) else none

/-- What follows the scheme and one space in the authorization header, if the scheme is this one. -/
def schemeCredentials (h : Headers) (scheme : String) : Except Refusal (Option (List Char)) :=
  match h.get? "authorization" with
  | none => .error .noAuthorizationHeader
  | some value =>
    match (readable? value).bind (cutFirst ' ') with
    | some (found, credentials) =>
      .ok (if found = scheme.toList then some credentials else none)
    | none => .ok none

def tokenOf? (cs : List Char) : Option SignedToken := (SignedToken.ofText (String.ofList cs)).toOption

/-- The token presented for authorization. -/
def bearerToken (h : Headers) : Except Refusal SignedToken :=
  match h.schemeCredentials "Bearer" with
  | .error e => .error e
  | .ok credentials =>
    match credentials.bind tokenOf? with
    | some t => .ok t
    | none => .error .noBearerScheme

/-- A name and a password. The name holds no colon. -/
structure BasicCredentials where
  username : String
  password : String
  deriving DecidableEq

/-- The pair behind its base64 text. The first colon divides it. -/
def readPair (cs : List Char) : Option BasicCredentials := do
  let bytes ← Base64.decodePadded .standard (trim cs)
  let pair ← ofUtf8? bytes
  let (username, password) ← cutFirst ':' pair.toList
  pure ⟨String.ofList username, String.ofList password⟩

def basicCredentials (h : Headers) : Except Refusal BasicCredentials :=
  match h.schemeCredentials "Basic" with
  | .error e => .error e
  | .ok none => .error .noBasicScheme
  | .ok (some cs) =>
    match readPair cs with
    | some c => .ok c
    | none => .error .malformedCredentialPair

/-- The token presented for a refresh. -/
def refreshToken (h : Headers) : Except Refusal SignedToken :=
  match ((h.get? "x-refresh-token").bind readable?).bind tokenOf? with
  | some t => .ok t
  | none => .error .noRefreshHeader

end Headers

end TokenAuth.Service
