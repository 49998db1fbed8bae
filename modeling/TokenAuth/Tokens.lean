import TokenAuth.Json.Record
import TokenAuth.Json.Writer
import TokenAuth.SignedToken

/-!
What a login or a refresh hands out: an access token with the second at which it expires, and a refresh
token.
-/
namespace TokenAuth

def SignedToken.readJson : Json.Reader SignedToken :=
  Json.readVia fun s => (SignedToken.ofText s).toOption

structure Tokens where
  tokenType : String
  accessToken : SignedToken
  /-- Seconds since 1970, not a lifetime. -/
  expiresIn : Int64
  refreshToken : SignedToken
  deriving DecidableEq

namespace Tokens

/-- The only type of tokens handed out. -/
def bearer : String := "bearer"

def render (t : Tokens) : List Char :=
  Json.renderObject [
    ("token_type", Json.renderText t.tokenType),
    ("access_token", Json.renderText t.accessToken.text),
    ("expires_in", Json.renderInt t.expiresIn.toInt),
    ("refresh_token", Json.renderText t.refreshToken.text)]

structure Draft where
  tokenType : Option String
  accessToken : Option SignedToken
  expiresIn : Option Int64
  refreshToken : Option SignedToken

namespace Draft

def empty : Draft := ⟨none, none, none, none⟩

def finish (d : Draft) : Option Tokens := do
  let tokenType ← d.tokenType
  let accessToken ← d.accessToken
  let expiresIn ← d.expiresIn
  let refreshToken ← d.refreshToken
  pure ⟨tokenType, accessToken, expiresIn, refreshToken⟩

end Draft

def jsonFields : List (Json.Field Draft) := [
  ⟨"token_type", fun d => d.tokenType.isSome, fun d cs => (Json.readText cs).map fun p =>
    ({ d with tokenType := some p.1 }, p.2)⟩,
  ⟨"access_token", fun d => d.accessToken.isSome, fun d cs => (SignedToken.readJson cs).map fun p =>
    ({ d with accessToken := some p.1 }, p.2)⟩,
  ⟨"expires_in", fun d => d.expiresIn.isSome, fun d cs => (Json.readInt64 cs).map fun p =>
    ({ d with expiresIn := some p.1 }, p.2)⟩,
  ⟨"refresh_token", fun d => d.refreshToken.isSome, fun d cs => (SignedToken.readJson cs).map fun p =>
    ({ d with refreshToken := some p.1 }, p.2)⟩]

def readJson : Json.Reader Tokens := Json.readRecord jsonFields Draft.empty Draft.finish

end Tokens

end TokenAuth
