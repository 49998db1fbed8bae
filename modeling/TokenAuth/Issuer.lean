import TokenAuth.Compact

/-!
Issuing and verifying tokens. Each kind of token has a signing key of its own. A token is good up to the
instant of its expiry, that instant included, and an expiry is a whole second that falls short of the
lifetime asked for by less than a second.
-/
namespace TokenAuth

/-- The signing keys of the two kinds. -/
structure Keys where
  access : SigningKey
  refresh : SigningKey

namespace Keys

def ofTexts (access refresh : String) : Except TokenError Keys :=
  match SigningKey.ofText access .access with
  | .error e => .error e
  | .ok a =>
    match SigningKey.ofText refresh .refresh with
    | .error e => .error e
    | .ok r => .ok ⟨a, r⟩

def forKind (k : Keys) : TokenKind → SigningKey
  | .access => k.access
  | .refresh => k.refresh

end Keys

/-- How long tokens last. A refresh token with less than the threshold left is replaced. -/
structure Policy where
  accessLifetime : Duration
  refreshLifetime : Duration
  renewalThreshold : Duration
  deriving DecidableEq

namespace Policy

def accessMinutes : Int := 5

/-- Seven days. -/
def refreshMinutes : Int := 10080

def thresholdMinutes : Int := 10

def standard : Policy :=
  ⟨.ofMinutes accessMinutes, .ofMinutes refreshMinutes, .ofMinutes thresholdMinutes⟩

def lifetime (p : Policy) : TokenKind → Duration
  | .access => p.accessLifetime
  | .refresh => p.refreshLifetime

end Policy

/-- The identity in a good token and the expiry of the token. -/
structure VerifiedToken where
  identity : Identity
  expires : Instant
  deriving DecidableEq

def VerifiedToken.remaining (v : VerifiedToken) (now : Instant) : Duration := v.expires.since now

structure IssuedToken where
  token : SignedToken
  expires : Instant
  deriving DecidableEq

structure Issuer where
  keys : Keys
  policy : Policy

namespace Issuer

/-- The expiry of a token that is made now and has this lifetime. -/
def expiry (now : Instant) (lifetime : Duration) : Except TokenError Instant :=
  match now.add? lifetime with
  | some t => .ok t.floor
  | none => .error (.unreachableExpiry lifetime)

def create (g : Issuer) (i : Identity) (expires : Instant) (kind : TokenKind) : SignedToken :=
  Compact.encode (Claims.ofIdentity i expires kind) (g.keys.forKind kind)

def verify (g : Issuer) (now : Instant) (t : SignedToken) (kind : TokenKind) :
    Except TokenError VerifiedToken :=
  match Compact.decode t kind (g.keys.forKind kind) with
  | .error e => .error e
  | .ok c => if c.expires < now then .error .expired else .ok ⟨c.body.user, c.expires⟩

/-- A new token with the lifetime of its kind. -/
def issue (g : Issuer) (now : Instant) (i : Identity) (kind : TokenKind) :
    Except TokenError IssuedToken :=
  match expiry now (g.policy.lifetime kind) with
  | .error e => .error e
  | .ok expires => .ok ⟨g.create i expires kind, expires⟩

end Issuer

end TokenAuth
