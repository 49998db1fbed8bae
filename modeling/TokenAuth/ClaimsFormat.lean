import TokenAuth.Cbor
import TokenAuth.Claims

/-!
Claims as the bytes of a token: a JSON object, or a CBOR map. Besides the body they hold the instant of
expiry and may hold two other instants, each at most once and in range. JSON is written; both are read.
-/
namespace TokenAuth

inductive ClaimsFormat
  | json
  | cbor
  deriving DecidableEq

/-- Claims as they are read. An expiry may be missing. -/
structure UntrustedClaims where
  expires : Option Instant
  body : ClaimsBody

namespace ClaimsFormat

/-- The format that a header names, in letters of either case. JSON need not be named. -/
def ofContentType? : Option String → Option ClaimsFormat
  | none => some json
  | some s =>
    let name := s.toList.map Char.toLower
    if name = "json".toList then some json
    else if name = "cbor".toList then some cbor
    else none

/-- The members read so far, the last one first. -/
structure Draft where
  times : List (String × Instant)
  others : List (String × Content)

namespace Draft

def empty : Draft := ⟨[], []⟩

/-- The names of the members that are instants. -/
def isTime (name : String) : Bool := name == "exp" || name == "nbf" || name == "iat"

def addTime (d : Draft) (name : String) (t : Option Instant) : Option Draft :=
  if (d.times.lookup name).isSome then none
  else t.map fun t => { d with times := (name, t) :: d.times }

def addOther (d : Draft) (name : String) (c : Content) : Draft :=
  { d with others := (name, c) :: d.others }

def finish (d : Draft) : Option UntrustedClaims :=
  (ClaimsBody.ofEntries? d.others.reverse).map fun body => ⟨d.times.lookup "exp", body⟩

end Draft

/-- Seconds since 1970, without a fraction. -/
def timeOf? : Content → Option Instant
  | .whole n => Instant.ofSeconds? n
  | .real (some n) => Instant.ofSeconds? n
  | _ => none

def addEntry (d : Draft) (e : String × Content) : Option Draft :=
  if Draft.isTime e.1 then d.addTime e.1 (timeOf? e.2) else some (d.addOther e.1 e.2)

def readJson (cs : List Char) : Option UntrustedClaims := do
  let entries ← Json.entries? cs
  let d ← entries.foldlM addEntry Draft.empty
  d.finish

/-- How deep arrays and maps may be nested in a CBOR map. -/
def cborDepth : Nat := 255

def readCborMember (d : Draft) (bs : List UInt8) : Option (Draft × List UInt8) := do
  let (name, bs) ← Cbor.readName bs
  if Draft.isTime name then do
    let (n, bs) ← Cbor.readWhole (bs.length + 1) bs
    let d ← d.addTime name (Instant.ofSeconds? n)
    pure (d, bs)
  else do
    let (c, bs) ← Cbor.readContent cborDepth bs
    pure (d.addOther name c, bs)

/-- Reads a map behind any tags. What follows it is not looked at. -/
def readCbor (bs : List UInt8) : Option UntrustedClaims := do
  let (h, r) ← Cbor.skipTags (bs.length + 1) bs
  if h.kind = .map then do
    let (d, _) ← Cbor.readItems readCborMember (r.length + 1) h.argument Draft.empty r
    d.finish
  else none

def read (f : ClaimsFormat) (bs : List UInt8) : Option UntrustedClaims :=
  match f with
  | json => (Text.ofUtf8? bs).bind fun s => readJson s.toList
  | cbor => readCbor bs

/-- The claims of new tokens. Only whole seconds of the expiry are kept. -/
def render (c : Claims) : List Char :=
  Json.renderObject (("exp", Json.renderInt c.expires.seconds) :: c.body.members)

end ClaimsFormat

end TokenAuth
