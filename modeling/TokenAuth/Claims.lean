import TokenAuth.Crypto.Sha256
import TokenAuth.Identity
import TokenAuth.Text.Base64
import TokenAuth.TokenKind

/-!
What a token states: the identity of its user, the subject for audit records, in access tokens a tag
for correlating records, and when it expires.
-/
namespace TokenAuth

structure ClaimsBody where
  user : Identity
  subject : String
  idHash : Option String
  deriving DecidableEq

structure Claims where
  kind : TokenKind
  expires : Instant
  body : ClaimsBody
  deriving DecidableEq

/-- A tag over name, email address and kind. It is neither unique nor ever checked. -/
def Identity.hash (i : Identity) (kind : TokenKind) : String :=
  String.ofList <| Text.Base64.encode .urlSafe <| Crypto.Sha256.digest <|
    Text.utf8 i.name.text ++ Text.utf8 i.email.text ++ Text.utf8 kind.tag

def Claims.ofIdentity (i : Identity) (expires : Instant) (kind : TokenKind) : Claims where
  kind
  expires
  body :=
    { user := i
      subject := i.subject
      idHash := match kind with
        | .access => some (i.hash kind)
        | .refresh => none }

namespace ClaimsBody

def members (b : ClaimsBody) : List (String × List Char) :=
  [("user", b.user.render), ("sub", Json.renderText b.subject)] ++
    match b.idHash with
    | some h => [("jti", Json.renderText h)]
    | none => []

def render (b : ClaimsBody) : List Char := Json.renderObject b.members

/-- The fields that have been read so far. The tag may be given as null. -/
structure Draft where
  user : Option Identity
  subject : Option String
  idHash : Option (Option String)

namespace Draft

def empty : Draft := ⟨none, none, none⟩

def finish (d : Draft) : Option ClaimsBody := do
  let user ← d.user
  let subject ← d.subject
  pure ⟨user, subject, d.idHash.getD none⟩

end Draft

def jsonFields : List (Json.Field Draft) := [
  ⟨"user", fun d => d.user.isSome, fun d cs => (Identity.readJson cs).map fun p =>
    ({ d with user := some p.1 }, p.2)⟩,
  ⟨"sub", fun d => d.subject.isSome, fun d cs => (Json.readText cs).map fun p =>
    ({ d with subject := some p.1 }, p.2)⟩,
  ⟨"jti", fun d => d.idHash.isSome, fun d cs => (Json.readOptionalText cs).map fun p =>
    ({ d with idHash := some p.1 }, p.2)⟩]

def readJson : Json.Reader ClaimsBody := Json.readRecord jsonFields Draft.empty Draft.finish

def contentFields : List (Content.Field Draft) := [
  ⟨"user", fun d => d.user.isSome, fun d c =>
    (Identity.ofContent? c).map fun x => { d with user := some x }⟩,
  ⟨"sub", fun d => d.subject.isSome, fun d c => c.text?.map fun x => { d with subject := some x }⟩,
  ⟨"jti", fun d => d.idHash.isSome, fun d c =>
    c.optionalText?.map fun x => { d with idHash := some x }⟩]

/-- The body among the members of a claims object. -/
def ofEntries? (entries : List (String × Content)) : Option ClaimsBody :=
  Content.record? contentFields Draft.empty Draft.finish
    (.map (entries.map fun e => (.text e.1, e.2)))

end ClaimsBody

end TokenAuth
