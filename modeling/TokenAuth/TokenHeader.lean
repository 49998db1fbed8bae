import TokenAuth.Content.Record
import TokenAuth.Json.Content
import TokenAuth.Json.Writer
import TokenAuth.Text.Base64
import TokenAuth.TokenKind

/-!
Headers of tokens: the algorithm of the signature, the format of the claims and the tag of the kind.
Other members that headers may have are checked and dropped.
-/
namespace TokenAuth

structure TokenHeader where
  algorithm : String
  contentType : Option String
  kindTag : Option String
  deriving DecidableEq

namespace TokenHeader

/-- The only algorithm for signatures. -/
def hs256 : String := "HS256"

/-- The header of new tokens. -/
def render (kind : TokenKind) : List Char :=
  Json.renderObject [("alg", Json.renderText hs256), ("typ", Json.renderText kind.tag)]

/-- Drops one `=` at the end. -/
def dropPad (cs : List Char) : List Char :=
  if cs.getLast? = some '=' then cs.dropLast else cs

/-- A fingerprint of `size` bytes in base64, or a longer text in base64, with up to two pads. -/
def isThumbprint (size : Nat) (s : String) : Bool :=
  let cs := dropPad (dropPad s.toList)
  let decoded := Text.Base64.decode .urlSafe cs
  if cs.length * 3 / 4 < size then false
  else if cs.length * 3 / 4 = size then decoded.isSome
  else (decoded.bind Text.ofUtf8?).isSome

/-- What has been read so far. Of the other members only the names are kept. -/
structure Draft where
  algorithm : Option String
  contentType : Option (Option String)
  kindTag : Option (Option String)
  seen : List String

namespace Draft

def empty : Draft := ⟨none, none, none, []⟩

def finish (d : Draft) : Option TokenHeader :=
  d.algorithm.map fun a => ⟨a, d.contentType.getD none, d.kindTag.getD none⟩

end Draft

/-- A member that must be null or a text of a certain form. -/
def otherField (name : String) (isForm : String → Bool) : Content.Field Draft :=
  ⟨name, fun d => d.seen.contains name, fun d c =>
    match c.optionalText? with
    | none => none
    | some s => if s.all isForm then some { d with seen := name :: d.seen } else none⟩

def contentFields : List (Content.Field Draft) := [
  ⟨"alg", fun d => d.algorithm.isSome, fun d c =>
    c.text?.map fun s => { d with algorithm := some s }⟩,
  ⟨"cty", fun d => d.contentType.isSome, fun d c =>
    c.optionalText?.map fun s => { d with contentType := some s }⟩,
  ⟨"typ", fun d => d.kindTag.isSome, fun d c =>
    c.optionalText?.map fun s => { d with kindTag := some s }⟩,
  otherField "kid" fun _ => true,
  otherField "jku" fun _ => true,
  otherField "x5u" fun _ => true,
  otherField "x5t" (isThumbprint 20),
  otherField "x5t#S256" (isThumbprint 32)]

/-- Reads a header that is one object. -/
def read? (cs : List Char) : Option TokenHeader := do
  let entries ← Json.entries? cs
  Content.record? contentFields Draft.empty Draft.finish
    (.map (entries.map fun e => (.text e.1, e.2)))

end TokenHeader

end TokenAuth
