import TokenAuth.ClaimsFormat
import TokenAuth.Crypto.Hmac
import TokenAuth.SignedToken
import TokenAuth.Text.Cut
import TokenAuth.TokenError
import TokenAuth.TokenHeader

/-!
The compact form of tokens: header, claims and signature in base64 with dots between them. The
signature is an authentication code of all that stands before the last dot. A token is read, its kind
is checked, and only then its signature and what it claims. If nothing but the signature keeps a token
from being read, that is a wrong signature.
-/
namespace TokenAuth

structure SigningKey where
  text : String
  text_ne : text ≠ ""

def SigningKey.ofText (s : String) (kind : TokenKind) : Except TokenError SigningKey :=
  if h : s = "" then .error (.emptyKey kind) else .ok ⟨s, h⟩

namespace Compact

open Text

def segment (bs : List UInt8) : List Char := Base64.encode .urlSafe bs

def readSegment (cs : List Char) : Option (List UInt8) := Base64.decode .urlSafe cs

def textSegment (cs : List Char) : List Char := segment (utf8 (String.ofList cs))

/-- What a signature covers: header and claims. -/
def signedPart (c : Claims) : List Char :=
  textSegment (TokenHeader.render c.kind) ++ '.' :: textSegment (ClaimsFormat.render c)

def signature (key : SigningKey) (signed : List Char) : List UInt8 :=
  Crypto.Hmac.code (utf8 key.text) (utf8 (String.ofList signed))

def render (c : Claims) (key : SigningKey) : List Char :=
  signedPart c ++ '.' :: segment (signature key (signedPart c))

theorem isBlank_of_mem_render {c : Claims} {key : SigningKey} {x : Char} (h : x ∈ render c key) :
    isBlank x = false := by
  simp only [render, signedPart, textSegment, segment, List.mem_append, List.mem_cons] at h
  rcases h with (h | rfl | h) | rfl | h
  · exact Base64.isBlank_of_mem_encode h
  · decide
  · exact Base64.isBlank_of_mem_encode h
  · decide
  · exact Base64.isBlank_of_mem_encode h

/-- Signs claims. -/
def encode (c : Claims) (key : SigningKey) : SignedToken where
  text := String.ofList (render c key)
  text_ne := by
    intro h
    have := congrArg String.toList h
    simp [render] at this
  text_trimmed := by
    simp [trimmed, trim_of_no_blank fun _ h => isBlank_of_mem_render h]

/-- A token that can be read but has not been verified. -/
structure Untrusted where
  header : TokenHeader
  format : ClaimsFormat
  claims : List UInt8
  signature : List UInt8
  signed : List Char

/-- Reads the three segments of a token. -/
def readSegments (header claims signature : List Char) : Except TokenDefect Untrusted :=
  match readSegment header, readSegment claims, readSegment signature with
  | some h, some c, some s =>
    match (ofUtf8? h).bind fun t => TokenHeader.read? t.toList with
    | none => .error .header
    | some h =>
      match ClaimsFormat.ofContentType? h.contentType with
      | some f => .ok ⟨h, f, c, s, header ++ '.' :: claims⟩
      | none => .error (.contentType (h.contentType.getD ""))
  | _, _, _ => .error .base64

def read (cs : List Char) : Except TokenDefect Untrusted :=
  match parts '.' cs with
  | [header, claims, signature] => readSegments header claims signature
  | _ => .error .segments

def checkKind (u : Untrusted) (expected : TokenKind) : Except TokenError Unit :=
  if u.header.kindTag = some expected.tag then .ok ()
  else .error (.kindMismatch expected u.header.kindTag)

/-- Why a token that cannot be read is refused. With its signature left empty it may well be read. -/
def refusal (cs : List Char) (expected : TokenKind) (defect : TokenDefect) : TokenError :=
  match cutLast '.' cs with
  | none => .malformed defect
  | some (signed, _) =>
    match read (signed ++ ['.']) with
    | .error _ => .malformed defect
    | .ok u =>
      match checkKind u expected with
      | .error e => e
      | .ok () => .invalidSignature

/-- Checks algorithm and signature of a token and takes its claims. -/
def verify (u : Untrusted) (kind : TokenKind) (key : SigningKey) : Except TokenError Claims :=
  if u.header.algorithm ≠ TokenHeader.hs256 then .error (.malformed (.algorithm u.header.algorithm))
  else if u.signature.length ≠ 32 then .error .invalidSignature
  else
    match u.format.read u.claims with
    | none => .error (.malformed .claims)
    | some c =>
      if signature key u.signed ≠ u.signature then .error .invalidSignature
      else
        match c.expires with
        | none => .error (.malformed .noExpiry)
        | some expires => .ok ⟨kind, expires, c.body⟩

/-- The claims of a token of the expected kind. Whether it has expired is not looked at. -/
def decode (t : SignedToken) (expected : TokenKind) (key : SigningKey) : Except TokenError Claims :=
  match read t.text.toList with
  | .error defect => .error (refusal t.text.toList expected defect)
  | .ok u =>
    match checkKind u expected with
    | .error e => .error e
    | .ok () => verify u expected key

end Compact

end TokenAuth
