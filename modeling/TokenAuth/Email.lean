import TokenAuth.Domain.Name
import TokenAuth.FieldError
import TokenAuth.IpAddress

/-!
Email addresses, which users log in with. The last at sign divides an address into a local part and a
domain; the domain is a host name, an internationalised name that has such an ASCII form, or ends in an
IP address in brackets.
-/
namespace TokenAuth

open Text

namespace Email

/-- Letters of either case. Upper and lower case of `s` and `k` include the long s and the kelvin
sign. -/
def isLetter (c : Char) : Bool :=
  ('a' ≤ c && c ≤ 'z') || ('A' ≤ c && c ≤ 'Z') || c == '\u017F' || c == '\u212A'

def isAlphanumeric (c : Char) : Bool := isLetter c || isDigit c

def isLocalChar (c : Char) : Bool :=
  isAlphanumeric c || ".!#$%&'*+/=?^_\x60\x7b|\x7d~-".toList.contains c

/-- Letters, digits and inner hyphens, at most 63 characters. -/
def isHostLabel (label : List Char) : Bool :=
  label != [] && label.length ≤ 63 && label.head?.any isAlphanumeric &&
    label.getLast?.any isAlphanumeric && label.all fun c => isAlphanumeric c || c == '-'

def isHostName (domain : List Char) : Bool := (parts '.' domain).all isHostLabel

/-- Whether a text ends in an IP address in brackets. No address holds a bracket, so the last one that
opens is the one that counts. -/
def endsInAddress (domain : List Char) : Bool :=
  match cutLast '[' domain with
  | none => false
  | some (_, inner) =>
    inner.getLast? == some ']' && (IpAddress.read? inner.dropLast).isSome

def isDomain (domain : List Char) : Bool := isHostName domain || endsInAddress domain

def accepts (text : List Char) : Bool :=
  match cutLast '@' text with
  | none => false
  | some (localPart, domain) =>
    localPart != [] && localPart.length ≤ 64 && domain.length ≤ 255 && localPart.all isLocalChar &&
      (isDomain domain ||
        match Domain.toAscii? domain with
        | some ascii => isDomain ascii
        | none => false)

end Email

structure Email where
  text : String
  accepted : Email.accepts text.toList = true
  deriving DecidableEq

namespace Email

def ofText (s : String) : Except FieldError Email :=
  if h : accepts s.toList = true then .ok ⟨s, h⟩ else .error .email

theorem ofText_text (e : Email) : ofText e.text = .ok e := by
  simp [ofText, e.accepted]

end Email

end TokenAuth
