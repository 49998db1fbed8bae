/-!
The two kinds of tokens: short-lived ones that every call presents, and long-lived ones that only
serve to obtain new tokens. The tag of its kind is written into a token.
-/
namespace TokenAuth

inductive TokenKind
  | access
  | refresh
  deriving DecidableEq, Repr

namespace TokenKind

def tag : TokenKind → String
  | access => "access-tkn"
  | refresh => "refresh-tkn"

def ofTag? (s : String) : Option TokenKind :=
  if s = access.tag then some access else if s = refresh.tag then some refresh else none

theorem tag_injective {k l : TokenKind} (h : k.tag = l.tag) : k = l := by
  cases k <;> cases l <;> first | rfl | exact absurd h (by decide)

theorem ofTag?_tag (k : TokenKind) : ofTag? k.tag = some k := by cases k <;> decide

end TokenKind

end TokenAuth
