import TokenAuth.Text.Hex

/-!
What can be wrong with a JSON text that is read as a value of some type, and how readers report it. A
reader takes the text from some place on and answers with a value and the rest of the text; the first
fault in the order of the text is the one reported.
-/
namespace TokenAuth.Json

inductive Fault
  /-- The text ends too early. -/
  | truncated
  /-- The text is not JSON. -/
  | malformed
  /-- A value is not of the type expected, or a member is missing, repeated or refused. -/
  | unsuitable
  deriving DecidableEq, Repr

abbrev Reader (α : Type) := List Char → Except Fault (α × List Char)

def isSpace (c : Char) : Bool := c == ' ' || c == '\n' || c == '\t' || c == '\r'

def skipSpaces (cs : List Char) : List Char := cs.dropWhile isSpace

/-- Reads the given characters and nothing else. -/
def readLiteral : List Char → Reader Unit
  | [], r => .ok ((), r)
  | _ :: _, [] => .error .truncated
  | e :: es, c :: r => if c = e then readLiteral es r else .error .malformed

/-- The colon between the name of a member and its value. -/
def readColon (cs : List Char) : Except Fault (List Char) :=
  match skipSpaces cs with
  | [] => .error .truncated
  | c :: r => if c = ':' then .ok r else .error .malformed

/-- Reads a text as one value, with nothing but spaces after it. -/
def readAll (read : Reader α) (cs : List Char) : Except Fault α :=
  match read cs with
  | .error f => .error f
  | .ok (a, r) => if skipSpaces r = [] then .ok a else .error .malformed

end TokenAuth.Json
