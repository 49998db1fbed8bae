import TokenAuth.Json.Quoted
import TokenAuth.Text.Decimal

/-!
Values as compact JSON text, without spaces, members in the order given.
-/
namespace TokenAuth.Json

open Text

def renderText (s : String) : List Char := quoted s.toList

def renderInt (n : Int) : List Char := decimalInt n

def renderMember (m : String × List Char) : List Char := quoted m.1.toList ++ ':' :: m.2

def renderMembers : List (String × List Char) → List Char
  | [] => []
  | [m] => renderMember m
  | m :: ms => renderMember m ++ ',' :: renderMembers ms

/-- An object with these names and written values. -/
def renderObject (ms : List (String × List Char)) : List Char := '{' :: renderMembers ms ++ ['}']

end TokenAuth.Json
