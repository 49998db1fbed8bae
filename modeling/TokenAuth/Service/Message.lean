import TokenAuth.Service.Server
import TokenAuth.Text.Decimal

/-!
Requests and answers as lines of text. The head of a request is a line with the method and the target,
then a line for each header. The lines of an answer are its status, its headers, an empty line and its
body.
-/
namespace TokenAuth.Service

open Text

def decimalText (n : Nat) : String := String.ofList (decimal n)

/-- A header. The first colon ends its name. -/
def readHeaderLine (line : String) : Option (String × List UInt8) :=
  (cutFirst ':' line.toList).map fun (name, value) =>
    (String.ofList name, utf8 (String.ofList (trim value)))

def Request.ofHead? : List String → Option Request
  | [] => none
  | first :: headers =>
    match parts ' ' first.toList with
    | method :: target :: _ =>
      (headers.mapM readHeaderLine).map fun h => ⟨String.ofList method, target, h, ""⟩
    | _ => none

namespace Response

def reason : Nat → String
  | 200 => "OK"
  | 400 => "Bad Request"
  | 401 => "Unauthorized"
  | 404 => "Not Found"
  | 405 => "Method Not Allowed"
  | _ => "Internal Server Error"

def headers (r : Response) : List (String × String) :=
  (r.contentType.map fun s => ("content-type", s)).toList ++
    (r.allow.map fun s => ("allow", s)).toList ++
    [("content-length", decimalText (String.ofList r.body).utf8ByteSize)]

def lines (r : Response) : List String :=
  ("HTTP/1.1 " ++ decimalText r.status ++ " " ++ reason r.status) ::
    (r.headers.map fun h => h.1 ++ ": " ++ h.2) ++ ["", String.ofList r.body]

/-- The answer to what is no request. -/
def badRequest : Response := ⟨400, [], none, none⟩

end Response

end TokenAuth.Service
