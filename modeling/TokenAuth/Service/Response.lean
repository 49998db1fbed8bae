import TokenAuth.Service.Refusal

/-!
Requests to the service and its answers. The path of a request is the target without its query; of an
absolute target the scheme and the host are left out as well.
-/
namespace TokenAuth.Service

structure Response where
  status : Nat
  body : List Char
  contentType : Option String
  /-- The methods that would be answered. -/
  allow : Option String
  deriving DecidableEq

namespace Response

def json (status : Nat) (body : List Char) : Response := ⟨status, body, some "application/json", none⟩

def ok (body : List Char) : Response := json 200 body

def refused (r : Refusal) : Response := json r.status r.body

def notFound : Response := ⟨404, [], none, none⟩

def methodNotAllowed : Response := ⟨405, [], none, none⟩

end Response

/-- The path up to a query or a fragment. -/
def cutQuery (cs : List Char) : List Char := cs.takeWhile fun c => c != '?' && c != '#'

/-- What follows the two slashes before the host of an absolute target. -/
def afterScheme : List Char → Option (List Char)
  | ':' :: '/' :: '/' :: r => some r
  | _ :: r => afterScheme r
  | [] => none

/-- The path that a target names. -/
def pathOf (target : List Char) : List Char :=
  match target with
  | '/' :: _ => cutQuery target
  | _ =>
    match afterScheme target with
    | none => if target = ['*'] then target else []
    | some r =>
      match cutQuery (r.dropWhile fun c => c != '/' && c != '?' && c != '#') with
      | [] => ['/']
      | path => path

end TokenAuth.Service
