import TokenAuth.Content.Record
import TokenAuth.Email
import TokenAuth.Json.Record
import TokenAuth.Json.Writer
import TokenAuth.Rfc3339
import TokenAuth.Username

/-!
Who a user is: a number, a name, an email address and the instant of creation. An identity is written
into every token and believed as long as the token is valid.
-/
namespace TokenAuth

structure Identity where
  id : Int64
  name : Username
  email : Email
  created : Instant
  deriving DecidableEq

namespace Identity

/-- What audit records call a user. Only the last underscore parts the name from the number. -/
def subject (i : Identity) : String :=
  String.ofList ("user_".toList ++ i.name.text.toList ++ '_' :: Text.decimalInt i.id.toInt)

def render (i : Identity) : List Char :=
  Json.renderObject [
    ("id", Json.renderInt i.id.toInt),
    ("name", Json.renderText i.name.text),
    ("email", Json.renderText i.email.text),
    ("created", Json.quoted (Rfc3339.render i.created))]

/-- The fields of an identity that have been read so far. -/
structure Draft where
  id : Option Int64
  name : Option Username
  email : Option Email
  created : Option Instant

namespace Draft

def empty : Draft := ⟨none, none, none, none⟩

def finish (d : Draft) : Option Identity := do
  let id ← d.id
  let name ← d.name
  let email ← d.email
  let created ← d.created
  pure ⟨id, name, email, created⟩

end Draft

def name? (s : String) : Option Username := (Username.ofText s).toOption

def email? (s : String) : Option Email := (Email.ofText s).toOption

def created? (s : String) : Option Instant := Rfc3339.read? s.toList

def id? : Content → Option Int64
  | .whole n => if -9223372036854775808 ≤ n ∧ n ≤ 9223372036854775807 then some (Int64.ofInt n) else none
  | _ => none

def jsonFields : List (Json.Field Draft) := [
  ⟨"id", fun d => d.id.isSome, fun d cs => (Json.readInt64 cs).map fun p =>
    ({ d with id := some p.1 }, p.2)⟩,
  ⟨"name", fun d => d.name.isSome, fun d cs => (Json.readVia name? cs).map fun p =>
    ({ d with name := some p.1 }, p.2)⟩,
  ⟨"email", fun d => d.email.isSome, fun d cs => (Json.readVia email? cs).map fun p =>
    ({ d with email := some p.1 }, p.2)⟩,
  ⟨"created", fun d => d.created.isSome, fun d cs => (Json.readVia created? cs).map fun p =>
    ({ d with created := some p.1 }, p.2)⟩]

def readJson : Json.Reader Identity := Json.readRecord jsonFields Draft.empty Draft.finish

def contentFields : List (Content.Field Draft) := [
  ⟨"id", fun d => d.id.isSome, fun d c => (id? c).map fun x => { d with id := some x }⟩,
  ⟨"name", fun d => d.name.isSome, fun d c =>
    (c.text?.bind name?).map fun x => { d with name := some x }⟩,
  ⟨"email", fun d => d.email.isSome, fun d c =>
    (c.text?.bind email?).map fun x => { d with email := some x }⟩,
  ⟨"created", fun d => d.created.isSome, fun d c =>
    match c with
    | .text s => (created? s).map fun x => { d with created := some x }
    | _ => none⟩]

def ofContent? : Content → Option Identity :=
  Content.record? contentFields Draft.empty Draft.finish

end Identity

end TokenAuth
