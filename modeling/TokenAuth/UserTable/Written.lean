import TokenAuth.Json.Content
import TokenAuth.Json.Writer
import TokenAuth.UserTable

/-!
Tables of users as text: a line with the largest number used so far, then a line for each row, which is
one JSON object.
-/
namespace TokenAuth.UserTable

open Text

def renderRow (r : UserRow) : List Char :=
  Json.renderObject [("id", Json.renderInt r.id.toInt), ("name", Json.renderText r.name),
    ("email", Json.renderText r.email), ("hash", Json.renderText r.hash),
    ("created", Json.renderInt r.created.toInt)]

def render (t : UserTable) : List Char :=
  Json.renderInt t.lastId.toInt ++ t.rows.flatMap fun r => '\n' :: renderRow r

def readRow? (cs : List Char) : Option UserRow := do
  let members ← Json.entries? cs
  let id ← (members.lookup "id").bind Identity.id?
  let name ← (members.lookup "name").bind Content.text?
  let email ← (members.lookup "email").bind Content.text?
  let hash ← (members.lookup "hash").bind Content.text?
  let created ← (members.lookup "created").bind Identity.id?
  pure ⟨id, name, email, hash, created⟩

def read? (cs : List Char) : Option UserTable :=
  match parts '\n' cs with
  | last :: rows =>
    if last ≠ [] ∧ last.all isDigit then
      (rows.mapM readRow?).map fun rows => ⟨rows, Int64.ofInt (numberOf last)⟩
    else none
  | [] => none

end TokenAuth.UserTable
