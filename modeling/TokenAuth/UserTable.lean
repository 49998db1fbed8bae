import TokenAuth.Identity
import TokenAuth.NewUser

/-!
The table of users. Numbers ascend: a new row gets a number above all that were ever used, so numbers
are not used twice, and email addresses are unique. Rows hold plain texts and seconds; a row becomes a
user again only if its fields are accepted.
-/
namespace TokenAuth

structure UserRow where
  id : Int64
  name : String
  email : String
  hash : String
  created : Int64
  deriving DecidableEq

/-- The rows in the order of their insertion, and the largest number used so far, at least zero. -/
structure UserTable where
  rows : List UserRow
  lastId : Int64
  deriving DecidableEq

inductive StoreError
  | numbersUsedUp
  | idTaken
  | emailTaken
  | closed
  | cannotOpen
  deriving DecidableEq

def StoreError.message : StoreError → String
  | numbersUsedUp => "error returned from database: (code: 13) database or disk is full"
  | idTaken => "error returned from database: (code: 1555) UNIQUE constraint failed: users.id"
  | emailTaken => "error returned from database: (code: 2067) UNIQUE constraint failed: users.email"
  | closed => "attempted to acquire a connection on a closed pool"
  | cannotOpen => "error returned from database: (code: 14) unable to open database file"

/-- What can go wrong when a user is looked up. -/
inductive LookupError
  | store (e : StoreError)
  | created (id : Int64)
  | field (e : FieldError)
  | hash (e : HashError)
  deriving DecidableEq

def LookupError.message : LookupError → String
  | store e => e.message
  | created id => "Invalid creation time of user " ++ String.ofList (Text.decimalInt id.toInt)
  | field e => e.message
  | hash e => e.message

structure StoredUser where
  identity : Identity
  hash : StoredHash
  deriving DecidableEq

def UserRow.toUser (r : UserRow) : Except LookupError StoredUser :=
  match Instant.ofSeconds? r.created.toInt with
  | none => .error (.created r.id)
  | some created =>
    match Username.ofText r.name with
    | .error e => .error (.field e)
    | .ok name =>
      match Email.ofText r.email with
      | .error e => .error (.field e)
      | .ok email =>
        match StoredHash.ofText r.hash with
        | .error e => .error (.field e)
        | .ok hash => .ok ⟨⟨r.id, name, email, created⟩, hash⟩

namespace UserTable

def empty : UserTable := ⟨[], 0⟩

def largestId : Int64 := 9223372036854775807

/-- The number of the next row that does not bring its own. -/
def nextId? (t : UserTable) : Option Int64 :=
  if t.lastId = largestId then none else some (t.lastId + 1)

/-- Adds a row under a number that is given or the next one. -/
def insert (t : UserTable) (id? : Option Int64) (name email hash : String) (created : Int64) :
    Except StoreError (Int64 × UserTable) :=
  match id? <|> t.nextId? with
  | none => .error .numbersUsedUp
  | some id =>
    if t.rows.any (·.id = id) then .error .idTaken
    else if t.rows.any (·.email = email) then .error .emailTaken
    else .ok (id, ⟨t.rows ++ [⟨id, name, email, hash, created⟩], max t.lastId id⟩)

/-- Stores a new user. The table keeps the whole second of the creation. -/
def add (t : UserTable) (u : NewUser) : Except StoreError (Identity × UserTable) :=
  match t.insert none u.name.text u.email.text u.hash.text (Int64.ofInt u.created.seconds) with
  | .error e => .error e
  | .ok (id, t) => .ok (⟨id, u.name, u.email, u.created⟩, t)

def row? (t : UserTable) (email : String) : Option UserRow := t.rows.find? (·.email = email)

def find (t : UserTable) (email : Email) : Except LookupError (Option StoredUser) :=
  match t.row? email.text with
  | none => .ok none
  | some r =>
    match r.toUser with
    | .error e => .error e
    | .ok u => .ok (some u)

/-- Who logs in with a name and a password. No one if the name is unknown or no email address, or if
the password does not match. -/
def authenticate (t : UserTable) (username : String) (password : Password) :
    Except LookupError (Option Identity) :=
  match Email.ofText username with
  | .error _ => .ok none
  | .ok email =>
    match t.find email with
    | .error e => .error e
    | .ok none => .ok none
    | .ok (some u) =>
      match password.verify u.hash with
      | .error e => .error (.hash e)
      | .ok true => .ok (some u.identity)
      | .ok false => .ok none

end UserTable

end TokenAuth
