import TokenAuth.Email
import TokenAuth.Instant
import TokenAuth.Password
import TokenAuth.Username

/-!
Users about to be stored. A password that is not given is drawn at random.
-/
namespace TokenAuth

structure NewUser where
  name : Username
  email : Email
  hash : StoredHash
  created : Instant

namespace NewUser

def alphabet : List Char :=
  "ABCDEFGHIJKLMNOPQRSTUVWXYZabcdefghijklmnopqrstuvwxyz0123456789".toList

/-- Letters and digits picked by the numbers drawn for their places. -/
def randomText (length : Nat) (draw : Nat → Nat) : String :=
  String.ofList ((List.range length).map fun i => alphabet.getD (draw i % 62) 'A')

def passwordLength : Nat := 32

def randomPassword (draw : Nat → Nat) : Password :=
  ⟨randomText passwordLength draw, by
    intro h
    have := congrArg (fun s => s.toList.length) h
    simp [randomText, passwordLength] at this⟩

/-- Hashes the password; a user counts as created at the start of the second. -/
def ofPassword (name : Username) (email : Email) (password : Password) (salt : List UInt8)
    (now : Instant) : NewUser :=
  ⟨name, email, password.hash salt, now.floor⟩

end NewUser

end TokenAuth
