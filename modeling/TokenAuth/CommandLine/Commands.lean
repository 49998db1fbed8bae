import TokenAuth.CommandLine.Grammar
import TokenAuth.Issuer
import TokenAuth.NewUser
import TokenAuth.UserTable

/-!
The two commands: `run` starts the service, `user` adds a user who can log in. Options not given have
fixed values. The service starts only with two keys that are not empty, an address it can listen on, and
a renewal threshold below the lifetime of refresh tokens.
-/
namespace TokenAuth.CommandLine

open Text

/-- Ten years, the longest lifetime and threshold. -/
def largestMinutes : Int := 5256000

/-- Decimal digits after an optional sign. -/
def integer? (s : String) : Option Int :=
  match s.toList with
  | '-' :: ds => if ds ≠ [] ∧ ds.all isDigit then some (-(numberOf ds)) else none
  | '+' :: ds => if ds ≠ [] ∧ ds.all isDigit then some (numberOf ds) else none
  | ds => if ds ≠ [] ∧ ds.all isDigit then some (numberOf ds) else none

/-- Minutes within the bounds. -/
def minutes? (s : String) : Option Int :=
  (integer? s).bind fun n => if 1 ≤ n ∧ n ≤ largestMinutes then some n else none

def textOption (long : String) (letter : Option Char) : OptionSpec :=
  ⟨long, letter, none, false, fun _ => true⟩

def keyOption (long variableName : String) : OptionSpec :=
  ⟨long, none, some variableName, true, fun _ => true⟩

def minutesOption (long : String) : OptionSpec :=
  ⟨long, none, none, false, fun s => (minutes? s).isSome⟩

def databaseOption : OptionSpec := textOption "db-file-path" (some 'd')

def defaultDatabase : String := "./users.db"

def databaseOf (v : Values) : String := (v.lookup "db-file-path").getD defaultDatabase

/-- Why a command fails. -/
inductive Failure
  | socketAddress
  | token (e : TokenError)
  | threshold
  | field (e : FieldError)
  | store (e : StoreError)
  | addressInUse
  | addressNotAvailable
  deriving DecidableEq

def Failure.message : Failure → String
  | socketAddress => "invalid socket address syntax"
  | token e => e.message
  | threshold => "Renewal threshold must be shorter than the refresh token lifetime"
  | field e => e.message
  | store e => e.message
  | addressInUse => "Address already in use (os error 98)"
  | addressNotAvailable => "Cannot assign requested address (os error 99)"

/-- What the service is started with. -/
structure Configuration where
  listen : SocketAddress
  issuer : Issuer
  database : String

namespace Run

def accessKeyVariable : String := "ACCESS_TOKEN_KEY"

def refreshKeyVariable : String := "REFRESH_TOKEN_KEY"

def spec : Spec := [
  textOption "listen-address" (some 'l'),
  textOption "port" (some 'p'),
  keyOption "access-token-key" accessKeyVariable,
  keyOption "refresh-token-key" refreshKeyVariable,
  minutesOption "access-token-mins",
  minutesOption "refresh-token-mins",
  minutesOption "renewal-threshold-mins",
  databaseOption]

def defaultAddress : String := "127.0.0.1"

def defaultPort : String := "50051"

/-- The address and the port with a colon between them, read as one. -/
def listen? (v : Values) : Option SocketAddress :=
  let address := (v.lookup "listen-address").getD defaultAddress
  let port := (v.lookup "port").getD defaultPort
  SocketAddress.read? (address.toList ++ ':' :: port.toList)

def minutesOf (v : Values) (long : String) (default : Int) : Duration :=
  .ofMinutes (((v.lookup long).bind minutes?).getD default)

def policyOf (v : Values) : Policy :=
  ⟨minutesOf v "access-token-mins" Policy.accessMinutes,
    minutesOf v "refresh-token-mins" Policy.refreshMinutes,
    minutesOf v "renewal-threshold-mins" Policy.thresholdMinutes⟩

def configure (v : Values) : Except Failure Configuration :=
  match listen? v with
  | none => .error .socketAddress
  | some listen =>
    match Keys.ofTexts ((v.lookup "access-token-key").getD "")
        ((v.lookup "refresh-token-key").getD "") with
    | .error e => .error (.token e)
    | .ok keys =>
      let policy := policyOf v
      if policy.renewalThreshold < policy.refreshLifetime then
        .ok ⟨listen, ⟨keys, policy⟩, databaseOf v⟩
      else .error .threshold

end Run

/-- A user to be added, as the fields on the line are accepted. -/
structure UserRequest where
  name : Username
  email : Email
  password : Option Password
  database : String

namespace AddUser

def spec : Spec := [
  ⟨"name", some 'n', none, true, fun _ => true⟩,
  ⟨"email", some 'e', none, true, fun _ => true⟩,
  textOption "password" (some 'p'),
  databaseOption]

def password? (v : Values) : Except FieldError (Option Password) :=
  match v.lookup "password" with
  | none => .ok none
  | some s => (Password.ofText s).map some

def request (v : Values) : Except Failure UserRequest :=
  match Username.ofText ((v.lookup "name").getD "") with
  | .error e => .error (.field e)
  | .ok name =>
    match Email.ofText ((v.lookup "email").getD "") with
    | .error e => .error (.field e)
    | .ok email =>
      match password? v with
      | .error e => .error (.field e)
      | .ok password => .ok ⟨name, email, password, databaseOf v⟩

/-- The user with a hashed password, drawn at random if none was given. -/
def newUser (r : UserRequest) (draw : Nat → Nat) (salt : List UInt8) (now : Instant) : NewUser :=
  .ofPassword r.name r.email (r.password.getD (NewUser.randomPassword draw)) salt now

end AddUser

end TokenAuth.CommandLine
