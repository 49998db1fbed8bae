import TokenAuth.Issuer
import TokenAuth.Service.Headers
import TokenAuth.Service.Response
import TokenAuth.Tokens
import TokenAuth.UserTable

/-!
The service: four calls behind a gate. The gate lets three calls pass and asks for a good access token
before everything else, also before an unknown path is found to be unknown. Nothing that a request says
is kept: requests leave the server as it was.
-/
namespace TokenAuth.Service

/-- The calls of the service. -/
inductive Call
  | authenticateUser
  | refreshToken
  | logoutUser
  | health
  deriving DecidableEq, Repr

namespace Call

def path : Call → List Char
  | authenticateUser => "/api.UserService/AuthenticateUser".toList
  | refreshToken => "/api.UserService/RefreshToken".toList
  | logoutUser => "/api.UserService/LogoutUser".toList
  | health => "/api.HealthService/Health".toList

def all : List Call := [authenticateUser, refreshToken, logoutUser, health]

def ofPath? (path : List Char) : Option Call := all.find? (·.path = path)

/-- The calls that need no access token. -/
def bypassed : List Call := [authenticateUser, health, refreshToken]

end Call

/-- Whether the gate lets every request to a path pass. -/
def isBypassed (path : List Char) : Bool := Call.bypassed.any (·.path = path)

structure Request where
  method : String
  target : List Char
  headers : Headers
  /-- No call reads it. -/
  body : String

/-- The table of users as the server sees it: lookups fail once it is closed. -/
structure Store where
  table : UserTable
  isOpen : Bool

namespace Store

def empty : Store := ⟨.empty, true⟩

def close (s : Store) : Store := { s with isOpen := false }

def insert (s : Store) (id? : Option Int64) (name email hash : String) (created : Int64) :
    Except StoreError (Int64 × Store) :=
  if s.isOpen then
    match s.table.insert id? name email hash created with
    | .error e => .error e
    | .ok (id, t) => .ok (id, { s with table := t })
  else .error .closed

def add (s : Store) (u : NewUser) : Except StoreError (Identity × Store) :=
  if s.isOpen then
    match s.table.add u with
    | .error e => .error e
    | .ok (i, t) => .ok (i, { s with table := t })
  else .error .closed

def find (s : Store) (email : Email) : Except LookupError (Option StoredUser) :=
  if s.isOpen then s.table.find email else .error (.store .closed)

/-- A name that is no email address is no one's, whether the store is open or not. -/
def authenticate (s : Store) (username : String) (password : Password) :
    Except LookupError (Option Identity) :=
  match Email.ofText username with
  | .error _ => .ok none
  | .ok _ =>
    if s.isOpen then s.table.authenticate username password else .error (.store .closed)

end Store

structure Server where
  issuer : Issuer
  store : Store
  now : Instant

/-- An answer to a call. -/
def Response.ofResult (body : α → List Char) : Except Refusal α → Response
  | .ok a => .ok (body a)
  | .error r => .refused r

namespace Server

/-- The tokens handed out with a new access token. -/
def tokens (access : IssuedToken) (refresh : SignedToken) : Tokens :=
  ⟨Tokens.bearer, access.token, Int64.ofInt access.expires.seconds, refresh⟩

def issue (s : Server) (i : Identity) (kind : TokenKind) : Except Refusal IssuedToken :=
  (s.issuer.issue s.now i kind).mapError fun _ => .tokenCreationFailed

/-- Whose credentials a request carries. -/
def login (s : Server) (h : Headers) : Except Refusal Identity :=
  match h.basicCredentials with
  | .error r => .error r
  | .ok c =>
    match Password.ofText c.password with
    | .error _ => .error .invalidCredentials
    | .ok password =>
      match s.store.authenticate c.username password with
      | .error _ => .error .internal
      | .ok none => .error .invalidCredentials
      | .ok (some i) => .ok i

def authenticateUser (s : Server) (h : Headers) : Except Refusal Tokens :=
  match s.login h with
  | .error r => .error r
  | .ok i =>
    match s.issue i .access, s.issue i .refresh with
    | .ok access, .ok refresh => .ok (tokens access refresh.token)
    | _, _ => .error .tokenCreationFailed

/-- The refresh token to hand out: the one presented, or a new one if little of its time is left. -/
def renewed (s : Server) (presented : SignedToken) (v : VerifiedToken) : Except Refusal SignedToken :=
  if v.remaining s.now < s.issuer.policy.renewalThreshold then
    (s.issue v.identity .refresh).map (·.token)
  else .ok presented

def refreshToken (s : Server) (h : Headers) : Except Refusal Tokens :=
  match h.refreshToken with
  | .error r => .error r
  | .ok presented =>
    match s.issuer.verify s.now presented .refresh with
    | .error _ => .error .tokenInvalid
    | .ok v =>
      match s.renewed presented v, s.issue v.identity .access with
      | .ok refresh, .ok access => .ok (tokens access refresh)
      | _, _ => .error .tokenCreationFailed

/-- The identity that the gate has attached to a request. -/
def attached (who : Option Identity) : Except Refusal Identity :=
  match who with
  | some i => .ok i
  | none => .error .unauthenticated

def handle (s : Server) (call : Call) (h : Headers) (who : Option Identity) : Response :=
  match call with
  | .authenticateUser => .ofResult Tokens.render (s.authenticateUser h)
  | .refreshToken => .ofResult Tokens.render (s.refreshToken h)
  | .logoutUser => .ofResult (fun _ => Json.renderObject []) (attached who)
  | .health => .ok (Json.renderObject [("status", Json.renderText "SERVING")])

/-- Whom the gate lets pass: anyone on the calls that need no token, the bearer of a good access token
elsewhere. -/
def gate (s : Server) (path : List Char) (h : Headers) : Except Refusal (Option Identity) :=
  if isBypassed path then .ok none
  else
    match h.bearerToken with
    | .error r => .error r
    | .ok t =>
      match s.issuer.verify s.now t .access with
      | .error _ => .error .tokenInvalid
      | .ok v => .ok (some v.identity)

/-- What lies behind the gate. Every call is a POST to its path. -/
def route (s : Server) (r : Request) (who : Option Identity) : Response :=
  match Call.ofPath? (pathOf r.target) with
  | none => .notFound
  | some call => if r.method = "POST" then s.handle call r.headers who else .methodNotAllowed

/-- Answers to other methods on the path of a call name the method that is allowed, and answers to HEAD
have no body. -/
def finishResponse (r : Request) (a : Response) : Response :=
  let a := if (Call.ofPath? (pathOf r.target)).isSome ∧ r.method ≠ "POST" then
    { a with allow := some "POST" } else a
  if r.method = "HEAD" then { a with body := [] } else a

def answer (s : Server) (r : Request) : Response :=
  finishResponse r <|
    match s.gate (pathOf r.target) r.headers with
    | .error e => .refused e
    | .ok who => s.route r who

end Server

end TokenAuth.Service
