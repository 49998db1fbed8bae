import TokenAuth.CommandLine.Commands

/-!
Program runs one after another in one directory. Databases are files of the directory, made when they are
first opened and kept from run to run, but for those in memory, which last for one run. Each run gets
random numbers and an instant from outside.
-/
namespace TokenAuth.CommandLine

open Text

/-- Where a database is kept. -/
inductive DatabasePlace
  | memory
  | file (name : String)
  /-- A place outside the directory or in a directory that is not there. -/
  | unreachable
  deriving DecidableEq

namespace DatabasePlace

/-- Drops a start of a text as often as it is there. -/
def dropStarts (start : List Char) : Nat → List Char → List Char
  | 0, cs => cs
  | fuel + 1, cs =>
    if start.isPrefixOf cs then dropStarts start fuel (cs.drop start.length) else cs

/-- The path of a database: the scheme before it is dropped, and so are the parameters after it, with
what they would change or refuse. A percent sign stands for itself, escaped characters are left out. -/
def pathOf (s : String) : List Char :=
  let cs := "sqlite:".toList ++ s.toList
  let cs := dropStarts "sqlite://".toList cs.length cs
  (dropStarts "sqlite:".toList cs.length cs).takeWhile (· != '?')

/-- A path that names a file of the directory itself. -/
def ofText (s : String) : DatabasePlace :=
  let path := pathOf s
  if path = [] ∨ path = ":memory:".toList then .memory
  else if path.head? = some '/' ∨ path.getLast? = some '/' then .unreachable
  else
    match (parts '/' path).filter fun p => p ≠ [] ∧ p ≠ ['.'] with
    | [name] => if name = ['.', '.'] then .unreachable else .file (String.ofList name)
    | _ => .unreachable

end DatabasePlace

/-- The databases of a directory by the names of their files. -/
abbrev Directory := List (String × UserTable)

namespace Directory

/-- The table of a database, an empty one if the database is new. -/
def openTable (d : Directory) (place : DatabasePlace) : Except StoreError UserTable :=
  match place with
  | .memory => .ok .empty
  | .file name => .ok ((d.lookup name).getD .empty)
  | .unreachable => .error .cannotOpen

def save (d : Directory) (place : DatabasePlace) (t : UserTable) : Directory :=
  match place with
  | .file name => (name, t) :: d.filter (·.1 ≠ name)
  | _ => d

end Directory

/-- What a run takes from outside. -/
structure Surroundings where
  environment : List (String × String)
  draw : Nat → Nat
  salt : List UInt8
  now : Instant
  /-- Ports of the loopback address that are taken. -/
  busyPorts : List UInt16

/-- How a run goes on. -/
inductive RunOutcome
  /-- It ends at once with help, the version or a usage error. -/
  | usage (e : UsageError)
  | failed (f : Failure)
  | done
  /-- It listens for requests and does not end by itself. -/
  | serving (c : Configuration)

def RunOutcome.exitCode? : RunOutcome → Option Nat
  | usage e => some e.exitCode
  | failed _ => some 1
  | done => some 0
  | serving _ => none

/-- Why the service cannot listen on an address, if it cannot. -/
def listenFailure? (busyPorts : List UInt16) (s : SocketAddress) : Option Failure :=
  match s.address with
  | .v4 x =>
    if x = ⟨0, 0, 0, 0⟩ ∨ x = ⟨127, 0, 0, 1⟩ then
      if busyPorts.contains s.port then some .addressInUse else none
    else if x.a = 127 then none
    else some .addressNotAvailable
  | .v6 x =>
    if x.groups = [0, 0, 0, 0, 0, 0, 0, 0] ∧ busyPorts.contains s.port then some .addressInUse
    else if x.groups.take 7 = [0, 0, 0, 0, 0, 0, 0] then none
    else some .addressNotAvailable

/-- The command line as a whole. -/
inductive Command
  | run (v : Values)
  | user (v : Values)

/-- Letters after one hyphen, before any command: only `h` and `V` are known. -/
def mainLetter : Char → UsageError
  | 'h' => .displayHelp
  | 'V' => .displayVersion
  | _ => .unknownArgument

/-- What `help` is asked about. -/
def helpAbout : List String → UsageError
  | [] => .displayHelp
  | [s] => if s = "run" ∨ s = "user" ∨ s = "help" then .displayHelp else .invalidSubcommand
  | _ => .invalidSubcommand

def parseCommand (environment : List (String × String)) : List String → Except UsageError Command
  | [] => .error .missingSubcommand
  | arg :: args =>
    if arg = "run" then (parse Run.spec environment args).map .run
    else if arg = "user" then (parse AddUser.spec environment args).map .user
    else if arg = "help" then .error (helpAbout args)
    else
      match arg.toList with
      | '-' :: '-' :: name =>
        if name = [] then .error (if args = [] then .missingSubcommand else .unknownArgument)
        else if name = "help".toList then .error .displayHelp
        else if name = "version".toList then .error .displayVersion
        else .error .unknownArgument
      | '-' :: c :: _ => .error (mainLetter c)
      | _ => .error .invalidSubcommand

/-- The file that a command line keeps users in, if it names one of the directory. -/
def databaseFile? (environment : List (String × String)) (args : List String) : Option String :=
  match parseCommand environment args with
  | .error _ => none
  | .ok (.run v) | .ok (.user v) =>
    match DatabasePlace.ofText (databaseOf v) with
    | .file name => some name
    | _ => none

/-- Adds a user to the database named. The database is there afterwards even if the user is refused. -/
def addUser (o : Surroundings) (d : Directory) (v : Values) : RunOutcome × Directory :=
  match AddUser.request v with
  | .error f => (.failed f, d)
  | .ok r =>
    let place := DatabasePlace.ofText r.database
    match d.openTable place with
    | .error e => (.failed (.store e), d)
    | .ok t =>
      match t.add (AddUser.newUser r o.draw o.salt o.now) with
      | .error e => (.failed (.store e), d.save place t)
      | .ok (_, t) => (.done, d.save place t)

/-- Opens the database, then listens. -/
def startService (o : Surroundings) (d : Directory) (v : Values) : RunOutcome × Directory :=
  match Run.configure v with
  | .error f => (.failed f, d)
  | .ok c =>
    let place := DatabasePlace.ofText c.database
    match d.openTable place with
    | .error e => (.failed (.store e), d)
    | .ok t =>
      match listenFailure? o.busyPorts c.listen with
      | some f => (.failed f, d.save place t)
      | none => (.serving c, d.save place t)

/-- One run of the program with these arguments. -/
def runProgram (o : Surroundings) (d : Directory) (args : List String) : RunOutcome × Directory :=
  match parseCommand o.environment args with
  | .error e => (.usage e, d)
  | .ok (.user v) => addUser o d v
  | .ok (.run v) => startService o d v

/-- Runs one after another, each with surroundings of its own. -/
def runAll (d : Directory) : List (Surroundings × List String) → List RunOutcome
  | [] => []
  | (o, args) :: rest =>
    let (outcome, d) := runProgram o d args
    outcome :: runAll d rest

end TokenAuth.CommandLine
