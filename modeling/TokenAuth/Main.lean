import Std.Time.DateTime.Timestamp
import TokenAuth.CommandLine.Workspace
import TokenAuth.Service.Message
import TokenAuth.UserTable.Written

/-!
The program. It keeps databases as files of the directory it is started in. The service answers the
requests that it reads from standard input, until the input ends.
-/
namespace TokenAuth

open CommandLine

def currentInstant : IO Instant := do
  let nanos := (← Std.Time.Timestamp.now).toNanosecondsSinceUnixEpoch.val
  match Instant.ofParts? (nanos / 1000000000) (nanos % 1000000000).toNat with
  | some t => pure t
  | none => throw (IO.userError "the clock is out of range")

def environment : IO (List (String × String)) := do
  let names := [Run.accessKeyVariable, Run.refreshKeyVariable]
  let values ← names.mapM fun name => do pure ((← IO.getEnv name).map (name, ·))
  pure values.reduceOption

/-- The number that eight random bytes make up. -/
def drawn (noise : ByteArray) (i : Nat) : Nat :=
  ((noise.data.toList.drop (8 * i)).take 8).foldl (fun n b => 256 * n + b.toNat) 0

def surroundings : IO Surroundings := do
  let noise ← IO.getRandomBytes (8 * NewUser.passwordLength).toUSize
  let salt ← IO.getRandomBytes PasswordHash.saltSize.toUSize
  pure ⟨← environment, drawn noise, salt.data.toList, ← currentInstant, []⟩

def loadTable (name : String) : IO Directory := do
  let text ← try some <$> IO.FS.readFile name
    catch
      | .noFileOrDirectory .. => pure none
      | e => throw e
  match text.map fun s => UserTable.read? s.toList with
  | none => pure []
  | some none => throw (IO.userError (name ++ " is no database"))
  | some (some t) => pure [(name, t)]

/-- The lines up to an empty one, or nothing at the end of the input. -/
partial def readHead (input : IO.FS.Stream) (lines : List String) : IO (Option (List String)) := do
  let line ← input.getLine
  if line.isEmpty then return none
  match Text.trimEnd line.toList with
  | [] => return some lines.reverse
  | cs => readHead input (String.ofList cs :: lines)

partial def serve (issuer : Issuer) (store : Service.Store) : IO Unit := do
  match ← readHead (← IO.getStdin) [] with
  | none => return
  | some head =>
    let server : Service.Server := ⟨issuer, store, ← currentInstant⟩
    let response := match Service.Request.ofHead? head with
      | some r => server.answer r
      | none => .badRequest
    let output ← IO.getStdout
    response.lines.forM output.putStrLn
    output.flush
    serve issuer store

def runMain (args : List String) : IO UInt32 := do
  let around ← surroundings
  let file := databaseFile? around.environment args
  let before ← match file with
    | some name => loadTable name
    | none => pure []
  let (outcome, after) := runProgram around before args
  for (name, t) in after do
    IO.FS.writeFile name (String.ofList t.render)
  match outcome with
  | .usage e => IO.eprintln e.name
  | .failed f => IO.eprintln ("Error: " ++ f.message)
  | .done => pure ()
  | .serving c =>
    match after.openTable (DatabasePlace.ofText c.database) with
    | .ok t => serve c.issuer ⟨t, true⟩
    | .error e => IO.eprintln ("Error: " ++ e.message)
  pure (UInt32.ofNat (outcome.exitCode?.getD 0))

end TokenAuth

def main (args : List String) : IO UInt32 := TokenAuth.runMain args
