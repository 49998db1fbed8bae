import TokenAuth.Service.Server

/-!
Runs of the server: users are added, rows are inserted past all checks, the clock is set, the store is
closed, and requests are answered. Only the first four change the server.
-/
namespace TokenAuth.Service

inductive Step
  | add (u : NewUser)
  | insert (id? : Option Int64) (name email hash : String) (created : Int64)
  | setClock (t : Instant)
  | closeStore
  | request (r : Request)

inductive Outcome
  | added (result : Except StoreError Identity)
  | inserted (result : Except StoreError Int64)
  | clockSet (t : Instant)
  | storeClosed
  | answered (a : Response)

namespace Server

/-- A fresh server: no users, an open store. -/
def start (g : Issuer) (now : Instant) : Server := ⟨g, .empty, now⟩

/-- What a step changes and what it shows. A failed insert changes nothing. -/
def step (s : Server) : Step → Server × Outcome
  | .add u =>
    match s.store.add u with
    | .ok (i, store) => ({ s with store }, .added (.ok i))
    | .error e => (s, .added (.error e))
  | .insert id? name email hash created =>
    match s.store.insert id? name email hash created with
    | .ok (id, store) => ({ s with store }, .inserted (.ok id))
    | .error e => (s, .inserted (.error e))
  | .setClock t => ({ s with now := t }, .clockSet t)
  | .closeStore => ({ s with store := s.store.close }, .storeClosed)
  | .request r => (s, .answered (s.answer r))

/-- The server after some steps. -/
def run (s : Server) (steps : List Step) : Server := steps.foldl (fun s x => (s.step x).1) s

/-- What the steps show, in their order. -/
def outcomes (s : Server) : List Step → List Outcome
  | [] => []
  | x :: xs => (s.step x).2 :: outcomes (s.step x).1 xs

end Server

end TokenAuth.Service
