/-
  Meterbank.Store.Batching — clients that write batches and dump.

  Clients write batches and dump at the same time, and nobody closes the
  store.  A client that needs the window is answered what its caller is
  told.  The flusher writes each window in one transaction; a window may
  also fail before anything of it is written, or the sink may die of it,
  and the transaction is undone.
-/
import Meterbank.Store.Clients

namespace Meterbank

open Meterbank.Window

namespace SqlStore

/-- Writes batches one after the other, up to the first that is refused. -/
def writeBatches : List Batch → SqlStore → Except StoreError Unit × SqlStore
  | [], s => (.ok (), s)
  | b :: bs, s =>
    match s.writeBatch b with
    | (.error e, s) => (.error e, s)
    | (.ok _, s) => s.writeBatches bs

end SqlStore

namespace Batching

/-- What a client asks for. -/
inductive Request where
  | writeBatch (batch : Batch)
  | dump
  deriving DecidableEq, Repr

/-- What a request has to do at the window. -/
def Request.task? : Request → Except StoreError (Option Task)
  | .writeBatch b => (Clients.Request.writeBatch b).task?
  | .dump => .ok (some .flush)

/-- A client; how far it has come is known at the window. -/
abbrev Client := Crowd.Client Request Unit

abbrev State := Crowd.State Request Unit

abbrev Effect := Crowd.Effect Request Unit

abbrev Event := Crowd.Event Request Crowd.Fault

/-- A window in front of a database, and no clients. -/
abbrev start (sql : SqlStore) : State := Crowd.start sql

/-- The next section of a client is that of its caller. -/
def advance (s : State) (_ : Nat) (client : Client) : Effect :=
  match client.caller with
  | some id => s.atWindow (.advance id)
  | none => s.still

/-- How clients go through the store. -/
def protocol : Crowd.Protocol Request Unit Crowd.Fault where
  task? := Request.task?
  first _ := ()
  advance := advance
  fault := id

/-- What an event does to the state. -/
abbrev step (s : State) (e : Event) : State := Crowd.step protocol s e

/-- What a client is answered, once it is. -/
def answer? (s : State) (client : Client) : Option (Except StoreError Unit) :=
  match client.request.task? with
  | .error e => some (.error e)
  | .ok none => some (.ok ())
  | .ok (some _) => client.caller.bind s.window.answer?

end Batching

end Meterbank
