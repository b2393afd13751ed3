/-
  Meterbank.Store.Clients — clients that write, read back and close.

  Clients write metrics and batches at the same time, and some of them may
  close the store.  A client that writes goes through the window; if it
  has written a counter, it then looks whether the database is open, and
  reads the total.

      client   queued → looking → reading → answered
               queued → closing → answered

  The sink does not fail of its own here: whatever keeps a window from
  being written comes from the database.
-/
import Meterbank.Store.Crowd

namespace Meterbank

open Meterbank.Window

namespace Clients

/-! ## Requests -/

/-- What a client asks for. -/
inductive Request where
  | writeData (metric : Metric)
  | writeBatch (batch : Batch)
  | close
  deriving DecidableEq, Repr

namespace Request

/-- The updates a request asks for. -/
def updates : Request → Except StoreError (List Update)
  | .writeData m => m.validate.map ([·])
  | .writeBatch b => b.validate
  | .close => .ok []

/-- What a request has to do at the window.  A request that is refused
does not get there, and an empty batch has nothing to do there. -/
def task? (request : Request) : Except StoreError (Option Task) :=
  match request with
  | .close => .ok (some .shutdown)
  | _ =>
    match request.updates with
    | .error e => .error e
    | .ok us =>
      if us.isEmpty then .ok none
      else
        -- Folding comes first: a batch that overflows joins no window.
        match Delta.ofUpdates us with
        | .error e => .error e
        | .ok delta => .ok (some (.submit delta))

/-- The counter whose total is read back once the request is flushed. -/
def counter? : Request → Option String
  | .writeData m =>
    match m.validate with
    | .ok ⟨id, .counter _⟩ => some id
    | _ => none
  | _ => none

/-- What a request is answered with if nothing has to be read. -/
def receipt : Request → Store.Payload
  | .writeData m =>
    match m.validate with
    | .ok u => .metric u.toMetric
    | .error _ => .nothing
  | _ => .nothing

end Request

/-! ## Clients -/

/-- How far a client has come. -/
inductive Stage where
  /-- It has a caller at the window, and waits for it. -/
  | queued
  /-- Its window was flushed; about to look whether the database is open. -/
  | looking (key : String)
  /-- It has found the database open; about to read a total. -/
  | reading (key : String)
  /-- The flusher has stopped; about to close the database. -/
  | closing
  | answered (answer : Except StoreError Store.Payload)

abbrev Client := Crowd.Client Request Stage

abbrev State := Crowd.State Request Stage

abbrev Effect := Crowd.Effect Request Stage

abbrev Event := Crowd.Event Request Empty

/-- A window in front of a database, and no clients. -/
abbrev start (sql : SqlStore) : State := Crowd.start sql

namespace Request

/-- Where its client begins: it waits for its caller, or is answered. -/
def first (request : Request) : Stage :=
  match request.task? with
  | .error e => .answered (.error e)
  | .ok none => .answered (.ok .nothing)
  | .ok (some _) => .queued

/-- Where its client is once its window was flushed: it goes on to read its
counter, or is done. -/
def flushed (request : Request) : Stage :=
  match request.counter? with
  | some key => .looking key
  | none => .answered (.ok request.receipt)

end Request

/-- The next section of a client. -/
def advance (s : State) (i : Nat) (client : Client) : Effect :=
  match client.stage, client.caller with
  | .queued, some id =>
    match client.request with
    | .close =>
      -- A client that closes waits for the flusher, not for a window.
      match s.window.stats? id with
      | some _ => s.moveTo i client .closing
      | none => s.atWindow (.advance id)
    | _ =>
      match s.window.answer? id with
      | some (.error e) => s.moveTo i client (.answered (.error e))
      | some (.ok _) => s.moveTo i client client.request.flushed
      | none => s.atWindow (.advance id)
  | .looking key, _ =>
    if s.sql.isClosed then s.moveTo i client (.answered (.error .closed))
    else s.moveTo i client (.reading key)
  | .reading key, _ =>
    -- It has found the database open; it does not look again.
    let (answer, sql) := s.sql.unchecked (·.readCounters [key])
    let answer := answer.map fun found => .metric (.counter key (found.total key))
    { s.moveTo i client (.answered answer) with sql }
  | .closing, _ =>
    let (answer, sql) := s.sql.close
    { s.moveTo i client (.answered (answer.map fun _ => .nothing)) with sql }
  | _, _ => s.still

/-- How clients go through the store. -/
def protocol : Crowd.Protocol Request Stage Empty where
  task? := Request.task?
  first := Request.first
  advance := advance
  fault := Empty.elim

/-- What an event does to the state. -/
abbrev step (s : State) (e : Event) : State := Crowd.step protocol s e

end Clients

end Meterbank
