/-
  Meterbank.Store.Sessions — a store that is opened again and again.

  A session opens the store of a configuration, lets one client use it
  while timers go off, and closes it.  A store that has been closed may be
  dropped before the next session begins, or not.  Of each session the
  updates are collected that the client was told to be applied.

  Main definitions:
    * `Facade.take` — what a request, or a timer that goes off, does.
    * `Facade.hold`, `Facade.holdAll` — a session, and several of them.
-/
import Meterbank.Store.Workspace

namespace Meterbank

/-! ## Requests -/

/-- What a client asks of a store that is open. -/
inductive Request where
  | writeData (metric : Metric)
  | writeBatch (batch : Batch)
  | readData (query : Metric)
  | readGauges (keys : List String)
  | readCounters (keys : List String)
  | dump
  | ping
  deriving DecidableEq, Repr

namespace Request

/-- The operation it is a call of. -/
def call : Request → Store.Call
  | .writeData m => .writeData m
  | .writeBatch b => .writeBatch b
  | .readData q => .readData q
  | .readGauges keys => .readGauges keys
  | .readCounters keys => .readCounters keys
  | .dump => .dump
  | .ping => .ping

/-- The updates it asks for, if all of it is valid. -/
def updates : Request → List Update
  | .writeData m =>
    match m.validate with
    | .ok u => [u]
    | .error _ => []
  | .writeBatch b =>
    match b.validate with
    | .ok us => us
    | .error _ => []
  | _ => []

end Request

/-! ## Timers -/

/-- The timer has the current window flushed. -/
def CoalescedStore.tick (s : CoalescedStore) : CoalescedStore :=
  let (window, sql) := Window.window sink .tick (s.window, s.sql)
  s.after window sql

namespace Facade

/-- A timer goes off: that of the worker, or that of the window. -/
def tick (p : State) : State :=
  match p.1.worker, p.1.backend with
  | some w, _ =>
    let (w, backend, d) := w.tick Backend.operations (p.1.backend, p.2)
    ({ p.1 with backend, worker := some w }, d)
  | none, .coalesced _ _ =>
    let run : Backend.State → Except StoreError Unit × Backend.State :=
      Backend.dispatch (fun q => (.ok (), q)) (fun s => (.ok (), s)) fun s => (.ok (), s.tick)
    (onBackend run p).2
  | none, _ => p

/-! ## Sessions -/

/-- What happens while a store is open. -/
inductive Step where
  | request (r : Request)
  | tick
  deriving DecidableEq, Repr

/-- What happens between the opening and the closing of a store, and
whether the store is dropped after that. -/
structure Session where
  steps : List Step
  dropped : Bool
  deriving DecidableEq, Repr

/-- Takes a step.  Gives the updates that were acknowledged. -/
def take (p : State) : Step → List Update × State
  | .request r =>
    let (answer, p) := operations.perform r.call p
    (if answer.isOk then r.updates else [], p)
  | .tick => ([], tick p)

/-- Takes steps one after the other. -/
def takeAll : List Step → State → List Update × State
  | [], p => ([], p)
  | step :: steps, p =>
    let (first, p) := take p step
    let (later, p) := takeAll steps p
    (first ++ later, p)

/-- Closes a store, and may drop it. -/
def finish (dropped : Bool) (p : State) : Disk :=
  let (_, f, d) := close p
  if dropped then Holding.drop (.facade f, d) else d

/-- Holds a session. -/
def hold (c : Config) (s : Session) (d : Disk) : List Update × Disk :=
  match openStore c d with
  | (.error _, d) => ([], d)
  | (.ok f, d) =>
    let (acknowledged, p) := takeAll s.steps (f, d)
    (acknowledged, finish s.dropped p)

/-- Holds sessions one after the other. -/
def holdAll (c : Config) : List Session → Disk → List Update × Disk
  | [], d => ([], d)
  | s :: sessions, d =>
    let (first, d) := hold c s d
    let (later, d) := holdAll c sessions d
    (first ++ later, d)

end Facade

end Meterbank
