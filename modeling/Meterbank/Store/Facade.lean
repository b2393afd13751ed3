/-
  Meterbank.Store.Facade — the store that a configuration asks for.

  A database that is named is used, behind a window if an interval is
  given; without one the tables are kept in memory and in a file.  A file
  store with an interval has a worker that dumps it from time to time and
  once more when it is stopped.

  Main result:
    * `close_again` — closing twice is closing once.
-/
import Meterbank.Config
import Meterbank.Store.Backend

namespace Meterbank

/-! ## The worker -/

/-- A worker that dumps a store from time to time. -/
structure Worker where
  /-- Milliseconds between dumps. -/
  interval : Nat
  /-- How many dumps it has tried. -/
  dumps : Nat
  deriving DecidableEq, Inhabited, Repr

namespace Worker

/-- A worker that has not dumped yet.  The interval must not be zero. -/
def start (interval : Nat) : Except StoreError Worker :=
  if interval = 0 then .error (.config .noSnapshotInterval) else .ok ⟨interval, 0⟩

/-- The worker tries a dump, whose failure does not matter. -/
def tick {σ : Type} (S : Store σ) (w : Worker) (s : σ) : Worker × σ :=
  ({ w with dumps := w.dumps + 1 }, (S.dump s).2)

/-- The worker stops after a last dump.  Gives the number of dumps tried. -/
def stop {σ : Type} (S : Store σ) (w : Worker) (s : σ) : Nat × σ :=
  let (w, s) := w.tick S s
  (w.dumps, s)

end Worker

/-! ## The facade -/

/-- A backend, its worker if it has one, and whether it has been closed. -/
structure Facade where
  backend : Backend
  worker : Option Worker
  closed : Bool

namespace Facade

/-- The state of a facade. -/
abbrev State := Facade × Disk

/-- The backend a configuration asks for. -/
def openBackend (c : Config) (d : Disk) : Except StoreError Backend × Disk :=
  match c.effectiveDatabase with
  | none => (.ok (.openFile c.effectiveStoreFile (c.effectiveStoreInterval == 0)), d)
  | some name =>
    match c.effectiveCacheInterval with
    | some interval => Backend.openCoalesced name c.effectiveReadPoolSize interval d
    | none => Backend.openSql name c.effectiveReadPoolSize d

/-- The worker of a backend that was just opened. -/
def workerFor (c : Config) (backend : Backend) : Option Worker :=
  if backend.kind = .file ∧ c.effectiveStoreInterval ≠ 0 then
    some ⟨c.effectiveStoreInterval * 1000, 0⟩
  else none

/-- Loads what was made durable, if that is asked for.  A failure does
not matter: the store then starts empty. -/
def restore (c : Config) (p : Backend.State) : Backend.State :=
  if c.effectiveRestore then (Backend.operations.load p).2 else p

/-- Opens the store a configuration asks for. -/
def openStore (c : Config) (d : Disk) : Except StoreError Facade × Disk :=
  match c.validate with
  | .error e => (.error e, d)
  | .ok _ =>
    match openBackend c d with
    | (.error e, d) => (.error e, d)
    | (.ok backend, d) =>
      let (backend, d) := restore c (backend, d)
      (.ok ⟨backend, workerFor c backend, false⟩, d)

/-- Runs an operation of the backend. -/
def onBackend {α : Type} (op : Backend.State → Except StoreError α × Backend.State) (p : State) :
    Except StoreError α × State :=
  let (answer, backend, d) := op (p.1.backend, p.2)
  (answer, { p.1 with backend }, d)

/-- Stops the worker, if one runs, after its last dump. -/
def stopWorker (p : State) : State :=
  match p.1.worker with
  | none => p
  | some w =>
    let (_, backend, d) := w.stop Backend.operations (p.1.backend, p.2)
    ({ p.1 with backend, worker := none }, d)

/-- Stops the worker and closes the backend, the first time. -/
def close (p : State) : Except StoreError Unit × State :=
  if p.1.closed then (.ok (), p)
  else
    let (f, d) := stopWorker ({ p.1 with closed := true }, p.2)
    onBackend Backend.operations.close (f, d)

/-- **Closing twice is closing once.** -/
theorem close_again (p : State) (h : p.1.closed = true) : close p = (.ok (), p) := by
  simp [close, h]

/-- The operations of a facade are those of its backend, but for closing. -/
def operations : Store State where
  writeData m := onBackend (Backend.operations.writeData m)
  writeBatch b := onBackend (Backend.operations.writeBatch b)
  readGauges keys := onBackend (Backend.operations.readGauges keys)
  readCounters keys := onBackend (Backend.operations.readCounters keys)
  writeGauge key x := onBackend (Backend.operations.writeGauge key x)
  writeCounter key delta := onBackend (Backend.operations.writeCounter key delta)
  dump := onBackend Backend.operations.dump
  load := onBackend Backend.operations.load
  ping := onBackend Backend.operations.ping
  close := close

end Facade

end Meterbank
