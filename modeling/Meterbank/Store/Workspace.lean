/-
  Meterbank.Store.Workspace — named stores over one disk.

  Several stores may be open at once, each under a name.  A store may
  have a worker beside it.  A store that is given up without being closed
  is dropped: its workers make their last dumps, and nothing else happens.
-/
import Meterbank.Sql.Seed
import Meterbank.Store.Conformance
import Meterbank.Store.Facade
import Meterbank.Store.Stuck

namespace Meterbank

open Meterbank.Sql

/-! ## Stores under names -/

/-- What can be opened under a name. -/
inductive Holding where
  | backend (b : Backend)
  | facade (f : Facade)

namespace Holding

/-- The state of what is open under a name. -/
abbrev State := Holding × Disk

/-- Runs an operation of what is open. -/
def operation {α : Type} (op : {σ : Type} → Store σ → σ → Except StoreError α × σ) (p : State) :
    Except StoreError α × State :=
  match p with
  | (.backend b, d) =>
    let (answer, b, d) := op Backend.operations (b, d)
    (answer, .backend b, d)
  | (.facade f, d) =>
    let (answer, f, d) := op Facade.operations (f, d)
    (answer, .facade f, d)

/-- The operations of what is open. -/
def operations : Store State where
  writeData m := operation fun S => S.writeData m
  writeBatch b := operation fun S => S.writeBatch b
  readGauges keys := operation fun S => S.readGauges keys
  readCounters keys := operation fun S => S.readCounters keys
  writeGauge key x := operation fun S => S.writeGauge key x
  writeCounter key delta := operation fun S => S.writeCounter key delta
  dump := operation fun S => S.dump
  load := operation fun S => S.load
  ping := operation fun S => S.ping
  close := operation fun S => S.close

/-- Drops what is open: a facade's worker makes its last dump, and then
the connections are closed. -/
def drop (p : State) : Disk :=
  match p with
  | (.backend b, d) => b.drop d
  | (.facade f, d) =>
    let (f, d) := Facade.stopWorker (f, d)
    f.backend.drop d

end Holding

/-- A store under a name, and the worker beside it. -/
structure Slot where
  holding : Holding
  worker : Option Worker

/-- A disk, and the stores that are open. -/
structure Workspace where
  disk : Disk
  slots : List (String × Slot)

namespace Workspace

/-- An empty disk and no store. -/
def empty : Workspace := ⟨Disk.empty, []⟩

/-- What is open under a name. -/
def find? (w : Workspace) (name : String) : Option Slot := w.slots.lookup name

/-- Puts a store under a name. -/
def put (w : Workspace) (name : String) (slot : Slot) : Workspace :=
  { w with slots := (name, slot) :: w.slots.filter fun other => other.1 ≠ name }

/-! ## Opening and dropping -/

/-- Drops the store of a name, and the worker beside it. -/
def drop (w : Workspace) (name : String) : Workspace :=
  match w.find? name with
  | none => w
  | some slot =>
    let p : Holding.State :=
      match slot.worker with
      | none => (slot.holding, w.disk)
      | some worker => (worker.stop Holding.operations (slot.holding, w.disk)).2
    { disk := Holding.drop p
      slots := w.slots.filter fun other => other.1 ≠ name }

/-- Opens a store under a name, after dropping the one before. -/
def openAs (w : Workspace) (name : String) (opening : Disk → Except StoreError Holding × Disk) :
    Except StoreError Unit × Workspace :=
  let w := w.drop name
  match opening w.disk with
  | (.ok holding, disk) => (.ok (), { w with disk }.put name ⟨holding, none⟩)
  | (.error e, disk) => (.error e, { w with disk })

/-- Opens a file store. -/
def openFile (path : String) (sync : Bool) (d : Disk) : Except StoreError Holding × Disk :=
  (.ok (.backend (.openFile path sync)), d)

/-- Opens a store over a database. -/
def openSql (name : String) (readers : Nat) (d : Disk) : Except StoreError Holding × Disk :=
  let (answer, d) := Backend.openSql name readers d
  (answer.map .backend, d)

/-- Opens a store over a database behind a window. -/
def openCoalesced (name : String) (readers interval : Nat) (d : Disk) :
    Except StoreError Holding × Disk :=
  let (answer, d) := Backend.openCoalesced name readers interval d
  (answer.map .backend, d)

/-- Opens what a configuration asks for. -/
def openFacade (c : Config) (d : Disk) : Except StoreError Holding × Disk :=
  let (answer, d) := Facade.openStore c d
  (answer.map .facade, d)

/-! ## Using stores -/

/-- Runs an operation of a store, if one is open under the name. -/
def run? {α : Type} (w : Workspace) (name : String)
    (op : Holding.State → Except StoreError α × Holding.State) :
    Option (Except StoreError α × Workspace) :=
  (w.find? name).map fun slot =>
    let (answer, holding, disk) := op (slot.holding, w.disk)
    (answer, { w with disk }.put name { slot with holding })

/-- Runs an operation of the store over a database that is, or is behind,
what is open. -/
def onSql? {α : Type} (w : Workspace) (name : String)
    (op : SqlStore → Except StoreError α × SqlStore) :
    Option (Except StoreError α × Workspace) :=
  (w.find? name).bind fun slot =>
    match slot.holding with
    | .backend (.sql gates s) =>
      let (answer, s, disk) := Backend.onSql gates op s w.disk
      some (answer, { w with disk }.put name { slot with holding := .backend (.sql gates s) })
    | .backend (.coalesced gates s) =>
      let (answer, s, disk) := Backend.onCoalesced gates (CoalescedStore.onSql op) s w.disk
      some (answer, { w with disk }.put name { slot with holding := .backend (.coalesced gates s) })
    | _ => none

/-- Observes a new store over the database of a name, which somebody else
holds while a metric is written.  The store has no connection to spare. -/
def observeStuck (w : Workspace) (name : String) (m : Metric) :
    Except StoreError Stuck.Observation × Workspace :=
  match w.disk.openDatabase name 0 with
  | (.error e, disk) => (.error e, { w with disk })
  | (.ok opened, disk) =>
    let observe (s : SqlStore) : Except StoreError Stuck.Observation × SqlStore :=
      let (seen, s) := Stuck.observe m s
      (.ok seen, s)
    let (seen, _, disk) := Backend.onSql opened.2 observe (.create (disk.session opened)) disk
    (seen, { w with disk := Disk.release opened.2 disk })

/-! ## Workers -/

/-- Starts a worker beside a store.  One that was running stops. -/
def startWorker (w : Workspace) (name : String) (interval : Nat) :
    Except StoreError Unit × Workspace :=
  match Worker.start interval, w.find? name with
  | .error e, _ => (.error e, w)
  | .ok _, none => (.ok (), w)
  | .ok worker, some slot =>
    match slot.worker with
    | none => (.ok (), w.put name { slot with worker := some worker })
    | some old =>
      let (_, holding, disk) := old.stop Holding.operations (slot.holding, w.disk)
      (.ok (), { w with disk }.put name ⟨holding, some worker⟩)

/-- Stops the worker beside a store, and gives the number of its dumps. -/
def stopWorker (w : Workspace) (name : String) : Option Nat × Workspace :=
  match w.find? name with
  | some ⟨holding, some worker⟩ =>
    let (count, holding, disk) := worker.stop Holding.operations (holding, w.disk)
    (some count, { w with disk }.put name ⟨holding, none⟩)
  | _ => (none, w)

/-- The longest time a worker is waited for, in milliseconds. -/
def patience : Nat := 10000

/-- Waits for the worker beside a store to make a file, if its interval
is not longer than anyone waits. -/
def waitWorker (w : Workspace) (name path : String) : Bool × Workspace :=
  match w.find? name with
  | some ⟨holding, some worker⟩ =>
    if w.disk.files.isThere path ∨ patience < worker.interval then
      (w.disk.files.isThere path, w)
    else
      let (worker, holding, disk) := worker.tick Holding.operations (holding, w.disk)
      (disk.files.isThere path, { w with disk }.put name ⟨holding, some worker⟩)
  | _ => (w.disk.files.isThere path, w)

/-! ## The disk -/

/-- Changes the files. -/
def onFiles (w : Workspace) (r : Except IoFault Files) : Except StoreError Unit × Workspace :=
  match r with
  | .ok files => (.ok (), { w with disk := { w.disk with files } })
  | .error e => (.error (.io e), w)

/-- Makes sure of a table of the database of a name, and fills it, on a
connection that is closed afterwards. -/
def seed (w : Workspace) (name : String) (kind : Kind) (bound : Option Bound)
    (rows : List (Key × Cell)) : Except StoreError Unit × Workspace :=
  match w.disk.openName .create name with
  | .error e => (.error (.sql e), w)
  | .ok (g, disk) =>
    let (access, disk) := disk.enter g
    let (answer, db) := Statement.seed access kind bound rows (disk.view g)
    let disk := if access.writes then disk.store g db else disk
    (answer, { w with disk := disk.leave g })

end Workspace

end Meterbank
