/-
  Meterbank.Store.Backend — the three kinds of store over one disk.

  A backend is a store of one of three kinds.  Its state is the backend
  together with the disk: files of the file store, and databases, which
  two stores may share.  A store over a database looks at the disk before
  each operation, and hands over to it afterwards.
-/
import Meterbank.Disk.Sharing
import Meterbank.Store.Coalesced
import Meterbank.Store.File

namespace Meterbank

open Meterbank.Disk

/-- A store of one of the three kinds.  A store over a database comes
with the gates of its connections. -/
inductive Backend where
  | file (store : FileStore)
  | sql (gates : Gates) (store : SqlStore)
  | coalesced (gates : Gates) (store : CoalescedStore)

/-- The three kinds. -/
inductive BackendKind where
  | file
  | sql
  | coalesced
  deriving DecidableEq, Inhabited, Repr

/-- The name of a kind. -/
def BackendKind.name : BackendKind → String
  | .file => "file"
  | .sql => "sql"
  | .coalesced => "cached-sql"

namespace Backend

/-- The kind of a backend. -/
def kind : Backend → BackendKind
  | .file _ => .file
  | .sql _ _ => .sql
  | .coalesced _ _ => .coalesced

/-! ## Opening -/

/-- A file store. -/
def openFile (path : String) (sync : Bool) : Backend := .file (FileStore.create path sync)

/-- A store over the database of a name. -/
def openSql (name : String) (readers : Nat) (d : Disk) : Except StoreError Backend × Disk :=
  match d.openDatabase name readers with
  | (.error e, d) => (.error e, d)
  | (.ok opened, d) => (.ok (.sql opened.2 (.create (d.session opened))), d)

/-- A store over the database of a name, behind a window.  The database
is opened first, and closed again if the interval is refused. -/
def openCoalesced (name : String) (readers interval : Nat) (d : Disk) :
    Except StoreError Backend × Disk :=
  match d.openDatabase name readers with
  | (.error e, d) => (.error e, d)
  | (.ok opened, d) =>
    match CoalescedStore.create (.create (d.session opened)) interval with
    | .error e => (.error e, release opened.2 d)
    | .ok store => (.ok (.coalesced opened.2 store), d)

/-- Closes the connections of a store that is given up. -/
def drop (b : Backend) (d : Disk) : Disk :=
  match b with
  | .file _ => d
  | .sql gates _ | .coalesced gates _ => release gates d

/-! ## Sharing databases -/

/-- A store that sees the database as it is now. -/
def attach (gates : Gates) (s : SqlStore) (d : Disk) : SqlStore :=
  { s with session := d.refresh gates s.session }

/-- Runs an operation on a store over a database that others may have
open too. -/
def shared {σ α : Type} (gates : Gates) (sqlOf : σ → SqlStore) (withSql : σ → SqlStore → σ)
    (op : σ → Except StoreError α × σ) (s : σ) (d : Disk) : Except StoreError α × σ × Disk :=
  let before := attach gates (sqlOf s) d
  let (answer, s) := op (withSql s before)
  (answer, s, d.publish gates before.session (sqlOf s).session)

/-- Runs an operation on a store over a database. -/
def onSql {α : Type} (gates : Gates) (op : SqlStore → Except StoreError α × SqlStore)
    (s : SqlStore) (d : Disk) : Except StoreError α × SqlStore × Disk :=
  shared gates id (fun _ sql => sql) op s d

/-- Runs an operation on a store behind a window. -/
def onCoalesced {α : Type} (gates : Gates)
    (op : CoalescedStore → Except StoreError α × CoalescedStore) (s : CoalescedStore) (d : Disk) :
    Except StoreError α × CoalescedStore × Disk :=
  shared gates CoalescedStore.sql (fun s sql => { s with sql }) op s d

/-! ## Operations -/

/-- The state of a backend. -/
abbrev State := Backend × Disk

/-- Runs an operation on the store that the backend is. -/
def dispatch {α : Type}
    (file : FileStore.State → Except StoreError α × FileStore.State)
    (sql : SqlStore → Except StoreError α × SqlStore)
    (coalesced : CoalescedStore → Except StoreError α × CoalescedStore)
    (p : State) : Except StoreError α × State :=
  match p with
  | (.file store, d) =>
    let (answer, store, files) := file (store, d.files)
    (answer, .file store, { d with files })
  | (.sql gates store, d) =>
    let (answer, store, d) := onSql gates sql store d
    (answer, .sql gates store, d)
  | (.coalesced gates store, d) =>
    let (answer, store, d) := onCoalesced gates coalesced store d
    (answer, .coalesced gates store, d)

/-- Runs the same operation of each kind of store. -/
def operation {α : Type} (op : {σ : Type} → Store σ → σ → Except StoreError α × σ) (p : State) :
    Except StoreError α × State :=
  dispatch (op FileStore.operations) (op SqlStore.operations) (op CoalescedStore.operations) p

/-- The operations of a backend are those of the store it is. -/
def operations : Store State where
  writeData m := operation fun S => S.writeData m
  writeBatch b := operation fun S => S.writeBatch b
  readGauges keys := operation fun S => S.readGauges keys
  readCounters keys := operation fun S => S.readCounters keys
  writeGauge key x := operation fun S => S.writeGauge key x
  writeCounter key delta := operation fun S => S.writeCounter key delta
  dump := operation fun S => S.dump
  load := operation fun S => S.load
  ping := operation fun S => S.ping
  close := operation fun S => S.close

end Backend

end Meterbank
