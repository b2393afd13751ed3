/-
  Meterbank.Store.Coalesced — a database behind a window.

  Metrics and batches are collected in windows and written together; a
  write returns when its window has been flushed.  Reads and writes of
  single tables go to the database directly.  Closing flushes the last
  window and then closes the database.
-/
import Meterbank.Store.Sql
import Meterbank.Window.Schedule

namespace Meterbank

open Meterbank.Window

/-- A database, and the window in front of it. -/
structure CoalescedStore where
  sql : SqlStore
  window : Window.State
  /-- Milliseconds between flushes. -/
  interval : Nat

namespace CoalescedStore

/-- A window in front of a database.  The interval must not be zero. -/
def create (sql : SqlStore) (interval : Nat) : Except StoreError CoalescedStore :=
  if interval = 0 then .error (.config .noCoalescingInterval)
  else .ok ⟨sql, .init, interval⟩

/-- The database as the receiver of flushes. -/
def sink : Sink SqlStore := fun delta sql =>
  let (outcome, sql) := sql.writeDelta delta
  (.done outcome, sql)

/-- The outcome of a call that has returned. -/
def settled : Option Outcome → Outcome
  | some outcome => outcome
  | none => .error .closed

/-- Puts window and database back. -/
def after (s : CoalescedStore) (window : Window.State) (sql : SqlStore) : CoalescedStore :=
  { s with window, sql }

/-- Folds updates, and waits for the window they join. -/
def submit (us : List Update) (s : CoalescedStore) : Except StoreError Unit × CoalescedStore :=
  match Delta.ofUpdates us with
  | .error e => (.error e, s)
  | .ok delta =>
    let (outcome, window, sql) := submitAlone sink delta (s.window, s.sql)
    (settled outcome, s.after window sql)

/-- Runs an operation of the database. -/
def onSql {α : Type} (op : SqlStore → Except StoreError α × SqlStore) (s : CoalescedStore) :
    Except StoreError α × CoalescedStore :=
  let (answer, sql) := op s.sql
  (answer, { s with sql })

/-- Writes one metric.  The total of a counter is read back afterwards. -/
def writeData (m : Metric) (s : CoalescedStore) : Except StoreError Metric × CoalescedStore :=
  match m.validate with
  | .error e => (.error e, s)
  | .ok u =>
    match s.submit [u] with
    | (.error e, s) => (.error e, s)
    | (.ok _, s) =>
      match u.sample with
      | .gauge _ => (.ok u.toMetric, s)
      -- The window has been committed; only the total is still unknown.
      | .counter _ =>
        match s.onSql (·.readCounters [u.id]) with
        | (.error e, s) => (.error e, s)
        | (.ok found, s) => (.ok (.counter u.id (found.total u.id)), s)

/-- Writes a batch. -/
def writeBatch (b : Batch) (s : CoalescedStore) : Except StoreError Unit × CoalescedStore :=
  match b.validate with
  | .error e => (.error e, s)
  | .ok us => if us.isEmpty then (.ok (), s) else s.submit us

/-- Flushes the current window now. -/
def dump (s : CoalescedStore) : Except StoreError Unit × CoalescedStore :=
  let (outcome, window, sql) := flushAlone sink (s.window, s.sql)
  (settled outcome, s.after window sql)

/-- Flushes the last window and closes the database. -/
def close (s : CoalescedStore) : Except StoreError Unit × CoalescedStore :=
  -- The last window is flushed while the database is still open.
  let (_, window, sql) := shutdownAlone sink (s.window, s.sql)
  let (answer, sql) := sql.close
  (answer, s.after window sql)

/-- The operations of the store. -/
def operations : Store CoalescedStore where
  writeData := writeData
  writeBatch := writeBatch
  readGauges keys := onSql (·.readGauges keys)
  readCounters keys := onSql (·.readCounters keys)
  writeGauge key x := onSql (·.writeGauge key x)
  writeCounter key delta := onSql (SqlStore.operations.writeCounter key delta)
  dump := dump
  load s := (.ok (), s)
  ping := onSql (SqlStore.operations.ping ·)
  close := close

end CoalescedStore

end Meterbank
