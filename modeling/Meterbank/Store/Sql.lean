/-
  Meterbank.Store.Sql — tables in a database.

  Each write is one statement, or one transaction for a batch, so it is
  durable when it returns.  The tables are created on first use, before
  and outside any transaction.  A closed store refuses everything but an
  empty batch.

  Main results:
    * `write_closed` — a closed store writes nothing.
    * `close_isClosed` — after closing a store is closed.
    * `writeDelta_empty` — nothing to write succeeds even when closed.
    * `writeDelta_notFinite` — a value that is not finite is refused
      before the database is touched.
-/
import Meterbank.Sql.Connection
import Meterbank.Store.Interface

namespace Meterbank

open Meterbank.Sql

/-- A store over a database. -/
structure SqlStore where
  session : Session
  /-- Whether an earlier ping has not come back. -/
  pingStuck : Bool
  deriving DecidableEq, Inhabited, Repr

namespace SqlStore

/-- A store over a database that has just been opened. -/
def create (session : Session) : SqlStore := ⟨session, false⟩

/-- A store over a new database in memory. -/
def inMemory : SqlStore := create (.start .inMemory .empty)

/-- Whether the store has been closed. -/
def isClosed (s : SqlStore) : Bool := s.session.connection.closed

/-! ## Work on the connections -/

/-- Runs something on the session. -/
def through {α : Type} (s : SqlStore) (run : Session → Except StoreError α × Session) :
    Except StoreError α × SqlStore :=
  let (answer, session) := run s.session
  (answer, { s with session })

/-- Makes sure of tables, one after the other, and tells what the
connection may do after that. -/
def ensureAll (access : Access) : List Kind → Guard × Database →
    Except StoreError Access × Guard × Database
  | [], p => (.ok access, p)
  | kind :: kinds, p =>
    -- A table that the guard knows costs no statement.
    let next := if p.1.isReady kind then access else access.later 1
    match Guard.ensure access kind p with
    | (.ok _, p) => ensureAll next kinds p
    | (.error e, p) => (.error e, p)

/-- Runs a statement after making sure of the tables it needs. -/
def writing {α : Type} (kinds : List Kind) (statement : Access → Statement α) : Work α :=
  fun access p =>
    match ensureAll access kinds p with
    | (.error e, p) => (.error e, p)
    | (.ok access, guard, db) =>
      let (answer, db) := statement access db
      (answer, guard, db)

/-- Runs a statement. -/
def reading {α : Type} (statement : Access → Statement α) : Work α := fun access p =>
  let (answer, db) := statement access p.2
  (answer, p.1, db)

/-- Runs a statement on the writing connection, after making sure of the
tables it needs. -/
def write {α : Type} (kinds : List Kind) (statement : Access → Statement α) (s : SqlStore) :
    Except StoreError α × SqlStore :=
  s.through (Session.onWriter (writing kinds statement))

/-- Makes sure of a table that is to be read. -/
def prepareRead (kind : Kind) (s : SqlStore) : Except StoreError Unit × SqlStore :=
  if s.session.guard.isReady kind then (.ok (), s)
  else s.through (Session.onWriter fun access => Guard.ensure access kind)

/-- Runs a statement on a reading connection, after making sure of the
table it needs. -/
def read {α : Type} (kind : Kind) (statement : Access → Statement α) (s : SqlStore) :
    Except StoreError α × SqlStore :=
  match s.prepareRead kind with
  | (.error e, s) => (.error e, s)
  | (.ok _, s) => s.through (Session.onReader (reading statement))

/-- **A closed store writes nothing.** -/
theorem write_closed {α : Type} (kinds : List Kind) (statement : Access → Statement α)
    (s : SqlStore) (h : s.isClosed = true) : s.write kinds statement = (.error .closed, s) := by
  simp [write, through, Session.onWriter_closed _ _ h]

/-! ## Writing -/

/-- How many statements write the rows. -/
def statementsFor {α : Type} (rows : List (String × α)) : Nat :=
  (chunksOf Statement.chunkRows rows).length

/-- Writes folded updates in the order gauges, counters. -/
def deltaRows (d : Delta) (access : Access) : Statement Unit := fun db =>
  match Statement.upsertMany access d.gauges.toList db with
  | (.error e, db) => (.error e, db)
  | (.ok _, db) =>
    -- Each piece of gauges was a statement of its own.
    let access := access.later (statementsFor d.gauges.toList)
    match Statement.accumulateMany access d.counters.toList db with
    | (.error e, db) => (.error e, db)
    | (.ok _, db) => (.ok (), db)

/-- Writes folded updates in one transaction. -/
def deltaStatement (d : Delta) (access : Access) : Statement Unit :=
  Statement.committed access
    (statementsFor d.gauges.toList + statementsFor d.counters.toList) (deltaRows d)

/-- The first value that is not finite, as a refusal. -/
def checkGauges : List (String × Binary64) → Except StoreError Unit
  | [] => .ok ()
  | (_, x) :: rows =>
    match checkGauge x with
    | .error e => .error e
    | .ok _ => checkGauges rows

/-- Applies folded updates in one transaction. -/
def writeDelta (d : Delta) (s : SqlStore) : Except StoreError Unit × SqlStore :=
  if d.isEmpty then (.ok (), s)
  else
    match checkGauges d.gauges.toList with
    | .error e => (.error e, s)
    | .ok _ => s.write [.gauge, .counter] (deltaStatement d)

/-- **Nothing to write succeeds even when closed.** -/
theorem writeDelta_empty (d : Delta) (s : SqlStore) (h : d.isEmpty = true) :
    s.writeDelta d = (.ok (), s) := by
  simp [writeDelta, h]

/-- **A value that is not finite is refused before the database is touched.** -/
theorem writeDelta_notFinite (d : Delta) (s : SqlStore) (e : StoreError) (hd : d.isEmpty = false)
    (h : checkGauges d.gauges.toList = .error e) : s.writeDelta d = (.error e, s) := by
  simp [writeDelta, hd, h]

/-- Writes a gauge. -/
def writeGauge (key : String) (x : Binary64) (s : SqlStore) : Except StoreError Unit × SqlStore :=
  match checkGauge x with
  | .error e => (.error e, s)
  | .ok x => s.write [.gauge] fun access => Statement.upsert access key x

/-- Adds to a counter, and gives the new total. -/
def addCounter (key : String) (delta : Int64) (s : SqlStore) : Except StoreError Int64 × SqlStore :=
  s.write [.counter] fun access => Statement.accumulate access key delta

/-- Writes one metric. -/
def writeData (m : Metric) (s : SqlStore) : Except StoreError Metric × SqlStore :=
  match m.validate with
  | .error e => (.error e, s)
  | .ok u =>
    match u.sample with
    | .gauge x =>
      match s.writeGauge u.id x with
      | (.ok _, s) => (.ok (.gauge u.id x), s)
      | (.error e, s) => (.error e, s)
    | .counter delta =>
      match s.addCounter u.id delta with
      | (.ok total, s) => (.ok (.counter u.id total), s)
      | (.error e, s) => (.error e, s)

/-- Writes a batch. -/
def writeBatch (b : Batch) (s : SqlStore) : Except StoreError Unit × SqlStore :=
  match b.validate with
  | .error e => (.error e, s)
  | .ok us =>
    match Delta.ofUpdates us with
    | .error e => (.error e, s)
    | .ok d => s.writeDelta d

/-! ## Reading -/

/-- Demands that all keys were found. -/
def demand {α : Type} (kind : Kind) (keys : List String)
    (p : Except StoreError (Table α) × SqlStore) : Except StoreError (Table α) × SqlStore :=
  match p with
  | (.error e, s) => (.error e, s)
  | (.ok found, s) =>
    -- Whoever asks for everything asks for no key, so none can be missing.
    match Table.ensurePresent kind keys found with
    | .error e => (.error e, s)
    | .ok _ => (.ok found, s)

/-- Reads gauges. -/
def readGauges (keys : List String) (s : SqlStore) :
    Except StoreError (Table Binary64) × SqlStore :=
  demand .gauge keys (s.read .gauge fun access => Statement.selectGauges access keys)

/-- Reads counters. -/
def readCounters (keys : List String) (s : SqlStore) :
    Except StoreError (Table Int64) × SqlStore :=
  demand .counter keys (s.read .counter fun access => Statement.selectCounters access keys)

/-! ## Being alive -/

/-- How long a ping waits for an answer, in milliseconds. -/
def pingTimeout : Nat := 250

/-- Asks for an answer on a reading connection.  While the database is
held by somebody else a ping runs into the timeout and stays stuck; until
it has come back, further pings run into theirs at once. -/
def pingWhile (held : Bool) (s : SqlStore) : Except StoreError Unit × SqlStore :=
  if s.pingStuck then (.error (.timeout "ping" pingTimeout), s)
  else
    match s.through Session.knock with
    | (.error e, s) => (.error e, s)
    | (.ok _, s) =>
      -- The ping that ran into the timeout still waits for the database.
      if held then (.error (.timeout "ping" pingTimeout), { s with pingStuck := true })
      else (.ok (), s)

/-- A stuck ping comes back, as nobody holds the database any more. -/
def released (s : SqlStore) : SqlStore := { s with pingStuck := false }

/-- Refuses all further work. -/
def close (s : SqlStore) : Except StoreError Unit × SqlStore := s.through Session.close

/-- **After closing a store is closed, whatever the answer.** -/
theorem close_isClosed (s : SqlStore) : s.close.2.isClosed = true :=
  Connection.close_closed s.session.connection

/-- The operations of the store.  Everything is durable already. -/
def operations : Store SqlStore where
  writeData := writeData
  writeBatch := writeBatch
  readGauges := readGauges
  readCounters := readCounters
  writeGauge := writeGauge
  writeCounter key delta s :=
    match s.addCounter key delta with
    | (.ok _, s) => (.ok (), s)
    | (.error e, s) => (.error e, s)
  dump s := (.ok (), s)
  load s := (.ok (), s)
  ping := pingWhile false
  close := close

end SqlStore

end Meterbank
