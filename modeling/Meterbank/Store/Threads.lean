/-
  Meterbank.Store.Threads — many threads of a store over a database.

  Any number of threads may use a store over a database at the same time.
  A request goes through sections, and between two sections of one request
  those of others go on:

      start         a write looks whether the store is open; a read asks
                    the guard whether its table is known
      looking       a read whose table is not known looks whether the
                    store is open
      queued        the connection that writes is taken, once it is free
      ensuring      the guard is asked for the next table; if none is left,
                    the statement is run
      declaring     the table is created, unless it is there
      marking       the guard is told that the table is there
      publishing    what the statement has done is committed, or undone
      releasing     the connection that writes is given back
      prepared      a read looks whether the store is open, and takes its
                    turn at the connections that read
      reading       it reads there
      checkpointing what has been written is brought into the file

  What a statement does is seen by nobody else before it is committed,
  and until then nobody outside can write to the database.  Otherwise the
  outside may change the database as it likes, as long as it drops no
  table, and may change what the connections can do.

  Main results:
    * `written_publish`, `guard_publish` — what committing does to a session.
-/
import Meterbank.Store.Callers
import Meterbank.Store.Plans

namespace Meterbank

open Meterbank.Sql

/-! ## The connection that writes -/

namespace Sql.Session

/-- What the connection that writes sees. -/
def written (s : Session) : Database := s.connection.writer.own.getD s.database

/-- A session whose connection that writes sees this database. -/
def publish (s : Session) (db : Database) : Session :=
  match s.connection.writer.own with
  | none => { s with database := db }
  | some _ =>
    { s with connection :=
        { s.connection with writer := { s.connection.writer with own := some db } } }

/-- A session whose connection that writes has done work. -/
def leave {α : Type} (s : Session) (answer : Except StoreError α) : Session :=
  { s with connection :=
      { s.connection with writer := s.connection.writer.after answer s.written } }

@[simp] theorem written_publish (s : Session) (db : Database) : (s.publish db).written = db := by
  unfold publish written
  cases h : s.connection.writer.own with
  | none => simp [h]
  | some own => rfl

@[simp] theorem guard_publish (s : Session) (db : Database) : (s.publish db).guard = s.guard := by
  unfold publish
  cases s.connection.writer.own <;> rfl

end Sql.Session

/-! ## Requests -/

namespace Threads

/-- What a thread asks of the store. -/
inductive Request where
  | call (c : Store.Call)
  /-- To write the folded updates of a window. -/
  | flush (d : Delta)

/-- What it comes to. -/
def Request.plan : Request → Plan
  | .call c => .ofCall c
  | .flush d => .flush d

/-- What the connection that writes is taken for. -/
inductive Errand where
  /-- To make sure of a table that is to be read. -/
  | preparing
  /-- To run the statement. -/
  | working
  deriving DecidableEq, Repr

end Threads

namespace Plan

open Meterbank.Threads (Errand)

/-- The tables that its statement is about. -/
def tables : Plan → List Kind
  | .write kinds _ => kinds
  | .read kind _ _ => [kind]
  | _ => []

/-- The tables that are made sure of on the connection that writes. -/
def ensures : Plan → Errand → List Kind
  | .write kinds _, .working => kinds
  | .read kind _ _, .preparing => [kind]
  | _, _ => []

/-- The statement that is run on the connection that writes. -/
def statement? : Plan → Errand → Option (Access → Statement Store.Payload)
  | .write _ statement, .working => some statement
  | .read _ statement _, .working => some statement
  | _, _ => none

end Plan

namespace Threads

/-- How far a thread has come. -/
inductive Point where
  | start
  | looking
  | queued (errand : Errand)
  | ensuring (errand : Errand) (access : Access) (kinds : List Kind)
  | declaring (errand : Errand) (access : Access) (kind : Kind) (kinds : List Kind)
  | marking (errand : Errand) (access : Access) (kind : Kind) (kinds : List Kind)
  | publishing (errand : Errand) (answer : Except StoreError Store.Payload) (draft : Database)
  | releasing (errand : Errand) (answer : Except StoreError Store.Payload)
  | prepared
  | reading (reader : Nat)
  | checkpointing
  | answered (answer : Except StoreError Store.Payload)

/-- Whether something has been done that is not committed. -/
def Point.drafts : Point → Bool
  | .publishing _ _ _ => true
  | _ => false

/-- Where a thread goes on that has given the connection back. -/
def resume (plan : Plan) : Errand → Except StoreError Store.Payload → Point
  | .preparing, .ok _ => .prepared
  | .preparing, .error e => .answered (.error e)
  | .working, answer => .answered (plan.finish answer)

/-! ## Sections -/

/-- What the threads share. -/
structure Shared where
  store : SqlStore
  /-- The thread that has the connection that writes, if one has. -/
  holder : Option Nat

namespace Shared

/-- The session of the store. -/
def session (s : Shared) : Session := s.store.session

/-- The same with another session. -/
def withSession (s : Shared) (session : Session) : Shared :=
  { s with store := { s.store with session } }

/-- Where a thread goes on that looks whether the store is open. -/
def letIn (s : Shared) (point : Point) : Point :=
  if s.store.isClosed then .answered (.error .closed) else point

end Shared

/-- The first section of a thread. -/
def begin (plan : Plan) (s : Shared) : Point × Shared :=
  match plan with
  | .done answer => (.answered answer, s)
  | .write _ _ => (s.letIn (.queued .working), s)
  | .read kind _ _ => (if s.session.guard.isReady kind then .prepared else .looking, s)
  | .ping =>
    let (answer, store) := Store.wrap (fun _ => .nothing) (s.store.pingWhile false)
    (.answered answer, { s with store })
  | .close =>
    if s.store.isClosed then (.answered (.ok .nothing), s)
    else
      -- From here on nobody is let in any more.
      (.checkpointing,
        s.withSession { s.session with connection := { s.session.connection with closed := true } })

/-- The section in which a read takes its turn. -/
def takeTurn (s : Shared) : Point × Shared :=
  let c := s.session.connection
  if s.store.isClosed then (.answered (.error .closed), s)
  else
    match c.readers[c.turn % c.readers.length]? with
    | none => (.queued .working, s)
    | some _ =>
      (.reading (c.turn % c.readers.length),
        s.withSession { s.session with connection := { c with turn := c.turn + 1 } })

/-- The section in which a read reads. -/
def readOn (plan : Plan) (reader : Nat) (s : Shared) : Point × Shared :=
  let c := s.session.connection
  match plan, c.readers[reader]? with
  | .read _ statement look, some link =>
    let (answer, link, guard, database) :=
      link.run (SqlStore.reading statement) (s.session.guard, s.session.database)
    (.answered (answer.bind look),
      s.withSession ⟨{ c with readers := c.readers.set reader link }, guard, database⟩)
  | _, _ => (.reading reader, s)

/-- The section that brings what has been written into the file. -/
def checkpoint (s : Shared) : Point × Shared :=
  match s.session.connection.file with
  | none => (.answered (.ok .nothing), s)
  | some _ =>
    if s.holder.isSome then (.checkpointing, s)
    else
      match s.session.connection.unsettled with
      | some fault => (.answered (.error (.sql fault)), s)
      | none => (.answered (.ok .nothing), s)

/-- The next section of the thread of this number. -/
def next (i : Nat) (plan : Plan) (point : Point) (s : Shared) : Point × Shared :=
  match point with
  | .start => begin plan s
  | .looking => (s.letIn (.queued .preparing), s)
  | .queued errand =>
    if s.holder.isSome then (.queued errand, s)
    else
      (.ensuring errand s.session.connection.writer.offer (plan.ensures errand),
        { s with holder := some i })
  | .ensuring errand access (kind :: kinds) =>
    if s.session.guard.isReady kind then (.ensuring errand access kinds, s)
    else (.declaring errand access kind kinds, s)
  | .ensuring errand access [] =>
    match plan.statement? errand with
    | none => (.releasing errand (.ok .nothing), s)
    | some statement =>
      let (answer, draft) := statement access s.session.written
      (.publishing errand answer draft, s)
  | .declaring errand access kind kinds =>
    match Statement.create access kind s.session.written with
    | (.ok _, db) =>
      (.marking errand (access.later 1) kind kinds, s.withSession (s.session.publish db))
    | (.error e, db) => (.releasing errand (.error e), s.withSession (s.session.publish db))
  | .marking errand access kind kinds =>
    (.ensuring errand access kinds,
      s.withSession { s.session with guard := s.session.guard.mark kind })
  | .publishing errand answer draft =>
    (.releasing errand answer, s.withSession (s.session.publish draft))
  | .releasing errand answer =>
    (resume plan errand answer, { s.withSession (s.session.leave answer) with holder := none })
  | .prepared => takeTurn s
  | .reading reader => readOn plan reader s
  | .checkpointing => checkpoint s
  | .answered answer => (.answered answer, s)

/-! ## Threads -/

/-- How threads go through the store.  What a thread is about is its plan. -/
def protocol : Callers.Protocol Plan Shared Point where
  first _ := .start
  next := next
  answer? point :=
    match point with
    | .answered answer => some answer
    | _ => none

abbrev Thread := Callers.Caller Plan Point

abbrev State := Callers.State Plan Shared Point

/-- One section, a new thread, or something outside. -/
inductive Event where
  | call (request : Request)
  | advance (thread : Nat)
  /-- Somebody else has made the database this one. -/
  | outside (db : Database)
  /-- The connection that writes, or the one that reads of this number, can
  do something else from now on. -/
  | access (reader : Option Nat) (access : Access)
  /-- What is written cannot be brought into the file from now on, or can. -/
  | unsettle (fault : Option SqlFault)
  /-- A ping has not come back, or has. -/
  | stall (stuck : Bool)

/-- Whether no table of a database is missing from another one. -/
def keepsTables (db db' : Database) : Bool := db.kinds.all fun kind => (db'.table? kind).isSome

/-- The database as somebody else has left it, unless that is not possible:
while something is not committed nobody else writes, and nobody drops a
table. -/
def State.outside (s : State) (db : Database) : State :=
  if keepsTables s.shared.session.database db ∧ s.callers.all (! ·.point.drafts) then
    { s with shared := s.shared.withSession { s.shared.session with database := db } }
  else s

/-- The connections, one of which can do something else. -/
def giveAccess (c : Connection) (reader : Option Nat) (access : Access) : Connection :=
  match reader with
  | none => { c with writer := { c.writer with access } }
  | some r => { c with readers := c.readers.modify r fun link => { link with access } }

/-- What an event does. -/
def step (s : State) : Event → State
  | .call request => Callers.step protocol s (.call request.plan)
  | .advance i => Callers.step protocol s (.advance i)
  | .outside db => s.outside db
  | .access reader access =>
    let connection := giveAccess s.shared.session.connection reader access
    { s with shared := s.shared.withSession { s.shared.session with connection } }
  | .unsettle fault =>
    let connection := { s.shared.session.connection with unsettled := fault }
    { s with shared := s.shared.withSession { s.shared.session with connection } }
  | .stall stuck =>
    { s with shared := { s.shared with store := { s.shared.store with pingStuck := stuck } } }

/-- A store without threads. -/
def start (store : SqlStore) : State := Callers.start ⟨store, none⟩

end Threads

end Meterbank
