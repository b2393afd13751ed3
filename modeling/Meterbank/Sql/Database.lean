/-
  Meterbank.Sql.Database — the two tables, and the statements on them.

  A database may have either table, both or none.  A statement runs on a
  connection that may write, that may only read, or that does not get to
  the database at all; any statement of a piece of work may also fail on
  its own, and so may a commit.  A statement gives its answer and the
  database after it, as a long statement that fails half-way leaves the
  pieces before it written.  A transaction puts the database back unless
  it is committed.
-/
import Meterbank.Chunks
import Meterbank.Sql.Relation

namespace Meterbank.Sql

/-! ## Databases -/

/-- A database. -/
structure Database where
  gauges : Option Relation
  counters : Option Relation
  deriving DecidableEq, Inhabited, Repr

/-- What a connection may do. -/
inductive Access where
  | readWrite
  /-- It may read; what it is told to write is refused.  A table that it
  does not know yet it would have to write. -/
  | readOnly (refusal : SqlFault) (known : Option (List Kind))
  /-- It does not get to the database. -/
  | blocked (fault : SqlFault)
  /-- It may write, but statements of a piece of work fail: one after the
  other, those for which there is a fault. -/
  | faltering (faults : List (Option SqlFault))
  deriving DecidableEq, Repr

instance : Inhabited Access := ⟨.readWrite⟩

namespace Access

/-- What the next statement fails with, whatever it is. -/
def fault? : Access → Option SqlFault
  | .blocked fault => some fault
  | .faltering (fault :: _) => fault
  | _ => none

/-- What the connection may do after so many statements. -/
def later (n : Nat) : Access → Access
  | .faltering faults => .faltering (faults.drop n)
  | access => access

/-- Whether the connection may write at all. -/
def writes : Access → Bool
  | .readWrite | .faltering _ => true
  | _ => false

end Access

namespace Database

/-- A database without tables. -/
def empty : Database := ⟨none, none⟩

/-- The table of a kind. -/
def table? (db : Database) : Kind → Option Relation
  | .gauge => db.gauges
  | .counter => db.counters

/-- Puts a table in its place. -/
def withTable (db : Database) (kind : Kind) (r : Relation) : Database :=
  match kind with
  | .gauge => { db with gauges := some r }
  | .counter => { db with counters := some r }

/-- A table that was put in its place is there. -/
theorem table?_withTable (db : Database) (kind : Kind) (r : Relation) :
    (db.withTable kind r).table? kind = some r := by
  cases kind <;> rfl

/-- The kinds of the tables that are there. -/
def kinds (db : Database) : List Kind :=
  [Kind.gauge, Kind.counter].filter fun kind => (db.table? kind).isSome

/-- The name of the table of a kind. -/
def tableName (kind : Kind) : String := Relation.tableName kind

/-- The table of a kind, to be read. -/
def require (access : Access) (db : Database) (kind : Kind) : Except SqlFault Relation :=
  match access.fault?, db.table? kind with
  | some fault, _ => .error fault
  | none, some r => .ok r
  | none, none => .error (.noSuchTable (tableName kind))

/-- The table of a kind, to be written. -/
def requireWritable (access : Access) (db : Database) (kind : Kind) : Except SqlFault Relation :=
  match db.require access kind, access with
  | .error e, _ => .error e
  | .ok _, .readOnly refusal _ => .error refusal
  | .ok r, _ => .ok r

end Database

/-! ## Statements -/

/-- What a statement does: it answers, and leaves a database behind. -/
abbrev Statement (α : Type) := Database → Except StoreError α × Database

namespace Statement

/-- Rows per multi-row statement. -/
def chunkRows : Nat := 500

/-- Keys per reading statement. -/
def chunkKeys : Nat := 1000

/-- Creates a table, with a bound on its values if one is given, unless
there is one.  A connection that only reads is refused if it does not
know that there is one. -/
def declare (access : Access) (kind : Kind) (bound : Option Bound) : Statement Unit := fun db =>
  match access.fault? with
  | some fault => (.error (.sql fault), db)
  | none =>
    match access, db.table? kind with
    | .readOnly refusal known, some _ =>
      (if known.all (·.contains kind) then .ok () else .error (.sql refusal), db)
    | .readOnly refusal _, none => (.error (.sql refusal), db)
    -- A table that is there keeps its own bound.
    | _, some _ => (.ok (), db)
    | _, none => (.ok (), db.withTable kind ⟨[], bound⟩)

/-- Creates a table unless it is there. -/
def create (access : Access) (kind : Kind) : Statement Unit := declare access kind none

/-- Adds a delta to one counter and answers with the new total. -/
def accumulate (access : Access) (key : String) (delta : Int64) : Statement Int64 := fun db =>
  match db.requireWritable access .counter with
  | .error e => (.error (.sql e), db)
  | .ok r =>
    match r.accumulate key delta with
    | .error e => (.error (.sql e), db)
    | .ok none => (.error (.validation (.overflowAdding key delta)), db)
    | .ok (some (total, r)) => (.ok total, db.withTable .counter r)

/-- Adds pieces of rows one after the other, and counts the rows.  The
first piece with rows that were left alone is the last. -/
def accumulateChunks (access : Access) (count : Nat) :
    List (List (String × Int64)) → Statement Nat
  | [], db => (.ok count, db)
  | rows :: rest, db =>
    -- The pieces before this one are written already, and stay so.
    match db.requireWritable access .counter with
    | .error e => (.error (.sql e), db)
    | .ok r =>
      match r.accumulateRows rows with
      | .error e => (.error (.sql e), db)
      | .ok (skipped, r) =>
        if skipped = 0 then
          accumulateChunks (access.later 1) (count + rows.length) rest (db.withTable .counter r)
        else
          (.error (.validation (.overflowInBatch skipped rows.length)), db.withTable .counter r)

/-- Adds many deltas and answers with their number. -/
def accumulateMany (access : Access) (rows : List (String × Int64)) : Statement Nat :=
  accumulateChunks access 0 (chunksOf chunkRows rows)

/-- Writes one gauge. -/
def upsert (access : Access) (key : String) (x : Binary64) : Statement Unit := fun db =>
  match db.requireWritable access .gauge with
  | .error e => (.error (.sql e), db)
  | .ok r =>
    match r.upsert key x with
    | .error e => (.error (.sql e), db)
    | .ok r => (.ok (), db.withTable .gauge r)

/-- Writes pieces of rows one after the other, and counts the rows. -/
def upsertChunks (access : Access) (count : Nat) :
    List (List (String × Binary64)) → Statement Nat
  | [], db => (.ok count, db)
  | rows :: rest, db =>
    match db.requireWritable access .gauge with
    | .error e => (.error (.sql e), db)
    | .ok r =>
      match r.upsertRows rows with
      | .error e => (.error (.sql e), db)
      | .ok r => upsertChunks (access.later 1) (count + rows.length) rest (db.withTable .gauge r)

/-- Writes many gauges and answers with their number. -/
def upsertMany (access : Access) (rows : List (String × Binary64)) : Statement Nat :=
  upsertChunks access 0 (chunksOf chunkRows rows)

/-- Reads the rows of pieces of keys one after the other. -/
def selectChunks {α : Type} (r : Relation) (read : Row → Except SqlFault α) (t : Table α) :
    List (List String) → Except SqlFault (Table α)
  | [] => .ok t
  | keys :: rest =>
    match Relation.collect read t (r.rowsOf keys) with
    | .error e => .error e
    | .ok t => selectChunks r read t rest

/-- Reads the rows of the keys that have one; all rows, if no key is given. -/
def selectRows {α : Type} (r : Relation) (read : Row → Except SqlFault α) (keys : List String) :
    Except SqlFault (Table α) :=
  if keys.isEmpty then Relation.collect read ∅ r.rows
  else selectChunks r read ∅ (chunksOf chunkKeys keys)

/-- Reads from the table of a kind. -/
def select {α : Type} (access : Access) (kind : Kind) (read : Row → Except SqlFault α)
    (keys : List String) : Statement (Table α) := fun db =>
  match db.require access kind with
  | .error e => (.error (.sql e), db)
  | .ok r =>
    match selectRows r read keys with
    | .error e => (.error (.sql e), db)
    | .ok t => (.ok t, db)

/-- Reads gauges. -/
def selectGauges (access : Access) (keys : List String) : Statement (Table Binary64) :=
  select access .gauge Relation.readGauge keys

/-- Reads counters. -/
def selectCounters (access : Access) (keys : List String) : Statement (Table Int64) :=
  select access .counter Relation.readCounter keys

/-- Runs statements that are undone unless they succeed. -/
def atomically {α : Type} (body : Statement α) : Statement α := fun db =>
  match body db with
  | (.ok a, after) => (.ok a, after)
  | (.error e, _) => (.error e, db)

/-- Begins or ends something, without touching a table. -/
def bare (access : Access) (report : SqlFault → SqlFault) : Statement Unit := fun db =>
  match access.fault? with
  | some fault => (.error (.sql (report fault)), db)
  | none => (.ok (), db)

/-- Runs so many statements in a transaction.  They are undone unless
they succeed and can be committed. -/
def committed (access : Access) (statements : Nat) (body : Access → Statement Unit) :
    Statement Unit :=
  atomically fun db =>
    match bare access id db with
    | (.error e, db) => (.error e, db)
    | (.ok _, db) =>
      match body (access.later 1) db with
      | (.error e, db) => (.error e, db)
      -- The begin and all statements come before the commit.
      | (.ok _, db) => bare (access.later (statements + 1)) .commit db

/-- Runs statements, whose faults do not matter, and keeps or undoes
what they did. -/
def transaction {β : Type} (commit : Bool) (body : Database → β × Database) :
    Database → β × Database := fun db =>
  let (answers, after) := body db
  (answers, if commit then after else db)

/-- A failed atomic statement changes nothing. -/
theorem atomically_error {α : Type} (body : Statement α) (db : Database) (e : StoreError)
    (h : (atomically body db).1 = .error e) : (atomically body db).2 = db := by
  unfold atomically at h ⊢
  split
  · next hb => simp [hb] at h
  · rfl

end Statement

end Meterbank.Sql
