/-
  Meterbank.Sql.Seed — tables that were filled by somebody else.

  A database may already hold a table when a store opens it, with cells
  that no store would have written.  Such a table is made unless it is
  there, and filled row by row; a row enters its column as any does, and
  must have a key of its own.
-/
import Meterbank.Sql.Database

namespace Meterbank.Sql

/-- A cell as it enters the value column of a table. -/
def Cell.entering (kind : Kind) (c : Cell) : Cell :=
  match kind with
  | .gauge => c.asGauge
  | .counter => c.asCounter

namespace Relation

/-- Inserts a row whose key must be new. -/
def insert (kind : Kind) (r : Relation) (key : Key) (value : Cell) : Except SqlFault Relation :=
  let value := value.entering kind
  match r.allow kind value with
  | .error e => .error e
  | .ok _ =>
    if r.rows.any fun row => row.key = key then .error (.unique (tableName kind) "Key")
    else .ok { r with rows := r.rows ++ [⟨key, value⟩] }

end Relation

namespace Statement

/-- Inserts a row whose key must be new. -/
def insert (access : Access) (kind : Kind) (key : Key) (value : Cell) : Statement Unit := fun db =>
  match db.requireWritable access kind with
  | .error e => (.error (.sql e), db)
  | .ok r =>
    match r.insert kind key value with
    | .error e => (.error (.sql e), db)
    | .ok r => (.ok (), db.withTable kind r)

/-- Inserts rows in order, up to the first that does not fit. -/
def insertAll (access : Access) (kind : Kind) : List (Key × Cell) → Statement Unit
  | [], db => (.ok (), db)
  | (key, value) :: rows, db =>
    match insert access kind key value db with
    | (.error e, db) => (.error e, db)
    | (.ok _, db) => insertAll (access.later 1) kind rows db

/-- Makes sure of a table, and inserts rows.  A table that is there keeps
its own bound. -/
def seed (access : Access) (kind : Kind) (bound : Option Bound) (rows : List (Key × Cell)) :
    Statement Unit := fun db =>
  match declare access kind bound db with
  | (.error e, db) => (.error e, db)
  | (.ok _, db) => insertAll (access.later 1) kind rows db

end Statement

end Meterbank.Sql
