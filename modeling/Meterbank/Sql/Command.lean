/-
  Meterbank.Sql.Command — commands to a database as data.

  A command runs on one connection; a transaction is a command that holds
  others.  A command that fails inside a transaction does not end it, and
  what is known of the tables is not forgotten when the transaction is
  undone.
-/
import Meterbank.Sql.Connection

namespace Meterbank.Sql

/-! ## Commands -/

/-- A command to a database. -/
inductive Command where
  /-- Make sure of a table. -/
  | ensure (kind : Kind)
  | accumulate (key : String) (delta : Int64)
  | accumulateMany (rows : List (String × Int64))
  | upsert (key : String) (value : Binary64)
  | upsertMany (rows : List (String × Binary64))
  | selectGauges (keys : List String)
  | selectCounters (keys : List String)
  /-- Run commands, and keep or undo what they did. -/
  | transaction (commit : Bool) (commands : List Command)

/-- What a command answers with when it succeeds. -/
inductive Reply where
  | nothing
  | total (n : Int64)
  | written (rows : Nat)
  | gauges (t : Table Binary64)
  | counters (t : Table Int64)
  | answers (replies : List (Except StoreError Reply))

namespace Command

/-- A statement as work that knows nothing of guards. -/
def working {α : Type} (reply : α → Reply) (statement : Statement α) (p : Guard × Database) :
    Except StoreError Reply × Guard × Database :=
  let (answer, database) := statement p.2
  (answer.map reply, p.1, database)

/-- Makes sure of a table. -/
def ensuring (access : Access) (kind : Kind) (p : Guard × Database) :
    Except StoreError Reply × Guard × Database :=
  let (answer, p) := Guard.ensure access kind p
  (answer.map fun _ => .nothing, p)

mutual

/-- Executes a command, inside a transaction or outside of any. -/
def execute (inside : Bool) (access : Access) :
    Command → Guard × Database → Except StoreError Reply × Guard × Database
  | .ensure kind, p => ensuring access kind p
  | .accumulate key delta, p => working .total (Statement.accumulate access key delta) p
  | .accumulateMany rows, p => working .written (Statement.accumulateMany access rows) p
  | .upsert key x, p => working (fun _ => .nothing) (Statement.upsert access key x) p
  | .upsertMany rows, p => working .written (Statement.upsertMany access rows) p
  | .selectGauges keys, p => working .gauges (Statement.selectGauges access keys) p
  | .selectCounters keys, p => working .counters (Statement.selectCounters access keys) p
  | .transaction commit commands, p =>
    if inside then (.error (.sql .nestedTransaction), p)
    else
      let ((replies, guard), database) := Statement.transaction commit
        (fun db =>
          let (replies, guard, db) := executeAll access commands (p.1, db)
          ((replies, guard), db))
        p.2
      (.ok (.answers replies), guard, database)

/-- Executes the commands of a transaction in order, whatever becomes of
each. -/
def executeAll (access : Access) :
    List Command → Guard × Database → List (Except StoreError Reply) × Guard × Database
  | [], p => ([], p)
  | command :: commands, p =>
    let (reply, p) := execute true access command p
    let (replies, p) := executeAll access commands p
    (reply :: replies, p)

end

/-! ## Transactions -/

end Command

end Meterbank.Sql
