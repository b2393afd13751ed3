/-
  Meterbank.Sql.Relation — the rows of one table of a database.

  Rows stand in the order in which they were inserted; no two have the
  same key.  A gauge row is replaced by a write, a counter row is added
  to, and one whose sum would be no integer is left alone.  A table may
  restrict its values to those below a bound, which is checked for the
  row as it would be inserted and for the row as it is changed.

  Main results:
    * `find?_put` — a row that was put is found, others are as before.
    * `accumulate_new`, `accumulate_stored` — what adding to a row does.
-/
import Meterbank.Sql.Cell
import Meterbank.Table

namespace Meterbank.Sql

/-! ## Rows -/

/-- The key of a row. -/
inductive Key where
  | text (s : String)
  | blob (bytes : List UInt8)
  deriving DecidableEq, Inhabited, Repr

/-- A key and its value. -/
structure Row where
  key : Key
  value : Cell
  deriving DecidableEq, Inhabited, Repr

/-- A table: its rows in order of insertion, and the bound of its
values, if it has one. -/
structure Relation where
  rows : List Row
  bound : Option Bound
  deriving DecidableEq, Inhabited, Repr

namespace Relation

/-- A table without rows. -/
def empty : Relation := ⟨[], none⟩

/-- The value of a key. -/
def find? (r : Relation) (key : String) : Option Cell :=
  (r.rows.find? fun row => row.key = .text key).map Row.value

/-- Rows with the value of a key replaced, or with a new row at the end. -/
def putRow (key : String) (value : Cell) : List Row → List Row
  | [] => [⟨.text key, value⟩]
  | row :: rows =>
    if row.key = .text key then ⟨.text key, value⟩ :: rows else row :: putRow key value rows

/-- Gives a key a value. -/
def put (r : Relation) (key : String) (value : Cell) : Relation :=
  { r with rows := putRow key value r.rows }

/-- **A row that was put is found, and others are as before.** -/
theorem find?_put (r : Relation) (key k : String) (value : Cell) :
    (r.put key value).find? k = if key = k then some value else r.find? k := by
  unfold find? put
  simp only
  induction r.rows with
  | nil =>
    by_cases h : key = k
    · simp [putRow, h]
    · simp [putRow, h]
  | cons row rows ih =>
    unfold putRow
    by_cases hr : row.key = .text key
    · by_cases h : key = k
      · simp [hr, h]
      · simp [hr, h]
    · by_cases hk : row.key = .text k
      · have h : key ≠ k := by
          rintro rfl
          exact hr hk
        have h' : k ≠ key := fun e => h e.symm
        simp [hk, h, h']
      · rw [if_neg hr, List.find?_cons_of_neg (by simpa using hk),
          List.find?_cons_of_neg (by simpa using hk)]
        exact ih

/-! ## Checks -/

/-- The name of the table of a kind. -/
def tableName : Kind → String
  | .gauge => "gauges"
  | .counter => "counters"

/-- Whether a value may stand in a row of the table. -/
def allow (kind : Kind) (r : Relation) (value : Cell) : Except SqlFault Unit :=
  if value = .null then .error (.notNull (tableName kind) "Value")
  else
    match r.bound with
    | none => .ok ()
    | some bound => if value.below bound then .ok () else .error (.check "Value")

/-- In a table without a bound every value but nothing is allowed. -/
theorem allow_of_no_bound (kind : Kind) (r : Relation) (value : Cell) (hb : r.bound = none)
    (hv : value ≠ .null) : r.allow kind value = .ok () := by
  simp [allow, hb, hv]

/-! ## Writing rows -/

/-- Replaces the value of a gauge row, or inserts one. -/
def upsert (r : Relation) (key : String) (x : Binary64) : Except SqlFault Relation :=
  let value := (Cell.real x).asGauge
  match r.allow .gauge value with
  | .error e => .error e
  | .ok _ => .ok (r.put key value)

/-- Adds to a counter row, or inserts one.  Gives the new total; `none`
if there is none, and the row was left alone. -/
def accumulate (r : Relation) (key : String) (delta : Int64) :
    Except SqlFault (Option (Int64 × Relation)) :=
  match r.allow .counter (.integer delta) with
  | .error e => .error e
  | .ok _ =>
    match r.find? key with
    | none => .ok (some (delta, r.put key (.integer delta)))
    | some old =>
      match old.plus delta with
      -- The sum would be no integer, so the update does not match the row.
      | none => .ok none
      | some sum =>
        match r.allow .counter (.integer sum) with
        | .error e => .error e
        | .ok _ => .ok (some (sum, r.put key (.integer sum)))

/-- **Adding to a key without a row inserts the delta.** -/
theorem accumulate_new (r : Relation) (key : String) (delta : Int64) (hb : r.bound = none)
    (hf : r.find? key = none) :
    r.accumulate key delta = .ok (some (delta, r.put key (.integer delta))) := by
  simp [accumulate, allow_of_no_bound _ r _ hb, hf]

/-- **Adding to an integer gives the exact sum or leaves the row alone.** -/
theorem accumulate_stored (r : Relation) (key : String) (n delta : Int64) (hb : r.bound = none)
    (hf : r.find? key = some (.integer n)) :
    r.accumulate key delta =
      .ok ((Total.add? n delta).map fun sum => (sum, r.put key (.integer sum))) := by
  unfold accumulate
  rw [allow_of_no_bound _ r _ hb (by simp), hf]
  simp only [plus_integer]
  cases Total.add? n delta with
  | none => rfl
  | some sum =>
    simp only [Option.map_some]
    rw [allow_of_no_bound _ r _ hb (by simp)]

/-- Replaces many gauge rows in order.  A fault undoes them all. -/
def upsertRows (r : Relation) : List (String × Binary64) → Except SqlFault Relation
  | [] => .ok r
  | (key, x) :: rows =>
    match r.upsert key x with
    | .error e => .error e
    | .ok r => upsertRows r rows

/-- Adds to many counter rows in order, and counts those left alone.  A
fault undoes them all. -/
def accumulateRows (r : Relation) : List (String × Int64) → Except SqlFault (Nat × Relation)
  | [] => .ok (0, r)
  | (key, delta) :: rows =>
    match r.accumulate key delta with
    | .error e => .error e
    -- A row that is left alone does not keep the others from growing.
    | .ok none => (accumulateRows r rows).map fun (skipped, r) => (skipped + 1, r)
    | .ok (some (_, r)) => accumulateRows r rows

/-! ## Reading rows -/

/-- The key of a row as a text. -/
def readKey (row : Row) : Except SqlFault String :=
  match row.key with
  | .text s => .ok s
  | .blob _ => .error (.columnType .blob 0 "Key")

/-- The value of a gauge row. -/
def readGauge (row : Row) : Except SqlFault Binary64 :=
  match row.value with
  | .real x => .ok x
  | .integer n => .ok (Number.nearest (decide (n.toInt < 0)) n.toInt.natAbs 0)
  | c => .error (.columnType c.storageClass 1 "Value")

/-- The value of a counter row. -/
def readCounter (row : Row) : Except SqlFault Int64 :=
  match row.value with
  | .integer n => .ok n
  | c => .error (.columnType c.storageClass 1 "Value")

/-- Adds rows to what has been read. -/
def collect {α : Type} (read : Row → Except SqlFault α) (t : Table α) :
    List Row → Except SqlFault (Table α)
  | [] => .ok t
  | row :: rows =>
    match readKey row with
    | .error e => .error e
    | .ok key =>
      match read row with
      | .error e => .error e
      | .ok value => collect read (t.set key value) rows

/-- Keys in order, each once. -/
def sortKeys (keys : List String) : List String :=
  (keys.foldl (fun t key => Table.set t key ()) (∅ : Table Unit)).toList.map Prod.fst

/-- The rows of the given keys, in the order of the keys. -/
def rowsOf (r : Relation) (keys : List String) : List Row :=
  (sortKeys keys).filterMap fun key => (r.find? key).map fun value => ⟨.text key, value⟩

end Relation

end Meterbank.Sql
