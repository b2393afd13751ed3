/-
  Meterbank.Proofs.Sql.RowByRow — statements of many rows against
  statements of one row.

  Many rows are written in pieces, one statement a piece, and a piece whose
  changed rows are fewer than its rows ends the writing.  The other way to
  write them is one by one, going on after a row that is refused.  Both
  ways come to the same, whatever the table holds and whichever keys are
  repeated, up to the end of the first piece with a row that is refused;
  there the writing in pieces stops.

  Main results:
    * `accumulateMany_eq` — many deltas written at once against the same
      deltas written one by one.
    * `upsertMany_eq` — the same for many finite gauges, of which none is
      refused.
    * `many_rows_agree_with_single_rows` — both of them, with what one
      delta does to one total.
-/
import Meterbank.Sql.Parameters
import Meterbank.Proofs.Sql.Finite

namespace Meterbank.Sql

open Meterbank.Number

/-! ## One row after the other -/

namespace Statement

section

variable {α β : Type}

/-- Runs a statement for one row after the other, and goes on after one
that fails.  Gives the answers in order. -/
def each (statement : β → Statement α) : List β → Database → List (Except StoreError α) × Database
  | [], db => ([], db)
  | row :: rows, db =>
    let (answer, db) := statement row db
    let (answers, db) := each statement rows db
    (answer :: answers, db)

theorem each_cons (statement : β → Statement α) (row : β) (rows : List β) (db : Database) :
    each statement (row :: rows) db =
      ((statement row db).1 :: (each statement rows (statement row db).2).1,
        (each statement rows (statement row db).2).2) := rfl

theorem each_append (statement : β → Statement α) (rows more : List β) (db : Database) :
    each statement (rows ++ more) db =
      ((each statement rows db).1 ++ (each statement more (each statement rows db).2).1,
        (each statement more (each statement rows db).2).2) := by
  induction rows generalizing db with
  | nil => rfl
  | cons row rows ih =>
    rw [List.cons_append, each_cons, each_cons, ih]
    rfl

/-- Each row has its answer. -/
theorem length_each (statement : β → Statement α) (rows : List β) (db : Database) :
    (each statement rows db).1.length = rows.length := by
  induction rows generalizing db with
  | nil => rfl
  | cons row rows ih =>
    rw [each_cons, List.length_cons, List.length_cons, ih]

/-- Whether an answer is an error. -/
def refused : Except StoreError α → Bool
  | .ok _ => false
  | .error _ => true

/-- How many answers are errors. -/
def refusals (answers : List (Except StoreError α)) : Nat := answers.countP refused

theorem refusals_append (answers more : List (Except StoreError α)) :
    refusals (answers ++ more) = refusals answers + refusals more := List.countP_append

theorem refusals_error (e : StoreError) (answers : List (Except StoreError α)) :
    refusals (.error e :: answers) = refusals answers + 1 := List.countP_cons_of_pos rfl

theorem refusals_ok (a : α) (answers : List (Except StoreError α)) :
    refusals (.ok a :: answers) = refusals answers := List.countP_cons_of_neg (by simp [refused])

/-- Nobody was refused exactly if there is no first one. -/
theorem refusals_eq_zero_iff {answers : List (Except StoreError α)} :
    refusals answers = 0 ↔ answers.findIdx? refused = none := by
  rw [refusals, List.countP_eq_zero, List.findIdx?_eq_none_iff]
  simp

/-- The number of the first row that is refused, if any is. -/
def firstRefused (statement : β → Statement α) (rows : List β) (db : Database) : Option Nat :=
  (each statement rows db).1.findIdx? refused

/-- Rows are refused behind others as they are refused after them. -/
theorem firstRefused_append (statement : β → Statement α) (rows more : List β) (db : Database) :
    firstRefused statement (rows ++ more) db =
      (firstRefused statement rows db).or
        ((firstRefused statement more (each statement rows db).2).map (· + rows.length)) := by
  unfold firstRefused
  rw [each_append, List.findIdx?_append, length_each]

theorem firstRefused_lt {statement : β → Statement α} {rows : List β} {db : Database} {i : Nat}
    (h : firstRefused statement rows db = some i) : i < rows.length := by
  obtain ⟨hi, -⟩ := List.findIdx?_eq_some_iff_getElem.1 h
  rw [length_each] at hi
  exact hi

/-- The rows up to the end of the piece in which the row with this number is. -/
def throughPiece (size i : Nat) (rows : List β) : List β := rows.take ((i / size + 1) * size)

/-- The piece of a row behind a first piece. -/
theorem throughPiece_behind {size : Nat} (hs : 0 < size) (i : Nat) (rows : List β) :
    throughPiece size (i + size) rows = rows.take size ++ throughPiece size i (rows.drop size) := by
  have hsize : ((i + size) / size + 1) * size = size + (i / size + 1) * size := by
    rw [Nat.add_div_right i hs, Nat.succ_mul, Nat.add_comm]
  unfold throughPiece
  rw [hsize, List.take_add]

/-- A row that is refused in the first piece. -/
theorem firstRefused_take {statement : β → Statement α} {size i : Nat} {rows : List β}
    {db : Database} (h : firstRefused statement (rows.take size) db = some i) :
    firstRefused statement rows db = some i ∧ i / size = 0 ∧
      throughPiece size i rows = rows.take size := by
  have hi : i < size := Nat.lt_of_lt_of_le (firstRefused_lt h) (List.length_take_le _ _)
  have happend := firstRefused_append statement (rows.take size) (rows.drop size) db
  rw [List.take_append_drop, h, Option.some_or] at happend
  refine ⟨happend, Nat.div_eq_of_lt hi, ?_⟩
  unfold throughPiece
  rw [Nat.div_eq_of_lt hi, Nat.zero_add, Nat.one_mul]

/-- If none is refused in the first piece, the first one is behind it. -/
theorem firstRefused_drop {statement : β → Statement α} {size : Nat} {rows : List β}
    {db : Database} (h : firstRefused statement (rows.take size) db = none) :
    firstRefused statement rows db =
      (firstRefused statement (rows.drop size) (each statement (rows.take size) db).2).map
        (· + size) := by
  have happend := firstRefused_append statement (rows.take size) (rows.drop size) db
  rw [List.take_append_drop, h, Option.none_or] at happend
  rw [happend]
  cases hlater : firstRefused statement (rows.drop size)
      (each statement (rows.take size) db).2 with
  | none => rfl
  | some i =>
    -- Only a whole piece has rows behind it.
    have hi := firstRefused_lt hlater
    rw [List.length_drop] at hi
    have hwhole : (rows.take size).length = size := by
      rw [List.length_take]
      omega
    rw [Option.map_some, Option.map_some, hwhole]

end

/-- Adds one row to the counters, on a connection that may do anything. -/
abbrev accumulateOne (row : String × Int64) : Statement Int64 := accumulate .readWrite row.1 row.2

/-- Writes one row of the gauges, on a connection that may do anything. -/
abbrev upsertOne (row : String × Binary64) : Statement Unit := upsert .readWrite row.1 row.2

end Statement

/-! ## One row of a table -/

namespace Relation

/-- What a key has after a delta, if that is an integer. -/
def sum? (r : Relation) (key : String) (delta : Int64) : Option Int64 :=
  match r.find? key with
  | none => some delta
  | some old => old.plus delta

/-- A row is added to or left alone, whatever stands in it. -/
theorem accumulate_eq {r : Relation} (hb : r.bound = none) (key : String) (delta : Int64) :
    r.accumulate key delta =
      .ok ((r.sum? key delta).map fun sum => (sum, r.put key (.integer sum))) := by
  cases hf : r.find? key with
  | none =>
    rw [accumulate_new r key delta hb hf, sum?, hf]
    rfl
  | some old =>
    unfold accumulate sum?
    rw [allow_of_no_bound _ r _ hb (by simp), hf]
    simp only
    cases old.plus delta with
    | none => rfl
    | some sum =>
      simp only [Option.map_some]
      rw [allow_of_no_bound _ r _ hb (by simp)]

/-- A finite gauge is written, whatever stands in its row. -/
theorem upsert_eq {r : Relation} (hb : r.bound = none) (key : String) {x : Binary64}
    (hx : x.isFinite = true) : r.upsert key x = .ok (r.put key (.real x.unsignedZero)) := by
  unfold upsert
  rw [asGauge_real hx]
  simp only
  rw [allow_of_no_bound _ r _ hb (by simp)]

end Relation

namespace Statement

variable {db : Database} {r : Relation} {kind : Kind}

theorem requireWritable_of_table (ht : db.table? kind = some r) :
    db.requireWritable .readWrite kind = .ok r := by
  simp [Database.requireWritable, Database.require, Access.fault?, ht]

/-- A table that is put back changes nothing. -/
theorem withTable_self (ht : db.table? kind = some r) : db.withTable kind r = db := by
  cases db
  cases kind
  · cases ht
    rfl
  · cases ht
    rfl

theorem withTable_withTable (db : Database) (kind : Kind) (r r' : Relation) :
    (db.withTable kind r).withTable kind r' = db.withTable kind r' := by
  cases kind <;> rfl

/-! ## Counters -/

/-- Adding one row, in terms of the table. -/
theorem accumulateOne_eq (ht : db.table? .counter = some r) (hb : r.bound = none)
    (row : String × Int64) :
    accumulateOne row db =
      match r.sum? row.1 row.2 with
      | some sum => (.ok sum, db.withTable .counter (r.put row.1 (.integer sum)))
      | none => (.error (.validation (.overflowAdding row.1 row.2)), db) := by
  show accumulate .readWrite row.1 row.2 db = _
  unfold accumulate
  rw [requireWritable_of_table ht]
  simp only
  rw [Relation.accumulate_eq hb]
  cases r.sum? row.1 row.2 with
  | none => rfl
  | some sum => rfl

/-- A statement of many rows does what its rows do one by one, and leaves
alone as many as are refused then. -/
theorem accumulateRows_eq (ht : db.table? .counter = some r) (hb : r.bound = none)
    (rows : List (String × Int64)) :
    ∃ r', r.accumulateRows rows = .ok (refusals (each accumulateOne rows db).1, r') ∧
      r'.bound = none ∧ (each accumulateOne rows db).2 = db.withTable .counter r' := by
  -- Each row meets the table that the rows before it have left.
  induction rows generalizing db r with
  | nil => exact ⟨r, rfl, hb, (withTable_self ht).symm⟩
  | cons row rows ih =>
    have hone := accumulateOne_eq ht hb row
    rw [Relation.accumulateRows, Relation.accumulate_eq hb, each_cons]
    cases hsum : r.sum? row.1 row.2 with
    | none =>
      -- The row would overflow: it is counted, and the table stays.
      rw [hsum] at hone
      obtain ⟨r', hrows, hb', hdb⟩ := ih ht hb
      refine ⟨r', ?_, hb', ?_⟩
      · rw [hone]
        simp only [Option.map_none]
        rw [hrows, refusals_error]
        rfl
      · rw [hone]
        exact hdb
    | some sum =>
      rw [hsum] at hone
      have ht' := Database.table?_withTable db .counter (r.put row.1 (.integer sum))
      obtain ⟨r', hrows, hb', hdb⟩ := ih ht' hb
      refine ⟨r', ?_, hb', ?_⟩
      · rw [hone]
        simp only [Option.map_some]
        rw [hrows, refusals_ok]
      · rw [hone, hdb, withTable_withTable]

/-- One piece of deltas: the rows of it one by one, and then the other
pieces if none of them was refused. -/
theorem accumulateChunks_cons (ht : db.table? .counter = some r) (hb : r.bound = none)
    (count : Nat) (piece : List (String × Int64)) (rest : List (List (String × Int64))) :
    (∃ r', (each accumulateOne piece db).2.table? .counter = some r' ∧ r'.bound = none) ∧
      accumulateChunks .readWrite count (piece :: rest) db =
        match firstRefused accumulateOne piece db with
        | none =>
          accumulateChunks .readWrite (count + piece.length) rest (each accumulateOne piece db).2
        | some _ =>
          (.error (.validation (.overflowInBatch (refusals (each accumulateOne piece db).1)
            piece.length)), (each accumulateOne piece db).2) := by
  obtain ⟨r', hpiece, hb', hdb⟩ := accumulateRows_eq ht hb piece
  refine ⟨⟨r', ?_, hb'⟩, ?_⟩
  · rw [hdb]
    exact Database.table?_withTable db .counter r'
  · rw [accumulateChunks, requireWritable_of_table ht]
    simp only
    rw [hpiece, hdb]
    simp only
    cases hfirst : firstRefused accumulateOne piece db with
    | none =>
      rw [if_pos (refusals_eq_zero_iff.2 hfirst)]
      rfl
    | some i =>
      rw [if_neg]
      intro hzero
      exact absurd (hfirst.symm.trans (refusals_eq_zero_iff.1 hzero)) (by simp)

/-- What has been done when so many deltas were to be written in pieces:
all rows one by one, or those up to the end of the first piece that has a
row which is refused. -/
def outcome (count : Nat) (rows : List (String × Int64)) (db : Database) :
    Except StoreError Nat × Database :=
  match firstRefused accumulateOne rows db with
  | none => (.ok (count + rows.length), (each accumulateOne rows db).2)
  | some i =>
    let reached := throughPiece chunkRows i rows
    (.error (.validation (.overflowInBatch (refusals (each accumulateOne reached db).1)
      (reached.length - i / chunkRows * chunkRows))), (each accumulateOne reached db).2)

/-- If none is refused in the first piece, the outcome is that of the rows
behind it. -/
theorem outcome_drop (count : Nat) {rows : List (String × Int64)} {db : Database}
    (h : firstRefused accumulateOne (rows.take chunkRows) db = none) :
    outcome count rows db =
      outcome (count + (rows.take chunkRows).length) (rows.drop chunkRows)
        (each accumulateOne (rows.take chunkRows) db).2 := by
  have hsize : 0 < chunkRows := by decide
  have hsplit := List.take_append_drop chunkRows rows
  unfold outcome
  rw [firstRefused_drop h]
  cases hlater : firstRefused accumulateOne (rows.drop chunkRows)
      (each accumulateOne (rows.take chunkRows) db).2 with
  | none =>
    have heach := each_append accumulateOne (rows.take chunkRows) (rows.drop chunkRows) db
    have hlength : (rows.take chunkRows).length + (rows.drop chunkRows).length = rows.length := by
      rw [← List.length_append, hsplit]
    rw [hsplit] at heach
    simp only [Option.map_none]
    rw [heach, Nat.add_assoc, hlength]
  | some i =>
    have heach := each_append accumulateOne (rows.take chunkRows)
      (throughPiece chunkRows i (rows.drop chunkRows)) db
    have hwhole : (rows.take chunkRows).length = chunkRows := by
      have hi := firstRefused_lt hlater
      rw [List.length_drop] at hi
      rw [List.length_take]
      omega
    simp only [Option.map_some]
    rw [throughPiece_behind hsize, heach, Nat.add_div_right i hsize, Nat.succ_mul,
      List.length_append, hwhole, Nat.add_comm chunkRows, Nat.add_sub_add_right,
      refusals_append, refusals_eq_zero_iff.2 h, Nat.zero_add]

theorem accumulateChunks_eq (ht : db.table? .counter = some r) (hb : r.bound = none)
    (count n : Nat) (rows : List (String × Int64)) (hn : rows.length ≤ n) :
    accumulateChunks .readWrite count (chunksFuel chunkRows n rows) db = outcome count rows db := by
  -- The induction is on the pieces, each of which meets the table of those before it.
  induction n generalizing rows count db r with
  | zero =>
    have hnil : rows = [] := List.length_eq_zero_iff.1 (by omega)
    subst hnil
    rfl
  | succ n ih =>
    cases hrows : rows with
    | nil => rfl
    | cons first others =>
      rw [chunksFuel, ← hrows]
      obtain ⟨⟨r', ht', hb'⟩, hpiece⟩ :=
        accumulateChunks_cons ht hb count (rows.take chunkRows)
          (chunksFuel chunkRows n (rows.drop chunkRows))
      rw [hpiece]
      cases hfirst : firstRefused accumulateOne (rows.take chunkRows) db with
      | none =>
        have hrest : (rows.drop chunkRows).length ≤ n := by
          have hpos : 0 < rows.length := by
            rw [hrows]
            exact Nat.succ_pos _
          have hsize : 0 < chunkRows := by decide
          rw [List.length_drop]
          omega
        rw [outcome_drop count hfirst]
        exact ih ht' hb' _ _ hrest
      | some i =>
        obtain ⟨hall, hdiv, hreached⟩ := firstRefused_take hfirst
        unfold outcome
        rw [hall]
        simp only
        rw [hreached, hdiv, Nat.zero_mul, Nat.sub_zero]

/-- **Many deltas written at once against the same deltas one by one.** -/
theorem accumulateMany_eq (ht : db.table? .counter = some r) (hb : r.bound = none)
    (rows : List (String × Int64)) :
    accumulateMany .readWrite rows db = outcome 0 rows db :=
  accumulateChunks_eq ht hb 0 rows.length rows (Nat.le_refl _)

/-- Who is refused one by one is refused for an overflow. -/
theorem each_accumulateOne_error (ht : db.table? .counter = some r) (hb : r.bound = none)
    {rows : List (String × Int64)} {e : StoreError}
    (h : .error e ∈ (each accumulateOne rows db).1) :
    ∃ key delta, e = .validation (.overflowAdding key delta) := by
  induction rows generalizing db r with
  | nil => exact absurd h List.not_mem_nil
  | cons row rows ih =>
    have hone := accumulateOne_eq ht hb row
    rw [each_cons] at h
    cases hsum : r.sum? row.1 row.2 with
    | none =>
      rw [hsum] at hone
      rw [hone] at h
      rcases List.mem_cons.1 h with hrow | hrest
      · exact ⟨row.1, row.2, Except.error.inj hrow⟩
      · exact ih ht hb hrest
    | some sum =>
      rw [hsum] at hone
      rw [hone] at h
      have ht' := Database.table?_withTable db .counter (r.put row.1 (.integer sum))
      rcases List.mem_cons.1 h with hrow | hrest
      · exact absurd hrow (by simp)
      · exact ih ht' hb hrest

/-! ## Gauges -/

theorem upsertOne_eq (ht : db.table? .gauge = some r) (hb : r.bound = none)
    {row : String × Binary64} (hx : row.2.isFinite = true) :
    upsertOne row db = (.ok (), db.withTable .gauge (r.put row.1 (.real row.2.unsignedZero))) := by
  show upsert .readWrite row.1 row.2 db = _
  unfold upsert
  rw [requireWritable_of_table ht]
  simp only
  rw [Relation.upsert_eq hb row.1 hx]

/-- A statement of many finite gauges does what its rows do one by one,
and the last value of a key stays. -/
theorem upsertRows_eq (ht : db.table? .gauge = some r) (hb : r.bound = none)
    {rows : List (String × Binary64)} (hx : ∀ row ∈ rows, row.2.isFinite = true) :
    ∃ r', r.upsertRows rows = .ok r' ∧ r'.bound = none ∧
      each upsertOne rows db = (rows.map fun _ => .ok (), db.withTable .gauge r') ∧
      ∀ key, r'.find? key =
        ((Table.lastOf? rows key).map fun x => Cell.real x.unsignedZero).or (r.find? key) := by
  induction rows generalizing db r with
  | nil =>
    refine ⟨r, rfl, hb, ?_, fun key => rfl⟩
    rw [withTable_self ht]
    rfl
  | cons row rows ih =>
    rw [List.forall_mem_cons] at hx
    have ht' := Database.table?_withTable db .gauge (r.put row.1 (.real row.2.unsignedZero))
    obtain ⟨r', hrows, hb', heach, hfind⟩ := ih ht' hb hx.2
    refine ⟨r', ?_, hb', ?_, fun key => ?_⟩
    · rw [Relation.upsertRows, Relation.upsert_eq hb row.1 hx.1]
      exact hrows
    · rw [each_cons, upsertOne_eq ht hb hx.1, heach, withTable_withTable]
      rfl
    · -- What the rows behind it leave at the key comes before what it leaves there.
      rw [hfind key, Relation.find?_put, Table.lastOf?_cons, Option.map_or, Option.or_assoc]
      congr 1
      by_cases hkey : row.1 = key
      · rw [if_pos hkey, if_pos hkey]
        rfl
      · rw [if_neg hkey, if_neg hkey]
        rfl

theorem upsertChunks_eq (ht : db.table? .gauge = some r) (hb : r.bound = none) (count : Nat)
    {pieces : List (List (String × Binary64))}
    (hx : ∀ row ∈ pieces.flatten, row.2.isFinite = true) :
    upsertChunks .readWrite count pieces db =
      (.ok (count + pieces.flatten.length), (each upsertOne pieces.flatten db).2) := by
  induction pieces generalizing count db r with
  | nil => rfl
  | cons piece rest ih =>
    rw [List.flatten_cons, List.forall_mem_append] at hx
    obtain ⟨r', hrows, hb', heach, -⟩ := upsertRows_eq ht hb hx.1
    have ht' := Database.table?_withTable db .gauge r'
    have hrest := ih ht' hb' (count + piece.length) hx.2
    rw [upsertChunks, requireWritable_of_table ht]
    simp only
    rw [hrows, List.flatten_cons, each_append, heach, List.length_append, ← Nat.add_assoc]
    exact hrest

/-- **Many finite gauges written at once against the same gauges one by
one.** -/
theorem upsertMany_eq (ht : db.table? .gauge = some r) (hb : r.bound = none)
    {rows : List (String × Binary64)} (hx : ∀ row ∈ rows, row.2.isFinite = true) :
    upsertMany .readWrite rows db = (.ok rows.length, (each upsertOne rows db).2) := by
  have hflatten : (chunksOf chunkRows rows).flatten = rows :=
    flatten_chunksOf chunkRows rows (by decide)
  have hx' : ∀ row ∈ (chunksOf chunkRows rows).flatten, row.2.isFinite = true := by
    rw [hflatten]
    exact hx
  have hpieces := upsertChunks_eq ht hb 0 hx'
  rw [hflatten, Nat.zero_add] at hpieces
  exact hpieces

/-! ## Both ways to write many rows -/

/-- Many deltas are added as they are added one by one. -/
structure AddsLikeOneByOne (rows : List (String × Int64)) (db : Database) : Prop where
  /-- They are all added exactly if none of them overflows one by one. -/
  succeeds : (∃ n, (accumulateMany .readWrite rows db).1 = .ok n) ↔
    ∀ key delta, .error (.validation (.overflowAdding key delta)) ∉
      (each accumulateOne rows db).1
  whole : ∀ n, (accumulateMany .readWrite rows db).1 = .ok n →
    n = rows.length ∧ (accumulateMany .readWrite rows db).2 = (each accumulateOne rows db).2
  /-- Otherwise the rows up to the end of the piece of the first overflow
  are written, those of them that overflow excepted. -/
  stops : ∀ e, (accumulateMany .readWrite rows db).1 = .error e →
    ∃ i key delta,
      (each accumulateOne rows db).1[i]? = some (.error (.validation (.overflowAdding key delta))) ∧
      (∀ j < i, ∃ total, (each accumulateOne rows db).1[j]? = some (.ok total)) ∧
      (∃ skipped size, e = .validation (.overflowInBatch skipped size)) ∧
      (accumulateMany .readWrite rows db).2 =
        (each accumulateOne (throughPiece chunkRows i rows) db).2

/-- Many gauges are written as they are written one by one. -/
structure WritesLikeOneByOne (rows : List (String × Binary64)) (r : Relation) (db : Database) :
    Prop where
  single : ∀ answer ∈ (each upsertOne rows db).1, answer = .ok ()
  many : upsertMany .readWrite rows db = (.ok rows.length, (each upsertOne rows db).2)
  /-- The last value of a key stays, and other keys keep theirs. -/
  last : ∃ r', (each upsertOne rows db).2 = db.withTable .gauge r' ∧ ∀ key,
    r'.find? key =
      ((Table.lastOf? rows key).map fun x => Cell.real x.unsignedZero).or (r.find? key)

/-- The pieces of rows, in order, are what statements with numbered
parameters write. -/
structure WrittenInPieces {α : Type} (rows : List (String × α)) : Prop where
  flatten : (chunksOf chunkRows rows).flatten = rows
  size : ∀ piece ∈ chunksOf chunkRows rows, piece.length ≤ chunkRows
  written : ∀ piece ∈ chunksOf chunkRows rows,
    rowsWritten (marks piece.length) (parameters piece) = some piece

theorem writtenInPieces {α : Type} (rows : List (String × α)) : WrittenInPieces rows where
  flatten := flatten_chunksOf chunkRows rows (by decide)
  size piece hpiece := length_le_of_mem_chunksOf chunkRows rows.length rows piece hpiece
  written piece _ := rowsWritten_parameters piece

theorem addsLikeOneByOne (ht : db.table? .counter = some r) (hb : r.bound = none)
    (rows : List (String × Int64)) : AddsLikeOneByOne rows db := by
  have hmany := accumulateMany_eq ht hb rows
  have herror : ∀ answer ∈ (each accumulateOne rows db).1, refused answer = true →
      ∃ key delta, answer = .error (.validation (.overflowAdding key delta)) := by
    intro answer hanswer hrefused
    cases answer with
    | ok total => exact absurd hrefused (by simp [refused])
    | error e =>
      obtain ⟨key, delta, rfl⟩ := each_accumulateOne_error ht hb hanswer
      exact ⟨key, delta, rfl⟩
  unfold outcome at hmany
  cases hfirst : firstRefused accumulateOne rows db with
  | none =>
    rw [hfirst, Nat.zero_add] at hmany
    simp only at hmany
    have hnone := List.findIdx?_eq_none_iff.1 hfirst
    refine ⟨⟨fun _ key delta hmem => ?_, fun _ => ?_⟩, fun n hn => ?_, fun e he => ?_⟩
    · exact absurd (hnone _ hmem) (by simp [refused])
    · exact ⟨rows.length, by rw [hmany]⟩
    · rw [hmany] at hn ⊢
      exact ⟨(Except.ok.inj hn).symm, rfl⟩
    · rw [hmany] at he
      exact absurd he (by simp)
  | some i =>
    -- The first refusal is an overflow, and whoever comes before it has a total.
    rw [hfirst] at hmany
    simp only at hmany
    obtain ⟨hi, hrefused, hbefore⟩ := List.findIdx?_eq_some_iff_getElem.1 hfirst
    obtain ⟨key, delta, hanswer⟩ := herror _ (List.getElem_mem hi) hrefused
    have hat : (each accumulateOne rows db).1[i]? =
        some (.error (.validation (.overflowAdding key delta))) := by
      rw [List.getElem?_eq_getElem hi, hanswer]
    refine ⟨⟨fun ⟨n, hn⟩ => ?_, fun hfree => ?_⟩, fun n hn => ?_, fun e he => ?_⟩
    · rw [hmany] at hn
      exact absurd hn (by simp)
    · exact absurd (List.mem_of_getElem? hat) (hfree key delta)
    · rw [hmany] at hn
      exact absurd hn (by simp)
    · refine ⟨i, key, delta, hat, fun j hj => ?_, ?_, ?_⟩
      · have hlt : j < (each accumulateOne rows db).1.length := by omega
        rw [List.getElem?_eq_getElem hlt]
        cases hj' : (each accumulateOne rows db).1[j] with
        | ok total => exact ⟨total, rfl⟩
        | error e' =>
          have hno := hbefore j hj
          rw [hj'] at hno
          exact absurd hno (by simp [refused])
      · rw [hmany] at he
        exact ⟨_, _, (Except.error.inj he).symm⟩
      · rw [hmany]

theorem writesLikeOneByOne (ht : db.table? .gauge = some r) (hb : r.bound = none)
    {rows : List (String × Binary64)} (hx : ∀ row ∈ rows, row.2.isFinite = true) :
    WritesLikeOneByOne rows r db := by
  obtain ⟨r', -, -, heach, hfind⟩ := upsertRows_eq ht hb hx
  refine ⟨fun answer hanswer => ?_, upsertMany_eq ht hb hx, r', ?_, hfind⟩
  · rw [heach] at hanswer
    obtain ⟨row, -, rfl⟩ := List.mem_map.1 hanswer
    rfl
  · rw [heach]

/-- Adding to a total is the checked sum, in the table as in the answer. -/
theorem accumulate_checked (ht : db.table? .counter = some r) (hb : r.bound = none)
    {key : String} {total : Int64} (hf : r.find? key = some (.integer total)) (delta : Int64) :
    accumulate .readWrite key delta db =
      match checkedTotal key total delta with
      | .ok sum => (.ok sum, db.withTable .counter (r.put key (.integer sum)))
      | .error _ => (.error (.validation (.overflowAdding key delta)), db) := by
  have hsum : r.sum? key delta = Total.add? total delta := by
    rw [Relation.sum?, hf]
    rfl
  have hone := accumulateOne_eq ht hb (key, delta)
  simp only [hsum] at hone
  rw [show accumulate .readWrite key delta db = accumulateOne (key, delta) db from rfl, hone]
  unfold checkedTotal
  cases Total.add? total delta with
  | none => rfl
  | some sum => rfl

/-- A checked sum is given exactly if the exact sum is in the range. -/
theorem checkedTotal_inRange (key : String) (total delta : Int64) :
    (∃ sum, checkedTotal key total delta = .ok sum) ↔
      inRange64 (total.toInt + delta.toInt) = true := by
  constructor
  · rintro ⟨sum, hsum⟩
    rw [checkedTotal_eq_ok_iff] at hsum
    rw [← hsum]
    exact inRange64_toInt sum
  · intro hrange
    refine ⟨Int64.ofInt (total.toInt + delta.toInt), ?_⟩
    rw [checkedTotal_eq_ok_iff]
    exact toInt_ofInt_of_inRange hrange

/-- **Statements of many rows agree with statements of one row,** whatever
is in the tables and however many rows there are; and one delta is added
to a total as totals are added. -/
theorem many_rows_agree_with_single_rows :
    (∀ (stored : List Row) (gauges : Option Relation) (rows : List (String × Int64)),
      WrittenInPieces rows ∧ AddsLikeOneByOne rows ⟨gauges, some ⟨stored, none⟩⟩) ∧
    (∀ (stored : List Row) (counters : Option Relation) (rows : List (String × Binary64)),
      (∀ row ∈ rows, row.2.isFinite = true) →
      WrittenInPieces rows ∧
        WritesLikeOneByOne rows ⟨stored, none⟩ ⟨some ⟨stored, none⟩, counters⟩) ∧
    ∀ (stored : List Row) (gauges : Option Relation) (key : String) (total delta : Int64),
      (Relation.mk stored none).find? key = some (.integer total) →
      (accumulate .readWrite key delta ⟨gauges, some ⟨stored, none⟩⟩ =
        match checkedTotal key total delta with
        | .ok sum => (.ok sum, ⟨gauges, some ((Relation.mk stored none).put key (.integer sum))⟩)
        | .error _ =>
          (.error (.validation (.overflowAdding key delta)), ⟨gauges, some ⟨stored, none⟩⟩)) ∧
      (∀ sum, checkedTotal key total delta = .ok sum ↔ sum.toInt = total.toInt + delta.toInt) ∧
      ((∃ sum, checkedTotal key total delta = .ok sum) ↔
        inRange64 (total.toInt + delta.toInt) = true) := by
  refine ⟨?_, ?_, ?_⟩
  · intro stored gauges rows
    exact ⟨writtenInPieces rows, addsLikeOneByOne rfl rfl rows⟩
  · intro stored counters rows hx
    exact ⟨writtenInPieces rows, writesLikeOneByOne rfl rfl hx⟩
  · intro stored gauges key total delta hf
    exact ⟨accumulate_checked rfl rfl hf delta, checkedTotal_eq_ok_iff key total delta,
      checkedTotal_inRange key total delta⟩

/-- A gauge that is written twice, and a counter at the end of the range
that takes no more until it has been lowered. -/
theorem keys_repeated_at_the_range :
    (∀ row ∈ [("g", (⟨0x3FE0000000000000⟩ : Binary64)), ("g", ⟨0x3FF0000000000000⟩)],
      row.2.isFinite = true) ∧
    (upsertMany .readWrite [("g", ⟨0x3FE0000000000000⟩), ("g", ⟨0x3FF0000000000000⟩)]
      ⟨some ⟨[], none⟩, none⟩).1 = .ok 2 ∧
    (Relation.mk [⟨.text "c", .integer Int64.maxValue⟩] none).find? "c" =
      some (.integer Int64.maxValue) ∧
    (accumulate .readWrite "c" 1 ⟨none, some ⟨[⟨.text "c", .integer Int64.maxValue⟩], none⟩⟩).1 =
      .error (.validation (.overflowAdding "c" 1)) ∧
    ∃ n, (accumulateMany .readWrite [("c", -1), ("d", 1), ("c", 1)]
      ⟨none, some ⟨[⟨.text "c", .integer Int64.maxValue⟩], none⟩⟩).1 = .ok n := by
  obtain ⟨hadds, hwrites, hone⟩ := many_rows_agree_with_single_rows
  have hfinite : ∀ row ∈ [("g", (⟨0x3FE0000000000000⟩ : Binary64)), ("g", ⟨0x3FF0000000000000⟩)],
      row.2.isFinite = true := by decide
  have hstored : (Relation.mk [⟨.text "c", .integer Int64.maxValue⟩] none).find? "c" =
      some (.integer Int64.maxValue) := by decide
  refine ⟨hfinite, ?_, hstored, ?_, ?_⟩
  · rw [(hwrites [] none _ hfinite).2.many]
    rfl
  · rw [(hone _ none "c" Int64.maxValue 1 hstored).1]
    rfl
  · rw [(hadds _ none _).2.succeeds]
    intro key delta hmem
    have hanswers : (each accumulateOne [("c", -1), ("d", 1), ("c", 1)]
        ⟨none, some ⟨[⟨.text "c", .integer Int64.maxValue⟩], none⟩⟩).1 =
        [.ok (Int64.maxValue - 1), .ok 1, .ok Int64.maxValue] := by rfl
    rw [hanswers] at hmem
    exact absurd hmem (by simp)

end Statement

end Meterbank.Sql
