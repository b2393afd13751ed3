/-
  Meterbank.Proofs.Sql.Applying — statements on a database that holds
  tables.

  A database holds a table of gauges and one of counters; a table that is
  not there holds nothing.  On a connection that works, each statement
  does to the database what the corresponding operation does to the
  tables, whatever number of pieces the statement is cut into.

  Main results:
    * `upsertMany_holds`, `accumulateMany_holds` — many rows in pieces.
    * `deltaStatement_holds` — folded updates overlay and add, or nothing
      happens.
    * `select_holds` — reading gives the part of the table that was
      asked for.
-/
import Meterbank.Proofs.Sql.Holding
import Meterbank.Proofs.Sql.Undoing

namespace Meterbank

namespace Sql

/-! ## Reading -/

namespace Relation

variable {α : Type} {cell : α → Cell} {r : Relation} {t : Table α}
  {read : Row → Except SqlFault α}

/-- Whether reading a row gives the value its cell was made of. -/
def Reads (cell : α → Cell) (read : Row → Except SqlFault α) : Prop :=
  ∀ key value, read ⟨key, cell value⟩ = .ok value

theorem Reads.injective (h : Reads cell read) : Function.Injective cell := by
  intro a b hab
  have ha := h (.text "") a
  rw [hab, h] at ha
  exact (Except.ok.inj ha).symm

theorem readGauge_reads : Reads .real readGauge := fun _ _ => rfl

theorem readCounter_reads : Reads .integer readCounter := fun _ _ => rfl

/-- Rows are read into a table one by one. -/
theorem collect_rows (hread : Reads cell read) (found : Table α) (entries : List (String × α)) :
    collect read found (entries.map (rowOf cell)) = .ok (found.setRows entries) := by
  induction entries generalizing found with
  | nil => rfl
  | cons entry entries ih =>
    rw [List.map_cons, collect]
    simp only [readKey, rowOf]
    rw [hread]
    exact ih (found.set entry.1 entry.2)

/-- All rows are read into the table that the relation holds. -/
theorem Holds.collect_all (h : Holds cell r t) (hread : Reads cell read) :
    collect read ∅ r.rows = .ok t := by
  obtain ⟨entries, hrows, hlast⟩ := h.entries hread.injective
  rw [hrows, collect_rows hread]
  congr 1
  apply Table.ext_get?
  intro k
  rw [Table.get?_setRows, hlast, Table.get?_empty, Option.or_none]

theorem lastOf?_marks (keys : List String) (k : String) :
    Table.lastOf? (keys.map fun key => (key, ())) k = if k ∈ keys then some () else none := by
  induction keys with
  | nil => rfl
  | cons key keys ih =>
    rw [List.map_cons, Table.lastOf?_cons, ih]
    by_cases hk : k ∈ keys <;> simp [hk, eq_comm]

/-- Sorting keys keeps all of them. -/
theorem mem_sortKeys (keys : List String) (k : String) : k ∈ sortKeys keys ↔ k ∈ keys := by
  have hset : keys.foldl (fun t key => Table.set t key ()) (∅ : Table Unit) =
      Table.setRows ∅ (keys.map fun key => (key, ())) := by
    unfold Table.setRows
    rw [List.foldl_map]
  unfold sortKeys
  rw [hset, List.mem_map]
  constructor
  · rintro ⟨⟨k', u⟩, hmem, rfl⟩
    -- A mark in the sorted table was made for one of the keys.
    rw [Table.mem_toList_iff, Table.get?_setRows, lastOf?_marks, Table.get?_empty] at hmem
    by_contra hnot
    rw [if_neg hnot] at hmem
    exact absurd hmem (by simp)
  · intro hk
    refine ⟨(k, ()), ?_, rfl⟩
    rw [Table.mem_toList_iff, Table.get?_setRows, lastOf?_marks, if_pos hk]
    rfl

theorem Holds.rowsOf (h : Holds cell r t) (keys : List String) :
    r.rowsOf keys = (t.rowsFor (sortKeys keys)).map (rowOf cell) := by
  unfold Relation.rowsOf Table.rowsFor
  rw [List.map_filterMap]
  congr 1
  funext key
  rw [h.find key]
  cases t.get? key <;> rfl

/-- Rows of pieces of keys are added to what has been read. -/
theorem Holds.selectChunks (h : Holds cell r t) (hread : Reads cell read) (found : Table α)
    (pieces : List (List String)) :
    ∃ t', Statement.selectChunks r read found pieces = .ok t' ∧
      ∀ k, t'.get? k = (if k ∈ pieces.flatten then t.get? k else none).or (found.get? k) := by
  induction pieces generalizing found with
  | nil => exact ⟨found, rfl, fun k => by simp⟩
  | cons keys rest ih =>
    obtain ⟨t', hselect, hget⟩ := ih (found.setRows (t.rowsFor (sortKeys keys)))
    refine ⟨t', ?_, fun k => ?_⟩
    · rw [Statement.selectChunks, h.rowsOf, collect_rows hread]
      exact hselect
    · -- A key in several pieces is read again with the value it had.
      rw [hget k, Table.get?_setRows, Table.lastOf?_rowsFor, ← Option.or_assoc]
      simp only [mem_sortKeys, List.flatten_cons, List.mem_append]
      congr 1
      by_cases hk : k ∈ keys <;> by_cases hr : k ∈ rest.flatten <;>
        simp [hk, hr]

/-- **Reading gives the part of the table that was asked for.** -/
theorem Holds.selectRows (h : Holds cell r t) (hread : Reads cell read) (keys : List String) :
    Statement.selectRows r read keys = .ok (if keys.isEmpty then t else t.restrict keys) := by
  unfold Statement.selectRows
  split
  · exact h.collect_all hread
  · obtain ⟨t', hselect, hget⟩ := h.selectChunks hread ∅ (chunksOf Statement.chunkKeys keys)
    rw [hselect]
    congr 1
    apply Table.ext_get?
    intro k
    rw [hget k, flatten_chunksOf _ _ (by decide), Table.get?_empty, Option.or_none,
      Table.get?_restrict]

end Relation

/-! ## Databases -/

namespace Database

/-- The table of a kind, without rows if it is not there. -/
def relation (db : Database) (kind : Kind) : Relation := (db.table? kind).getD .empty

theorem relation_of_table {db : Database} {kind : Kind} {r : Relation}
    (h : db.table? kind = some r) : db.relation kind = r := by
  rw [relation, h, Option.getD_some]

theorem rows_eq (db : Database) (kind : Kind) : db.rows kind = (db.relation kind).rows := by
  unfold rows relation
  cases db.table? kind <;> rfl

/-- A database holds a table of gauges and one of counters. -/
structure Holds (db : Database) (g : Table Binary64) (c : Table Int64) : Prop where
  gauges : Relation.Holds .real (db.relation .gauge) g
  counters : Relation.Holds .integer (db.relation .counter) c

/-- A database has come to hold tables, and lost none it had. -/
structure Becomes (db db' : Database) (g : Table Binary64) (c : Table Int64) : Prop where
  holds : db'.Holds g c
  keeps : ∀ kind, (db.table? kind).isSome = true → (db'.table? kind).isSome = true

theorem holds_empty : empty.Holds ∅ ∅ := ⟨Relation.holds_empty _, Relation.holds_empty _⟩

variable {db db' db'' : Database} {g g' : Table Binary64} {c c' : Table Int64} {r : Relation}

theorem Holds.refl (h : db.Holds g c) : db.Becomes db g c := ⟨h, fun _ hk => hk⟩

theorem Becomes.trans (h : db.Becomes db' g c) (h' : db'.Becomes db'' g' c') :
    db.Becomes db'' g' c' :=
  ⟨h'.holds, fun kind hk => h'.keeps kind (h.keeps kind hk)⟩

/-- Another table of gauges in its place. -/
theorem Holds.withGauges (h : db.Holds g c) (hr : Relation.Holds .real r g') :
    db.Becomes (db.withTable .gauge r) g' c where
  holds := ⟨hr, h.counters⟩
  keeps kind hk := by
    cases kind with
    | gauge => rfl
    | counter => exact hk

/-- Another table of counters in its place. -/
theorem Holds.withCounters (h : db.Holds g c) (hr : Relation.Holds .integer r c') :
    db.Becomes (db.withTable .counter r) g c' where
  holds := ⟨h.gauges, hr⟩
  keeps kind hk := by
    cases kind with
    | gauge => exact hk
    | counter => rfl

end Database

/-! ## Statements -/

namespace Statement

variable {db : Database} {g : Table Binary64} {c : Table Int64}

/-- A gauge is set. -/
theorem upsert_holds (h : db.Holds g c) (ht : (db.table? .gauge).isSome = true) {x : Binary64}
    (hx : x.isFinite = true) (key : String) :
    ∃ db', upsert .readWrite key x db = (.ok (), db') ∧
      db.Becomes db' (g.set key x.unsignedZero) c := by
  obtain ⟨r, hr⟩ := Option.isSome_iff_exists.1 ht
  have hg := h.gauges
  rw [Database.relation_of_table hr] at hg
  obtain ⟨r', hupsert, hhold⟩ := hg.upsert hx key
  refine ⟨db.withTable .gauge r', ?_, h.withGauges hhold⟩
  simp [upsert, Database.requireWritable, Database.require, Access.fault?, hr, hupsert]

/-- A counter grows, or its total would leave the range and nothing
happens. -/
theorem accumulate_holds (h : db.Holds g c) (ht : (db.table? .counter).isSome = true)
    (key : String) (delta : Int64) :
    (∃ total db', checkedTotal key (c.total key) delta = .ok total ∧
      accumulate .readWrite key delta db = (.ok total, db') ∧
        db.Becomes db' g (c.set key total)) ∨
    ∃ refusal cause, checkedTotal key (c.total key) delta = .error (.validation refusal) ∧
      accumulate .readWrite key delta db = (.error (.validation cause), db) := by
  obtain ⟨r, hr⟩ := Option.isSome_iff_exists.1 ht
  have hc := h.counters
  rw [Database.relation_of_table hr] at hc
  have hrow := hc.accumulate key delta
  unfold checkedTotal
  cases hsum : Total.add? (c.total key) delta with
  | some total =>
    refine .inl ⟨total, db.withTable .counter (r.put key (.integer total)), rfl, ?_,
      h.withCounters (hc.put key total)⟩
    simp [accumulate, Database.requireWritable, Database.require, Access.fault?, hr, hrow, hsum]
  | none =>
    refine .inr ⟨.overflow key (c.total key) delta, .overflowAdding key delta, rfl, ?_⟩
    simp [accumulate, Database.requireWritable, Database.require, Access.fault?, hr, hrow, hsum]

/-- Pieces of gauge rows overlay the table. -/
theorem upsertChunks_holds (h : db.Holds g c) (ht : (db.table? .gauge).isSome = true)
    (count : Nat) {pieces : List (List (String × Binary64))}
    (hx : ∀ row ∈ pieces.flatten, row.2.isFinite = true) :
    ∃ n db', upsertChunks .readWrite count pieces db = (.ok n, db') ∧
      db.Becomes db' (g.setRows (Relation.storedRows pieces.flatten)) c := by
  induction pieces generalizing db g count with
  | nil => exact ⟨count, db, rfl, h.refl⟩
  | cons rows rest ih =>
    obtain ⟨r, hr⟩ := Option.isSome_iff_exists.1 ht
    have hg := h.gauges
    rw [Database.relation_of_table hr] at hg
    rw [List.flatten_cons, List.forall_mem_append] at hx
    obtain ⟨r', hupsert, hhold⟩ := hg.upsertRows hx.1
    have hfirst := h.withGauges hhold
    obtain ⟨n, db', hrest, hbecomes⟩ :=
      ih hfirst.holds (hfirst.keeps .gauge ht) (count + rows.length) hx.2
    refine ⟨n, db', ?_, ?_⟩
    · rw [← hrest]
      simp [upsertChunks, Database.requireWritable, Database.require, Access.fault?, Access.later,
        hr, hupsert]
    · rw [List.flatten_cons, Relation.storedRows, List.map_append, Table.setRows_append]
      exact hfirst.trans hbecomes

/-- **Many gauge rows overlay the table.** -/
theorem upsertMany_holds (h : db.Holds g c) (ht : (db.table? .gauge).isSome = true)
    {rows : List (String × Binary64)} (hx : ∀ row ∈ rows, row.2.isFinite = true) :
    ∃ n db', upsertMany .readWrite rows db = (.ok n, db') ∧
      db.Becomes db' (g.setRows (Relation.storedRows rows)) c := by
  have hflat := flatten_chunksOf chunkRows rows (by decide)
  rw [← hflat] at hx
  have hmany := upsertChunks_holds h ht 0 hx
  rwa [hflat] at hmany

/-- Pieces of counter rows add to the table, or some total would leave the
range and an error is the answer. -/
theorem accumulateChunks_holds (h : db.Holds g c) (ht : (db.table? .counter).isSome = true)
    (count : Nat) {pieces : List (List (String × Int64))}
    (hn : (pieces.flatten.map Prod.fst).Nodup) :
    (∃ totals n db', c.newTotals pieces.flatten = .ok totals ∧
      accumulateChunks .readWrite count pieces db = (.ok n, db') ∧
        db.Becomes db' g (c.setRows totals)) ∨
    ∃ e cause db', c.newTotals pieces.flatten = .error e ∧
      accumulateChunks .readWrite count pieces db = (.error (.validation cause), db') := by
  induction pieces generalizing db c count with
  | nil => exact .inl ⟨[], count, db, rfl, rfl, h.refl⟩
  | cons rows rest ih =>
    obtain ⟨r, hr⟩ := Option.isSome_iff_exists.1 ht
    have hc := h.counters
    rw [Database.relation_of_table hr] at hc
    rw [List.flatten_cons, List.map_append, List.nodup_append] at hn
    obtain ⟨hfirst, hrest, hdisjoint⟩ := hn
    obtain ⟨skipped, r', hrows, hmatch⟩ := hc.accumulateRows hfirst
    have hpiece : accumulateChunks .readWrite count (rows :: rest) db =
        if skipped = 0 then
          accumulateChunks .readWrite (count + rows.length) rest (db.withTable .counter r')
        else (.error (.validation (.overflowInBatch skipped rows.length)),
          db.withTable .counter r') := by
      simp [accumulateChunks, Database.requireWritable, Database.require, Access.fault?,
        Access.later, hr, hrows]
    rw [List.flatten_cons, Table.newTotals_append, hpiece]
    cases htotals : c.newTotals rows with
    | error e =>
      rw [htotals] at hmatch
      exact .inr ⟨e, .overflowInBatch skipped rows.length, db.withTable .counter r', rfl,
        if_neg hmatch⟩
    | ok totals =>
      rw [htotals] at hmatch
      obtain ⟨hskipped, hhold⟩ := hmatch
      have hbecomes := h.withCounters hhold
      -- What the first piece has written does not bear on the other names.
      have hother : ∀ row ∈ totals, row.1 ∉ rest.flatten.map Prod.fst := by
        intro row hrow hmem
        have hname : row.1 ∈ rows.map Prod.fst := by
          rw [← Table.newTotals_names htotals]
          exact List.mem_map_of_mem hrow
        exact hdisjoint row.1 hname row.1 hmem rfl
      have hsame := Table.newTotals_setRows (t := c) hother
      rw [if_pos hskipped]
      rcases ih hbecomes.holds (hbecomes.keeps .counter ht) (count + rows.length) hrest with
        ⟨more, n, db', hmore, hrun, hdb'⟩ | ⟨e, cause, db', hmore, hrun⟩
      · rw [hsame] at hmore
        refine .inl ⟨totals ++ more, n, db', ?_, hrun, ?_⟩
        · rw [hmore]
          rfl
        · rw [Table.setRows_append]
          exact hbecomes.trans hdb'
      · rw [hsame] at hmore
        refine .inr ⟨e, cause, db', ?_, hrun⟩
        rw [hmore]
        rfl

/-- **Many counter rows add to the table**, or some total would leave the
range and an error is the answer. -/
theorem accumulateMany_holds (h : db.Holds g c) (ht : (db.table? .counter).isSome = true)
    {rows : List (String × Int64)} (hn : (rows.map Prod.fst).Nodup) :
    (∃ totals n db', c.newTotals rows = .ok totals ∧
      accumulateMany .readWrite rows db = (.ok n, db') ∧ db.Becomes db' g (c.setRows totals)) ∨
    ∃ e cause db', c.newTotals rows = .error e ∧
      accumulateMany .readWrite rows db = (.error (.validation cause), db') := by
  have hflat := flatten_chunksOf chunkRows rows (by decide)
  rw [← hflat] at hn
  have hmany := accumulateChunks_holds h ht 0 hn
  rwa [hflat] at hmany

/-- **Folded updates overlay the gauges and add to the counters**, or some
total would leave the range and nothing happens. -/
theorem deltaStatement_holds (h : db.Holds g c) (hg : (db.table? .gauge).isSome = true)
    (hc : (db.table? .counter).isSome = true) {d : Delta}
    (hx : ∀ row ∈ d.gauges.toList, row.2.isFinite = true) :
    (∃ c' db', c.addAll d.counters = .ok c' ∧
      SqlStore.deltaStatement d .readWrite db = (.ok (), db') ∧
        db.Becomes db' (g.setRows (Relation.storedRows d.gauges.toList)) c') ∨
    ∃ e cause, c.addAll d.counters = .error e ∧
      SqlStore.deltaStatement d .readWrite db = (.error (.validation cause), db) := by
  -- Counters come after the gauges, and if they are refused both are undone.
  obtain ⟨n, db₁, hgauges, hfirst⟩ := upsertMany_holds h hg hx
  rcases accumulateMany_holds hfirst.holds (hfirst.keeps .counter hc)
      d.counters.nodup_names with
    ⟨totals, m, db₂, htotals, hcounters, hsecond⟩ | ⟨e, cause, db₂, htotals, hcounters⟩
  · refine .inl ⟨c.setRows totals, db₂, ?_, ?_, hfirst.trans hsecond⟩
    · rw [Table.addAll, htotals]
    · simp [SqlStore.deltaStatement, committed, atomically, bare, Access.fault?, Access.later,
        SqlStore.deltaRows, hgauges, hcounters]
  · refine .inr ⟨e, cause, ?_, ?_⟩
    · rw [Table.addAll, htotals]
    · simp [SqlStore.deltaStatement, committed, atomically, bare, Access.fault?, Access.later,
        SqlStore.deltaRows, hgauges, hcounters]

/-- **Reading gives the part of the table that was asked for.** -/
theorem select_holds {α : Type} {cell : α → Cell} {read : Row → Except SqlFault α} {t : Table α}
    {kind : Kind} (h : Relation.Holds cell (db.relation kind) t)
    (ht : (db.table? kind).isSome = true) (hread : Relation.Reads cell read) {access : Access}
    (ha : access.fault? = none) (keys : List String) :
    select access kind read keys db =
      (.ok (if keys.isEmpty then t else t.restrict keys), db) := by
  obtain ⟨r, hr⟩ := Option.isSome_iff_exists.1 ht
  rw [Database.relation_of_table hr] at h
  simp [select, Database.require, ha, hr, h.selectRows hread keys]

end Statement

end Sql

end Meterbank
