/-
  Meterbank.Proofs.Sql.Refusing — what a connection has a part in.

  A connection may fail at any statement and at the commit, or write
  nothing at all.  A statement fails with a fault then.  Unless it fails
  so, the connection has no part in it: the same is done and answered on a
  connection that may do anything.  So what has been written was written
  in full, and what is refused had to be.

  Main results:
    * `deltaStatement_candid` — a transaction fails with a fault, or does
      what it does on a connection that may do anything.
    * `Candid.done`, `Candid.refused` — what that says of a success and of
      an error.
-/
import Meterbank.Proofs.Sql.Undoing

namespace Meterbank.Sql

/-! ## Connections -/

/-- A table that may be written is there. -/
theorem Database.requireWritable_ok {access : Access} {db : Database} {kind : Kind} {r : Relation}
    (h : db.requireWritable access kind = .ok r) :
    db.requireWritable .readWrite kind = .ok r := by
  have htable : db.table? kind = some r := by
    unfold requireWritable require at h
    cases hfault : access.fault? with
    | some fault => simp [hfault] at h
    | none =>
      cases ht : db.table? kind with
      | none => simp [hfault, ht] at h
      | some r' => cases access <;> simp_all
  simp [requireWritable, require, Access.fault?, htable]

namespace Statement

variable {α β : Type}

/-- Whether a statement fails with a fault, or does what it does on a
connection that may do anything. -/
def Candid (statement : Access → Statement α) : Prop :=
  ∀ access db, (∃ fault, (statement access db).1 = .error (.sql fault)) ∨
    statement .readWrite db = statement access db

/-- What was done is what a connection does that may do anything. -/
theorem Candid.done {statement : Access → Statement α} (h : Candid statement) {access : Access}
    {db db' : Database} {a : α} (hdone : statement access db = (.ok a, db')) :
    statement .readWrite db = (.ok a, db') := by
  rcases h access db with ⟨fault, hf⟩ | hsame
  · rw [hdone] at hf
    exact absurd hf (by simp)
  · rw [hsame, hdone]

/-- What is refused on some connection is refused on every one that gets to
it. -/
theorem Candid.refused {statement : Access → Statement α} (h : Candid statement) {access : Access}
    {db : Database} {e : StoreError} (he : (statement access db).1 = .error e) :
    (∃ fault, e = .sql fault) ∨ (statement .readWrite db).1 = .error e := by
  rcases h access db with ⟨fault, hf⟩ | hsame
  · exact .inl ⟨fault, Except.error.inj (he.symm.trans hf)⟩
  · rw [hsame]
    exact .inr he

/-! ## Sequences -/

section Sequences

variable {first : Access → Statement α} {second : Access → Statement β}

/-- A statement that comes later. -/
theorem Candid.later (h : Candid first) (n : Nat) : Candid fun access => first (access.later n) :=
  fun access db => h (access.later n) db

theorem Candid.andThen (h : Candid first) (h' : Candid second) :
    Candid fun access => andThen (first access) (second access) := by
  intro access db
  simp only [Statement.andThen]
  rcases h access db with ⟨fault, hf⟩ | hsame
  · left
    refine ⟨fault, ?_⟩
    rcases hfirst : first access db with ⟨answer, db'⟩
    rw [hfirst] at hf
    obtain rfl : answer = .error (.sql fault) := hf
    rfl
  · -- The second one finds the database that it would have found.
    rw [hsame]
    rcases first access db with ⟨_ | _, db'⟩
    · exact .inr rfl
    · exact h' access db'

theorem atomically_candid (h : Candid first) : Candid fun access => atomically (first access) := by
  intro access db
  simp only [atomically]
  rcases h access db with ⟨fault, hf⟩ | hsame
  · left
    refine ⟨fault, ?_⟩
    rcases hfirst : first access db with ⟨answer, db'⟩
    rw [hfirst] at hf
    obtain rfl : answer = .error (.sql fault) := hf
    rfl
  · right
    rw [hsame]

end Sequences

/-! ## Statements -/

theorem upsert_candid (key : String) (x : Binary64) : Candid fun access => upsert access key x := by
  intro access db
  simp only [upsert]
  cases hr : db.requireWritable access .gauge with
  | error fault => exact .inl ⟨fault, rfl⟩
  | ok r =>
    rw [Database.requireWritable_ok hr]
    exact .inr rfl

theorem accumulate_candid (key : String) (delta : Int64) :
    Candid fun access => accumulate access key delta := by
  intro access db
  simp only [accumulate]
  cases hr : db.requireWritable access .counter with
  | error fault => exact .inl ⟨fault, rfl⟩
  | ok r =>
    rw [Database.requireWritable_ok hr]
    exact .inr rfl

theorem upsertChunks_candid (count : Nat) (pieces : List (List (String × Binary64))) :
    Candid fun access => upsertChunks access count pieces := by
  induction pieces generalizing count with
  | nil => exact fun _ _ => .inr rfl
  | cons rows rest ih =>
    intro access db
    simp only [upsertChunks]
    cases hr : db.requireWritable access .gauge with
    | error fault => exact .inl ⟨fault, rfl⟩
    | ok r =>
      rw [Database.requireWritable_ok hr]
      simp only
      cases r.upsertRows rows with
      | error fault => exact .inr rfl
      | ok r' => exact ih _ (access.later 1) _

theorem accumulateChunks_candid (count : Nat) (pieces : List (List (String × Int64))) :
    Candid fun access => accumulateChunks access count pieces := by
  induction pieces generalizing count with
  | nil => exact fun _ _ => .inr rfl
  | cons rows rest ih =>
    intro access db
    simp only [accumulateChunks]
    cases hr : db.requireWritable access .counter with
    | error fault => exact .inl ⟨fault, rfl⟩
    | ok r =>
      rw [Database.requireWritable_ok hr]
      simp only
      cases r.accumulateRows rows with
      | error fault => exact .inr rfl
      | ok p =>
        simp only
        by_cases hskipped : p.1 = 0
        · rw [if_pos hskipped, if_pos hskipped]
          exact ih _ (access.later 1) _
        · -- Rows were left alone, whatever the connection.
          rw [if_neg hskipped, if_neg hskipped]
          exact .inr rfl

theorem bare_candid (report : SqlFault → SqlFault) : Candid fun access => bare access report := by
  intro access db
  simp only [bare]
  cases access.fault? with
  | some fault => exact .inl ⟨report fault, rfl⟩
  | none => exact .inr rfl

/-! ## Transactions -/

theorem deltaRows_candid (d : Delta) : Candid (SqlStore.deltaRows d) := by
  have hgauges : Candid fun access => upsertMany access d.gauges.toList := upsertChunks_candid 0 _
  have hcounters : Candid fun access => accumulateMany access d.counters.toList :=
    accumulateChunks_candid 0 _
  have hdone : Candid fun _ : Access => fun db => ((.ok () : Except StoreError Unit), db) :=
    fun _ _ => .inr rfl
  intro access db
  simp only [deltaRows_eq]
  exact hgauges.andThen ((hcounters.later _).andThen hdone) access db

/-- **A transaction fails with a fault, or does what it does on a
connection that may do anything.** -/
theorem deltaStatement_candid (d : Delta) : Candid (SqlStore.deltaStatement d) := by
  intro access db
  simp only [SqlStore.deltaStatement, committed_eq]
  exact atomically_candid ((bare_candid id).andThen
    (((deltaRows_candid d).later 1).andThen ((bare_candid .commit).later _))) access db

end Statement

end Meterbank.Sql
