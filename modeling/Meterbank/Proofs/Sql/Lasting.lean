/-
  Meterbank.Proofs.Sql.Lasting — tables that stay.

  No statement drops a table: what writes puts a table in the place of
  itself, what fails changes nothing, and a transaction that is undone
  puts back a database that had its tables already.

  Main results:
    * `create_ok` — a table that was created is there.
    * `deltaStatement_keeps` — a transaction keeps the tables, whether it
      is committed or not.
-/
import Meterbank.Proofs.Sql.Undoing

namespace Meterbank.Sql

/-- Whether every table of a database is in another one too. -/
def Database.Keeps (db db' : Database) : Prop :=
  ∀ kind, (db.table? kind).isSome = true → (db'.table? kind).isSome = true

namespace Database

variable {db db' db'' : Database}

theorem Keeps.refl (db : Database) : db.Keeps db := fun _ h => h

theorem Keeps.trans (h : db.Keeps db') (h' : db'.Keeps db'') : db.Keeps db'' :=
  fun kind hk => h' kind (h kind hk)

/-- A table that is put in its place drops no other. -/
theorem keeps_withTable (db : Database) (kind : Kind) (r : Relation) :
    db.Keeps (db.withTable kind r) := by
  intro k hk
  cases kind <;> cases k <;> first | exact hk | rfl

end Database

namespace Statement

/-- Whether a statement drops no table. -/
def KeepsTables {α : Type} (statement : Access → Statement α) : Prop :=
  ∀ (access : Access) (db : Database), db.Keeps (statement access db).2

theorem declare_keeps (kind : Kind) (bound : Option Bound) :
    KeepsTables fun access => declare access kind bound := by
  intro access db
  simp only [declare]
  cases access.fault? with
  | some fault => exact .refl db
  | none =>
    cases db.table? kind with
    | some r => cases access <;> exact .refl db
    | none =>
      cases access with
      | readOnly refusal known => exact .refl db
      | readWrite | blocked fault | faltering faults => exact Database.keeps_withTable db kind _

/-- **A table that was created is there.** -/
theorem create_ok {access : Access} {kind : Kind} {db : Database} {u : Unit}
    (h : (create access kind db).1 = .ok u) :
    ((create access kind db).2.table? kind).isSome = true := by
  unfold create declare at h ⊢
  cases hfault : access.fault? with
  | some fault =>
    rw [hfault] at h
    exact absurd h (by simp)
  | none =>
    rw [hfault] at h
    cases ht : db.table? kind with
    | some r => cases access <;> simp [ht]
    | none =>
      cases access with
      | readOnly refusal known =>
        simp only [ht] at h
        exact absurd h (by simp)
      | readWrite | blocked fault | faltering faults => simp [Database.table?_withTable]

theorem upsert_keeps (key : String) (x : Binary64) :
    KeepsTables fun access => upsert access key x := by
  intro access db
  simp only [upsert]
  split
  · exact .refl db
  · split
    · exact .refl db
    · exact Database.keeps_withTable db .gauge _

theorem accumulate_keeps (key : String) (delta : Int64) :
    KeepsTables fun access => accumulate access key delta := by
  intro access db
  simp only [accumulate]
  split
  · exact .refl db
  · split
    · exact .refl db
    · exact .refl db
    · exact Database.keeps_withTable db .counter _

theorem upsertChunks_keeps (count : Nat) (pieces : List (List (String × Binary64))) :
    KeepsTables fun access => upsertChunks access count pieces := by
  induction pieces generalizing count with
  | nil => exact fun _ db => .refl db
  | cons rows rest ih =>
    intro access db
    simp only [upsertChunks]
    split
    · exact .refl db
    · split
      · exact .refl db
      · exact (Database.keeps_withTable db .gauge _).trans (ih _ _ _)

theorem accumulateChunks_keeps (count : Nat) (pieces : List (List (String × Int64))) :
    KeepsTables fun access => accumulateChunks access count pieces := by
  induction pieces generalizing count with
  | nil => exact fun _ db => .refl db
  | cons rows rest ih =>
    intro access db
    simp only [accumulateChunks]
    split
    · exact .refl db
    · split
      · exact .refl db
      · split
        · exact (Database.keeps_withTable db .counter _).trans (ih _ _ _)
        · exact Database.keeps_withTable db .counter _

theorem andThen_keeps {α β : Type} {first : Statement α} {second : Statement β} {db : Database}
    (hfirst : db.Keeps (first db).2) (hsecond : ∀ db, Database.Keeps db (second db).2) :
    db.Keeps (andThen first second db).2 := by
  unfold andThen
  split
  · next hs => rw [hs] at hfirst; exact hfirst
  · next hs => rw [hs] at hfirst; exact hfirst.trans (hsecond _)

theorem deltaRows_keeps (d : Delta) : KeepsTables (SqlStore.deltaRows d) := by
  intro access db
  rw [deltaRows_eq]
  exact andThen_keeps (upsertChunks_keeps 0 _ access db) fun db' =>
    andThen_keeps (accumulateChunks_keeps 0 _ _ db') .refl

/-- What succeeds or is undone keeps the tables that it keeps if it succeeds. -/
theorem atomically_keeps {α : Type} {body : Statement α} {db : Database}
    (h : db.Keeps (body db).2) : db.Keeps (atomically body db).2 := by
  unfold atomically
  cases hb : body db with
  | mk answer after =>
    rw [hb] at h
    cases answer with
    | ok a => exact h
    | error e => exact .refl db

/-- **A transaction keeps the tables,** whether it is committed or undone. -/
theorem deltaStatement_keeps (d : Delta) : KeepsTables (SqlStore.deltaStatement d) := by
  have hbare : ∀ access report (db : Database), db.Keeps (bare access report db).2 :=
    fun access report db => by rw [bare_database]; exact .refl db
  intro access db
  unfold SqlStore.deltaStatement
  rw [committed_eq]
  refine atomically_keeps ?_
  exact andThen_keeps (hbare _ _ _) fun db' =>
    andThen_keeps (deltaRows_keeps d _ db') fun db'' => hbare _ _ db''

/-- A translated answer changes nothing. -/
theorem KeepsTables.map {α β : Type} {statement : Access → Statement α}
    (h : KeepsTables statement) (f : α → β) :
    KeepsTables fun access db => ((statement access db).1.map f, (statement access db).2) :=
  h

end Statement

end Meterbank.Sql
