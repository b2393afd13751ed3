/-
  Meterbank.Proofs.Sql.Undoing — what is left of work that failed.

  A failed piece of work may have created a table, as tables are made sure
  of outside any transaction; but it leaves the rows of both tables as they
  were, wherever it failed: at a check, at any statement of a transaction,
  or at the commit.  Reading leaves the rows too, whether it fails or not.

  Main results:
    * `ensureAll_content` — making sure of tables changes no row.
    * `deltaStatement_error` — a transaction that fails anywhere is undone.
    * `onWriter_seen`, `onReader_seen` — what the connections of a session
      see after work that changes no row.
    * `read_keeps` — what a read keeps, by its two pieces of work.
-/
import Meterbank.Store.Sql

namespace Meterbank.Sql

/-! ## Rows -/

namespace Database

/-- The rows of the table of a kind; none, if there is no table. -/
def rows (db : Database) (kind : Kind) : List Row :=
  match db.table? kind with
  | some r => r.rows
  | none => []

/-- The rows of both tables. -/
def content (db : Database) : List Row × List Row := (db.rows .gauge, db.rows .counter)

/-- A table without rows where there was none changes no row. -/
theorem content_withTable_new (db : Database) (kind : Kind) (bound : Option Bound)
    (h : db.table? kind = none) : (db.withTable kind ⟨[], bound⟩).content = db.content := by
  cases kind <;> simp only [table?] at h <;> simp [content, rows, table?, withTable, h]

end Database

/-- Whether an answer is an error. -/
def Failed {α : Type} (answer : Except StoreError α) : Prop := ∃ e, answer = .error e

/-- Whether work leaves the rows as they were when it answers so. -/
def Work.KeepsRows {α : Type} (work : Work α) (answering : Except StoreError α → Prop) : Prop :=
  ∀ access p, answering (work access p).1 → (work access p).2.2.content = p.2.content

/-! ## Making sure of tables -/

theorem declare_content (access : Access) (kind : Kind) (bound : Option Bound) (db : Database) :
    (Statement.declare access kind bound db).2.content = db.content := by
  unfold Statement.declare
  cases access.fault? with
  | some fault => rfl
  | none =>
    cases ht : db.table? kind with
    | some r => cases access <;> rfl
    | none =>
      cases access with
      | readOnly refusal known => rfl
      | _ => exact Database.content_withTable_new db kind bound ht

/-- Making sure of a table changes no row. -/
theorem ensure_content (access : Access) (kind : Kind) (p : Guard × Database) :
    (Guard.ensure access kind p).2.2.content = p.2.content := by
  unfold Guard.ensure
  split
  · rfl
  · have h := declare_content access kind none p.2
    unfold Statement.create
    split <;> next hd => rw [hd] at h; exact h

theorem ensure_keepsRows (kind : Kind) :
    Work.KeepsRows (fun access => Guard.ensure access kind) fun _ => True :=
  fun access p _ => ensure_content access kind p

/-- **Making sure of tables changes no row.** -/
theorem ensureAll_content (access : Access) (kinds : List Kind) (p : Guard × Database) :
    (SqlStore.ensureAll access kinds p).2.2.content = p.2.content := by
  induction kinds generalizing access p with
  | nil => rfl
  | cons kind kinds ih =>
    have hensure := ensure_content access kind p
    unfold SqlStore.ensureAll
    simp only
    split
    · next q hq =>
      rw [ih, ← hensure, hq]
    · next e q hq =>
      rw [← hensure, hq]

/-! ## Statements -/

/-- Whether a statement that fails changes nothing. -/
def Statement.UndoneOnError {α : Type} (statement : Access → Statement α) : Prop :=
  ∀ access db e, (statement access db).1 = .error e → (statement access db).2 = db

theorem upsert_error (key : String) (x : Binary64) :
    Statement.UndoneOnError fun access => Statement.upsert access key x := by
  intro access db e h
  simp only [Statement.upsert] at h ⊢
  split
  · rfl
  · next r hr =>
    simp only [hr] at h
    split
    · rfl
    · next r' hr' =>
      simp only [hr'] at h
      exact absurd h (by simp)

theorem accumulate_error (key : String) (delta : Int64) :
    Statement.UndoneOnError fun access => Statement.accumulate access key delta := by
  intro access db e h
  simp only [Statement.accumulate] at h ⊢
  split
  · rfl
  · next r hr =>
    simp only [hr] at h
    split
    · rfl
    · rfl
    · next total r' hr' =>
      simp only [hr'] at h
      exact absurd h (by simp)

/-- **A transaction that fails anywhere, also at its commit, is undone.** -/
theorem deltaStatement_error (d : Delta) : Statement.UndoneOnError (SqlStore.deltaStatement d) :=
  fun _ db e h => Statement.atomically_error _ db e h

/-! ## Sequences -/

namespace Statement

/-- One statement, and another one if it succeeds. -/
def andThen {α β : Type} (first : Statement α) (second : Statement β) : Statement β := fun db =>
  match first db with
  | (.error e, db) => (.error e, db)
  | (.ok _, db) => second db

/-- Folded updates are written in two statements. -/
theorem deltaRows_eq (d : Delta) (access : Access) :
    SqlStore.deltaRows d access =
      andThen (upsertMany access d.gauges.toList)
        (andThen
          (accumulateMany (access.later (SqlStore.statementsFor d.gauges.toList)) d.counters.toList)
          fun db => (.ok (), db)) := by
  funext db
  unfold SqlStore.deltaRows andThen
  rcases upsertMany access d.gauges.toList db with ⟨_ | _, db'⟩
  · rfl
  · simp only
    rcases accumulateMany _ d.counters.toList db' with ⟨_ | _, _⟩ <;> rfl

/-- A transaction begins, runs its statements and is committed. -/
theorem committed_eq (access : Access) (statements : Nat) (body : Access → Statement Unit) :
    committed access statements body =
      atomically (andThen (bare access id)
        (andThen (body (access.later 1)) (bare (access.later (statements + 1)) .commit))) := by
  unfold committed
  congr 1
  funext db
  unfold andThen
  rcases bare access id db with ⟨_ | _, db'⟩
  · rfl
  · simp only
    rcases body (access.later 1) db' with ⟨_ | _, _⟩ <;> rfl

/-- Beginning and ending something touches no table. -/
theorem bare_database (access : Access) (report : SqlFault → SqlFault) (db : Database) :
    (bare access report db).2 = db := by
  unfold bare
  split <;> rfl

end Statement

/-! ## Work -/

/-- Reading changes nothing. -/
theorem select_database {α : Type} (access : Access) (kind : Kind) (read : Row → Except SqlFault α)
    (keys : List String) (db : Database) : (Statement.select access kind read keys db).2 = db := by
  unfold Statement.select
  split
  · rfl
  · split <;> rfl

/-- A statement that is undone when it fails, after making sure of tables. -/
theorem writing_keepsRows {α : Type} (kinds : List Kind) {statement : Access → Statement α}
    (h : Statement.UndoneOnError statement) :
    (SqlStore.writing kinds statement).KeepsRows Failed := by
  intro access p hfailed
  obtain ⟨e, he⟩ := hfailed
  have hensure := ensureAll_content access kinds p
  unfold SqlStore.writing at he ⊢
  split
  · next e' q hq =>
    rw [hq] at hensure
    exact hensure
  · next access' guard db hq =>
    simp only [hq] at he hensure
    have hdb := h access' db e he
    show ((statement access' db).2).content = _
    rw [hdb]
    exact hensure

/-- Reading changes no row. -/
theorem reading_keepsRows {α : Type} (kind : Kind) (read : Row → Except SqlFault α)
    (keys : List String) :
    (SqlStore.reading fun access => Statement.select access kind read keys).KeepsRows
      fun _ => True := by
  intro access p _
  show (Statement.select access kind read keys p.2).2.content = _
  rw [select_database]

/-! ## Connections -/

/-- What a connection sees, if this database is the one that is written. -/
def Link.view (l : Link) (db : Database) : Database := l.own.getD db

/-- Work leaves a connection where it is, and its own database in its place. -/
theorem Link.after_access {α : Type} (l : Link) (answer : Except StoreError α) (db : Database) :
    (l.after answer db).access = l.access ∧ (l.after answer db).own = l.own := by
  unfold Link.after
  split <;> exact ⟨rfl, rfl⟩

theorem Link.view_after {α : Type} (l : Link) (answer : Except StoreError α) (db db' : Database) :
    (l.after answer db).view db' = l.view db' := by
  unfold Link.after Link.view
  split <;> rfl

/-- What a connection sees is given by the rows of the written database. -/
theorem Link.view_content {l : Link} {db db' : Database} (h : db'.content = db.content) :
    (l.view db').content = (l.view db).content := by
  unfold Link.view
  cases l.own with
  | some own => rfl
  | none => exact h

/-- After work that changes no row the connection and the others see what
they saw. -/
theorem Link.run_content {α : Type} {work : Work α} {answering : Except StoreError α → Prop}
    (h : work.KeepsRows answering) (l : Link) (p : Guard × Database)
    (ha : answering (l.run work p).1) :
    (l.run work p).2.2.2.content = p.2.content ∧
      ((l.run work p).2.1.view (l.run work p).2.2.2).content = (l.view p.2).content := by
  unfold Link.run at ha ⊢
  cases ho : l.own with
  | none =>
    simp only [ho] at ha
    have hrows := h l.offer p ha
    refine ⟨hrows, ?_⟩
    show ((l.after _ _).view _).content = _
    rw [Link.view_after]
    exact Link.view_content hrows
  | some own =>
    simp only [ho] at ha
    refine ⟨rfl, ?_⟩
    show (work l.offer (p.1, own)).2.2.content = _
    rw [h l.offer (p.1, own) ha, Link.view, ho]
    rfl

/-- Reading on a connection changes no database. -/
theorem Link.run_reading {α : Type} (l : Link) (kind : Kind) (read : Row → Except SqlFault α)
    (keys : List String) (p : Guard × Database) :
    (l.run (SqlStore.reading fun access => Statement.select access kind read keys) p).2.2 = p := by
  have hwork : ∀ access p,
      (SqlStore.reading (fun access => Statement.select access kind read keys) access p).2 = p :=
    fun access p => Prod.ext rfl (select_database access kind read keys p.2)
  unfold Link.run
  cases l.own with
  | none => exact hwork l.offer p
  | some own =>
    have hguard := congrArg Prod.fst (hwork l.offer (p.1, own))
    exact Prod.ext hguard rfl

/-! ## Sessions -/

namespace Session

/-- The rows that are there, and those that the connections see: the one
that writes, and then those that read. -/
def seen (s : Session) : List (List Row × List Row) :=
  s.database.content :: (s.connection.writer :: s.connection.readers).map fun l =>
    (l.view s.database).content

/-- **After work that changes no row, on the connection that writes, all
connections see what they saw.** -/
theorem onWriter_seen {α : Type} {work : Work α} {answering : Except StoreError α → Prop}
    (h : work.KeepsRows answering) (s : Session) (ha : answering (s.onWriter work).1) :
    (s.onWriter work).2.seen = s.seen := by
  unfold onWriter Connection.onWriter at ha ⊢
  by_cases hc : s.connection.closed = true
  · rw [if_pos hc]
  · rw [if_neg hc] at ha ⊢
    have hrun := Link.run_content h s.connection.writer (s.guard, s.database) ha
    unfold seen
    simp only [List.map_cons]
    rw [hrun.1, hrun.2]
    congr 2
    apply List.map_congr_left
    intro l _
    exact Link.view_content hrun.1

/-- Without a reading connection the writing one reads. -/
theorem onReader_of_none {α : Type} (work : Work α) {s : Session}
    (hr : s.connection.readers[s.connection.turn % s.connection.readers.length]? = none) :
    s.onReader work = s.onWriter work := by
  simp only [onReader, onWriter, Connection.onReader, hr]

/-- The same of work on a reading connection. -/
theorem onReader_seen {α : Type} {work : Work α} {answering : Except StoreError α → Prop}
    (h : work.KeepsRows answering) (s : Session) (ha : answering (s.onReader work).1) :
    (s.onReader work).2.seen = s.seen := by
  cases hr : s.connection.readers[s.connection.turn % s.connection.readers.length]? with
  | none =>
    rw [onReader_of_none work hr] at ha ⊢
    exact onWriter_seen h s ha
  | some reader =>
    unfold onReader Connection.onReader at ha ⊢
    simp only [hr] at ha ⊢
    by_cases hc : s.connection.closed = true
    · rw [if_pos hc]
    · rw [if_neg hc] at ha ⊢
      have hrun := Link.run_content h reader (s.guard, s.database) ha
      unfold seen
      simp only [List.map_cons]
      rw [hrun.1, Link.view_content hrun.1]
      congr 2
      -- The reader that worked sees what it saw, and so do the others.
      apply List.ext_getElem?
      intro i
      rw [List.getElem?_map, List.getElem?_map, List.getElem?_set]
      split
      · next hi =>
        subst hi
        rw [hr]
        have hlt := (List.getElem?_eq_some_iff.1 hr).1
        simp [hlt, hrun.2]
      · cases hi : s.connection.readers[i]? with
        | none => rfl
        | some l => simp [Link.view_content hrun.1]

end Session

end Meterbank.Sql

namespace Meterbank.SqlStore

open Meterbank.Sql

/-! ## Stores -/

variable {P : SqlStore → Prop} {s : SqlStore}

/-- What making sure of a table and a statement that reads both keep, a
read keeps, whether it is answered or not. -/
theorem read_keeps {α : Type} {kind : Kind} {statement : Access → Statement α} (h : P s)
    (hensure : ∀ s, P s → P (s.through (Session.onWriter fun access => Guard.ensure access kind)).2)
    (hread : ∀ s, P s → P (s.through (Session.onReader (reading statement))).2) :
    P (s.read kind statement).2 := by
  have hprepare : P (s.prepareRead kind).2 := by
    unfold prepareRead
    split
    · exact h
    · exact hensure s h
  unfold read
  split
  · next e s' hs =>
    rw [hs] at hprepare
    exact hprepare
  · next s' hs =>
    rw [hs] at hprepare
    exact hread s' hprepare

/-- So does a read that asks for all its keys. -/
theorem demand_keeps {α : Type} {kind : Kind} {keys : List String}
    {p : Except StoreError (Table α) × SqlStore} (h : P p.2) : P (demand kind keys p).2 := by
  unfold demand
  split
  · exact h
  · split <;> exact h

end Meterbank.SqlStore
