/-
  Meterbank.Proofs.Sql.Finite — finite gauges in a database.

  A database keeps a value that is not a number as no value at all, and
  its tables want a value in every row.  The store gives it finite values
  only: then every row of the gauge table has a finite value, and no
  statement fails for a missing one, unless the connection itself fails
  with that very fault.

  Main results:
    * `upsert_upholds`, `deltaStatement_upholds` — statements that write
      finite values.
    * `accumulate_upholds`, `select_upholds` — statements that write none.
    * `onWriter_upholds`, `onReader_upholds` — work on the connections.
-/
import Meterbank.Proofs.Sql.Failing

namespace Meterbank

variable {α : Type}

namespace Sql

/-! ## Rows with finite values -/

/-- Whether a row has a finite value. -/
def Row.Finite (row : Row) : Prop := ∃ x, row.value = .real x ∧ x.isFinite = true

/-- Whether all gauges of a database are finite. -/
def Database.Finite (db : Database) : Prop := ∀ row ∈ db.rows .gauge, row.Finite

theorem Database.Finite.of_content {db db' : Database} (h : db.Finite)
    (hc : db'.content = db.content) : db'.Finite := by
  have hrows : db'.rows .gauge = db.rows .gauge := congrArg Prod.fst hc
  unfold Finite
  rw [hrows]
  exact h

/-- A table of counters has no gauges. -/
theorem Database.Finite.withCounters {db : Database} (h : db.Finite) (r : Relation) :
    (db.withTable .counter r).Finite := h

theorem unsignedZero_finite {x : Binary64} (h : x.isFinite = true) :
    x.unsignedZero.isFinite = true := by
  unfold Binary64.unsignedZero
  split
  · decide
  · exact h

namespace Relation

variable {r : Relation}

/-- Giving a key a finite value leaves finite values. -/
theorem put_finite (h : ∀ row ∈ r.rows, row.Finite) (key : String) {x : Binary64}
    (hx : x.isFinite = true) : ∀ row ∈ (r.put key (.real x)).rows, row.Finite := by
  unfold put
  simp only
  revert h
  -- The key is looked for from the first row on, and put last if it is not there.
  induction r.rows with
  | nil =>
    intro _ row hrow
    rw [List.mem_singleton.1 hrow]
    exact ⟨x, rfl, hx⟩
  | cons first rows ih =>
    intro h
    rw [List.forall_mem_cons] at h
    unfold putRow
    split
    · exact List.forall_mem_cons.2 ⟨⟨x, rfl, hx⟩, h.2⟩
    · exact List.forall_mem_cons.2 ⟨h.1, ih h.2⟩

/-- A finite gauge is stored with a finite value. -/
theorem upsert_finite (h : ∀ row ∈ r.rows, row.Finite) {key : String} {x : Binary64}
    (hx : x.isFinite = true) {r' : Relation} (hr : r.upsert key x = .ok r') :
    ∀ row ∈ r'.rows, row.Finite := by
  unfold upsert at hr
  rw [asGauge_real hx] at hr
  simp only at hr
  split at hr
  · exact absurd hr (by simp)
  · rw [← Except.ok.inj hr]
    exact put_finite h key (unsignedZero_finite hx)

theorem upsertRows_finite (h : ∀ row ∈ r.rows, row.Finite) {rows : List (String × Binary64)}
    (hx : ∀ row ∈ rows, row.2.isFinite = true) {r' : Relation} (hr : r.upsertRows rows = .ok r') :
    ∀ row ∈ r'.rows, row.Finite := by
  induction rows generalizing r with
  | nil => exact Except.ok.inj hr ▸ h
  | cons row rows ih =>
    rw [List.forall_mem_cons] at hx
    rw [upsertRows] at hr
    split at hr
    · exact absurd hr (by simp)
    · next hrow => exact ih (upsert_finite h hx.1 hrow) hx.2 hr

end Relation

/-- A table that may be written is there. -/
theorem Database.rows_of_requireWritable {access : Access} {db : Database} {kind : Kind}
    {r : Relation} (h : db.requireWritable access kind = .ok r) : db.rows kind = r.rows := by
  have htable : db.table? kind = some r := by
    unfold requireWritable require at h
    cases hf : access.fault? with
    | some fault =>
      rw [hf] at h
      exact absurd h (by simp)
    | none =>
      cases ht : db.table? kind with
      | none =>
        rw [hf, ht] at h
        exact absurd h (by simp)
      | some r' =>
        rw [hf, ht] at h
        cases access with
        | readOnly refusal known => exact absurd h (by simp)
        | _ => rw [Except.ok.inj h]
  rw [rows, htable]

/-! ## Statements -/

namespace Statement

/-- What a statement of a store does: it leaves finite gauges finite, and
fails with nothing but what statements give. -/
structure Upholds (statement : Access → Statement α) : Prop where
  finite : ∀ {access db}, db.Finite → (statement access db).2.Finite
  gives : Gives statement

/-- **Writing a finite gauge.** -/
theorem upsert_upholds (key : String) {x : Binary64} (hx : x.isFinite = true) :
    Upholds fun access => upsert access key x where
  finite {access db} h := by
    simp only [upsert]
    split
    · exact h
    · next r hr =>
      split
      · exact h
      · next r' hrow =>
        refine Relation.upsert_finite ?_ hx hrow
        rw [← Database.rows_of_requireWritable hr]
        exact h
  gives := upsert_gives key hx

theorem upsertChunks_finite (count : Nat) {pieces : List (List (String × Binary64))}
    (hx : ∀ rows ∈ pieces, ∀ row ∈ rows, row.2.isFinite = true) {access : Access} {db : Database}
    (h : db.Finite) : (upsertChunks access count pieces db).2.Finite := by
  induction pieces generalizing access count db with
  | nil => exact h
  | cons rows rest ih =>
    rw [List.forall_mem_cons] at hx
    unfold upsertChunks
    split
    · exact h
    · next r hr =>
      split
      · exact h
      · next r' hrows =>
        refine ih _ hx.2 (Relation.upsertRows_finite ?_ hx.1 hrows)
        rw [← Database.rows_of_requireWritable hr]
        exact h

/-- Adding to a counter touches no gauge. -/
theorem accumulate_upholds (key : String) (delta : Int64) :
    Upholds fun access => accumulate access key delta where
  finite {access db} h := by
    simp only [accumulate]
    split
    · exact h
    · split
      · exact h
      · exact h
      · exact h.withCounters _
  gives := accumulate_gives key delta

theorem accumulateChunks_finite (count : Nat) {pieces : List (List (String × Int64))}
    {access : Access} {db : Database} (h : db.Finite) :
    (accumulateChunks access count pieces db).2.Finite := by
  induction pieces generalizing access count db with
  | nil => exact h
  | cons rows rest ih =>
    unfold accumulateChunks
    split
    · exact h
    · split
      · exact h
      · split
        · exact ih _ (h.withCounters _)
        · exact h.withCounters _

/-- **Reading changes nothing**, and misses a value in no row. -/
theorem select_upholds (kind : Kind) {read : Row → Except SqlFault α} (keys : List String)
    (hread : ∀ row fault, read row = .error fault → fault.Spares) :
    Upholds fun access => select access kind read keys where
  finite {access db} h := by
    rw [select_database]
    exact h
  gives := select_gives kind keys hread

/-- What is undone was finite before. -/
theorem atomically_finite {body : Statement α} {db : Database} (h : db.Finite)
    (hbody : (body db).2.Finite) : (atomically body db).2.Finite := by
  unfold atomically
  split
  · next hs => rw [hs] at hbody; exact hbody
  · exact h

theorem andThen_finite {β : Type} {first : Statement α} {second : Statement β} {db : Database}
    (hfirst : (first db).2.Finite) (hsecond : ∀ {db}, db.Finite → (second db).2.Finite) :
    (andThen first second db).2.Finite := by
  unfold andThen
  split
  · next hs => rw [hs] at hfirst; exact hfirst
  · next hs => rw [hs] at hfirst; exact hsecond hfirst

theorem deltaRows_finite {d : Delta} (hd : d.Finite) {access : Access} {db : Database}
    (h : db.Finite) : (SqlStore.deltaRows d access db).2.Finite := by
  rw [deltaRows_eq]
  exact andThen_finite (upsertChunks_finite 0 (finite_chunks hd) h) fun h' =>
    andThen_finite (accumulateChunks_finite 0 h') id

/-- **Writing finite folded updates.** -/
theorem deltaStatement_upholds {d : Delta} (hd : d.Finite) :
    Upholds (SqlStore.deltaStatement d) where
  finite {access db} h := by
    have hbare : ∀ {access report db}, db.Finite → (bare access report db).2.Finite :=
      fun h => by rw [bare_database]; exact h
    unfold SqlStore.deltaStatement
    rw [committed_eq]
    refine atomically_finite h ?_
    exact andThen_finite (hbare h) fun h' => andThen_finite (deltaRows_finite hd h') hbare
  gives := deltaStatement_gives hd

end Statement

/-! ## Work -/

/-- The same of work on a connection. -/
structure Work.Upholds (work : Work α) : Prop where
  finite : ∀ {access p}, p.2.Finite → (work access p).2.2.Finite
  gives : work.Gives

theorem ensure_upholds (kind : Kind) : Work.Upholds fun access => Guard.ensure access kind where
  finite {access p} h := h.of_content (ensure_content access kind p)
  gives _ _ _ he := .inl (Guard.ensure_error he)

/-- A statement after making sure of tables. -/
theorem writing_upholds (kinds : List Kind) {statement : Access → Statement α}
    (h : Statement.Upholds statement) : (SqlStore.writing kinds statement).Upholds where
  finite {access p} hp := by
    have hensure := hp.of_content (ensureAll_content access kinds p)
    unfold SqlStore.writing
    split
    · next hs => rw [hs] at hensure; exact hensure
    · next hs => rw [hs] at hensure; exact h.finite hensure
  gives := writing_gives kinds h.gives

theorem reading_upholds {statement : Access → Statement α} (h : Statement.Upholds statement) :
    (SqlStore.reading statement).Upholds where
  finite hp := h.finite hp
  gives := reading_gives h.gives

/-! ## Connections -/

/-- Work on a connection leaves its own database finite, or the one that is
written. -/
theorem Link.run_upholds {work : Work α} (h : work.Upholds) (l : Link) (p : Guard × Database) :
    (l.run work p).2.1.access = l.access ∧
    ((p.2.Finite ∧ ∀ own, l.own = some own → own.Finite) →
      (l.run work p).2.2.2.Finite ∧ ∀ own, (l.run work p).2.1.own = some own → own.Finite) ∧
    (l.access.Spares → Spared (l.run work p).1) := by
  have hspared : l.access.Spares → Spared (l.run work p).1 := by
    intro hs
    cases ha : (l.run work p).1 with
    | ok a => exact spared_ok a
    | error e => exact (Link.run_gives h.gives l ha).spared hs
  refine ⟨?_, ?_, hspared⟩
  · unfold run
    cases l.own with
    | none => exact (l.after_access _ _).1
    | some own => exact (l.after_access _ _).1
  · rintro ⟨hdb, hown⟩
    unfold run
    -- A database of its own is all that a connection works on.
    cases ho : l.own with
    | none =>
      refine ⟨h.finite hdb, fun own hl => ?_⟩
      rw [show _ = l.own from (l.after_access _ _).2, ho] at hl
      exact absurd hl (by simp)
    | some own =>
      refine ⟨hdb, fun own' hl => ?_⟩
      rw [← Option.some.inj hl]
      exact h.finite (hown own ho)

/-! ## Sessions -/

namespace Session

/-- The connections of a session. -/
def links (s : Session) : List Link := s.connection.writer :: s.connection.readers

/-- Whether all gauges that a connection sees are finite. -/
structure Finite (s : Session) : Prop where
  database : s.database.Finite
  own : ∀ l ∈ s.links, ∀ db, l.own = some db → db.Finite

/-- Whether no connection fails of its own as if a value were missing. -/
structure Spares (s : Session) : Prop where
  links : ∀ l ∈ s.links, l.access.Spares
  closing : ∀ fault, s.connection.unsettled = some fault → fault.Spares

/-- What a piece of work of a store does to a session. -/
structure Upholds (s : Session) (p : Except StoreError α × Session) : Prop where
  finite : s.Finite → p.2.Finite
  spares : s.Spares → p.2.Spares
  spared : s.Spares → Spared p.1

theorem Upholds.refl {s : Session} {answer : Except StoreError α} (h : Spared answer) :
    s.Upholds (answer, s) :=
  ⟨id, id, fun _ => h⟩

/-- One piece of work after another. -/
theorem Upholds.trans {β : Type} {s s' : Session} {answer : Except StoreError α}
    {p : Except StoreError β × Session} (h : s.Upholds (answer, s')) (h' : s'.Upholds p) :
    s.Upholds p :=
  ⟨fun hs => h'.finite (h.finite hs), fun hs => h'.spares (h.spares hs),
    fun hs => h'.spared (h.spares hs)⟩

variable {s : Session}

theorem spared_closed : Spared (.error .closed : Except StoreError α) := fun _ _ => by simp

/-- **Work on the connection that writes.** -/
theorem onWriter_upholds {work : Work α} (h : work.Upholds) (s : Session) :
    s.Upholds (s.onWriter work) := by
  obtain ⟨haccess, hfinite, hspared⟩ :=
    Link.run_upholds h s.connection.writer (s.guard, s.database)
  by_cases hc : s.connection.closed = true
  · rw [onWriter_closed work s hc]
    exact .refl spared_closed
  · unfold onWriter Connection.onWriter
    rw [if_neg hc]
    have hwriter : s.connection.writer ∈ s.links := List.mem_cons_self
    constructor
    · intro hs
      have hrun := hfinite ⟨hs.database, hs.own _ hwriter⟩
      exact ⟨hrun.1, List.forall_mem_cons.2
        ⟨hrun.2, fun l hl => hs.own l (List.mem_cons_of_mem _ hl)⟩⟩
    · intro hs
      refine ⟨List.forall_mem_cons.2 ⟨?_, fun l hl => hs.links l (List.mem_cons_of_mem _ hl)⟩,
        hs.closing⟩
      show Access.Spares (s.connection.writer.run work (s.guard, s.database)).2.1.access
      rw [haccess]
      exact hs.links _ hwriter
    · exact fun hs => hspared (hs.links _ hwriter)

/-- **Work on a reading connection.** -/
theorem onReader_upholds {work : Work α} (h : work.Upholds) (s : Session) :
    s.Upholds (s.onReader work) := by
  cases hr : s.connection.readers[s.connection.turn % s.connection.readers.length]? with
  | none =>
    rw [onReader_of_none work hr]
    exact onWriter_upholds h s
  | some reader =>
    have hwriter : s.connection.writer ∈ s.links := List.mem_cons_self
    have hreader : reader ∈ s.links := List.mem_cons_of_mem _ (List.mem_of_getElem? hr)
    obtain ⟨haccess, hfinite, hspared⟩ := Link.run_upholds h reader (s.guard, s.database)
    by_cases hc : s.connection.closed = true
    · rw [onReader_closed work s hc]
      exact .refl spared_closed
    · unfold onReader Connection.onReader
      simp only [hr, if_neg hc]
      constructor
      · intro hs
        have hrun := hfinite ⟨hs.database, hs.own _ hreader⟩
        refine ⟨hrun.1, List.forall_mem_cons.2 ⟨hs.own _ hwriter, fun l hl => ?_⟩⟩
        -- Only the reader whose turn it is has been used.
        rcases List.mem_or_eq_of_mem_set hl with hold | rfl
        · exact hs.own l (List.mem_cons_of_mem _ hold)
        · exact hrun.2
      · intro hs
        refine ⟨List.forall_mem_cons.2 ⟨hs.links _ hwriter, fun l hl => ?_⟩, hs.closing⟩
        rcases List.mem_or_eq_of_mem_set hl with hold | rfl
        · exact hs.links l (List.mem_cons_of_mem _ hold)
        · rw [haccess]
          exact hs.links _ hreader
      · exact fun hs => hspared (hs.links _ hreader)

theorem knock_upholds (s : Session) : s.Upholds s.knock := by
  simp only [knock, Connection.knock]
  split
  · exact .refl spared_closed
  · exact ⟨fun hs => ⟨hs.database, hs.own⟩, fun hs => ⟨hs.links, hs.closing⟩, fun _ => spared_ok _⟩

theorem close_upholds (s : Session) : s.Upholds s.close := by
  simp only [close, Connection.close]
  split
  · next hfault =>
    exact ⟨fun hs => ⟨hs.database, hs.own⟩, fun hs => ⟨hs.links, hs.closing⟩,
      fun hs => (hs.closing _ hfault).spared⟩
  · exact ⟨fun hs => ⟨hs.database, hs.own⟩, fun hs => ⟨hs.links, hs.closing⟩, fun _ => spared_ok _⟩

end Session

end Sql

end Meterbank
