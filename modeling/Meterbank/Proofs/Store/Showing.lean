/-
  Meterbank.Proofs.Store.Showing — stores whose connections may fail.

  What a store shows is what its connection that writes sees.  Nothing is
  assumed of the connections: they may be closed, refuse to write, or fail
  at any statement and at the commit.  The tables that a store shows
  become others only by folded updates that were written with success, and
  then these have been applied in full.

  Main results:
    * `Shows.write` — a statement that writes is done in full, or not at all.
    * `Shows.writeBatch` — many updates together are all applied, or none is.
    * `Shows.writeDelta_ok` — a success tells that all was applied.
    * `Shows.writeDelta_error`, `Shows.readCounters`, `Shows.close` —
      nothing else changes the tables.
-/
import Meterbank.Proofs.Folding
import Meterbank.Proofs.Sql.Applying
import Meterbank.Proofs.Sql.Refusing
import Meterbank.Proofs.Store.Keeping

namespace Meterbank.Sql

/-! ## Sessions -/

/-- Work on a connection is done on what it sees. -/
theorem Link.run_view {α : Type} (work : Work α) (l : Link) (guard : Guard) (db : Database) :
    (l.run work (guard, db)).1 = (work l.offer (guard, l.view db)).1 ∧
      (l.run work (guard, db)).2.2.1 = (work l.offer (guard, l.view db)).2.1 ∧
        (l.run work (guard, db)).2.1.view (l.run work (guard, db)).2.2.2 =
          (work l.offer (guard, l.view db)).2.2 := by
  unfold run view
  cases ho : l.own with
  | none =>
    refine ⟨rfl, rfl, ?_⟩
    show ((l.after _ _).own).getD _ = _
    rw [(l.after_access _ _).2, ho]
    rfl
  | some own => exact ⟨rfl, rfl, rfl⟩

namespace Session

/-- What the connection that writes sees. -/
def shown (s : Session) : Database := s.connection.writer.view s.database

/-- The tables that a session shows. -/
structure Shows (s : Session) (g : Table Binary64) (c : Table Int64) : Prop where
  guard : s.guard.Truthful s.shown
  tables : s.shown.Holds g c

variable {s : Session} {g g' : Table Binary64} {c c' : Table Int64}

/-- Work on the connection that writes is refused, or done on what is shown. -/
theorem onWriter_shown {α : Type} (work : Work α) (s : Session) :
    s.onWriter work = (.error .closed, s) ∨
      ∃ access, (s.onWriter work).1 = (work access (s.guard, s.shown)).1 ∧
        (s.onWriter work).2.guard = (work access (s.guard, s.shown)).2.1 ∧
          (s.onWriter work).2.shown = (work access (s.guard, s.shown)).2.2 := by
  by_cases hclosed : s.connection.closed = true
  · exact .inl (s.onWriter_closed work hclosed)
  · refine .inr ⟨s.connection.writer.offer, ?_⟩
    unfold onWriter Connection.onWriter
    rw [if_neg hclosed]
    exact Link.run_view work s.connection.writer s.guard s.database

/-- Work on the connection that writes is done on what is shown, unless the
connection is closed. -/
theorem onWriter_answer {α : Type} (s : Session) (work : Work α) :
    (s.onWriter work).1 = if s.connection.closed = true then .error .closed else
      (work s.connection.writer.offer (s.guard, s.shown)).1 := by
  split
  · next hclosed => rw [s.onWriter_closed work hclosed]
  · next hopen =>
    unfold onWriter Connection.onWriter
    rw [if_neg hopen]
    exact (Link.run_view work s.connection.writer s.guard s.database).1

/-- Making sure of a table leaves what is shown. -/
theorem Shows.ensure (h : s.Shows g c) (kind : Kind) :
    (s.onWriter fun access => Guard.ensure access kind).2.Shows g c := by
  rcases s.onWriter_shown fun access => Guard.ensure access kind with
    hclosed | ⟨access, -, hguard, hshown⟩
  · rw [hclosed]
    exact h
  · obtain ⟨answer, guard, db, hensure, ht, hbecomes, -⟩ :=
      Guard.ensure_holds h.guard h.tables access kind
    rw [hensure] at hguard hshown
    exact ⟨by rw [hguard, hshown]; exact ht, by rw [hshown]; exact hbecomes.holds⟩

/-- Reading leaves what is shown, whichever connection it is done on. -/
theorem Shows.reading {α : Type} (h : s.Shows g c) (kind : Kind) (read : Row → Except SqlFault α)
    (keys : List String) :
    (s.onReader (SqlStore.reading fun access => Statement.select access kind read keys)).2.Shows
      g c := by
  -- The statement changes no database, so neither view nor guard changes.
  have hwork : ∀ access p,
      (SqlStore.reading (fun access => Statement.select access kind read keys) access p).2 = p :=
    fun access p => Prod.ext rfl (select_database access kind read keys p.2)
  cases hr : s.connection.readers[s.connection.turn % s.connection.readers.length]? with
  | none =>
    rw [onReader_of_none _ hr]
    rcases s.onWriter_shown (SqlStore.reading fun access =>
        Statement.select access kind read keys) with hclosed | ⟨access, -, hguard, hshown⟩
    · rw [hclosed]
      exact h
    · rw [hwork] at hguard hshown
      exact ⟨by rw [hguard, hshown]; exact h.guard, by rw [hshown]; exact h.tables⟩
  | some reader =>
    unfold onReader Connection.onReader
    simp only [hr]
    by_cases hclosed : s.connection.closed = true
    · rw [if_pos hclosed]
      exact h
    · rw [if_neg hclosed]
      simp only [reader.run_reading]
      exact ⟨h.guard, h.tables⟩

end Session

end Meterbank.Sql

namespace Meterbank.SqlStore

open Meterbank.Sql

/-! ## Stores -/

/-- The tables that a store shows. -/
def Shows (s : SqlStore) (g : Table Binary64) (c : Table Int64) : Prop := s.session.Shows g c

variable {s s' : SqlStore} {g : Table Binary64} {c : Table Int64} {d : Delta}

/-- A store over a database that holds tables shows them, whatever its
other connections see. -/
theorem create_shows {connection : Connection} {db : Database} (hown : connection.writer.own = none)
    (h : db.Holds g c) : (create (.start connection db)).Shows g c := by
  have hshown : (Session.start connection db).shown = db := by
    unfold Session.shown Session.start Link.view
    rw [hown]
    rfl
  refine ⟨fun kind hk => ?_, ?_⟩
  · cases kind <;> exact absurd hk (by simp [create, Session.start, Guard.fresh, Guard.isReady])
  · show (Session.start connection db).shown.Holds g c
    rw [hshown]
    exact h

namespace Shows

/-- Folded updates that are finite are written in one transaction, unless
there is nothing to write. -/
theorem writeDelta_eq (hx : d.Finite) (hne : d.isEmpty = false) (s : SqlStore) :
    s.writeDelta d = s.write [.gauge, .counter] (deltaStatement d) := by
  unfold SqlStore.writeDelta
  rw [hne, (checkGauges_eq_ok_iff _).2 hx.rows]
  rfl

/-- A statement that writes fails and leaves the tables, or is run in full
on a database that holds them. -/
theorem write {α : Type} (h : s.Shows g c) (kinds : List Kind) {statement : Access → Statement α}
    (hundone : Statement.UndoneOnError statement) (hcandid : Statement.Candid statement) :
    (∃ e, (s.write kinds statement).1 = .error e ∧ (s.write kinds statement).2.Shows g c) ∨
    ∃ a db db', (s.write kinds statement).1 = .ok a ∧ db.Holds g c ∧
      (∀ kind ∈ kinds, (db.table? kind).isSome = true) ∧
        statement .readWrite db = (.ok a, db') ∧
          ∀ g' c', db.Becomes db' g' c' → (s.write kinds statement).2.Shows g' c' := by
  rcases s.session.onWriter_shown (writing kinds statement) with
    hclosed | ⟨access, hanswer, hguard, hshown⟩
  · -- The connection is closed, so nothing is done.
    refine .inl ⟨.closed, ?_⟩
    unfold SqlStore.write through
    rw [hclosed]
    exact ⟨rfl, h⟩
  · obtain ⟨answer, guard, db, hall, ht, hbecomes, hkinds, -⟩ :=
      ensureAll_holds h.guard h.tables access kinds
    -- What the work makes of guard and database is what the store shows.
    have hwrite : ∀ {answer' guard' db'},
        writing kinds statement access (s.session.guard, s.session.shown) =
          (answer', guard', db') →
        (s.write kinds statement).1 = answer' ∧
          ∀ g' c', guard'.Truthful db' → db'.Holds g' c' →
            (s.write kinds statement).2.Shows g' c' := by
      intro answer' guard' db' hwork
      rw [hwork] at hanswer hguard hshown
      refine ⟨hanswer, fun g' c' htrue hholds => ?_⟩
      show (s.session.onWriter (writing kinds statement)).2.Shows g' c'
      exact ⟨by rw [hguard, hshown]; exact htrue, by rw [hshown]; exact hholds⟩
    unfold writing at hwrite
    rw [hall] at hwrite
    cases answer with
    | error e =>
      obtain ⟨herror, hkeeps⟩ := hwrite rfl
      exact .inl ⟨e, herror, hkeeps g c ht hbecomes.holds⟩
    | ok later =>
      cases hrun : statement later db with
      | mk result db' =>
        simp only [hrun] at hwrite
        obtain ⟨hresult, hkeeps⟩ := hwrite rfl
        cases result with
        | error e =>
          -- The statement failed, and was undone.
          have hsame := hundone later db e (by rw [hrun])
          rw [hrun] at hsame
          obtain rfl : db' = db := hsame
          exact .inl ⟨e, hresult, hkeeps g c ht hbecomes.holds⟩
        | ok a =>
          refine .inr ⟨a, db, db', hresult, hbecomes.holds, hkinds later rfl,
            hcandid.done hrun, fun g' c' hdb => ?_⟩
          exact hkeeps g' c' (fun kind hk => hdb.keeps kind (ht kind hk)) hdb.holds

/-- What becomes of the tables in a transaction, if it is run. -/
theorem transaction (h : s.Shows g c) (hx : d.Finite) :
    (∃ c', (s.write [.gauge, .counter] (deltaStatement d)).1 = .ok () ∧
      c.addAll d.counters = .ok c' ∧
        (s.write [.gauge, .counter] (deltaStatement d)).2.Shows
          (g.setRows (Relation.storedRows d.gauges.toList)) c') ∨
    ∃ e, (s.write [.gauge, .counter] (deltaStatement d)).1 = .error e ∧
      (s.write [.gauge, .counter] (deltaStatement d)).2.Shows g c := by
  rcases h.write [.gauge, .counter] (deltaStatement_error d) (Statement.deltaStatement_candid d)
    with hfailed | ⟨u, db, db', hresult, hdb, hthere, hfull, hkeeps⟩
  · exact .inr hfailed
  · rcases Statement.deltaStatement_holds hdb (hthere .gauge (by simp))
        (hthere .counter (by simp)) hx.rows with ⟨c', db'', hadd, hdone, hbecomes⟩ | ⟨e, cause, -, hfail⟩
    · rw [hfull] at hdone
      obtain rfl : db' = db'' := (Prod.mk.inj hdone).2
      exact .inl ⟨c', hresult, hadd, hkeeps _ _ hbecomes⟩
    · rw [hfull] at hfail
      exact absurd (Prod.mk.inj hfail).1 (by simp)

/-- A gauge is written or left. -/
theorem writeGauge (h : s.Shows g c) (key : String) (x : Binary64) :
    (∃ e, (s.writeGauge key x).1 = .error e ∧ (s.writeGauge key x).2.Shows g c) ∨
      x.isFinite = true ∧ (s.writeGauge key x).1 = .ok () ∧
        (s.writeGauge key x).2.Shows (g.set key x.unsignedZero) c := by
  unfold SqlStore.writeGauge
  cases hcheck : checkGauge x with
  | error e => exact .inl ⟨e, rfl, h⟩
  | ok y =>
    obtain ⟨hx, rfl⟩ := (checkGauge_eq_ok_iff x y).1 hcheck
    rcases h.write [.gauge] (upsert_error key y) (Statement.upsert_candid key y) with
      hfailed | ⟨u, db, db', hresult, hdb, hthere, hfull, hkeeps⟩
    · exact .inl hfailed
    · obtain ⟨db'', hupsert, hbecomes⟩ := Statement.upsert_holds hdb (hthere .gauge (by simp)) hx key
      rw [hfull] at hupsert
      obtain rfl : db' = db'' := (Prod.mk.inj hupsert).2
      exact .inr ⟨hx, hresult, hkeeps _ _ hbecomes⟩

/-- A counter grows by the delta, and its new total is told, or it is left. -/
theorem addCounter (h : s.Shows g c) (key : String) (delta : Int64) :
    (∃ e, (s.addCounter key delta).1 = .error e ∧ (s.addCounter key delta).2.Shows g c) ∨
      ∃ total c', (s.addCounter key delta).1 = .ok total ∧ c.add key delta = .ok (total, c') ∧
        (s.addCounter key delta).2.Shows g c' := by
  unfold SqlStore.addCounter
  rcases h.write [.counter] (accumulate_error key delta) (Statement.accumulate_candid key delta)
    with hfailed | ⟨total, db, db', hresult, hdb, hthere, hfull, hkeeps⟩
  · exact .inl hfailed
  · rcases Statement.accumulate_holds hdb (hthere .counter (by simp)) key delta with
      ⟨total', db'', htotal, hrun, hbecomes⟩ | ⟨refusal, cause, -, hrun⟩
    · rw [hfull] at hrun
      obtain ⟨hsame, rfl⟩ := Prod.mk.inj hrun
      obtain rfl : total = total' := Except.ok.inj hsame
      refine .inr ⟨total, _, hresult, ?_, hkeeps _ _ hbecomes⟩
      rw [Table.add, htotal]
    · rw [hfull] at hrun
      exact absurd (Prod.mk.inj hrun).1 (by simp)

/-- **Folded updates that were written with success were applied in full.** -/
theorem writeDelta_ok (h : s.Shows g c) (hx : d.Finite) (hok : s.writeDelta d = (.ok (), s')) :
    ∃ c', c.addAll d.counters = .ok c' ∧
      s'.Shows (g.setRows (Relation.storedRows d.gauges.toList)) c' := by
  by_cases hempty : d.isEmpty = true
  · rw [writeDelta_empty d s hempty] at hok
    obtain ⟨-, rfl⟩ := Prod.mk.inj hok
    obtain ⟨hgauges, hcounters⟩ := apply_nothing hempty g c
    refine ⟨c, hcounters, ?_⟩
    rw [hgauges]
    exact h
  · rw [writeDelta_eq hx (by simpa using hempty)] at hok
    rcases h.transaction hx with ⟨c', -, hadd, hshows⟩ | ⟨e, hfail, -⟩
    · rw [hok] at hshows
      exact ⟨c', hadd, hshows⟩
    · rw [hok] at hfail
      exact absurd hfail (by simp)

/-- **Folded updates that were not written leave the tables.** -/
theorem writeDelta_error {e : StoreError} (h : s.Shows g c) (hx : d.Finite)
    (he : s.writeDelta d = (.error e, s')) : s'.Shows g c := by
  by_cases hempty : d.isEmpty = true
  · rw [writeDelta_empty d s hempty] at he
    exact absurd (Prod.mk.inj he).1 (by simp)
  · rw [writeDelta_eq hx (by simpa using hempty)] at he
    rcases h.transaction hx with ⟨c', hok, -, -⟩ | ⟨e', -, hshows⟩
    · rw [he] at hok
      exact absurd hok (by simp)
    · rw [he] at hshows
      exact hshows

/-- A batch is refused and leaves the tables, or what it folds to is
applied in full. -/
theorem writeBatch (h : s.Shows g c) (b : Batch) :
    (∃ e, (s.writeBatch b).1 = .error e ∧ (s.writeBatch b).2.Shows g c) ∨
      ∃ us d c', b.validate = .ok us ∧ Delta.ofUpdates us = .ok d ∧
        (s.writeBatch b).1 = .ok () ∧ c.addAll d.counters = .ok c' ∧
          (s.writeBatch b).2.Shows (g.setRows (Relation.storedRows d.gauges.toList)) c' := by
  unfold SqlStore.writeBatch
  cases hb : b.validate with
  | error e => exact .inl ⟨e, rfl, h⟩
  | ok us =>
    simp only
    cases hd : Delta.ofUpdates us with
    | error e => exact .inl ⟨e, rfl, h⟩
    | ok d =>
      simp only
      have hx : d.Finite := Delta.ofUpdates_finite (Batch.finite_of_validateFrom hb) hd
      cases hr : s.writeDelta d with
      | mk answer s' =>
        cases answer with
        | error e => exact .inl ⟨e, rfl, h.writeDelta_error hx hr⟩
        | ok u =>
          obtain ⟨c', hadd, hshows⟩ := h.writeDelta_ok hx hr
          exact .inr ⟨us, d, c', rfl, hd, rfl, hadd, hshows⟩

/-- Reading leaves the tables. -/
theorem readCounters (h : s.Shows g c) (keys : List String) :
    (s.readCounters keys).2.Shows g c := by
  have hread : (s.read .counter fun access => Statement.selectCounters access keys).2.Shows g c := by
    refine read_keeps (P := fun s' => s'.Shows g c) h ?_ ?_
    · exact fun s' hs => Session.Shows.ensure hs .counter
    · exact fun s' hs => Session.Shows.reading hs .counter Relation.readCounter keys
  exact demand_keeps (P := fun s' => s'.Shows g c) hread

/-- Closing leaves the tables. -/
theorem close (h : s.Shows g c) : s.close.2.Shows g c := by
  have hwriter : s.session.connection.close.2.writer = s.session.connection.writer := by
    unfold Connection.close
    split <;> rfl
  have hshown : s.close.2.session.shown = s.session.shown := by
    show s.session.connection.close.2.writer.view s.session.database = _
    rw [hwriter]
    rfl
  exact ⟨by rw [hshown]; exact h.guard, by rw [hshown]; exact h.tables⟩

end Shows

end Meterbank.SqlStore
