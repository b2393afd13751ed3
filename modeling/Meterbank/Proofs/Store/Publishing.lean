/-
  Meterbank.Proofs.Store.Publishing — what a store does to a database is on the disk.

  A store over a database that is housed on a disk looks at the disk
  before each of its operations, and hands over to it afterwards.  It
  finds the database as it was left, its connections work, and what it
  made of the database is what the disk houses then.  That needs one thing
  of an operation: if it changes the database, it does so by the connection
  that writes.

  Main results:
    * `traced_lasting` — no operation changes the database in another way.
    * `Connected.refresh`, `Connected.attach` — a store that looks at the
      disk works.
    * `Connected.publish` — what it wrote becomes the database.
-/
import Meterbank.Proofs.Disk.Opening
import Meterbank.Proofs.Store.Agreement
import Meterbank.Store.Backend

namespace Meterbank

open Meterbank.Sql

/-! ## Databases that are seen by all connections -/

namespace SqlStore

/-- All connections see the database that is written.  It was `db`, and if it is not any more the
connection that writes has been used. -/
structure Traced (db : Database) (s : SqlStore) : Prop where
  writes : s.session.connection.writer.access = .readWrite
  writer : s.session.connection.writer.own = none
  readers : ∀ l ∈ s.session.connection.readers, l.own = none
  changed : s.session.connection.writer.used = true ∨ s.session.database = db

theorem Keeps.traced {s : SqlStore} {g : Table Binary64} {c : Table Int64} (h : s.Keeps g c) :
    s.Traced s.session.database where
  writes := h.faithful.writes
  writer := h.faithful.writer
  readers l hl := (h.faithful.readers l hl).2
  changed := .inr rfl

variable {s : SqlStore} {db : Database}

theorem Traced.onWriter {α : Type} (work : Work α) (h : s.Traced db) :
    (s.through (Session.onWriter work)).2.Traced db := by
  simp only [through, Session.onWriter, Connection.onWriter]
  split
  · exact h
  · -- It does not matter what the work has done, as the connection has been used.
    obtain ⟨answer, hlink⟩ : ∃ answer : Except StoreError α,
        (s.session.connection.writer.run work (s.session.guard, s.session.database)).2.1 =
          s.session.connection.writer.after answer
            (s.session.connection.writer.run work (s.session.guard, s.session.database)).2.2.2 := by
      unfold Link.run
      rw [h.writer]
      exact ⟨_, rfl⟩
    obtain ⟨haccess, hown⟩ := s.session.connection.writer.after_access answer
      (s.session.connection.writer.run work (s.session.guard, s.session.database)).2.2.2
    refine ⟨?_, ?_, h.readers, .inl ?_⟩
    · simp only [hlink, haccess]
      exact h.writes
    · simp only [hlink, hown]
      exact h.writer
    · simp only [hlink, Link.after]
      split <;> rfl

theorem Traced.onReader {α : Type} (kind : Kind) (row : Row → Except SqlFault α)
    (keys : List String) (h : s.Traced db) :
    (s.through (Session.onReader
      (reading fun access => Statement.select access kind row keys))).2.Traced db := by
  cases hr : s.session.connection.readers[
      s.session.connection.turn % s.session.connection.readers.length]? with
  | none =>
    have hwriter := h.onWriter (reading fun access => Statement.select access kind row keys)
    simp only [through] at hwriter ⊢
    rw [Session.onReader_of_none _ hr]
    exact hwriter
  | some reader =>
    have hreader := h.readers reader (List.mem_of_getElem? hr)
    simp only [through, Session.onReader, Connection.onReader, hr]
    split
    · exact h
    · simp only [reader.run_reading]
      refine ⟨h.writes, h.writer, ?_, h.changed⟩
      intro l hl
      rcases List.mem_or_eq_of_mem_set hl with hmem | rfl
      · exact h.readers l hmem
      · unfold Link.run
        rw [hreader]
        exact (reader.after_access _ _).2.trans hreader

theorem traced_lasting (db : Database) : Lasting (Traced db) where
  onWriter work h := h.onWriter work
  onReader kind row keys h := h.onReader kind row keys
  knock h := by
    simp only [through, Session.knock, Connection.knock]
    split <;> exact ⟨h.writes, h.writer, h.readers, h.changed⟩
  close h := by
    simp only [SqlStore.close, through, Session.close, Connection.close]
    split <;> exact ⟨h.writes, h.writer, h.readers, h.changed⟩

end SqlStore

/-! ## Looking at the disk -/

namespace Disk

variable {d d' : Disk} {n g : Nat} {place : Place} {k : Keeping} {db : Database} {gates : Gates}
  {writes : Bool}

theorem Gate.access_fault? (gate : Gate) : gate.access.fault? = none := by
  unfold Gate.access
  split <;> rfl

/-- What is seen through a gate to a database that is housed is the database. -/
theorem Houses.view (h : d.Houses n place k) (hg : d.Admits n g writes) :
    d.view g = (d.volume n).current := by
  obtain ⟨-, hvolume, -⟩ := hg.gate
  unfold Disk.view
  rw [(h.sturdy hg).keeping, hvolume]
  rcases h.keeping with rfl | rfl <;> rfl

/-- Another connection to the database may read, and sees what is written. -/
theorem Houses.linkAt (h : d.Houses n place k) {writer : Nat} (hw : d.Admits n writer true)
    (hg : d.Admits n g writes) (link : Link) :
    (d.linkAt writer (g, link)).access.fault? = none ∧ (d.linkAt writer (g, link)).own = none := by
  constructor
  · show (d.enter g).1.fault? = none
    rw [(h.enter hg).1]
    exact Gate.access_fault? _
  · obtain ⟨-, hfollows, -⟩ := h.enter hg
    have hw' := hfollows.admits hw
    have hg' := hfollows.admits hg
    unfold Disk.linkAt
    simp only [(hfollows.houses.sturdy hw').keeping, (hfollows.houses.sturdy hg').keeping,
      hw'.gate.2.1, hg'.gate.2.1]
    rcases h.keeping with rfl | rfl <;> simp

/-- **A session that looks at the disk works**, and finds the database as it was left. -/
theorem Connected.refresh {s : Session} (h : Connected n place k gates d db)
    (hs : s.connection.closed = false) :
    (d.refresh gates s).connection.Faithful ∧ (d.refresh gates s).database = db := by
  obtain ⟨haccess, hfollows, -⟩ := h.houses.enter h.admits.writer
  refine ⟨⟨hs, ?_, rfl, ?_⟩, ?_⟩
  · show (d.enter gates.writer).1 = .readWrite
    rw [haccess, Gate.access, if_pos (h.admits.writer.gate.2.2 rfl)]
  · intro l hl
    obtain ⟨⟨g, link⟩, hmem, rfl⟩ := List.mem_map.1 hl
    exact h.houses.linkAt h.admits.writer (h.admits.readers g (List.of_mem_zip hmem).1) link
  · show (d.enter gates.writer).2.view gates.writer = db
    rw [hfollows.houses.view (hfollows.admits h.admits.writer), hfollows.current, h.current]

/-- A store that looks at the disk keeps its tables. -/
theorem Connected.attach {s : SqlStore} {gauges : Table Binary64} {counters : Table Int64}
    (h : Connected n place k gates d s.session.database) (hs : s.Keeps gauges counters) :
    (Backend.attach gates s d).Keeps gauges counters ∧
      (Backend.attach gates s d).session.database = s.session.database := by
  obtain ⟨hfaithful, hdatabase⟩ := h.refresh hs.faithful.serving
  refine ⟨⟨hfaithful, ?_, ?_⟩, hdatabase⟩
  · show (Backend.attach gates s d).session.guard.Truthful (d.refresh gates s.session).database
    rw [hdatabase]
    exact hs.guard
  · show (d.refresh gates s.session).database.Holds gauges counters
    rw [hdatabase]
    exact hs.tables

/-- A store over a database that was opened keeps the tables that are there. -/
theorem Connected.session {gauges : Table Binary64} {counters : Table Int64}
    (h : Connected n place k gates d db) (connection : Connection)
    (hc : connection.closed = false) (hdb : db.Holds gauges counters) :
    (SqlStore.create (d.session (connection, gates))).Keeps gauges counters ∧
      (d.session (connection, gates)).database = db := by
  obtain ⟨hfaithful, hdatabase⟩ := h.refresh (s := .start connection .empty) hc
  refine ⟨⟨⟨hfaithful.serving, hfaithful.writes, hfaithful.writer, hfaithful.readers⟩, ?_, ?_⟩,
    hdatabase⟩
  · intro kind hk
    cases kind <;> exact absurd hk (by
      simp [SqlStore.create, Disk.session, Disk.refresh, Session.start, Guard.fresh, Guard.isReady])
  · show (d.refresh gates (.start connection .empty)).database.Holds gauges counters
    rw [hdatabase]
    exact hdb

/-! ## Handing over to the disk -/

/-- A gate that has been entered has the log open, if there is one. -/
theorem Houses.entered (h : d.Houses n place k) (hg : d.Admits n g writes) (hbegun : d.Begun n k) :
    ((d.enter g).2.volume n).form = .logged → ((d.enter g).2.gate g).log = .opened := by
  obtain ⟨-, hfollows, log, hgates, hlog⟩ := h.enter hg
  intro hform
  rw [gate_of_set hg.gate.1 hgates]
  have hk : k = .logged := by
    rcases hfollows.houses.form with hblank | hiff
    · rw [hform] at hblank
      exact absurd hblank (by simp)
    · exact hiff.1 hform
  exact hlog (hbegun hk)

/-- Taking over what was done on a connection makes `db'` the database, if it is that already or
the connection has written. -/
theorem Connected.takeOver (h : Connected n place k gates d db) (hg : d.Admits n g writes)
    {link : Link} (hown : link.own = none) {db' : Database}
    (hchanged : link.used = true ∧ link.access.writes = true ∨ db = db') :
    Follows n place k d db' (Disk.takeOver db' d (g, link)) := by
  have hsame : ¬ (link.used = true ∧ link.access.writes = true) → (d.volume n).current = db' :=
    fun hnot => h.current.trans (hchanged.resolve_left hnot)
  by_cases hused : link.used = true
  · obtain ⟨-, hfollows, -⟩ := h.houses.enter hg
    unfold Disk.takeOver
    simp only [hused, Bool.not_true, Bool.false_eq_true, if_false]
    by_cases hwrites : link.access.writes = true
    · rw [if_pos hwrites, hown]
      exact hfollows.trans (hfollows.houses.store (hfollows.admits hg) (hfollows.begun h.begun)
        (h.houses.entered hg h.begun) db')
    · rw [if_neg hwrites, ← hsame fun hand => hwrites hand.2]
      exact hfollows
  · rw [takeOver_unused _ _ _ _ (Bool.eq_false_iff.2 hused), ← hsame fun hand => hused hand.1]
    exact h.houses.refl

/-- The connections that read have nothing to add. -/
theorem Connected.takeOverAll (h : Connected n place k gates d db) {links : List (Nat × Link)}
    (hlinks : ∀ p ∈ links, d.Admits n p.1 false ∧ p.2.own = none) :
    Follows n place k d db (links.foldl (Disk.takeOver db) d) := by
  induction links generalizing d with
  | nil => exact h.current ▸ h.houses.refl
  | cons p links ih =>
    obtain ⟨g, link⟩ := p
    rw [List.forall_mem_cons] at hlinks
    have hfirst := h.takeOver hlinks.1.1 hlinks.1.2 (.inr rfl)
    exact hfirst.trans (ih (h.follow hfirst) fun p hp =>
      ⟨hfirst.admits (hlinks.2 p hp).1, (hlinks.2 p hp).2⟩)

/-- **What a store made of the database is what the disk houses**, also if the store was closed. -/
theorem Connected.publish {s : SqlStore} (h : Connected n place k gates d db) (before : Session)
    (hs : s.Traced db) :
    Follows n place k d s.session.database (d.publish gates before s.session) := by
  have hwriter : Follows n place k d s.session.database
      (Disk.takeOver s.session.database d (gates.writer, s.session.connection.writer)) :=
    h.takeOver h.admits.writer hs.writer <|
      hs.changed.imp (fun hused => ⟨hused, by rw [hs.writes]; rfl⟩) Eq.symm
  have hlinks : ∀ p ∈ gates.readers.zip s.session.connection.readers,
      (Disk.takeOver s.session.database d (gates.writer, s.session.connection.writer)).Admits n p.1
        false ∧ p.2.own = none := fun p hp =>
    ⟨hwriter.admits (h.admits.readers p.1 (List.of_mem_zip hp).1),
      hs.readers p.2 (List.of_mem_zip hp).2⟩
  have hall := hwriter.trans ((h.follow hwriter).takeOverAll hlinks)
  unfold Disk.publish
  simp only [List.foldl_cons]
  split
  · have hcheckpoint := hall.houses.checkpoint (hall.admits h.admits.writer)
    rw [hall.current] at hcheckpoint
    exact hall.trans hcheckpoint
  · exact hall

end Disk

end Meterbank
