/-
  Meterbank.Proofs.Store.Keeping — stores whose database keeps tables.

  All connections of such a store see the database that is written, and
  nothing stands in the way of a statement.  What the guard remembers is
  true, and the database holds a table of gauges and one of counters.
  Every operation answers as the tables would, and leaves a store that
  keeps the tables as they are then.

  Main results:
    * `Keeps.writeDelta` — folded updates are applied as a whole or not.
    * `Keeps.addCounter`, `Keeps.writeGauge` — single writes.
    * `Keeps.readGauges`, `Keeps.readCounters` — reads.
-/
import Meterbank.Proofs.Sql.Applying
import Meterbank.Proofs.Store.Statements

namespace Meterbank.Sql

/-! ## Connections that work -/

/-- All connections see the database that is written, the one that writes
may do so, and the others may read. -/
structure Connection.Faithful (c : Connection) : Prop where
  serving : c.closed = false
  writes : c.writer.access = .readWrite
  writer : c.writer.own = none
  readers : ∀ l ∈ c.readers, l.access.fault? = none ∧ l.own = none

theorem Connection.inMemory_faithful : Connection.inMemory.Faithful :=
  ⟨rfl, rfl, rfl, fun l hl => absurd hl (by simp [inMemory])⟩

theorem Connection.toFile_faithful (file : String) (readers : Nat) :
    (Connection.toFile file readers).Faithful where
  serving := rfl
  writes := rfl
  writer := rfl
  readers l hl := by
    rw [List.eq_of_mem_replicate hl]
    exact ⟨rfl, rfl⟩

theorem Link.offer_fault? (l : Link) : l.offer.fault? = l.access.fault? := by
  unfold Link.offer
  cases l.access <;> rfl

namespace Session

variable {s : Session}

/-- Work on the connection that writes is done on the database. -/
theorem onWriter_faithful {α : Type} (h : s.connection.Faithful) (work : Work α) :
    ∃ connection, connection.Faithful ∧
      s.onWriter work =
        ((work .readWrite (s.guard, s.database)).1,
          ⟨connection, (work .readWrite (s.guard, s.database)).2.1,
            (work .readWrite (s.guard, s.database)).2.2⟩) := by
  have hoffer : s.connection.writer.offer = .readWrite := by
    unfold Link.offer
    rw [h.writes]
  refine ⟨{ s.connection with
      writer := s.connection.writer.after (work .readWrite (s.guard, s.database)).1
        (work .readWrite (s.guard, s.database)).2.2 }, ?_, ?_⟩
  · have hafter := s.connection.writer.after_access (work .readWrite (s.guard, s.database)).1
      (work .readWrite (s.guard, s.database)).2.2
    exact ⟨h.serving, hafter.1.trans h.writes, hafter.2.trans h.writer, h.readers⟩
  · simp only [onWriter, Connection.onWriter, Link.run, h.serving, h.writer, hoffer]
    rfl

/-- Work on a connection that reads is done on the database, too. -/
theorem onReader_faithful {α : Type} (h : s.connection.Faithful) (work : Work α) :
    ∃ access connection, access.fault? = none ∧ connection.Faithful ∧
      s.onReader work =
        ((work access (s.guard, s.database)).1,
          ⟨connection, (work access (s.guard, s.database)).2.1,
            (work access (s.guard, s.database)).2.2⟩) := by
  cases hr : s.connection.readers[s.connection.turn % s.connection.readers.length]? with
  | none =>
    obtain ⟨connection, hfaithful, hwork⟩ := onWriter_faithful h work
    exact ⟨.readWrite, connection, rfl, hfaithful, (onReader_of_none work hr).trans hwork⟩
  | some reader =>
    have hreader := h.readers reader (List.mem_of_getElem? hr)
    have hafter := reader.after_access (work reader.offer (s.guard, s.database)).1
      (work reader.offer (s.guard, s.database)).2.2
    refine ⟨reader.offer,
      { s.connection with
        readers := s.connection.readers.set (s.connection.turn % s.connection.readers.length)
          (reader.after (work reader.offer (s.guard, s.database)).1
            (work reader.offer (s.guard, s.database)).2.2)
        turn := s.connection.turn + 1 },
      (reader.offer_fault?).trans hreader.1, ?_, ?_⟩
    · refine ⟨h.serving, h.writes, h.writer, ?_⟩
      -- Only the reader that worked has changed, and not in what it may do.
      intro l hl
      rcases List.mem_or_eq_of_mem_set hl with hmem | heq
      · exact h.readers l hmem
      · rw [heq]
        exact ⟨by rw [hafter.1]; exact hreader.1, hafter.2.trans hreader.2⟩
    · simp only [onReader, Connection.onReader, hr, Link.run, h.serving, hreader.2]
      rfl

end Session

/-! ## Making sure of tables -/

/-- What the guard remembers is true. -/
def Guard.Truthful (guard : Guard) (db : Database) : Prop :=
  ∀ kind, guard.isReady kind = true → (db.table? kind).isSome = true

variable {db : Database} {g : Table Binary64} {c : Table Int64}

/-- A table that is created where there was none is empty, so the database
holds what it held. -/
theorem Statement.declare_holds (h : db.Holds g c) (access : Access) (kind : Kind) :
    db.Becomes (declare access kind none db).2 g c ∧
      ((declare access kind none db).1 = .ok () →
        ((declare access kind none db).2.table? kind).isSome = true) ∧
      (access = .readWrite → (declare access kind none db).1 = .ok ()) := by
  have hcreated : db.table? kind = none → db.Becomes (db.withTable kind .empty) g c := by
    intro hnone
    have hempty : db.relation kind = .empty := by rw [Database.relation, hnone]; rfl
    cases kind with
    | gauge => exact h.withGauges (by rw [← hempty]; exact h.gauges)
    | counter => exact h.withCounters (by rw [← hempty]; exact h.counters)
  unfold declare
  cases hfault : access.fault? with
  | some fault =>
    refine ⟨h.refl, fun hok => absurd hok (by simp), ?_⟩
    rintro rfl
    exact absurd hfault (by simp [Access.fault?])
  | none =>
    cases hr : db.table? kind with
    | some r => cases access <;> simp [hr, h.refl]
    | none =>
      have hbecomes := hcreated hr
      cases access <;> simp [h.refl, Database.table?_withTable] <;> exact hbecomes

/-- Making sure of a table changes nothing else, and makes it be there if it
succeeds, as it does on a connection that may write. -/
theorem Guard.ensure_holds {guard : Guard} (ht : guard.Truthful db) (h : db.Holds g c)
    (access : Access) (kind : Kind) :
    ∃ answer guard' db', Guard.ensure access kind (guard, db) = (answer, guard', db') ∧
      guard'.Truthful db' ∧ db.Becomes db' g c ∧
        (answer = .ok () → (db'.table? kind).isSome = true) ∧
          (access = .readWrite → answer = .ok ()) := by
  unfold Guard.ensure
  by_cases hready : guard.isReady kind = true
  · exact ⟨.ok (), guard, db, by rw [if_pos hready], ht, h.refl, fun _ => ht kind hready,
      fun _ => rfl⟩
  · rw [if_neg hready]
    -- The guard remembers one table more, and that one is there.
    have hmark : ∀ db', db.Becomes db' g c → (db'.table? kind).isSome = true →
        (guard.mark kind).Truthful db' := by
      intro db' hdb' hkind k hk
      by_cases heq : k = kind
      · rw [heq]
        exact hkind
      · refine hdb'.keeps k (ht k ?_)
        cases k <;> cases kind <;> first | exact absurd rfl heq | exact hk
    obtain ⟨hbecomes, hsome, hfree⟩ := Statement.declare_holds h access kind
    cases hd : Statement.create access kind db with
    | mk answer db' =>
      rw [show Statement.declare access kind none db = _ from hd] at hbecomes hsome hfree
      cases answer with
      | error e =>
        refine ⟨.error e, guard, db', rfl, fun k hk => hbecomes.keeps k (ht k hk), hbecomes,
          fun he => absurd he (by simp), fun hrw => ?_⟩
        exact absurd (hfree hrw) (by simp)
      | ok u =>
        exact ⟨.ok (), guard.mark kind, db', rfl, hmark db' hbecomes (hsome rfl), hbecomes,
          fun _ => hsome rfl, fun _ => rfl⟩

/-- Making sure of many tables. -/
theorem ensureAll_holds {guard : Guard} (ht : guard.Truthful db) (h : db.Holds g c)
    (access : Access) (kinds : List Kind) :
    ∃ answer guard' db', SqlStore.ensureAll access kinds (guard, db) = (answer, guard', db') ∧
      guard'.Truthful db' ∧ db.Becomes db' g c ∧
        (∀ later, answer = .ok later → ∀ kind ∈ kinds, (db'.table? kind).isSome = true) ∧
          (access = .readWrite → answer = .ok .readWrite) := by
  induction kinds generalizing access guard db with
  | nil =>
    refine ⟨.ok access, guard, db, rfl, ht, h.refl, fun _ _ kind hk => absurd hk (by simp), ?_⟩
    rintro rfl
    rfl
  | cons kind kinds ih =>
    obtain ⟨answer, guard₁, db₁, hensure, ht₁, hfirst, hkind, hfree⟩ :=
      Guard.ensure_holds ht h access kind
    unfold SqlStore.ensureAll
    rw [hensure]
    cases answer with
    | error e =>
      exact ⟨.error e, guard₁, db₁, rfl, ht₁, hfirst, fun _ he => absurd he (by simp),
        fun hrw => absurd (hfree hrw) (by simp)⟩
    | ok u =>
      obtain ⟨answer, guard₂, db₂, hall, ht₂, hrest, hkinds, hlater⟩ :=
        ih ht₁ hfirst.holds (if guard.isReady kind then access else access.later 1)
      refine ⟨answer, guard₂, db₂, hall, ht₂, hfirst.trans hrest, ?_, ?_⟩
      · intro later hok k hk
        rcases List.mem_cons.1 hk with rfl | hk
        · exact hrest.keeps k (hkind rfl)
        · exact hkinds later hok k hk
      · rintro rfl
        exact hlater (by simp [Access.later])

end Meterbank.Sql

namespace Meterbank.SqlStore

open Meterbank.Sql

/-! ## Stores that keep tables -/

/-- A store whose connections work and whose database holds tables. -/
structure Keeps (s : SqlStore) (g : Table Binary64) (c : Table Int64) : Prop where
  faithful : s.session.connection.Faithful
  guard : s.session.guard.Truthful s.session.database
  tables : s.session.database.Holds g c

/-- A store over a new database keeps empty tables. -/
theorem create_keeps {connection : Connection} (h : connection.Faithful) :
    (create (.start connection .empty)).Keeps ∅ ∅ where
  faithful := h
  guard kind hk := by
    cases kind <;> exact absurd hk (by simp [create, Session.start, Guard.fresh, Guard.isReady])
  tables := Database.holds_empty

variable {s : SqlStore} {g : Table Binary64} {c : Table Int64}

/-- A statement that writes is run on a database that holds the tables, and
what it makes of them is kept. -/
theorem Keeps.write {α : Type} (h : s.Keeps g c) (kinds : List Kind)
    (statement : Access → Statement α) :
    ∃ db, db.Holds g c ∧ (∀ kind ∈ kinds, (db.table? kind).isSome = true) ∧
      (s.write kinds statement).1 = (statement .readWrite db).1 ∧
      ∀ g' c', db.Becomes (statement .readWrite db).2 g' c' →
        (s.write kinds statement).2.Keeps g' c' := by
  obtain ⟨answer, guard, db, hall, ht, hbecomes, hkinds, hfree⟩ :=
    ensureAll_holds h.guard h.tables .readWrite kinds
  rw [hfree rfl] at hall hkinds
  obtain ⟨connection, hfaithful, hwork⟩ :=
    Session.onWriter_faithful h.faithful (writing kinds statement)
  have hwriting : writing kinds statement .readWrite (s.session.guard, s.session.database) =
      ((statement .readWrite db).1, guard, (statement .readWrite db).2) := by
    simp only [writing, hall]
  have hwrite : s.write kinds statement =
      ((statement .readWrite db).1,
        { s with session := ⟨connection, guard, (statement .readWrite db).2⟩ }) := by
    simp only [SqlStore.write, through, hwork, hwriting]
  rw [hwrite]
  refine ⟨db, hbecomes.holds, hkinds _ rfl, rfl, fun g' c' hdb => ?_⟩
  exact ⟨hfaithful, fun kind hk => hdb.keeps kind (ht kind hk), hdb.holds⟩

/-- **A finite gauge is written.** -/
theorem Keeps.writeGauge (h : s.Keeps g c) (key : String) {x : Binary64}
    (hx : x.isFinite = true) :
    ∃ s', s.writeGauge key x = (.ok (), s') ∧ s'.Keeps (g.set key x.unsignedZero) c := by
  obtain ⟨db, hdb, hkinds, hanswer, hkeeps⟩ :=
    h.write [.gauge] fun access => Statement.upsert access key x
  obtain ⟨db', hupsert, hbecomes⟩ := Statement.upsert_holds hdb (hkinds .gauge (by simp)) hx key
  rw [hupsert] at hanswer hkeeps
  have hcheck : checkGauge x = .ok x := (checkGauge_eq_ok_iff x x).2 ⟨hx, rfl⟩
  refine ⟨_, ?_, hkeeps _ _ hbecomes⟩
  unfold SqlStore.writeGauge
  rw [hcheck]
  exact Prod.ext hanswer rfl

/-- **A counter grows**, or its total would leave the range. -/
theorem Keeps.addCounter (h : s.Keeps g c) (key : String) (delta : Int64) :
    (∃ total s', checkedTotal key (c.total key) delta = .ok total ∧
      s.addCounter key delta = (.ok total, s') ∧ s'.Keeps g (c.set key total)) ∨
    ∃ refusal cause s', checkedTotal key (c.total key) delta = .error (.validation refusal) ∧
      s.addCounter key delta = (.error (.validation cause), s') ∧ s'.Keeps g c := by
  obtain ⟨db, hdb, hkinds, hanswer, hkeeps⟩ :=
    h.write [.counter] fun access => Statement.accumulate access key delta
  rcases Statement.accumulate_holds hdb (hkinds .counter (by simp)) key delta with
    ⟨total, db', htotal, hrun, hbecomes⟩ | ⟨refusal, cause, htotal, hrun⟩
  · rw [hrun] at hanswer hkeeps
    exact .inl ⟨total, _, htotal, Prod.ext hanswer rfl, hkeeps _ _ hbecomes⟩
  · rw [hrun] at hanswer hkeeps
    exact .inr ⟨refusal, cause, _, htotal, Prod.ext hanswer rfl, hkeeps _ _ hdb.refl⟩

/-- An empty delta leaves the tables that it is applied to. -/
theorem apply_nothing {d : Delta} (h : d.isEmpty = true) (g : Table Binary64) (c : Table Int64) :
    g.setRows (Relation.storedRows d.gauges.toList) = g ∧ c.addAll d.counters = .ok c := by
  unfold Delta.isEmpty at h
  rw [Bool.and_eq_true] at h
  constructor
  · rw [Table.toList_of_isEmpty h.1]
    rfl
  · rw [Table.addAll, Table.toList_of_isEmpty h.2]
    rfl

/-- **Folded updates are applied**, or some total would leave the range and
nothing happens. -/
theorem Keeps.writeDelta (h : s.Keeps g c) {d : Delta}
    (hx : ∀ row ∈ d.gauges.toList, row.2.isFinite = true) :
    (∃ c' s', c.addAll d.counters = .ok c' ∧ s.writeDelta d = (.ok (), s') ∧
      s'.Keeps (g.setRows (Relation.storedRows d.gauges.toList)) c') ∨
    ∃ e cause s', c.addAll d.counters = .error e ∧
      s.writeDelta d = (.error (.validation cause), s') ∧ s'.Keeps g c := by
  by_cases hempty : d.isEmpty = true
  · obtain ⟨hgauges, hcounters⟩ := apply_nothing hempty g c
    refine .inl ⟨c, s, hcounters, writeDelta_empty d s hempty, ?_⟩
    rw [hgauges]
    exact h
  · obtain ⟨db, hdb, hkinds, hanswer, hkeeps⟩ := h.write [.gauge, .counter] (deltaStatement d)
    have hwrite : s.writeDelta d = s.write [.gauge, .counter] (deltaStatement d) := by
      unfold SqlStore.writeDelta
      rw [if_neg hempty, (checkGauges_eq_ok_iff _).2 hx]
    rw [hwrite]
    rcases Statement.deltaStatement_holds hdb (hkinds .gauge (by simp))
        (hkinds .counter (by simp)) hx with
      ⟨c', db', hadd, hrun, hbecomes⟩ | ⟨e, cause, hadd, hrun⟩
    · rw [hrun] at hanswer hkeeps
      exact .inl ⟨c', _, hadd, Prod.ext hanswer rfl, hkeeps _ _ hbecomes⟩
    · rw [hrun] at hanswer hkeeps
      exact .inr ⟨e, cause, _, hadd, Prod.ext hanswer rfl, hkeeps _ _ hdb.refl⟩

/-! ## Reading -/

/-- A table that is to be read is there. -/
theorem Keeps.prepareRead (h : s.Keeps g c) (kind : Kind) :
    ∃ s', s.prepareRead kind = (.ok (), s') ∧ s'.Keeps g c ∧
      (s'.session.database.table? kind).isSome = true := by
  unfold SqlStore.prepareRead
  by_cases hready : s.session.guard.isReady kind = true
  · exact ⟨s, by rw [if_pos hready], h, h.guard kind hready⟩
  · rw [if_neg hready]
    obtain ⟨answer, guard, db, hensure, ht, hbecomes, hkind, hfree⟩ :=
      Guard.ensure_holds h.guard h.tables .readWrite kind
    rw [hfree rfl] at hensure hkind
    obtain ⟨connection, hfaithful, hwork⟩ :=
      Session.onWriter_faithful h.faithful fun access => Guard.ensure access kind
    rw [hensure] at hwork
    refine ⟨{ s with session := ⟨connection, guard, db⟩ }, ?_,
      ⟨hfaithful, ht, hbecomes.holds⟩, hkind rfl⟩
    simp only [through, hwork]

/-- **Reading answers as the table would.** -/
theorem Keeps.read {α : Type} {cell : α → Cell} {row : Row → Except SqlFault α} {t : Table α}
    {kind : Kind} (h : s.Keeps g c)
    (hread : Relation.Reads cell row)
    (ht : ∀ db : Database, db.Holds g c → Relation.Holds cell (db.relation kind) t)
    (keys : List String) :
    ∃ s', demand kind keys (s.read kind fun access => Statement.select access kind row keys) =
        (Table.select kind t keys, s') ∧ s'.Keeps g c := by
  -- The table is made sure of on one connection, and read on another.
  obtain ⟨s₁, hprepare, hkeeps, hsome⟩ := h.prepareRead kind
  obtain ⟨access, connection, ha, hfaithful, hwork⟩ := Session.onReader_faithful hkeeps.faithful
    (reading fun access => Statement.select access kind row keys)
  have hselect := Statement.select_holds (ht _ hkeeps.tables) hsome hread ha keys
  refine ⟨{ s₁ with session := ⟨connection, s₁.session.guard, s₁.session.database⟩ }, ?_,
    ⟨hfaithful, hkeeps.guard, hkeeps.tables⟩⟩
  simp only [reading, hselect] at hwork
  simp only [SqlStore.read, hprepare, through, hwork, demand, Table.select]
  cases keys with
  | nil => rfl
  | cons key keys =>
    simp only [List.isEmpty_cons, Bool.false_eq_true, if_false]
    cases Table.ensurePresent kind (key :: keys) (t.restrict (key :: keys)) <;> rfl

theorem Keeps.readGauges (h : s.Keeps g c) (keys : List String) :
    ∃ s', s.readGauges keys = (Table.select .gauge g keys, s') ∧ s'.Keeps g c :=
  h.read Relation.readGauge_reads (fun _ hdb => hdb.gauges) keys

theorem Keeps.readCounters (h : s.Keeps g c) (keys : List String) :
    ∃ s', s.readCounters keys = (Table.select .counter c keys, s') ∧ s'.Keeps g c :=
  h.read Relation.readCounter_reads (fun _ hdb => hdb.counters) keys

end Meterbank.SqlStore
