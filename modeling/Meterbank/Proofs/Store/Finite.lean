/-
  Meterbank.Proofs.Store.Finite — only finite gauges are stored.

  A value that is not finite cannot be written in a snapshot, and a
  database keeps it as no value at all.  The tables themselves check
  nothing; every way to them does.  A call that gives a gauge such a value
  is refused as invalid by every store, and changes nothing.  So in every
  state that a store comes to its gauges are finite, a dump has a number
  for each of them, and no statement misses a value.

  Main results:
    * `Store.Checks.refuses` — what is refused.
    * `SqlStore.Arrived.finite`, `CoalescedStore.Arrived.finite`,
      `Clients.run_finite` — what is stored.
    * `FileStore.Finite.no_null` — what is dumped.
    * `only_finite_stored` — all of it.
-/
import Meterbank.Proofs.Store.Clients
import Meterbank.Proofs.Store.Reordering
import Meterbank.Proofs.Store.Snapshots
import Meterbank.Proofs.Store.Upholding

namespace Meterbank

open Meterbank.Json Meterbank.Number Meterbank.Sql

/-! ## What is refused -/

/-- Whether a metric is a gauge with a value that is not finite. -/
def Metric.NotFinite (m : Metric) : Prop :=
  Kind.ofTag? m.tag = some .gauge ∧ ∃ x, m.value = some x ∧ x.isFinite = false

theorem Metric.NotFinite.validate {m : Metric} (h : m.NotFinite) :
    ∃ e, m.validate = .error e := by
  obtain ⟨htag, x, hvalue, hx⟩ := h
  unfold Metric.validate
  split
  · exact ⟨_, rfl⟩
  · simp only [htag, hvalue, checkGauge, hx, Bool.false_eq_true, if_false]
    exact ⟨_, rfl⟩

theorem Metric.NotFinite.validate_batch {b : Batch} {m : Metric} (h : m.NotFinite)
    (hm : m ∈ b.metrics) : ∃ e, b.validate = .error e := by
  obtain ⟨e, he⟩ := h.validate
  cases hb : b.validate with
  | error e' => exact ⟨e', rfl⟩
  | ok us =>
    -- An accepted batch has accepted every entry.
    have haccepted : ∀ m ∈ b.metrics, ∃ u, m.validate = .ok u :=
      ((List.forall₂_and_left _ _).1
        ((Batch.validate_iff.1 hb).imp fun m u hu => ⟨⟨u, hu⟩, hu⟩)).1
    obtain ⟨u, hu⟩ := haccepted m hm
    rw [he] at hu
    exact absurd hu (by simp)

namespace Store

variable {σ : Type} {S : Store σ}

/-- Calls that give a gauge a value that is not finite. -/
inductive Call.NotFinite : Call → Prop where
  | metric {m : Metric} (h : m.NotFinite) : NotFinite (.writeData m)
  | batch {b : Batch} {m : Metric} (hm : m ∈ b.metrics) (h : m.NotFinite) :
      NotFinite (.writeBatch b)
  | text {key raw : String} {x : Binary64} (hread : readFloat (Text.trim raw).toList = .ok x)
      (h : x.isFinite = false) : NotFinite (.writeGaugeText key raw)
  | value {key : String} {x : Binary64} (h : x.isFinite = false) : NotFinite (.writeGauge key x)

/-- Whether a store checks what it is given before anything else. -/
structure Checks (S : Store σ) : Prop where
  metric : ∀ {m e} (s), m.validate = .error e → S.writeData m s = (.error e, s)
  batch : ∀ {b e} (s), b.validate = .error e → S.writeBatch b s = (.error e, s)
  gauge : ∀ {x e} (key s), checkGauge x = .error e → S.writeGauge key x s = (.error e, s)

/-- **What is not finite is refused**, in every state, and changes nothing. -/
theorem Checks.refuses (hS : S.Checks) {call : Call} (h : call.NotFinite) (s : σ) :
    ∃ cause, S.perform call s = (.error (.validation cause), s) := by
  cases h with
  | @metric m h =>
    obtain ⟨e, he⟩ := h.validate
    obtain ⟨cause, rfl⟩ := Metric.validate_error he
    exact ⟨cause, congrArg (wrap _) (hS.metric s he)⟩
  | @batch b m hm h =>
    obtain ⟨e, he⟩ := h.validate_batch hm
    obtain ⟨cause, rfl⟩ := Batch.validate_error he
    exact ⟨cause, congrArg (wrap _) (hS.batch s he)⟩
  | @text key raw x hread h =>
    have hparse : parseGauge raw = .error (.validation (.notFinite x)) := by
      simp [parseGauge, hread, checkGauge, h]
    have hwrite : S.writeGaugeText key raw s = (.error (.validation (.notFinite x)), s) := by
      rw [writeGaugeText, hparse]
    exact ⟨_, congrArg (wrap _) hwrite⟩
  | @value key x h =>
    have hcheck : checkGauge x = .error (.validation (.notFinite x)) := by simp [checkGauge, h]
    exact ⟨_, congrArg (wrap _) (hS.gauge key s hcheck)⟩

end Store

theorem FileStore.checks : FileStore.operations.Checks where
  metric s hm := by simp [operations, writeData, hm]
  batch := writesFold.refused
  gauge key s hx := by simp [operations, Table.writeGauge, hx, Except.map, replace]

theorem SqlStore.checks : SqlStore.operations.Checks where
  metric s hm := by simp [operations, writeData, hm]
  batch := writesFold.refused
  gauge key s hx := by simp [operations, writeGauge, hx]

theorem CoalescedStore.checks : CoalescedStore.operations.Checks where
  metric s hm := by simp [operations, writeData, hm]
  batch := writesFold.refused
  gauge key s hx := by simp [operations, onSql, SqlStore.writeGauge, hx]

/-- **So are folded updates that are not finite**, by a database. -/
theorem SqlStore.writeDelta_refused {d : Delta} (h : ¬ d.Finite) (s : SqlStore) :
    ∃ cause, s.writeDelta d = (.error (.validation cause), s) := by
  have hsome : d.isEmpty = false := by
    rw [Bool.eq_false_iff]
    intro hempty
    refine h fun k x hx => ?_
    rw [((Delta.isEmpty_iff d).1 hempty k).1] at hx
    exact absurd hx (by simp)
  cases hcheck : checkGauges d.gauges.toList with
  | ok _ => exact absurd (finite_of_checkGauges hcheck) h
  | error e =>
    obtain ⟨row, -, -, rfl⟩ := checkGauges_error hcheck
    exact ⟨_, writeDelta_notFinite d s _ hsome hcheck⟩

/-! ## What is stored -/

/-- Whether no connection sees a gauge. -/
structure Sql.Session.Blank (s : Session) : Prop where
  database : s.database.rows .gauge = []
  own : ∀ l ∈ s.links, ∀ db, l.own = some db → db.rows .gauge = []

theorem Sql.Session.Blank.finite {s : Session} (h : s.Blank) : s.Finite := by
  have hblank : ∀ db : Database, db.rows .gauge = [] → db.Finite := by
    intro db hrows row hrow
    rw [hrows] at hrow
    exact absurd hrow (by simp)
  exact ⟨hblank _ h.database, fun l hl db hdb => hblank db (h.own l hl db hdb)⟩

namespace SqlStore

/-- The states of a store over a database that had no gauges, after any
calls and folded updates.  The connections may change between any two of
them, but not what they see. -/
inductive Arrived : SqlStore → Prop where
  | opened {session : Session} (h : session.Blank) : Arrived (create session)
  | called {s : SqlStore} (h : Arrived s) (call : Store.Call) : Arrived (operations.perform call s).2
  | wrote {s : SqlStore} (h : Arrived s) (d : Delta) : Arrived (s.writeDelta d).2
  | disturbed {s t : SqlStore} (h : Arrived s) (hdb : t.session.database = s.session.database)
      (hown : t.session.links.map Link.own = s.session.links.map Link.own) : Arrived t

/-- **Finite gauges are all that a database ever has.** -/
theorem Arrived.finite {s : SqlStore} (h : Arrived s) : s.session.Finite := by
  induction h with
  | opened h => exact h.finite
  | called _ call ih => exact finite_kept.call ih call
  | wrote _ d ih => exact finite_kept.delta ih d
  | @disturbed s t _ hdb hown ih =>
    refine ⟨hdb ▸ ih.database, fun l hl db hl' => ?_⟩
    have hmem : l.own ∈ s.session.links.map Link.own := hown ▸ List.mem_map_of_mem hl
    obtain ⟨l₀, hl₀, heq⟩ := List.mem_map.1 hmem
    exact ih.own l₀ hl₀ db (heq.trans hl')

end SqlStore

namespace CoalescedStore

/-- The states of a store behind a window with one client, in front of such
a store, to which others may do what they like in the meantime. -/
inductive Arrived : CoalescedStore → Prop where
  | created {sql : SqlStore} {interval : Nat} {s : CoalescedStore} (hsql : sql.Arrived)
      (hs : create sql interval = .ok s) : Arrived s
  | called {s : CoalescedStore} (h : Arrived s) (call : Store.Call) :
      Arrived (operations.perform call s).2
  | disturbed {s : CoalescedStore} (h : Arrived s) {sql : SqlStore} (hsql : sql.Arrived) :
      Arrived { s with sql }

variable {s : CoalescedStore}

theorem Arrived.reachable (h : Arrived s) : Reachable s := by
  induction h with
  | created _ hs => exact .created hs
  | called _ call ih => exact ih.called call
  | disturbed _ _ ih => exact ih.disturbed _

/-- **Finite gauges are all that comes through a window.** -/
theorem Arrived.finite (h : Arrived s) : s.sql.session.Finite := by
  induction h with
  | @created sql interval s hsql hs =>
    unfold create at hs
    split at hs
    · exact absurd hs (by simp)
    · rw [← Except.ok.inj hs]
      exact hsql.finite
  | called h call ih => exact perform_keeps SqlStore.finite_kept h.reachable.resting ih call
  | disturbed _ hsql _ => exact hsql.finite

end CoalescedStore

/-! ## Many clients -/

/-- Whether a database is closed has nothing to do with what it has. -/
theorem SqlStore.finite_withClosed {s : SqlStore} (h : s.session.Finite) (closed : Bool) :
    (s.withClosed closed).session.Finite :=
  ⟨h.database, h.own⟩

theorem SqlStore.finite_unchecked {α : Type} {op : SqlStore → Except StoreError α × SqlStore}
    (hop : ∀ {s : SqlStore}, s.session.Finite → (op s).2.session.Finite) {s : SqlStore}
    (h : s.session.Finite) : (s.unchecked op).2.session.Finite :=
  finite_withClosed (hop (finite_withClosed h false)) s.isClosed

/-- Whatever a database has been through, it has finite gauges if it had. -/
theorem Crowd.Written.finite {start sql : SqlStore} {ds : List Delta}
    (h : Crowd.Written start ds sql) (hs : start.session.Finite) : sql.session.Finite := by
  induction h with
  | start => exact hs
  | @window _ _ whole sql _ _ _ _ hw ih | @fail _ whole sql _ _ _ _ hw ih =>
    have hwrite : (sql.unchecked (·.writeDelta whole)).2.session.Finite :=
      SqlStore.finite_unchecked (fun h => SqlStore.finite_kept.delta h whole) ih
    rwa [hw] at hwrite
  | read _ keys ih =>
    exact SqlStore.finite_unchecked (fun h => SqlStore.finite_kept.call h (.readCounters keys)) ih
  | close _ ih => exact SqlStore.finite_kept.call ih .close

/-- **Finite gauges are all that many clients write**, in any interleaving. -/
theorem Clients.run_finite {sql : SqlStore} (h : sql.session.Finite) (events : List Clients.Event) :
    (run Clients.step (Clients.start sql) events).sql.session.Finite :=
  (Crowd.written_run Clients.lawful sql events).finite h

/-! ## What is dumped -/

/-- **A snapshot of finite gauges has no `null`**: each value that it has is
a text or a number. -/
theorem FileStore.Finite.no_null {s : FileStore} (h : s.Finite) :
    ∀ m ∈ s.snapshot.metrics, ∀ member ∈ m.members, member.2 ≠ ['n', 'u', 'l', 'l'] := by
  have hquote : ∀ text, quoteChars text ≠ ['n', 'u', 'l', 'l'] := by
    intro text hnull
    exact absurd (List.cons.inj hnull).1 (by decide)
  intro m hm
  rcases mem_snapshot.1 hm with ⟨k, x, hk, rfl⟩ | ⟨k, n, -, rfl⟩
  · rw [members_gauge]
    have hvalue := (startsNumber_floatChars (h k x hk)).ne_null
    simpa using ⟨hquote k, hquote "gauge", hvalue⟩
  · rw [members_counter]
    simpa using ⟨hquote k, hquote "counter", (startsNumber_integerDigits n.toInt).ne_null⟩

/-! ## All stores -/

/-- Whether a store refuses gauges that are not finite, and has none. -/
structure Store.OnlyFinite {σ : Type} (S : Store σ) (Arrived Finite : σ → Prop) : Prop where
  refuses : ∀ {call : Call}, call.NotFinite → ∀ s,
    ∃ cause, S.perform call s = (.error (.validation cause), s)
  finite : ∀ {s}, Arrived s → Finite s

/-- **Only finite gauges are stored**, by any store.

A call that gives a gauge a value that is not finite is refused as invalid
in every state, and so are folded updates with such a value.  In all states
that a store comes to, by calls that succeed or fail, its gauges are finite;
so they are while many clients write.  Whenever a store writes its file,
there is no `null` in it.  As long as no connection fails of its own as if
a value were missing, no call and no folded updates fail with that. -/
theorem only_finite_stored :
    (∀ path sync, FileStore.operations.OnlyFinite (FileStore.Reached path sync) fun p => p.1.Finite) ∧
    SqlStore.operations.OnlyFinite SqlStore.Arrived (fun s => s.session.Finite) ∧
    CoalescedStore.operations.OnlyFinite CoalescedStore.Arrived (fun s => s.sql.session.Finite) ∧
    (∀ d : Delta, ¬ d.Finite → ∀ s : SqlStore,
      ∃ cause, s.writeDelta d = (.error (.validation cause), s)) ∧
    (∀ sql : SqlStore, sql.Arrived → ∀ events,
      (run Clients.step (Clients.start sql) events).sql.session.Finite) ∧
    (∀ path sync p, FileStore.Reached path sync p → ∀ fs fs', p.1.dump fs = .ok fs' →
      fs'.read path = .ok (Text.bytes p.1.snapshot.pretty) ∧
        ∀ m ∈ p.1.snapshot.metrics, ∀ member ∈ m.members, member.2 ≠ ['n', 'u', 'l', 'l']) ∧
    (∀ s : SqlStore, s.session.Spares →
      (∀ call, Spared (SqlStore.operations.perform call s).1 ∧
        (SqlStore.operations.perform call s).2.session.Spares) ∧
      ∀ d, Spared (s.writeDelta d).1 ∧ (s.writeDelta d).2.session.Spares) ∧
    ∀ s : CoalescedStore, s.Arrived → s.sql.session.Spares →
      ∀ call, Spared (CoalescedStore.operations.perform call s).1 ∧
        (CoalescedStore.operations.perform call s).2.sql.session.Spares := by
  refine ⟨?_, ?_, ?_, ?_, ?_, ?_, ?_, ?_⟩
  · exact fun path sync => ⟨FileStore.checks.refuses, fun h => h.sound.finite⟩
  · exact ⟨SqlStore.checks.refuses, SqlStore.Arrived.finite⟩
  · exact ⟨CoalescedStore.checks.refuses, CoalescedStore.Arrived.finite⟩
  · exact fun d hd => SqlStore.writeDelta_refused hd
  · exact fun sql hsql events => Clients.run_finite hsql.finite events
  · intro path sync p hp fs fs' hdump
    have hread := FileStore.read_dump hdump
    rw [hp.sound.path] at hread
    exact ⟨hread, hp.sound.finite.no_null⟩
  · intro s hs
    refine ⟨fun call => ?_, fun d => ?_⟩
    · have hcall := s.perform_upholds call
      exact ⟨hcall.spared hs, hcall.spares hs⟩
    · have hwrite := s.writeDelta_upholds d
      exact ⟨hwrite.spared hs, hwrite.spares hs⟩
  · intro s h hs call
    have hcall := CoalescedStore.perform_upholds h.reachable.resting call
    exact ⟨hcall.spared hs, hcall.spares hs⟩

/-- A new database after one half was written to a gauge. -/
def halfWritten : SqlStore :=
  (SqlStore.operations.perform (.writeGauge "g" ⟨0x3FE0000000000000⟩) .inMemory).2

/-- What is no number is refused then, and one half is still there. -/
theorem half_kept_nan_refused :
    halfWritten.Arrived ∧ halfWritten.session.Spares ∧ halfWritten.session.Finite ∧
      halfWritten.session.database.rows .gauge = [⟨.text "g", .real ⟨0x3FE0000000000000⟩⟩] ∧
      ∃ cause, SqlStore.operations.perform (.writeGauge "g" ⟨0x7FF8000000000000⟩) halfWritten =
        (.error (.validation cause), halfWritten) := by
  obtain ⟨-, hsql, -, -, -, -, hspares, -⟩ := only_finite_stored
  have hblank : SqlStore.inMemory.session.Blank := ⟨rfl, by decide⟩
  have harrived : halfWritten.Arrived := (SqlStore.Arrived.opened hblank).called _
  have hnew : SqlStore.inMemory.session.Spares := by
    refine ⟨fun l hl => ?_, fun fault hf => ?_⟩
    · rw [List.mem_singleton.1 hl]
      trivial
    · exact absurd (show none = some fault from hf) (by simp)
  exact ⟨harrived, ((hspares _ hnew).1 _).2, hsql.finite harrived, by decide,
    hsql.refuses (.value (by decide)) halfWritten⟩

end Meterbank
