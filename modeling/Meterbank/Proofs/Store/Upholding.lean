/-
  Meterbank.Proofs.Store.Upholding — a store upholds its database.

  Whatever a store over a database is asked for, it leaves the gauges that
  the connections see finite if they were, and it is never told that a
  value is missing, if the connections do not fail of their own with that.
  So does a store behind a window, in front of such a store.

  Main results:
    * `Store.perform_upholds` — from the operations to all calls.
    * `SqlStore.writeDelta_upholds`, `SqlStore.perform_upholds` — a store
      over a database.
    * `CoalescedStore.perform_upholds` — a store behind a window.
-/
import Meterbank.Proofs.Sql.Finite
import Meterbank.Proofs.Store.Coalescing

namespace Meterbank

open Meterbank.Sql

/-! ## Answers -/

theorem spared_notFound {α : Type} (kind : Kind) (key : String) :
    Spared (.error (.notFound kind key) : Except StoreError α) := fun _ _ => by simp

namespace Sql.Session.Upholds

variable {α β : Type} {s s' : Session} {answer : Except StoreError α}

/-- The answer may become another one. -/
theorem answered (h : s.Upholds (answer, s')) {answer' : Except StoreError β}
    (ha : Spared answer → Spared answer') : s.Upholds (answer', s') where
  finite := h.finite
  spares := h.spares
  spared hs := ha (h.spared hs)

theorem recast {e : StoreError} (h : s.Upholds ((.error e : Except StoreError α), s')) :
    s.Upholds ((.error e : Except StoreError β), s') :=
  h.answered Spared.recast

theorem map {p : Except StoreError α × Session} (h : s.Upholds p) (f : α → β) :
    s.Upholds (p.1.map f, p.2) :=
  h.answered fun ha => ha.map f

end Sql.Session.Upholds

/-! ## Calls of a store that works on a session -/

namespace Store

variable {σ α : Type} {view : σ → Session} {S : Store σ} {s : σ}

/-- Whether work of a store upholds the session that it is done on. -/
def Upholds (view : σ → Session) (s : σ) (p : Except StoreError α × σ) : Prop :=
  (view s).Upholds (p.1, view p.2)

theorem Upholds.wrap {p : Except StoreError α × σ} (h : Upholds view s p) (f : α → Payload) :
    Upholds view s (wrap f p) :=
  Session.Upholds.map h f

theorem pick_upholds {p : Except StoreError (Table α) × σ} (h : Upholds view s p) (kind : Kind)
    (metric : String → α → Metric) (id : String) : Upholds view s (pick kind metric id p) := by
  obtain ⟨answer, s'⟩ := p
  cases answer with
  | error e => exact h.recast
  | ok found =>
    simp only [pick]
    cases found.get? id with
    | some x => exact h.answered fun _ => spared_ok _
    | none => exact h.answered fun _ => spared_notFound _ _

theorem readData_upholds (hgauges : ∀ keys, Upholds view s (S.readGauges keys s))
    (hcounters : ∀ keys, Upholds view s (S.readCounters keys s)) (query : Metric) :
    Upholds view s (S.readData query s) := by
  unfold readData
  split
  · next e he =>
    refine .refl fun table column heq => ?_
    -- Only a tag that names no kind is refused here.
    unfold Kind.parse at he
    split at he
    · exact absurd he (by simp)
    · rw [← Except.error.inj he] at heq
      exact absurd heq (by simp)
  · exact pick_upholds (hgauges [query.id]) .gauge .gauge query.id
  · exact pick_upholds (hcounters [query.id]) .counter .counter query.id

theorem writeGaugeText_upholds (hgauge : ∀ key x, Upholds view s (S.writeGauge key x s))
    (key raw : String) : Upholds view s (S.writeGaugeText key raw s) := by
  unfold writeGaugeText
  split
  · exact hgauge key _
  · next he => exact .refl (parseGauge_error he).spared

theorem writeCounterText_upholds (hcounter : ∀ key delta, Upholds view s (S.writeCounter key delta s))
    (key raw : String) : Upholds view s (S.writeCounterText key raw s) := by
  unfold writeCounterText
  split
  · exact hcounter key _
  · next he => exact .refl (parseCounter_error he).spared

/-- **What the operations uphold, every call upholds.** -/
theorem perform_upholds (hdata : ∀ m, Upholds view s (S.writeData m s))
    (hbatch : ∀ b, Upholds view s (S.writeBatch b s))
    (hgauges : ∀ keys, Upholds view s (S.readGauges keys s))
    (hcounters : ∀ keys, Upholds view s (S.readCounters keys s))
    (hgauge : ∀ key x, Upholds view s (S.writeGauge key x s))
    (hcounter : ∀ key delta, Upholds view s (S.writeCounter key delta s))
    (hdump : Upholds view s (S.dump s)) (hload : Upholds view s (S.load s))
    (hping : Upholds view s (S.ping s)) (hclose : Upholds view s (S.close s)) (call : Call) :
    Upholds view s (S.perform call s) := by
  cases call with
  | writeData m => exact (hdata m).wrap _
  | writeBatch b => exact (hbatch b).wrap _
  | readData query => exact (readData_upholds hgauges hcounters query).wrap _
  | readGauges keys => exact (hgauges keys).wrap _
  | readCounters keys => exact (hcounters keys).wrap _
  | writeGaugeText key raw => exact (writeGaugeText_upholds hgauge key raw).wrap _
  | writeGauge key x => exact (hgauge key x).wrap _
  | writeCounterText key raw => exact (writeCounterText_upholds hcounter key raw).wrap _
  | writeCounter key delta => exact (hcounter key delta).wrap _
  | dump => exact hdump.wrap _
  | load => exact hload.wrap _
  | ping => exact hping.wrap _
  | close => exact hclose.wrap _

end Store

/-! ## Stores over a database -/

namespace SqlStore

variable {α : Type}

/-- Whether work of the store upholds its session. -/
abbrev Upholds (s : SqlStore) (p : Except StoreError α × SqlStore) : Prop :=
  Store.Upholds session s p

theorem rule (s : SqlStore) : Rule s.Upholds s where
  refused h := .refl h.spared
  nothing := .refl (spared_ok ())
  upsert key _ hx :=
    Session.onWriter_upholds (writing_upholds _ (Statement.upsert_upholds key hx)) s.session
  accumulate key delta :=
    Session.onWriter_upholds (writing_upholds _ (Statement.accumulate_upholds key delta)) s.session
  delta hd :=
    Session.onWriter_upholds (writing_upholds _ (Statement.deltaStatement_upholds hd)) s.session
  mapped f h := h.map f

/-- **Folded updates of any kind uphold the database.** -/
theorem writeDelta_upholds (s : SqlStore) (d : Delta) : s.Upholds (s.writeDelta d) :=
  s.rule.writeDelta d

theorem read_upholds {kind : Kind} {statement : Access → Statement α}
    (h : Statement.Upholds statement) (s : SqlStore) : s.Upholds (s.read kind statement) := by
  have hprepare : s.Upholds (s.prepareRead kind) := by
    unfold prepareRead
    split
    · exact .refl (spared_ok ())
    · exact Session.onWriter_upholds (ensure_upholds kind) s.session
  unfold read
  split
  · next hs => rw [hs] at hprepare; exact hprepare.recast
  · next s' hs =>
    rw [hs] at hprepare
    exact hprepare.trans (Session.onReader_upholds (reading_upholds h) s'.session)

theorem demand_upholds {s : SqlStore} {kind : Kind} {keys : List String}
    {p : Except StoreError (Table α) × SqlStore} (h : s.Upholds p) :
    s.Upholds (demand kind keys p) := by
  unfold demand
  split
  · exact h
  · split
    · next e he =>
      refine h.answered fun _ table column heq => ?_
      unfold Table.ensurePresent at he
      split at he
      · rw [← Except.error.inj he] at heq
        exact absurd heq (by simp)
      · exact absurd he (by simp)
    · exact h

theorem readGauges_upholds (s : SqlStore) (keys : List String) : s.Upholds (s.readGauges keys) :=
  demand_upholds (s.read_upholds
    (Statement.select_upholds .gauge keys fun _ _ => Statement.readGauge_spares))

theorem readCounters_upholds (s : SqlStore) (keys : List String) :
    s.Upholds (s.readCounters keys) :=
  demand_upholds
    (s.read_upholds (Statement.select_upholds .counter keys fun _ _ => Statement.readCounter_spares))

theorem ping_upholds (s : SqlStore) : s.Upholds (s.pingWhile false) := by
  have hknock : s.Upholds (s.through Session.knock) := Session.knock_upholds s.session
  unfold pingWhile
  split
  · exact .refl fun _ _ => by simp
  · split
    · next hs => rw [hs] at hknock; exact hknock
    · next hs => rw [hs] at hknock; exact hknock

/-- **Every call upholds the database.** -/
theorem perform_upholds (s : SqlStore) (call : Store.Call) : s.Upholds (operations.perform call s) :=
  Store.perform_upholds s.rule.writeData s.rule.writeBatch s.readGauges_upholds
    s.readCounters_upholds s.rule.writeGauge s.rule.writeCounter (.refl (spared_ok ()))
    (.refl (spared_ok ())) s.ping_upholds (Session.close_upholds s.session) call

/-- Finite gauges stay finite. -/
theorem finite_kept : Kept fun s => s.session.Finite where
  delta h d := (writeDelta_upholds _ d).finite h
  call h call := (perform_upholds _ call).finite h

end SqlStore

/-! ## Stores behind a window -/

namespace CoalescedStore

open Meterbank.Window

variable {α : Type} {s : CoalescedStore}

/-- Whether work of the store upholds the session of its database. -/
abbrev Upholds (s : CoalescedStore) (p : Except StoreError α × CoalescedStore) : Prop :=
  Store.Upholds (fun s => s.sql.session) s p

/-- The window has no part in what goes to the database directly. -/
theorem onSql_upholds {op : SqlStore → Except StoreError α × SqlStore}
    (h : s.sql.Upholds (op s.sql)) : s.Upholds (s.onSql op) := h

theorem submit_upholds (h : Resting s.window) (us : List Update) : s.Upholds (s.submit us) := by
  rcases submit_cases h us with ⟨e, hd, hsubmit⟩ | ⟨d, window, -, -, hsubmit⟩ |
    ⟨window, -, hsubmit⟩
  · rw [hsubmit]
    exact .refl (Delta.ofUpdates_error hd).spared
  · rw [hsubmit]
    exact s.sql.writeDelta_upholds d
  · rw [hsubmit]
    exact .refl Session.spared_closed

theorem writeData_upholds (h : Resting s.window) (m : Metric) : s.Upholds (s.writeData m) := by
  unfold writeData
  split
  · next hm => exact .refl (Metric.validate_error hm).spared
  · next u _ =>
    have hsubmit := submit_upholds h [u]
    split
    · next hs => rw [hs] at hsubmit; exact hsubmit.recast
    · next s' hs =>
      rw [hs] at hsubmit
      split
      · exact hsubmit.answered fun _ => spared_ok _
      · have hread : s.Upholds (s'.onSql (·.readCounters [u.id])) :=
          hsubmit.trans (onSql_upholds (s'.sql.readCounters_upholds [u.id]))
        split
        · next hs' => rw [hs'] at hread; exact hread.recast
        · next hs' => rw [hs'] at hread; exact hread.answered fun _ => spared_ok _

theorem writeBatch_upholds (h : Resting s.window) (b : Batch) : s.Upholds (s.writeBatch b) := by
  unfold writeBatch
  split
  · next hb => exact .refl (Batch.validate_error hb).spared
  · split
    · exact .refl (spared_ok ())
    · exact submit_upholds h _

theorem dump_upholds (h : Resting s.window) : s.Upholds s.dump := by
  obtain ⟨-, -, hsql, hanswer⟩ := dump_rests h
  show s.sql.session.Upholds (s.dump.1, s.dump.2.sql.session)
  rw [hsql]
  rcases hanswer with ho | ho
  · rw [ho]
    exact .refl (spared_ok ())
  · rw [ho]
    exact .refl Session.spared_closed

theorem close_upholds (h : Resting s.window) : s.Upholds s.close := by
  obtain ⟨-, hsql, hanswer⟩ := close_rests h
  show s.sql.session.Upholds (s.close.1, s.close.2.sql.session)
  rw [hsql, hanswer]
  exact Session.close_upholds s.sql.session

/-- **Every call upholds the database behind the window**, if there is one client. -/
theorem perform_upholds (h : Resting s.window) (call : Store.Call) :
    s.Upholds (operations.perform call s) := by
  have hload : s.Upholds ((.ok () : Except StoreError Unit), s) := .refl (spared_ok ())
  apply Store.perform_upholds
  · exact writeData_upholds h
  · exact writeBatch_upholds h
  · exact fun keys => onSql_upholds (s.sql.readGauges_upholds keys)
  · exact fun keys => onSql_upholds (s.sql.readCounters_upholds keys)
  · exact fun key x => onSql_upholds (s.sql.rule.writeGauge key x)
  · exact fun key delta => onSql_upholds (s.sql.rule.writeCounter key delta)
  · exact dump_upholds h
  · exact hload
  · exact onSql_upholds s.sql.ping_upholds
  · exact close_upholds h

end CoalescedStore

end Meterbank
