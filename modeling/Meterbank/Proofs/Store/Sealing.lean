/-
  Meterbank.Proofs.Store.Sealing — stores that have been closed.

  A database that has been closed refuses all work on its connections, and
  a window that has retired refuses all submits; either stays so, whatever
  is asked of it and whatever becomes of the disk.  So a closed store over
  a database refuses every write that is valid, and leaves the disk as it
  is.  Tables in memory know nothing of closing: they refuse what is
  invalid, and nothing else.

  Main results:
    * `Store.perform_valid` — what holds of valid writes of metrics,
      batches and numbers holds of all valid writes.
    * `SqlStore.writeData_closed`, `CoalescedStore.writeData_shut` and
      their like — what a closed store answers.
    * `Backend.Shut.operation` — and what becomes of the disk.
-/
import Meterbank.Proofs.Store.Alone
import Meterbank.Proofs.Store.Durability
import Meterbank.Proofs.Store.Showing
import Meterbank.Proofs.Window.Stopping
import Meterbank.Store.Closers

namespace Meterbank

open Meterbank.Sql Meterbank.Window Meterbank.Disk

/-! ## Valid writes -/

/-- Whether a call is a write in which nothing is wrong: metrics, values and
texts are valid, and a batch is not empty and can be folded. -/
def Store.Call.IsValidWrite : Store.Call → Prop
  | .writeData m => ∃ u, m.validate = .ok u
  | .writeBatch b => b.metrics ≠ [] ∧ ∃ us d, b.validate = .ok us ∧ Delta.ofUpdates us = .ok d
  | .writeGaugeText _ raw => ∃ x, parseGauge raw = .ok x
  | .writeGauge _ x => x.isFinite = true
  | .writeCounterText _ raw => ∃ delta, parseCounter raw = .ok delta
  | .writeCounter _ _ => True
  | _ => False

/-- A batch with metrics asks for updates. -/
theorem Batch.updates_ne_nil {b : Batch} {us : List Update} (h : b.validate = .ok us)
    (hb : b.metrics ≠ []) : us ≠ [] := by
  unfold validate at h
  cases hm : b.metrics with
  | nil => exact absurd hm hb
  | cons m ms =>
    rw [hm] at h
    obtain ⟨u, rest, -, -, rfl⟩ := (validate_cons 0 m ms us).1 h
    exact List.cons_ne_nil u rest

/-- What a text is read as is finite. -/
theorem finite_of_parseGauge {raw : String} {x : Binary64} (h : parseGauge raw = .ok x) :
    x.isFinite = true := by
  unfold parseGauge at h
  simp only at h
  split at h
  · obtain ⟨hfinite, rfl⟩ := (checkGauge_eq_ok_iff _ _).1 h
    exact hfinite
  · exact absurd h (by simp)

/-- **What holds of valid writes of metrics, batches and numbers holds of
all valid writes.** -/
theorem Store.perform_valid {σ : Type} {S : Store σ} {s : σ}
    {Q : {α : Type} → Except StoreError α × σ → Prop}
    (hwrap : ∀ {α : Type} {f : α → Payload} {p : Except StoreError α × σ}, Q p → Q (wrap f p))
    (hdata : ∀ {m : Metric} {u : Update}, m.validate = .ok u → Q (S.writeData m s))
    (hbatch : ∀ {b : Batch} {us : List Update} {d : Delta}, b.validate = .ok us → us ≠ [] →
      Delta.ofUpdates us = .ok d → Q (S.writeBatch b s))
    (hgauge : ∀ (key : String) {x : Binary64}, x.isFinite = true → Q (S.writeGauge key x s))
    (hcounter : ∀ (key : String) (delta : Int64), Q (S.writeCounter key delta s))
    {call : Call} (h : call.IsValidWrite) : Q (S.perform call s) := by
  cases call with
  | writeData m =>
    obtain ⟨u, hu⟩ := h
    exact hwrap (hdata hu)
  | writeBatch b =>
    obtain ⟨hb, us, d, hus, hd⟩ := h
    exact hwrap (hbatch hus (Batch.updates_ne_nil hus hb) hd)
  | writeGaugeText key raw =>
    obtain ⟨x, hx⟩ := h
    rw [perform, writeGaugeText, hx]
    exact hwrap (hgauge key (finite_of_parseGauge hx))
  | writeGauge key x => exact hwrap (hgauge key h)
  | writeCounterText key raw =>
    obtain ⟨delta, hdelta⟩ := h
    rw [perform, writeCounterText, hdelta]
    exact hwrap (hcounter key delta)
  | writeCounter key delta => exact hwrap (hcounter key delta)
  | _ => exact h.elim

/-! ## Databases -/

namespace SqlStore

variable {s : SqlStore}

theorem writeDelta_closed (h : s.isClosed = true) {d : Delta} (hx : d.Finite)
    (hne : d.isEmpty = false) : s.writeDelta d = (.error .closed, s) := by
  rw [Shows.writeDelta_eq hx hne, write_closed _ _ s h]

theorem writeGauge_closed (h : s.isClosed = true) (key : String) {x : Binary64}
    (hx : x.isFinite = true) : s.writeGauge key x = (.error .closed, s) := by
  unfold writeGauge
  rw [(checkGauge_eq_ok_iff x x).2 ⟨hx, rfl⟩]
  exact write_closed _ _ s h

theorem addCounter_closed (h : s.isClosed = true) (key : String) (delta : Int64) :
    s.addCounter key delta = (.error .closed, s) := write_closed _ _ s h

theorem writeCounter_closed (h : s.isClosed = true) (key : String) (delta : Int64) :
    operations.writeCounter key delta s = (.error .closed, s) := by
  simp only [operations, addCounter_closed h]

/-- **A closed store writes no metric.** -/
theorem writeData_closed (h : s.isClosed = true) {m : Metric} {u : Update}
    (hu : m.validate = .ok u) : s.writeData m = (.error .closed, s) := by
  have hfinite := Metric.finite_of_validate hu
  unfold writeData
  rw [hu]
  cases hs : u.sample with
  | gauge x => simp only [hs, writeGauge_closed h u.id (hfinite x hs)]
  | counter delta => simp only [hs, addCounter_closed h u.id delta]

theorem writeBatch_closed (h : s.isClosed = true) {b : Batch} {us : List Update} {d : Delta}
    (hus : b.validate = .ok us) (hne : us ≠ []) (hd : Delta.ofUpdates us = .ok d) :
    s.writeBatch b = (.error .closed, s) := by
  have hfinite := Delta.ofUpdates_finite (Batch.finite_of_validateFrom hus) hd
  unfold writeBatch
  rw [hus]
  simp only [hd]
  exact writeDelta_closed h hfinite (Delta.ofUpdates_isEmpty hd hne)

/-- A store that has been closed stays closed. -/
theorem closed_lasting : Lasting fun s => s.isClosed = true where
  onWriter work h := (onWriter_isClosed work _).trans h
  onReader _ _ _ h := (onReader_isClosed _ _).trans h
  knock {s} h := by
    have hclosed : s.session.connection.closed = true := h
    simp only [through, Session.knock, Connection.knock, hclosed, if_true]
    exact h
  close _ := close_isClosed _

end SqlStore

/-! ## Databases behind a window -/

namespace Window

variable {σ : Type} {s : State}

theorem run_exited (hx : s.hasExited = true) (events : List Event) :
    (run step s events).hasExited = true :=
  run_keeps (P := fun s : State => s.hasExited = true) step_exited hx events

theorem runFlusher_exited (sink : Sink σ) (n : Nat) (p : State × σ) (hx : p.1.hasExited = true) :
    (runFlusher sink n p).1.hasExited = true := by
  obtain ⟨s, sinkState⟩ := p
  cases n with
  | zero => exact hx
  | succ n =>
    have hflusher := (State.hasExited_iff s).1 hx
    simp only [runFlusher, hflusher]
    exact hx

theorem obey_exited (sink : Sink σ) (p : State × σ) (hx : p.1.hasExited = true) :
    (obey sink p).1.hasExited = true := by
  unfold obey
  generalize p.1.queue = queue
  induction queue generalizing p with
  | nil => exact hx
  | cons command queue ih =>
    exact ih _ (runFlusher_exited sink flusherSections _ (step_exited p.1 .receive hx))

theorem settle_exited (hx : s.hasExited = true) (id : Nat) : (settle s id).hasExited = true :=
  run_exited hx _

/-- A flusher that has exited does not come back for a flush. -/
theorem flushAlone_exited (sink : Sink σ) (sinkState : σ) (hx : s.hasExited = true) :
    (flushAlone sink (s, sinkState)).2.1.hasExited = true := by
  have harrive : (arrive s .flush).2.hasExited = true :=
    settle_exited (step_exited s (.call .flush) hx) s.callers.length
  unfold flushAlone
  generalize arrive s .flush = arrived at harrive ⊢
  obtain ⟨id, s'⟩ := arrived
  have hobey := obey_exited sink (s', sinkState) harrive
  simp only
  generalize obey sink (s', sinkState) = p at hobey ⊢
  exact settle_exited hobey id

/-- A machine that rests has retired if its flusher has exited. -/
theorem Resting.retired (h : Resting s) (hx : s.hasExited = true) : s.Retired := by
  have hflusher := (State.hasExited_iff s).1 hx
  refine h.still.resolve_left fun ho => ?_
  rw [ho.1] at hflusher
  exact absurd hflusher (by simp)

theorem State.Retired.hasExited (h : s.Retired) : s.hasExited = true :=
  (State.hasExited_iff s).2 h.1

/-- After the last window the timer goes off for nothing. -/
theorem window_tick_retired (sink : Sink σ) (h : s.Retired) (sinkState : σ) :
    window sink .tick (s, sinkState) = (s, sinkState) := by
  have hstep : step s .tick = s := by
    simp only [step, h.1]
  unfold window
  rw [hstep, show flusherSections = 5 + 1 from rfl]
  simp only [runFlusher, h.1]

end Window

namespace CoalescedStore

/-- Whether a store has been closed: its window has retired, and then its
database was closed. -/
structure Shut (s : CoalescedStore) : Prop where
  resting : Resting s.window
  retired : s.window.Retired
  closed : s.sql.isClosed = true

variable {s : CoalescedStore}

theorem submit_shut (h : s.Shut) {us : List Update} {d : Delta} (hd : Delta.ofUpdates us = .ok d) :
    (s.submit us).1 = .error .closed ∧ (s.submit us).2.sql = s.sql := by
  obtain ⟨window, hsubmit, -⟩ := submit_retired h.resting h.retired hd
  rw [hsubmit]
  exact ⟨rfl, rfl⟩

/-- **A closed store writes no metric,** and does not read anything back. -/
theorem writeData_shut (h : s.Shut) {m : Metric} {u : Update} (hu : m.validate = .ok u) :
    (s.writeData m).1 = .error .closed ∧ (s.writeData m).2.sql = s.sql := by
  obtain ⟨d, hd⟩ : ∃ d, Delta.ofUpdates [u] = .ok d := by
    obtain ⟨id, sample⟩ := u
    cases sample with
    | gauge x => exact ⟨_, Delta.ofUpdates_gauge id x⟩
    | counter delta => exact ⟨_, Delta.ofUpdates_counter id delta⟩
  obtain ⟨hanswer, hsql⟩ := submit_shut h hd
  unfold writeData
  rw [hu]
  simp only
  cases hs : s.submit [u] with
  | mk answer s' =>
    rw [hs] at hanswer hsql
    obtain rfl : answer = .error .closed := hanswer
    exact ⟨rfl, hsql⟩

theorem writeBatch_shut (h : s.Shut) {b : Batch} {us : List Update} {d : Delta}
    (hus : b.validate = .ok us) (hne : us ≠ []) (hd : Delta.ofUpdates us = .ok d) :
    (s.writeBatch b).1 = .error .closed ∧ (s.writeBatch b).2.sql = s.sql := by
  have hempty : us.isEmpty = false := by simpa using hne
  unfold writeBatch
  rw [hus]
  simp only [hempty, Bool.false_eq_true, if_false]
  exact submit_shut h hd

/-- **Closing shuts a store.** -/
theorem close_shut (h : Resting s.window) : s.close.2.Shut := by
  obtain ⟨hrest, hsql, -⟩ := close_rests h
  obtain ⟨-, hretired, -, -⟩ := shutdownAlone_rests sink h s.sql
  refine ⟨hrest, ?_, ?_⟩
  · unfold close
    generalize shutdownAlone sink (s.window, s.sql) = r at hretired ⊢
    exact hretired
  · rw [hsql]
    exact SqlStore.close_isClosed s.sql

theorem dump_exited (hx : s.window.hasExited = true) : s.dump.2.window.hasExited = true := by
  have hflush := flushAlone_exited sink s.sql hx
  unfold dump
  generalize flushAlone sink (s.window, s.sql) = r at hflush ⊢
  exact hflush

/-- No call opens it again. -/
theorem Shut.perform (h : s.Shut) (call : Store.Call) : (operations.perform call s).2.Shut := by
  have hresting := perform_resting h.resting call
  -- The window rests again, so it is enough that its flusher has not come back.
  refine ⟨hresting, ?_, perform_keeps SqlStore.closed_lasting.kept h.resting h.closed call⟩
  refine hresting.retired ?_
  have hsubmit (us : List Update) : (s.submit us).2.window.hasExited = true := by
    cases hd : Delta.ofUpdates us with
    | error e =>
      rw [submit_unfolded hd]
      exact h.retired.hasExited
    | ok d =>
      obtain ⟨window, hs, -, hretired⟩ := submit_retired h.resting h.retired hd
      rw [hs]
      exact hretired.hasExited
  have hx := h.retired.hasExited
  have hdump : (operations.perform .dump s).2.window.hasExited = true := by
    rw [perform_dump]
    exact dump_exited hx
  have hclose : (operations.perform .close s).2.window.hasExited = true := by
    rw [perform_close]
    exact (close_shut h.resting).retired.hasExited
  exact Store.perform_keeps (P := fun s : CoalescedStore => s.window.hasExited = true) hx
    (writeData_keeps (P := fun s => s.window.hasExited = true) hx hsubmit fun _ h => h)
    (writeBatch_keeps (P := fun s => s.window.hasExited = true) hx hsubmit)
    (fun _ => hx) (fun _ => hx) (fun _ _ => hx) (fun _ _ => hx)
    hdump hx hx hclose call

theorem Shut.tick (h : s.Shut) : s.tick.Shut := by
  have hsame : s.tick = s := by
    unfold CoalescedStore.tick
    rw [window_tick_retired sink h.retired]
    rfl
  rw [hsame]
  exact h

end CoalescedStore

/-! ## Tables in memory -/

theorem Table.add_error {t : Table Int64} {key : String} {delta : Int64} {e : StoreError}
    (h : t.add key delta = .error e) : e = .validation (.overflow key (t.total key) delta) := by
  unfold add at h
  split at h
  · exact absurd h (by simp)
  · next htotal =>
    obtain rfl := Except.error.inj h
    exact checkedTotal_error htotal

namespace FileStore

/-- Whether nothing is refused but a total that would leave the range, and
the files stay unless every write dumps. -/
structure Admits {α : Type} (p : State) (r : Except StoreError α × State) : Prop where
  refused : ∀ e, r.1 = .error e → ∃ key total delta, e = .validation (.overflow key total delta)
  files : p.1.sync = false → r.2.2 = p.2

variable {p : State}

theorem afterWrite_unsynced {s t : FileStore} (h : s.Alike t) (hsync : s.sync = false) (fs : Files) :
    t.afterWrite fs = fs := by
  unfold afterWrite
  rw [h.2, hsync]
  rfl

theorem writeData_admits {m : Metric} {u : Update} (hu : m.validate = .ok u) :
    Admits p (writeData m p) := by
  unfold writeData
  rw [hu]
  simp only
  cases ha : p.1.apply u with
  | error e =>
    refine ⟨fun e' he => ?_, fun _ => rfl⟩
    obtain rfl : e = e' := Except.error.inj he
    -- Only adding to a counter can fail.
    unfold apply at ha
    cases hs : u.sample with
    | gauge x => simp [hs] at ha
    | counter delta =>
      simp only [hs] at ha
      split at ha
      · exact absurd ha (by simp)
      · next hadd =>
        obtain rfl := Except.error.inj ha
        exact ⟨_, _, _, Table.add_error hadd⟩
  | ok written =>
    obtain ⟨m', s⟩ := written
    exact ⟨fun e he => absurd he (by simp),
      fun hsync => afterWrite_unsynced (apply_alike ha) hsync p.2⟩

theorem writeBatch_admits {b : Batch} {us : List Update} {d : Delta} (hus : b.validate = .ok us)
    (hd : Delta.ofUpdates us = .ok d) : Admits p (writeBatch b p) := by
  unfold writeBatch
  rw [hus]
  simp only
  cases ha : p.1.applyAll us with
  | error e =>
    refine ⟨fun e' he => ?_, fun _ => rfl⟩
    obtain rfl : e = e' := Except.error.inj he
    unfold applyAll applyDelta at ha
    simp only [hd] at ha
    split at ha
    · exact absurd ha (by simp)
    · next hadd =>
      obtain rfl := Except.error.inj ha
      exact Table.addAll_error hadd
  | ok s =>
    exact ⟨fun e he => absurd he (by simp),
      fun hsync => afterWrite_unsynced (applyAll_alike ha) hsync p.2⟩

theorem writeGauge_admits (key : String) {x : Binary64} (hx : x.isFinite = true) :
    Admits p (operations.writeGauge key x p) := by
  have hwrite := (Table.writeGauge_ok_iff p.1.gauges _ key x).2 ⟨hx, rfl⟩
  simp only [operations, hwrite]
  exact ⟨fun e he => absurd he (by simp [replace, Except.map]), fun _ => rfl⟩

theorem writeCounter_admits (key : String) (delta : Int64) :
    Admits p (operations.writeCounter key delta p) := by
  simp only [operations, Table.writeCounter]
  cases ha : p.1.counters.add key delta with
  | ok added => exact ⟨fun e he => absurd he (by simp [replace, Except.map]), fun _ => rfl⟩
  | error e =>
    refine ⟨fun e' he => ?_, fun _ => rfl⟩
    obtain rfl : e = e' := Except.error.inj he
    exact ⟨_, _, _, Table.add_error ha⟩

end FileStore

/-! ## The disk -/

namespace Backend

/-- What a store over a database finds on the disk and leaves as it is, is
not written back. -/
theorem publish_attached (gates : Gates) (s : SqlStore) (d : Disk) :
    d.publish gates (attach gates s d).session (attach gates s d).session = d := by
  refine publish_unused gates _ d rfl fun link hlink => ?_
  obtain ⟨⟨g, l⟩, -, rfl⟩ := List.mem_map.1 hlink
  rfl

/-- Whether a backend has been closed, as far as it can be. -/
def Shut : Backend → Prop
  | .file _ => True
  | .sql _ s => s.isClosed = true
  | .coalesced _ s => s.Shut

/-- What a write is answered by a backend that has been closed, and what
becomes of the disk: a database refuses it, and tables in memory refuse
nothing but a total that would leave the range. -/
def Turned {α : Type} (backend : Backend) (d : Disk) (answer : Except StoreError α) (after : Disk) :
    Prop :=
  match backend with
  | .file s =>
    (∀ e, answer = .error e → ∃ key total delta, e = .validation (.overflow key total delta)) ∧
      (s.sync = false → after = d)
  | _ => answer = .error .closed ∧ after = d

theorem Turned.map {α β : Type} {backend : Backend} {d after : Disk} {answer : Except StoreError α}
    (h : Turned backend d answer after) (f : α → β) : Turned backend d (answer.map f) after := by
  cases backend with
  | file s =>
    refine ⟨fun e he => h.1 e ?_, h.2⟩
    cases answer with
    | ok a => exact absurd he (by simp [Except.map])
    | error e' => exact congrArg Except.error (Except.error.inj he)
  | sql gates s => exact ⟨by rw [h.1]; rfl, h.2⟩
  | coalesced gates s => exact ⟨by rw [h.1]; rfl, h.2⟩

/-- **A backend that has been closed answers as its store does,** and what
is refused does not change the disk. -/
theorem Shut.operation {α : Type} {backend : Backend} (h : backend.Shut) (d : Disk)
    (op : {σ : Type} → Store σ → σ → Except StoreError α × σ)
    (hfile : ∀ p : FileStore.State, FileStore.Admits p (op FileStore.operations p))
    (hsql : ∀ s : SqlStore, s.isClosed = true → op SqlStore.operations s = (.error .closed, s))
    (hcoalesced : ∀ s : CoalescedStore, s.Shut →
      (op CoalescedStore.operations s).1 = .error .closed ∧
        (op CoalescedStore.operations s).2.sql = s.sql) :
    Turned backend d (Backend.operation op (backend, d)).1
      (Backend.operation op (backend, d)).2.2 := by
  cases backend with
  | file s =>
    have hadmits := hfile (s, d.files)
    refine ⟨hadmits.refused, fun hsync => ?_⟩
    show { d with files := (op FileStore.operations (s, d.files)).2.2 } = d
    rw [hadmits.files hsync]
  | sql gates s =>
    have hclosed : (attach gates s d).isClosed = true := h
    have hrefused := hsql _ hclosed
    -- The store is left as it was found, so nothing is taken over from it.
    refine ⟨?_, ?_⟩
    · show (op SqlStore.operations (attach gates s d)).1 = .error .closed
      rw [hrefused]
    · show d.publish gates (attach gates s d).session
        (op SqlStore.operations (attach gates s d)).2.session = d
      rw [hrefused]
      exact publish_attached gates s d
  | coalesced gates s =>
    have hshut : CoalescedStore.Shut { s with sql := attach gates s.sql d } :=
      ⟨h.resting, h.retired, h.closed⟩
    obtain ⟨hanswer, hsame⟩ := hcoalesced _ hshut
    refine ⟨hanswer, ?_⟩
    show d.publish gates (attach gates s.sql d).session
      (op CoalescedStore.operations { s with sql := attach gates s.sql d }).2.sql.session = d
    rw [hsame]
    exact publish_attached gates s.sql d

end Backend

end Meterbank
