/-
  Meterbank.Proofs.Store.Closers — a facade that has been closed.

  The thread that finds a facade unmarked closes it, and everybody else who
  closes it is let go at once.  From the mark on somebody stops the worker,
  or it has been stopped and somebody closes the backend, or that has been
  done.  So once all who close the facade have returned, a database is
  closed and stays closed.  Tables in memory are not: they are written to
  as before, but no worker dumps them any more.

  Main results:
    * `step_meets`, `Phased.step` — what any event keeps.
    * `closed_facade_turns` — what is answered after a facade was closed.
    * `acknowledged_after_closing` — tables in memory, and databases that
      somebody still closes, go on acknowledging writes.
-/
import Meterbank.Proofs.Store.Sealing

namespace Meterbank

open Meterbank.Sql Meterbank.Window Meterbank.Disk

/-! ## Backends -/

namespace Backend

/-- Whether the store that a backend is meets what is said of its kind. -/
def Meets (F : FileStore → Prop) (Q : SqlStore → Prop) (C : CoalescedStore → Prop) :
    Backend → Prop
  | .file s => F s
  | .sql _ s => Q s
  | .coalesced _ s => C s

/-- What calls, timers and looking at the disk keep. -/
structure Law (F : FileStore → Prop) (Q : SqlStore → Prop) (C : CoalescedStore → Prop) : Prop where
  file : ∀ {p : FileStore.State} (call : Store.Call), F p.1 →
    F (FileStore.operations.perform call p).2.1
  sql : ∀ {s : SqlStore} (call : Store.Call), Q s → Q (SqlStore.operations.perform call s).2
  coalesced : ∀ {s : CoalescedStore} (call : Store.Call), C s →
    C (CoalescedStore.operations.perform call s).2
  attached : ∀ {s : SqlStore} (gates : Gates) (d : Disk), Q s → Q (attach gates s d)
  behind : ∀ {s : CoalescedStore} (gates : Gates) (d : Disk), C s →
    C { s with sql := attach gates s.sql d }
  tick : ∀ {s : CoalescedStore}, C s → C s.tick

variable {F : FileStore → Prop} {Q : SqlStore → Prop} {C : CoalescedStore → Prop}

/-- What each kind of store keeps, a backend keeps. -/
theorem Law.dispatch {α : Type} (h : Law F Q C)
    (file : FileStore.State → Except StoreError α × FileStore.State)
    (sql : SqlStore → Except StoreError α × SqlStore)
    (coalesced : CoalescedStore → Except StoreError α × CoalescedStore)
    (hfile : ∀ p, F p.1 → F (file p).2.1) (hsql : ∀ s, Q s → Q (sql s).2)
    (hcoalesced : ∀ s, C s → C (coalesced s).2) {p : State} (hp : p.1.Meets F Q C) :
    (Backend.dispatch file sql coalesced p).2.1.Meets F Q C := by
  obtain ⟨backend, d⟩ := p
  cases backend with
  | file s => exact hfile (s, d.files) hp
  | sql gates s => exact hsql _ (h.attached gates d hp)
  | coalesced gates s => exact hcoalesced _ (h.behind gates d hp)

theorem Law.operation {α : Type} (h : Law F Q C)
    (op : {σ : Type} → Store σ → σ → Except StoreError α × σ) (call : Store.Call)
    (hcall : ∀ {σ : Type} (S : Store σ) (s : σ), (op S s).2 = (S.perform call s).2) {p : State}
    (hp : p.1.Meets F Q C) : (Backend.operation op p).2.1.Meets F Q C :=
  h.dispatch _ _ _ (fun p hp => by rw [hcall]; exact h.file call hp)
    (fun s hs => by rw [hcall]; exact h.sql call hs)
    (fun s hs => by rw [hcall]; exact h.coalesced call hs) hp

/-- A backend is of this kind; if it is a file store it dumps every write,
or not, and if it is behind a window that window rests. -/
def Opened (kind : BackendKind) (sync : Bool) : Backend → Prop :=
  Meets (fun s => kind = .file ∧ s.sync = sync) (fun _ => kind = .sql)
    fun s => kind = .coalesced ∧ Resting s.window

theorem Opened.kind_eq {kind : BackendKind} {sync : Bool} {backend : Backend}
    (h : backend.Opened kind sync) : backend.kind = kind := by
  cases backend with
  | file s => exact h.1.symm
  | sql gates s => exact (show kind = .sql from h).symm
  | coalesced gates s => exact h.1.symm

theorem opened_law (kind : BackendKind) (sync : Bool) :
    Law (fun s => kind = .file ∧ s.sync = sync) (fun _ => kind = .sql)
      fun s => kind = .coalesced ∧ Resting s.window where
  file call h := ⟨h.1, (FileStore.perform_alike call _).2.trans h.2⟩
  sql _ h := h
  coalesced call h := ⟨h.1, CoalescedStore.perform_resting h.2 call⟩
  attached _ _ h := h
  behind _ _ h := h
  tick {s} h := by
    refine ⟨h.1, ?_⟩
    rcases h.2.still with ho | hr
    · exact (tick_rests CoalescedStore.sink h.2 ho s.sql).1
    · -- After the last window the timer goes off for nothing.
      unfold CoalescedStore.tick
      rw [window_tick_retired CoalescedStore.sink hr]
      exact h.2

theorem shut_eq : Shut = Meets (fun _ => True) (fun s => s.isClosed = true) CoalescedStore.Shut := by
  funext backend
  cases backend <;> rfl

theorem shut_law : Law (fun _ => True) (fun s => s.isClosed = true) CoalescedStore.Shut where
  file _ _ := trivial
  sql call h := SqlStore.closed_lasting.kept.call h call
  coalesced call h := h.perform call
  attached _ _ h := h
  behind _ _ h := ⟨h.resting, h.retired, h.closed⟩
  tick h := h.tick

/-- **Closing a backend shuts it,** whatever the answer. -/
theorem Opened.close_shut {kind : BackendKind} {sync : Bool} {p : State}
    (h : p.1.Opened kind sync) : (operations.close p).2.1.Shut := by
  obtain ⟨backend, d⟩ := p
  cases backend with
  | file s => exact trivial
  | sql gates s => exact SqlStore.close_isClosed (attach gates s d)
  | coalesced gates s =>
    simp only [operations, operation, dispatch, onCoalesced, shared]
    exact CoalescedStore.close_shut (s := { s with sql := attach gates s.sql d }) h.2

end Backend

/-! ## Facades -/

namespace Facade

variable {q : State}

/-- What operations of the backend keep, every call but closing keeps. -/
theorem perform_keeps {P : State → Prop} (h : P q)
    (hop : ∀ {α : Type} (op : {σ : Type} → Store σ → σ → Except StoreError α × σ)
      (call : Store.Call), (∀ {σ : Type} (S : Store σ) (s : σ), (op S s).2 = (S.perform call s).2) →
        P (onBackend (Backend.operation op) q).2)
    {call : Store.Call} (hcall : call ≠ .close) : P (operations.perform call q).2 := by
  cases call with
  | writeData m => exact hop (fun S => S.writeData m) (.writeData m) fun _ _ => rfl
  | writeBatch b => exact hop (fun S => S.writeBatch b) (.writeBatch b) fun _ _ => rfl
  | readData query =>
    exact Store.readData_keeps h
      (fun keys => hop (fun S => S.readGauges keys) (.readGauges keys) fun _ _ => rfl)
      (fun keys => hop (fun S => S.readCounters keys) (.readCounters keys) fun _ _ => rfl) query
  | readGauges keys => exact hop (fun S => S.readGauges keys) (.readGauges keys) fun _ _ => rfl
  | readCounters keys => exact hop (fun S => S.readCounters keys) (.readCounters keys) fun _ _ => rfl
  | writeGaugeText key raw =>
    rw [Store.perform, Store.writeGaugeText]
    cases parseGauge raw with
    | ok x => exact hop (fun S => S.writeGauge key x) (.writeGauge key x) fun _ _ => rfl
    | error e => exact h
  | writeGauge key x => exact hop (fun S => S.writeGauge key x) (.writeGauge key x) fun _ _ => rfl
  | writeCounterText key raw =>
    rw [Store.perform, Store.writeCounterText]
    cases parseCounter raw with
    | ok delta => exact hop (fun S => S.writeCounter key delta) (.writeCounter key delta) fun _ _ => rfl
    | error e => exact h
  | writeCounter key delta =>
    exact hop (fun S => S.writeCounter key delta) (.writeCounter key delta) fun _ _ => rfl
  | dump => exact hop (fun S => S.dump) .dump fun _ _ => rfl
  | load => exact hop (fun S => S.load) .load fun _ _ => rfl
  | ping => exact hop (fun S => S.ping) .ping fun _ _ => rfl
  | close => exact absurd rfl hcall

/-- No call but closing has to do with the worker or the mark. -/
theorem perform_frame {call : Store.Call} (hcall : call ≠ .close) :
    (operations.perform call q).2.1.worker = q.1.worker ∧
      (operations.perform call q).2.1.closed = q.1.closed :=
  perform_keeps (P := fun q' => q'.1.worker = q.1.worker ∧ q'.1.closed = q.1.closed) ⟨rfl, rfl⟩
    (fun _ _ _ => ⟨rfl, rfl⟩) hcall

section Law

variable {F : FileStore → Prop} {Q : SqlStore → Prop} {C : CoalescedStore → Prop}

theorem perform_meets (hL : Backend.Law F Q C) (h : q.1.backend.Meets F Q C) {call : Store.Call}
    (hcall : call ≠ .close) : (operations.perform call q).2.1.backend.Meets F Q C :=
  perform_keeps (P := fun q' => q'.1.backend.Meets F Q C) h
    (fun op call hop => hL.operation op call hop (p := (q.1.backend, q.2)) h) hcall

theorem stopWorker_meets (hL : Backend.Law F Q C) (h : q.1.backend.Meets F Q C) :
    (stopWorker q).1.backend.Meets F Q C := by
  unfold stopWorker
  cases q.1.worker with
  | none => exact h
  | some w =>
    exact hL.operation (fun S => S.dump) .dump (fun _ _ => rfl) (p := (q.1.backend, q.2)) h

theorem close_meets (hL : Backend.Law F Q C) (h : q.1.backend.Meets F Q C) :
    (onBackend Backend.operations.close q).2.1.backend.Meets F Q C :=
  hL.operation (fun S => S.close) .close (fun _ _ => rfl) (p := (q.1.backend, q.2)) h

theorem tick_meets (hL : Backend.Law F Q C) (h : q.1.backend.Meets F Q C) :
    (tick q).1.backend.Meets F Q C := by
  unfold tick
  split
  · exact hL.operation (fun S => S.dump) .dump (fun _ _ => rfl) (p := (q.1.backend, q.2)) h
  · exact hL.dispatch (fun p => (.ok (), p)) (fun s => (.ok (), s)) (fun s => (.ok (), s.tick))
      (fun _ h => h) (fun _ h => h) (fun _ h => hL.tick h) (p := (q.1.backend, q.2)) h
  · exact h

end Law

/-- A timer leaves a worker that is not there, and the mark. -/
theorem tick_frame : (tick q).1.closed = q.1.closed ∧ (q.1.worker = none → (tick q).1.worker = none) := by
  unfold tick
  split
  · next w backend hw => exact ⟨rfl, fun h => absurd (hw.symm.trans h) (by simp)⟩
  · next hw => exact ⟨rfl, fun h => h⟩
  · next hw => exact ⟨rfl, fun h => h⟩

theorem stopWorker_frame : (stopWorker q).1.closed = q.1.closed ∧ (stopWorker q).1.worker = none := by
  unfold stopWorker
  cases hw : q.1.worker with
  | none => exact ⟨rfl, hw⟩
  | some w => exact ⟨rfl, rfl⟩

end Facade

/-! ## Opening -/

/-- A store that has been opened is of a kind, and nobody closes it yet. -/
theorem Facade.openStore_opened {c : Config} {d d' : Disk} {f : Facade}
    (h : Facade.openStore c d = (.ok f, d')) :
    f.backend.Opened f.backend.kind (c.effectiveStoreInterval == 0) ∧ f.closed = false := by
  have hbackend {backend : Backend} {d₁ : Disk} (hb : Facade.openBackend c d = (.ok backend, d₁)) :
      ∃ kind, backend.Opened kind (c.effectiveStoreInterval == 0) := by
    unfold Facade.openBackend at hb
    split at hb
    · obtain rfl := Except.ok.inj (congrArg Prod.fst hb)
      exact ⟨.file, rfl, rfl⟩
    · split at hb
      · unfold Backend.openCoalesced at hb
        split at hb
        · exact absurd hb (by simp)
        · split at hb
          · exact absurd hb (by simp)
          · next store hs =>
            obtain rfl := Except.ok.inj (congrArg Prod.fst hb)
            exact ⟨.coalesced, rfl, (CoalescedStore.Reachable.created hs).resting⟩
      · unfold Backend.openSql at hb
        split at hb
        · exact absurd hb (by simp)
        · obtain rfl := Except.ok.inj (congrArg Prod.fst hb)
          exact ⟨.sql, rfl⟩
  unfold Facade.openStore at h
  split at h
  · exact absurd h (by simp)
  · split at h
    · exact absurd h (by simp)
    · next backend d₁ hb =>
      obtain ⟨kind, hopened⟩ := hbackend hb
      obtain rfl := Except.ok.inj (congrArg Prod.fst h)
      -- What was made durable is loaded, or not.
      have hrestored : (Facade.restore c (backend, d₁)).1.Opened kind
          (c.effectiveStoreInterval == 0) := by
        unfold Facade.restore
        split
        · exact (Backend.opened_law kind _).operation (fun S => S.load) .load (fun _ _ => rfl) hopened
        · exact hopened
      exact ⟨hrestored.kind_eq ▸ hrestored, rfl⟩

/-! ## Events -/

namespace Closers

variable {s : State} {kind : BackendKind} {sync : Bool}

/-- What the backend keeps, every event keeps. -/
theorem step_meets {F : FileStore → Prop} {Q : SqlStore → Prop} {C : CoalescedStore → Prop}
    (hL : Backend.Law F Q C) (h : s.facade.1.backend.Meets F Q C) (e : Event) :
    (step s e).facade.1.backend.Meets F Q C := by
  cases e with
  | call c =>
    by_cases hc : c = .close
    · rw [hc]
      exact h
    · rw [step_call hc]
      exact Facade.perform_meets hL h hc
  | advance i =>
    cases hi : s.closers[i]? with
    | none =>
      rw [step_absent hi]
      exact h
    | some closer =>
      rw [step_advance hi]
      cases closer with
      | called =>
        simp only [next]
        split <;> exact h
      | stopping => exact Facade.stopWorker_meets hL h
      | closing => exact Facade.close_meets hL h
      | returned answer => exact h
  | tick => exact Facade.tick_meets hL h
  | disk d => exact h

/-- A facade that is marked stays so, and a worker that was stopped does not
come back. -/
theorem step_frame (s : State) (e : Event) :
    (s.facade.1.closed = true → (step s e).facade.1.closed = true) ∧
      (s.facade.1.worker = none → (step s e).facade.1.worker = none) := by
  cases e with
  | call c =>
    by_cases hc : c = .close
    · rw [hc]
      exact ⟨id, id⟩
    · rw [step_call hc]
      obtain ⟨hworker, hclosed⟩ := Facade.perform_frame (q := s.facade) hc
      exact ⟨hclosed.trans, hworker.trans⟩
  | advance i =>
    cases hi : s.closers[i]? with
    | none =>
      rw [step_absent hi]
      exact ⟨id, id⟩
    | some closer =>
      rw [step_advance hi]
      cases closer with
      | called =>
        simp only [next]
        split
        · exact ⟨id, id⟩
        · exact ⟨fun _ => rfl, id⟩
      | stopping =>
        obtain ⟨hclosed, hworker⟩ := Facade.stopWorker_frame (q := s.facade)
        exact ⟨hclosed.trans, fun _ => hworker⟩
      | closing => exact ⟨id, id⟩
      | returned answer => exact ⟨id, id⟩
  | tick =>
    obtain ⟨hclosed, hworker⟩ := Facade.tick_frame (q := s.facade)
    exact ⟨hclosed.trans, hworker⟩
  | disk d => exact ⟨id, id⟩

/-- How far the closing of a facade has come: only who finds it unmarked goes
on, and then it is not over before the backend has been shut. -/
structure Phased (s : State) : Prop where
  marked : ∀ closer ∈ s.closers, closer = .called ∨ s.facade.1.closed = true
  phase : s.facade.1.closed = true → .stopping ∈ s.closers ∨
    s.facade.1.worker = none ∧ (.closing ∈ s.closers ∨ s.facade.1.backend.Shut)

theorem mem_set_of_ne {l : List Closer} {i : Nat} {x y z : Closer} (hx : x ∈ l)
    (hi : l[i]? = some y) (hne : x ≠ y) : x ∈ l.set i z := by
  obtain ⟨j, hj⟩ := List.getElem?_of_mem hx
  have hij : i ≠ j := by
    rintro rfl
    exact hne (Option.some.inj (hj.symm.trans hi))
  exact List.mem_of_getElem? ((List.getElem?_set_ne hij).trans hj)

/-- Something that marks nothing, and after which those who close are still
there. -/
theorem Phased.quiet {s' : State} (h : Phased s)
    (hframe : (s.facade.1.closed = true → s'.facade.1.closed = true) ∧
      (s.facade.1.worker = none → s'.facade.1.worker = none))
    (hshut : s.facade.1.backend.Shut → s'.facade.1.backend.Shut)
    (hmark : s'.facade.1.closed = true → s.facade.1.closed = true)
    (hthose : ∀ closer : Closer, closer.isUnderWay = true → closer ∈ s.closers → closer ∈ s'.closers)
    (hnew : ∀ closer ∈ s'.closers, closer ∈ s.closers ∨ closer = .called ∨
      s'.facade.1.closed = true) : Phased s' where
  marked closer hc := by
    rcases hnew closer hc with hold | hcalled
    · exact (h.marked closer hold).imp id hframe.1
    · exact hcalled
  phase hclosed := by
    rcases h.phase (hmark hclosed) with hstopping | ⟨hworker, hclosing | hshutdown⟩
    · exact .inl (hthose _ rfl hstopping)
    · exact .inr ⟨hframe.2 hworker, .inl (hthose _ rfl hclosing)⟩
    · exact .inr ⟨hframe.2 hworker, .inr (hshut hshutdown)⟩

theorem step_shut (h : s.facade.1.backend.Shut) (e : Event) :
    (step s e).facade.1.backend.Shut := by
  rw [Backend.shut_eq] at h ⊢
  exact step_meets Backend.shut_law h e

/-- A thread that finds the facade unmarked marks it, and is the one that
stops the worker and closes the backend. -/
theorem Phased.advance (h : Phased s) (hopened : s.facade.1.backend.Opened kind sync) (i : Nat) :
    Phased (step s (.advance i)) := by
  have hframe := step_frame s (.advance i)
  cases hi : s.closers[i]? with
  | none =>
    rw [step_absent hi]
    exact h
  | some closer =>
    have hmarked := h.marked closer (List.mem_of_getElem? hi)
    have hthere (x : Closer) : x ∈ s.closers.set i x :=
      List.mem_of_getElem? (List.getElem?_set_self (List.getElem?_eq_some_iff.1 hi).1)
    -- Somebody who only returns is none of those who close.
    have hreturned (answer : Except StoreError Unit) (hidle : closer.isUnderWay = false)
        (hclosed : s.facade.1.closed = true) :
        Phased ⟨s.facade, s.closers.set i (.returned answer)⟩ := by
      refine h.quiet ⟨id, id⟩ id id (fun x hx hmem => mem_set_of_ne hmem hi ?_)
        fun _ _ => .inr (.inr hclosed)
      rintro rfl
      exact absurd hx (by simp [hidle])
    rw [step_advance hi] at hframe ⊢
    cases closer with
    | called =>
      by_cases hclosed : s.facade.1.closed = true
      · simp only [next, hclosed, if_true]
        exact hreturned (.ok ()) rfl hclosed
      · simp only [next, hclosed, Bool.false_eq_true, if_false]
        exact ⟨fun _ _ => .inr rfl, fun _ => .inl (hthere .stopping)⟩
    | stopping =>
      have hclosed := hmarked.resolve_left (by simp)
      exact ⟨fun _ _ => .inr (hframe.1 hclosed), fun _ =>
        .inr ⟨(Facade.stopWorker_frame (q := s.facade)).2, .inl (hthere .closing)⟩⟩
    | closing =>
      have hclosed := hmarked.resolve_left (by simp)
      refine ⟨fun _ _ => .inr (hframe.1 hclosed), fun _ => ?_⟩
      rcases h.phase hclosed with hstopping | ⟨hworker, -⟩
      · exact .inl (mem_set_of_ne hstopping hi (by simp))
      · -- The backend has been closed now.
        exact .inr ⟨hworker, .inr hopened.close_shut⟩
    | returned answer => exact hreturned answer rfl (hmarked.resolve_left (by simp))

/-- **What any event keeps.** -/
theorem Phased.step (h : Phased s) (hopened : s.facade.1.backend.Opened kind sync) (e : Event) :
    Phased (step s e) := by
  have hframe := step_frame s e
  have hshut := fun hs => step_shut (s := s) hs e
  cases e with
  | call c =>
    by_cases hc : c = .close
    · subst hc
      refine h.quiet hframe hshut id (fun _ _ hmem => List.mem_append_left _ hmem) fun closer hmem => ?_
      rcases List.mem_append.1 hmem with hold | hnew
      · exact .inl hold
      · exact .inr (.inl (List.mem_singleton.1 hnew))
    · rw [step_call hc] at hframe hshut ⊢
      exact h.quiet hframe hshut (Facade.perform_frame (q := s.facade) hc).2.symm.trans
        (fun _ _ hmem => hmem) fun _ hmem => .inl hmem
  | advance i => exact h.advance hopened i
  | tick =>
    exact h.quiet hframe hshut (Facade.tick_frame (q := s.facade)).1.symm.trans
      (fun _ _ hmem => hmem) fun _ hmem => .inl hmem
  | disk d => exact h.quiet hframe hshut id (fun _ _ hmem => hmem) fun _ hmem => .inl hmem

/-! ## Runs -/

/-- What is known of a facade at any moment. -/
structure Sound (kind : BackendKind) (sync : Bool) (s : State) : Prop where
  opened : s.facade.1.backend.Opened kind sync
  phased : Phased s

theorem Sound.run (h : Sound kind sync s) (events : List Event) :
    Sound kind sync (Meterbank.run step s events) :=
  run_keeps (fun _ e hs => ⟨step_meets (Backend.opened_law kind sync) hs.opened e,
    hs.phased.step hs.opened e⟩) h events

theorem run_marked (h : s.facade.1.closed = true) (events : List Event) :
    (run step s events).facade.1.closed = true :=
  run_keeps (P := fun s => s.facade.1.closed = true) (fun s e hs => (step_frame s e).1 hs) h events

/-- When all who close a facade have returned, it has been closed. -/
theorem Sound.shut (h : Sound kind sync s) (hclosed : s.facade.1.closed = true)
    (hsettled : ∀ closer ∈ s.closers, closer.isUnderWay = false) :
    s.facade.1.worker = none ∧ s.facade.1.backend.Shut := by
  rcases h.phased.phase hclosed with hstopping | ⟨hworker, hclosing | hshut⟩
  · exact absurd (hsettled _ hstopping) (by simp [Closer.isUnderWay])
  · exact absurd (hsettled _ hclosing) (by simp [Closer.isUnderWay])
  · exact ⟨hworker, hshut⟩

/-- **A valid write to a facade that has been closed** is answered as its
backend answers. -/
theorem perform_turned {q : Facade.State} (h : q.1.backend.Shut) {call : Store.Call}
    (hcall : call.IsValidWrite) :
    Backend.Turned q.1.backend q.2 (Facade.operations.perform call q).1
      (Facade.operations.perform call q).2.2 := by
  refine Store.perform_valid (S := Facade.operations)
    (Q := fun r => Backend.Turned q.1.backend q.2 r.1 r.2.2) (fun hr => hr.map _) ?_ ?_ ?_ ?_ hcall
  · intro m u hu
    exact h.operation q.2 (fun S => S.writeData m) (fun _ => FileStore.writeData_admits hu)
      (fun _ hs => SqlStore.writeData_closed hs hu) fun _ hs => CoalescedStore.writeData_shut hs hu
  · intro b us d hus hne hd
    exact h.operation q.2 (fun S => S.writeBatch b) (fun _ => FileStore.writeBatch_admits hus hd)
      (fun _ hs => SqlStore.writeBatch_closed hs hus hne hd)
      fun _ hs => CoalescedStore.writeBatch_shut hs hus hne hd
  · intro key x hx
    exact h.operation q.2 (fun S => S.writeGauge key x)
      (fun _ => FileStore.writeGauge_admits key hx) (fun _ hs => SqlStore.writeGauge_closed hs key hx)
      fun s hs => ⟨congrArg Prod.fst (SqlStore.writeGauge_closed hs.closed key hx),
        congrArg Prod.snd (SqlStore.writeGauge_closed hs.closed key hx)⟩
  · intro key delta
    exact h.operation q.2 (fun S => S.writeCounter key delta)
      (fun _ => FileStore.writeCounter_admits key delta)
      (fun _ hs => SqlStore.writeCounter_closed hs key delta)
      fun s hs => ⟨congrArg Prod.fst (SqlStore.writeCounter_closed hs.closed key delta),
        congrArg Prod.snd (SqlStore.writeCounter_closed hs.closed key delta)⟩

/-- **What is answered after a facade was closed.**  Closing it again does
nothing.  When all who close it have returned, no worker is left; a
database refuses every valid write, and nothing changes on the disk, where
all databases are; tables in memory refuse only a total that would leave the
range, and what they acknowledge is not on the disk, unless every write
dumps. -/
theorem closed_facade_turns (c : Config) (d d' : Disk) (f : Facade)
    (hopen : Facade.openStore c d = (.ok f, d')) (events later : List Event) (i : Nat)
    (answer : Except StoreError Unit)
    (hreturned : (run step (start (f, d')) events).closers[i]? = some (.returned answer)) :
    let s := run step (start (f, d')) (events ++ later)
    Facade.close s.facade = (.ok (), s.facade) ∧
    ((∀ closer ∈ s.closers, closer.isUnderWay = false) →
      s.facade.1.worker = none ∧
      ∀ call : Store.Call, call.IsValidWrite →
        let (answer, _, after) := Facade.operations.perform call s.facade
        (f.backend.kind ≠ .file → answer = .error .closed ∧ after = s.facade.2) ∧
        (f.backend.kind = .file →
          (∀ e, answer = .error e → ∃ key total delta, e = .validation (.overflow key total delta)) ∧
          (c.effectiveStoreInterval ≠ 0 → after = s.facade.2))) := by
  intro s
  obtain ⟨hopened, hfresh⟩ := Facade.openStore_opened hopen
  have hstart : Sound f.backend.kind (c.effectiveStoreInterval == 0) (start (f, d')) :=
    ⟨hopened, fun _ h => absurd h (by simp [start]), fun h => absurd (hfresh.symm.trans h) (by simp)⟩
  have hbefore := hstart.run events
  have hs : s = run step (run step (start (f, d')) events) later := run_append step _ events later
  have hsound : Sound f.backend.kind (c.effectiveStoreInterval == 0) s := hs ▸ hbefore.run later
  -- Who has returned has found the mark, or made it.
  have hmarked : s.facade.1.closed = true := by
    rw [hs]
    exact run_marked ((hbefore.phased.marked _ (List.mem_of_getElem? hreturned)).resolve_left
      (by simp)) later
  refine ⟨Facade.close_again s.facade hmarked, fun hsettled => ?_⟩
  obtain ⟨hworker, hshut⟩ := hsound.shut hmarked hsettled
  refine ⟨hworker, fun call hcall => ?_⟩
  have hturned := perform_turned hshut hcall
  have hkind := hsound.opened.kind_eq
  have hopened' := hsound.opened
  cases hb : s.facade.1.backend with
  | file store =>
    rw [hb] at hturned hkind hopened'
    refine ⟨fun h => absurd hkind.symm h, fun _ => ⟨hturned.1, fun hinterval => hturned.2 ?_⟩⟩
    exact hopened'.2.trans (by simpa using hinterval)
  | sql gates store | coalesced gates store =>
    rw [hb] at hturned hkind
    exact ⟨fun _ => hturned, fun h => absurd (hkind.trans h) (by simp [Backend.kind])⟩

/-- The settings of a store in memory that a worker dumps from time to time. -/
def timed : Config := { Config.empty with storeFile := some "m.json", restore := some false }

/-- The settings of a database in memory. -/
def database : Config := { Config.empty with databaseName := some Connection.memoryName }

/-- A thread closes a facade that nobody else uses. -/
def closedOnce : List Event := .call .close :: List.replicate 3 (.advance 0)

/-- **Writes are acknowledged after a facade was closed**: by tables in
memory, whose last dump does not have them; and by a database, to whoever
closed it while another thread was about to. -/
theorem acknowledged_after_closing :
    (∃ f d, Facade.openStore timed .empty = (.ok f, d) ∧
      let s := run step (start (f, d)) closedOnce
      s.closers = [.returned (.ok ())] ∧
        let (answer, _, after) := Facade.operations.perform (.writeData (.counter "c" 1)) s.facade
        answer = .ok (.metric (.counter "c" 1)) ∧ after = s.facade.2) ∧
    ∃ f d, Facade.openStore database .empty = (.ok f, d) ∧
      let s := run step (start (f, d)) [.call .close, .call .close, .advance 0, .advance 1]
      s.closers = [.stopping, .returned (.ok ())] ∧
        (Facade.operations.perform (.writeData (.counter "c" 1)) s.facade).1 =
          .ok (.metric (.counter "c" 1)) :=
  ⟨⟨_, _, rfl, rfl, rfl, rfl⟩, ⟨_, _, rfl, rfl, rfl⟩⟩

/-- A database that was closed, and closed again after a timer went off,
refuses to count. -/
theorem closed_database_refuses :
    ∃ f d, Facade.openStore database .empty = (.ok f, d) ∧
      (run step (start (f, d)) closedOnce).closers[0]? = some (.returned (.ok ())) ∧
      let s := run step (start (f, d)) (closedOnce ++ [.tick, .call .close, .advance 1])
      Facade.close s.facade = (.ok (), s.facade) ∧
        (Facade.operations.perform (.writeCounter "c" 1) s.facade).1 = .error .closed ∧
        (Facade.operations.perform (.writeCounter "c" 1) s.facade).2.2 = s.facade.2 := by
  refine ⟨_, _, rfl, rfl, ?_⟩
  obtain ⟨hclose, hturned⟩ := closed_facade_turns database .empty _ _ rfl closedOnce
    [.tick, .call .close, .advance 1] 0 (.ok ()) rfl
  have hsettled : ∀ closer ∈ [Closer.returned (.ok ()), .returned (.ok ())],
      closer.isUnderWay = false := by simp [Closer.isUnderWay]
  obtain ⟨-, hcalls⟩ := hturned hsettled
  exact ⟨hclose, (hcalls (.writeCounter "c" 1) trivial).1 (by decide)⟩

end Closers

end Meterbank
