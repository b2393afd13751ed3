/-
  Meterbank.Proofs.Store.Alone — a client that is alone.

  Sections of many clients, and whole calls of one client, are the same
  store: if a client comes alone, there is an order of its sections and
  those of the flusher in which it is answered as the whole call is, and
  which leaves the same window and the same database.

  Main results:
    * `reaches_flusher` — a window that is run at once is run in sections.
    * `call_alone` — each whole call is a run of sections.
-/
import Meterbank.Proofs.Sql.Undoing
import Meterbank.Proofs.Store.Coalescing
import Meterbank.Proofs.Store.Crowd
import Meterbank.Proofs.Window.Sections
import Meterbank.Store.Clients

namespace Meterbank

open Meterbank.Sql Meterbank.Window

/-! ## Stores that stay open -/

namespace SqlStore

variable {s : SqlStore}

theorem onWriter_isClosed {α : Type} (work : Work α) (s : SqlStore) :
    (s.through (Session.onWriter work)).2.isClosed = s.isClosed := by
  show (s.session.onWriter work).2.connection.closed = s.session.connection.closed
  unfold Session.onWriter Connection.onWriter
  by_cases hclosed : s.session.connection.closed = true
  · rw [if_pos hclosed]
  · rw [if_neg hclosed]

theorem onReader_isClosed {α : Type} (work : Work α) (s : SqlStore) :
    (s.through (Session.onReader work)).2.isClosed = s.isClosed := by
  cases hr : s.session.connection.readers[s.session.connection.turn %
      s.session.connection.readers.length]? with
  | none =>
    unfold through
    rw [Session.onReader_of_none work hr]
    exact onWriter_isClosed work s
  | some reader =>
    show (s.session.onReader work).2.connection.closed = s.session.connection.closed
    simp only [Session.onReader, Connection.onReader, hr]
    by_cases hclosed : s.session.connection.closed = true
    · rw [if_pos hclosed]
    · rw [if_neg hclosed]

/-- Writing does not close a store. -/
theorem writeDelta_isClosed (d : Delta) (s : SqlStore) :
    (s.writeDelta d).2.isClosed = s.isClosed := by
  unfold writeDelta
  split
  · rfl
  · split
    · rfl
    · exact onWriter_isClosed _ s

/-- Reading does not close a store. -/
theorem readCounters_isClosed (keys : List String) (s : SqlStore) :
    (s.readCounters keys).2.isClosed = s.isClosed := by
  have hread : (s.read .counter fun access => Statement.selectCounters access keys).2.isClosed =
      s.isClosed := by
    refine read_keeps (P := fun s' => s'.isClosed = s.isClosed) rfl ?_ ?_
    · exact fun s' hs => (onWriter_isClosed _ s').trans hs
    · exact fun s' hs => (onReader_isClosed _ s').trans hs
  exact demand_keeps (P := fun s' => s'.isClosed = s.isClosed) hread

/-- A closed store is not read. -/
theorem readCounters_closed (keys : List String) (h : s.isClosed = true) :
    s.readCounters keys = (.error .closed, s) := by
  have hwriter : ∀ {α : Type} (work : Work α), s.session.onWriter work = (.error .closed, s.session) :=
    fun work => s.session.onWriter_closed work h
  have hreader : ∀ {α : Type} (work : Work α), s.session.onReader work = (.error .closed, s.session) :=
    fun work => s.session.onReader_closed work h
  unfold readCounters demand read prepareRead through
  by_cases hready : s.session.guard.isReady .counter = true
  · simp [hready, hreader]
  · simp [hready, hwriter]

/-- What the flusher is told when it looks is what writing would answer. -/
theorem writeDelta_refusal {d : Delta} {e : StoreError} (hne : d.isEmpty = false)
    (h : s.refusal? d = some e) : s.writeDelta d = (.error e, s) := by
  unfold refusal? at h
  cases hcheck : checkGauges d.gauges.toList with
  | error e' =>
    rw [hcheck] at h
    rw [writeDelta_notFinite d s e' hne hcheck, Option.some.inj h]
  | ok u =>
    rw [hcheck] at h
    by_cases hclosed : s.isClosed = true
    · rw [if_pos hclosed] at h
      unfold writeDelta
      rw [hne, hcheck, write_closed _ _ _ hclosed, ← Option.some.inj h]
      rfl
    · simp only [if_neg hclosed] at h
      exact absurd h (by simp)

theorem isClosed_of_refusal {d : Delta} (h : s.refusal? d = none) : s.isClosed = false := by
  unfold refusal? at h
  cases hclosed : s.isClosed with
  | false => rfl
  | true =>
    rw [hclosed] at h
    cases hcheck : checkGauges d.gauges.toList with
    | error e => simp [hcheck] at h
    | ok u => simp [hcheck] at h

end SqlStore

namespace Crowd

variable {ρ τ φ : Type} {P : Protocol ρ τ φ} {w w' : Window.State} {sql : SqlStore}
  {clients : List (Client ρ τ)}

/-! ## The flusher -/

/-- Whether the flusher has something to write, if it is to write. -/
def HasWork (w : Window.State) : Prop :=
  ∀ last cycle delta, w.flusher = .calling last cycle delta → delta.isEmpty = false

theorem HasWork.section_keeps {n : Option Notice} (h : HasWork w) (hs : Section w n w') :
    HasWork w' := by
  intro last cycle delta hf
  cases hs with
  | hand hf' hd he =>
    rw [← (Flusher.calling.inj hf).2.2]
    exact he
  | reopen hf' =>
    simp only at hf
    split at hf <;> exact absurd hf (by simp)
  | shut hf' hq => exact absurd hf (by simp [Window.State.shutGate])
  | swap hf' hd => exact absurd hf (by simp [Window.State.swap])
  | takeGauges hf' | takeNothing hf' hd he | reply reply stats hf' | publish hf' =>
    exact absurd hf (by simp)
  | _ => exact h last cycle delta hf

/-- The flusher goes on to have something to write. -/
theorem HasWork.step (h : HasWork w) (e : Window.Event) : HasWork (Window.step w e) := by
  obtain ⟨mid, h₁, h₂⟩ := step_sections w e
  exact (h.section_keeps h₁).section_keeps h₂

/-- A window that rests has nothing to write. -/
theorem HasWork.of_resting (h : Resting w) : HasWork w := by
  intro last cycle delta hf
  rcases h.still with ho | hr
  · rw [ho.1] at hf
    exact absurd hf (by simp)
  · rw [hr.1] at hf
    exact absurd hf (by simp)

theorem HasWork.settle (h : HasWork w) (id : Nat) : HasWork (settle w id) := by
  unfold Window.settle
  induction callerSections generalizing w with
  | zero => exact h
  | succ n ih => exact ih (h.step (.advance id))

/-- An event that does something at the window only. -/
theorem reaches_atWindow {e : Event ρ φ} {we : Window.Event}
    (he : State.effect ⟨w, sql, false, clients⟩ P e = State.atWindow ⟨w, sql, false, clients⟩ we) :
    Reaches (step P) ⟨w, sql, false, clients⟩ ⟨Window.step w we, sql, false, clients⟩ := by
  have hstep : step P ⟨w, sql, false, clients⟩ e = ⟨Window.step w we, sql, false, clients⟩ := by
    rw [step, he]
    rfl
  exact hstep ▸ .single _ _ e

/-- The flusher writes its window: it looks, and writes if it may. -/
theorem reaches_sink {last : Bool} {cycle : Nat} {delta : Delta}
    (hf : w.flusher = .calling last cycle delta) (hne : delta.isEmpty = false) :
    Reaches (step P) ⟨w, sql, false, clients⟩
      ⟨Window.step w (.reply (.done (sql.writeDelta delta).1)), (sql.writeDelta delta).2, false,
        clients⟩ := by
  cases hr : sql.refusal? delta with
  | some e =>
    rw [SqlStore.writeDelta_refusal hne hr]
    refine reaches_atWindow (e := .look) ?_
    simp only [State.effect, State.look, hf, hr]
  | none =>
    -- Nobody closes the database between the look and the commit.
    have hopen := SqlStore.isClosed_of_refusal hr
    have hsame : sql.unchecked (·.writeDelta delta) = sql.writeDelta delta :=
      sql.unchecked_open (·.writeDelta delta) hopen (by rw [sql.writeDelta_isClosed, hopen])
    refine .trans (t := ⟨w, sql, true, clients⟩) ⟨[.look], ?_⟩ ⟨[.commit], ?_⟩
    · simp only [run_cons, run_nil, step, State.effect, State.look, hf, hr]
      rfl
    · simp only [run_cons, run_nil, step, State.effect, State.commit, hf, hsame]
      rfl

/-- **A window that is run at once is run in sections**, and the flusher
goes on to have something to write. -/
theorem reaches_flusher (h : HasWork w) (n : Nat) :
    HasWork (runFlusher CoalescedStore.sink n (w, sql)).1 ∧
      Reaches (step P) ⟨w, sql, false, clients⟩
        ⟨(runFlusher CoalescedStore.sink n (w, sql)).1,
          (runFlusher CoalescedStore.sink n (w, sql)).2, false, clients⟩ := by
  induction n generalizing w sql with
  | zero => exact ⟨h, .refl _ _⟩
  | succ n ih =>
    have hproceed : Reaches (step P) ⟨w, sql, false, clients⟩
        ⟨Window.step w .proceed, sql, false, clients⟩ := reaches_atWindow (e := .proceed) rfl
    rw [runFlusher]
    cases hf : w.flusher with
    | calling last cycle delta =>
      -- Two sections at the database stand for one call of the sink.
      obtain ⟨hwork, hrest⟩ := @ih _ (sql.writeDelta delta).2
        (h.step (.reply (.done (sql.writeDelta delta).1)))
      exact ⟨hwork, (reaches_sink hf (h last cycle delta hf)).trans hrest⟩
    | idle => exact ⟨h, .refl _ _⟩
    | exited => exact ⟨h, .refl _ _⟩
    | _ =>
      obtain ⟨hwork, hrest⟩ := @ih _ sql (h.step .proceed)
      exact ⟨hwork, hproceed.trans hrest⟩

/-- A window that the timer or a command starts is run in sections. -/
theorem reaches_window (h : HasWork w) {e : Event ρ φ} {we : Window.Event}
    (he : ∀ s : State ρ τ, s.effect P e = s.atWindow we) :
    HasWork (window CoalescedStore.sink we (w, sql)).1 ∧
      Reaches (step P) ⟨w, sql, false, clients⟩
        ⟨(window CoalescedStore.sink we (w, sql)).1, (window CoalescedStore.sink we (w, sql)).2,
          false, clients⟩ := by
  obtain ⟨hwork, hrest⟩ := @reaches_flusher _ _ _ P _ sql clients (h.step we) flusherSections
  exact ⟨hwork, (reaches_atWindow (he _)).trans hrest⟩

/-- So are the windows of all commands that are queued. -/
theorem reaches_obey (h : HasWork w) :
    Reaches (step P) ⟨w, sql, false, clients⟩
      ⟨(obey CoalescedStore.sink (w, sql)).1, (obey CoalescedStore.sink (w, sql)).2, false,
        clients⟩ := by
  unfold obey
  generalize (w, sql).1.queue = queue
  induction queue generalizing w sql with
  | nil => exact .refl _ _
  | cons command queue ih =>
    obtain ⟨hwork, hwindow⟩ :=
      @reaches_window _ _ _ P w sql clients h .receive .receive fun s => rfl
    rw [List.foldl_cons]
    generalize window CoalescedStore.sink .receive (w, sql) = r at hwork hwindow
    exact hwindow.trans (ih hwork)

/-! ## A client that is alone -/

/-- A caller that has been answered does nothing more. -/
theorem advance_answered {id : Nat} {outcome : Outcome} (h : w.answer? id = some outcome) :
    Window.step w (.advance id) = w := by
  unfold Window.State.answer? at h
  rw [Window.step]
  unfold Window.State.advance
  cases hc : w.callers[id]? with
  | none => rfl
  | some c =>
    rw [hc] at h
    obtain ⟨task, point⟩ := c
    cases point with
    | returned told => rfl
    | _ => exact absurd h (by simp)

/-- A caller that has stopped the flusher does nothing more. -/
theorem advance_stopped {id : Nat} {stats : Stats} (h : w.stats? id = some stats) :
    Window.step w (.advance id) = w := by
  unfold Window.State.stats? at h
  rw [Window.step]
  unfold Window.State.advance
  cases hc : w.callers[id]? with
  | none => rfl
  | some c =>
    rw [hc] at h
    obtain ⟨task, point⟩ := c
    cases point with
    | stopped told => rfl
    | _ => exact absurd h (by simp)

/-- Whether a client that has come so far is no more than its caller: the
next section is that of the caller, if that has one left. -/
def Waits (P : Protocol ρ τ φ) (request : ρ) (stage : τ) : Prop :=
  ∀ (w : Window.State) (sql : SqlStore) (id : Nat),
    let client : Client ρ τ := ⟨request, some id, stage⟩
    P.advance ⟨w, sql, false, [client]⟩ 0 client =
        State.atWindow ⟨w, sql, false, [client]⟩ (.advance id) ∨
      Window.step w (.advance id) = w

variable {request : ρ} {task : Task}

/-- A caller runs until it has to wait, and so does its client. -/
theorem reaches_settle {stage : τ} (h : Waits P request stage) (id : Nat) :
    Reaches (step P) ⟨w, sql, false, [⟨request, some id, stage⟩]⟩
      ⟨settle w id, sql, false, [⟨request, some id, stage⟩]⟩ := by
  unfold settle
  induction callerSections generalizing w with
  | zero => exact .refl _ _
  | succ n ih =>
    rw [List.replicate_succ, run_cons]
    rcases h w sql id with hadvance | hsame
    · exact (reaches_atWindow ((State.effect_advance P rfl).trans hadvance)).trans ih
    · rw [hsame]
      exact ih

/-- A client comes, and its caller runs until it has to wait. -/
theorem reaches_arrive (h : Waits P request (P.first request))
    (ht : P.task? request = .ok (some task)) :
    Reaches (step P) ⟨w, sql, false, []⟩
      ⟨(arrive w task).2, sql, false, [⟨request, some w.callers.length, P.first request⟩]⟩ := by
  have hcall : Reaches (step P) ⟨w, sql, false, []⟩ ⟨Window.step w (.call task), sql, false,
      [⟨request, some w.callers.length, P.first request⟩]⟩ := by
    refine ⟨[.call request], ?_⟩
    simp only [run_cons, run_nil, step, State.effect, State.come,
      Protocol.joins?_eq_some_iff.2 ht]
    rfl
  exact hcall.trans (reaches_settle h w.callers.length)

/-- A client with nothing to do at the window comes and goes there unseen. -/
theorem reaches_away (hj : P.joins? request = none) :
    Reaches (step P) ⟨w, sql, false, []⟩
      ⟨w, sql, false, [⟨request, none, P.first request⟩]⟩ := by
  refine ⟨[.call request], ?_⟩
  simp only [run_cons, run_nil, step, State.effect, State.come, hj]
  rfl

/-- The flusher of a window that rests has nothing to write when a caller
has come. -/
theorem HasWork.arrive (h : Resting w) (task : Task) : HasWork (arrive w task).2 :=
  ((HasWork.of_resting h).step (.call task)).settle w.callers.length

/-- A submit that comes alone is one of a client that comes alone. -/
theorem reaches_submit (h : Resting w) (hwaits : Waits P request (P.first request))
    {delta : Delta} (ht : P.task? request = .ok (some (.submit delta))) :
    Reaches (step P) ⟨w, sql, false, []⟩
      ⟨(submitAlone CoalescedStore.sink delta (w, sql)).2.1,
        (submitAlone CoalescedStore.sink delta (w, sql)).2.2, false,
        [⟨request, some w.callers.length, P.first request⟩]⟩ := by
  have harrive := @reaches_arrive _ _ _ P w sql _ _ hwaits ht
  have hwork := HasWork.arrive h (.submit delta)
  have hid : (arrive w (.submit delta)).1 = w.callers.length := rfl
  unfold submitAlone
  generalize arrive w (.submit delta) = r at harrive hwork hid
  obtain ⟨id, w₁⟩ := r
  simp only at harrive hwork hid ⊢
  subst hid
  split
  · exact harrive
  · obtain ⟨-, hwindow⟩ := @reaches_window _ _ _ P w₁ sql
      [⟨request, some w.callers.length, P.first request⟩] hwork .tick .tick fun s => rfl
    generalize window CoalescedStore.sink .tick (w₁, sql) = r at hwindow
    exact harrive.trans (hwindow.trans (reaches_settle hwaits w.callers.length))

/-- A command that comes alone is one of a client that comes alone: its
window is run, and it goes on. -/
theorem reaches_command (h : Resting w) (hwaits : Waits P request (P.first request))
    (ht : P.task? request = .ok (some task)) {id : Nat} (harrive : arrive w task = (id, w')) :
    Reaches (step P) ⟨w, sql, false, []⟩
      ⟨settle (obey CoalescedStore.sink (w', sql)).1 id, (obey CoalescedStore.sink (w', sql)).2,
        false, [⟨request, some w.callers.length, P.first request⟩]⟩ := by
  have hcome := @reaches_arrive _ _ _ P w sql _ _ hwaits ht
  have hwork := HasWork.arrive h task
  have hid : (arrive w task).1 = w.callers.length := rfl
  rw [harrive] at hcome hwork hid
  obtain rfl : id = w.callers.length := hid
  exact hcome.trans ((reaches_obey hwork).trans (reaches_settle hwaits w.callers.length))

/-- The outcome of a submit is what its caller has been told. -/
theorem submitAlone_answer {σ : Type} (sink : Sink σ) (delta : Delta) (p : Window.State × σ) :
    (submitAlone sink delta p).1 = (submitAlone sink delta p).2.1.answer? p.1.callers.length := by
  have hid : ∀ task, (arrive p.1 task).1 = p.1.callers.length := fun task => rfl
  unfold submitAlone
  simp only
  split
  · next outcome ha =>
    rw [hid] at ha
    exact ha.symm
  · rw [hid]

/-- A submit that comes alone is answered. -/
theorem submitAlone_some {σ : Type} (sink : Sink σ) (h : Resting w) (delta : Delta) (x : σ) :
    ∃ outcome, (submitAlone sink delta (w, x)).1 = some outcome := by
  rcases h.still with ho | hr
  · obtain ⟨w', hsubmit, -⟩ := submitAlone_serving sink h ho delta x
    exact ⟨_, by rw [hsubmit]⟩
  · obtain ⟨w', hsubmit, -⟩ := submitAlone_retired sink h hr delta x
    exact ⟨_, by rw [hsubmit]⟩

end Crowd

namespace Clients

open Meterbank.Crowd (Waits reaches_away reaches_submit reaches_command)

variable {w : Window.State} {sql : SqlStore}

/-! ## Whole calls -/

/-- The call that a request is. -/
def Request.call : Request → Store.Call
  | .writeData m => .writeData m
  | .writeBatch b => .writeBatch b
  | .close => .close

/-- A client that is queued is no more than its caller. -/
theorem waits_queued (request : Request) : Waits protocol request .queued := by
  intro w sql id
  by_cases hclose : request = .close
  · subst hclose
    cases ha : w.stats? id with
    | some stats => exact .inr (Crowd.advance_stopped ha)
    | none => exact .inl (by simp [protocol, advance, ha])
  · cases ha : w.answer? id with
    | some outcome => exact .inr (Crowd.advance_answered ha)
    | none =>
      refine .inl ?_
      cases request <;> first
        | exact absurd rfl hclose
        | simp [protocol, advance, ha]

/-- A request that gets to the window is queued. -/
theorem first_of_task {request : Request} {task : Task} (ht : request.task? = .ok (some task)) :
    request.first = .queued := by
  unfold Request.first
  rw [ht]

/-- Where a client goes with the outcome of its window. -/
def Request.told (request : Request) : Outcome → Stage
  | .error e => .answered (.error e)
  | .ok _ => request.flushed

theorem reaches_told {request : Request} {id : Nat} (hr : request ≠ .close) {outcome : Outcome}
    (ha : w.answer? id = some outcome) :
    Reaches step ⟨w, sql, false, [⟨request, some id, .queued⟩]⟩
      ⟨w, sql, false, [⟨request, some id, request.told outcome⟩]⟩ := by
  refine ⟨[.advance 0], ?_⟩
  cases request <;> first
    | exact absurd rfl hr
    | cases outcome <;> simp [Crowd.step, Crowd.State.effect, protocol, advance, ha,
        Crowd.Effect.on, Crowd.State.moveTo, Crowd.State.still, Request.told]

/-- A client that is alone reads back what the whole call reads. -/
theorem reaches_readBack (request : Request) (caller : Option Nat) (key : String) :
    Reaches step ⟨w, sql, false, [⟨request, caller, .looking key⟩]⟩
      ⟨w, (sql.readCounters [key]).2, false, [⟨request, caller,
        .answered ((sql.readCounters [key]).1.map fun found =>
          .metric (.counter key (found.total key)))⟩]⟩ := by
  by_cases hclosed : sql.isClosed = true
  · -- It finds the database closed, as the whole call does.
    rw [SqlStore.readCounters_closed [key] hclosed]
    refine ⟨[.advance 0], ?_⟩
    simp [Crowd.step, Crowd.State.effect, protocol, advance, hclosed, Crowd.Effect.on,
      Crowd.State.moveTo, Crowd.State.still, Except.map]
  · -- It finds the database open, and it is still open when it reads.
    have hopen : sql.isClosed = false := by simpa using hclosed
    have hsame : sql.unchecked (·.readCounters [key]) = sql.readCounters [key] :=
      sql.unchecked_open (·.readCounters [key]) hopen (by rw [sql.readCounters_isClosed, hopen])
    refine ⟨[.advance 0, .advance 0], ?_⟩
    simp [Crowd.step, Crowd.State.effect, protocol, advance, hopen, hsame, Crowd.Effect.on,
      Crowd.State.moveTo, Crowd.State.still]

/-- A whole submit is a run of sections, after which the client knows the
outcome. -/
theorem reaches_submitted {s : CoalescedStore} (h : Resting s.window) {request : Request}
    {us : List Update} {delta : Delta} (ht : request.task? = .ok (some (.submit delta)))
    (hd : Delta.ofUpdates us = .ok delta) (hr : request ≠ .close) :
    Reaches step ⟨s.window, s.sql, false, []⟩
      ⟨(s.submit us).2.window, (s.submit us).2.sql, false,
        [⟨request, some s.window.callers.length, request.told (s.submit us).1⟩]⟩ := by
  have hfirst := first_of_task ht
  have hwaits : Waits protocol request (protocol.first request) := by
    show Waits protocol request request.first
    rw [hfirst]
    exact waits_queued request
  have hreach := @reaches_submit _ _ _ protocol _ s.sql _ h hwaits delta ht
  rw [show protocol.first request = .queued from hfirst] at hreach
  have htold := Crowd.submitAlone_answer CoalescedStore.sink delta (s.window, s.sql)
  obtain ⟨outcome, hsome⟩ := Crowd.submitAlone_some CoalescedStore.sink h delta s.sql
  unfold CoalescedStore.submit
  rw [hd]
  simp only
  generalize submitAlone CoalescedStore.sink delta (s.window, s.sql) = r at hreach htold hsome
  obtain ⟨answer, w', sql'⟩ := r
  simp only at hreach htold hsome
  subst hsome
  exact hreach.trans (reaches_told hr htold.symm)

/-- Whether a client that comes alone is answered so, and leaves the store
so. -/
def Served (s : CoalescedStore) (request : Request)
    (p : Except StoreError Store.Payload × CoalescedStore) : Prop :=
  ∃ caller, Reaches step ⟨s.window, s.sql, false, []⟩
    ⟨p.2.window, p.2.sql, false, [⟨request, caller, .answered p.1⟩]⟩

/-- A client that is refused is answered when it comes. -/
theorem served_refused {s : CoalescedStore} {request : Request} {e : StoreError}
    (ht : request.task? = .error e) : Served s request (.error e, s) := by
  have hfirst : protocol.first request = .answered (.error e) := by
    simp [protocol, Request.first, ht]
  have hcome := @reaches_away _ _ _ protocol s.window s.sql request
    (by simp [Crowd.Protocol.joins?, protocol, ht])
  rw [hfirst] at hcome
  exact ⟨none, hcome⟩

theorem served_empty {s : CoalescedStore} {request : Request} (ht : request.task? = .ok none) :
    Served s request (.ok .nothing, s) := by
  have hfirst : protocol.first request = .answered (.ok .nothing) := by
    simp [protocol, Request.first, ht]
  have hcome := @reaches_away _ _ _ protocol s.window s.sql request
    (by simp [Crowd.Protocol.joins?, protocol, ht])
  rw [hfirst] at hcome
  exact ⟨none, hcome⟩

theorem served_writeData {s : CoalescedStore} (h : Resting s.window) (m : Metric) :
    Served s (.writeData m) (Store.wrap .metric (s.writeData m)) := by
  unfold CoalescedStore.writeData
  cases hu : m.validate with
  | error e => exact served_refused (by simp [Request.task?, Request.updates, hu, Except.map])
  | ok u =>
    cases hd : Delta.ofUpdates [u] with
    | error e =>
      simp only [CoalescedStore.submit_unfolded hd]
      exact served_refused (by simp [Request.task?, Request.updates, hu, hd, Except.map])
    | ok delta =>
      have ht : (Request.writeData m).task? = .ok (some (.submit delta)) := by
        simp [Request.task?, Request.updates, hu, hd, Except.map]
      have hreach := reaches_submitted h ht hd (by simp)
      simp only
      generalize s.submit [u] = r at hreach
      obtain ⟨answer, s'⟩ := r
      cases answer with
      | error e => exact ⟨_, hreach⟩
      | ok v =>
        obtain ⟨id, sample⟩ := u
        cases sample with
        | gauge x =>
          simp only [Request.told, Request.flushed, Request.counter?, Request.receipt, hu] at hreach
          exact ⟨_, hreach⟩
        | counter amount =>
          simp only [Request.told, Request.flushed, Request.counter?, hu] at hreach
          have hread := hreach.trans (reaches_readBack (.writeData m) (some s.window.callers.length) id)
          simp only [CoalescedStore.onSql]
          generalize s'.sql.readCounters [id] = q at hread
          obtain ⟨found, sql'⟩ := q
          cases found <;> exact ⟨_, hread⟩

theorem served_writeBatch {s : CoalescedStore} (h : Resting s.window) (b : Batch) :
    Served s (.writeBatch b) (Store.wrap (fun _ => .nothing) (s.writeBatch b)) := by
  unfold CoalescedStore.writeBatch
  cases hus : b.validate with
  | error e => exact served_refused (by simp [Request.task?, Request.updates, hus])
  | ok us =>
    by_cases hempty : us.isEmpty = true
    · have ht : (Request.writeBatch b).task? = .ok none := by
        simp [Request.task?, Request.updates, hus, hempty]
      simp only [hempty, if_true]
      exact served_empty ht
    · simp only [if_neg hempty]
      cases hd : Delta.ofUpdates us with
      | error e =>
        rw [CoalescedStore.submit_unfolded hd]
        exact served_refused (by simp [Request.task?, Request.updates, hus, hd, hempty])
      | ok delta =>
        have ht : (Request.writeBatch b).task? = .ok (some (.submit delta)) := by
          simp [Request.task?, Request.updates, hus, hd, hempty]
        have hreach := reaches_submitted h ht hd (by simp)
        generalize s.submit us = r at hreach
        obtain ⟨answer, s'⟩ := r
        cases answer with
        | error e => exact ⟨_, hreach⟩
        | ok v => exact ⟨_, hreach⟩

theorem served_close {s : CoalescedStore} (h : Resting s.window) :
    Served s .close (Store.wrap (fun _ => .nothing) s.close) := by
  have hlead : Reaches step ⟨s.window, s.sql, false, []⟩
      ⟨(shutdownAlone CoalescedStore.sink (s.window, s.sql)).2.1,
        (shutdownAlone CoalescedStore.sink (s.window, s.sql)).2.2, false,
        [⟨.close, some s.window.callers.length, .queued⟩]⟩ := by
    unfold shutdownAlone
    generalize harrive : arrive s.window .shutdown = r
    obtain ⟨id, w'⟩ := r
    exact reaches_command h (waits_queued .close) rfl harrive
  obtain ⟨-, -, -, told, htold⟩ := shutdownAlone_rests CoalescedStore.sink h s.sql
  unfold CoalescedStore.close
  generalize shutdownAlone CoalescedStore.sink (s.window, s.sql) = r at hlead htold
  obtain ⟨stats, w', sql'⟩ := r
  simp only at hlead htold ⊢
  refine ⟨some s.window.callers.length, hlead.trans ⟨[.advance 0, .advance 0], ?_⟩⟩
  simp [Crowd.step, Crowd.State.effect, protocol, advance, htold, Crowd.Effect.on,
    Crowd.State.moveTo, Crowd.State.still, Store.wrap, CoalescedStore.after]

/-- **Each whole call is a run of sections.** -/
theorem call_alone {s : CoalescedStore} (h : s.Reachable) (request : Request) :
    Served s request (CoalescedStore.operations.perform request.call s) := by
  cases request with
  | writeData m => exact served_writeData h.resting m
  | writeBatch b => exact served_writeBatch h.resting b
  | close => exact served_close h.resting

end Clients

end Meterbank
