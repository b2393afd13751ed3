/-
  Meterbank.Proofs.Window.Alone — a caller that is alone.

  Between the calls of a single caller the machine rests: nothing is
  pending, nobody is registered, no command waits.  It serves, or it has
  retired after its last window.  A submit that comes alone has a window
  of its own, and gets the reply of the sink to its delta; the machine
  rests again.

  Main results:
    * `submitAlone_serving`, `submitAlone_retired` — what a submit gets.
    * `flushAlone_rests`, `shutdownAlone_rests`, `tick_rests` — whatever else
      happens leaves a machine that rests as well, and calls no sink.
-/
import Meterbank.Proofs.Merging
import Meterbank.Window.Schedule

namespace Meterbank.Window

variable {σ : Type}

/-! ## Rest -/

/-- Whether the flusher waits for the timer or for commands. -/
def State.Serving (s : State) : Prop :=
  s.flusher = .idle ∧ s.gate.isOpen = true ∧ s.gate.closed = false

/-- Whether the flusher has exited after its last window. -/
def State.Retired (s : State) : Prop := s.flusher = .exited ∧ s.gate.closed = true

/-- Nothing is going on. -/
structure Resting (s : State) : Prop where
  pending : s.pending = Delta.empty
  queue : s.queue = []
  free : s.gate.inFlight = 0
  /-- Only windows before the current one have ended. -/
  ended : ∀ p ∈ s.outcomes, p.1 < s.gate.cycle
  still : s.Serving ∨ s.Retired

/-- A fresh machine serves and rests. -/
theorem init_serving : State.init.Serving := ⟨rfl, rfl, rfl⟩

theorem init_resting : Resting State.init where
  pending := rfl
  queue := rfl
  free := rfl
  ended p hp := absurd hp (by simp [State.init])
  still := .inl init_serving

namespace Resting

variable {s : State}

/-- The current window has not ended. -/
theorem lookup (h : Resting s) : s.outcomes.lookup s.gate.cycle = none := by
  cases ho : s.outcomes.lookup s.gate.cycle with
  | none => rfl
  | some outcome =>
    obtain ⟨l₁, l₂, hl, -⟩ := List.lookup_eq_some_iff.1 ho
    have hlt := h.ended (s.gate.cycle, outcome) (by rw [hl]; simp)
    exact absurd hlt (by simp)

/-- More callers that have returned do not disturb the rest. -/
theorem withCallers (h : Resting s) (callers : List Caller) : Resting { s with callers } :=
  ⟨h.pending, h.queue, h.free, h.ended, h.still⟩

end Resting

/-! ## Merging into nothing -/

theorem mergeCounters_empty (d : Delta) : Delta.empty.mergeCounters d = .ok ⟨∅, d.counters⟩ := by
  rw [Delta.mergeCounters_eq_ok_iff]
  refine ⟨rfl, fun k => ?_⟩
  show d.counters.count? k = Table.joined ((∅ : Table Int64).count? k) _
  rw [Table.count?_empty, Table.none_joined]

theorem mergeGauges_nothing (d : Delta) : (⟨∅, d.counters⟩ : Delta).mergeGauges d = d := by
  have h : (∅ : Table Binary64).setAll d.gauges = d.gauges := by
    apply Table.ext_get?
    intro k
    rw [Table.get?_setAll, Table.get?_empty, Option.or_none]
  show (⟨(∅ : Table Binary64).setAll d.gauges, d.counters⟩ : Delta) = d
  rw [h]

/-! ## The caller -/

section

variable {s : State}

/-- A submit that finds the gate open merges and waits. -/
theorem settle_submit (h : Resting s) (ho : s.Serving) (d : Delta) :
    settle { s with callers := s.callers ++ [⟨.submit d, .entering⟩] } s.callers.length =
      { s with callers := s.callers ++ [⟨.submit d, .waiting s.gate.cycle⟩], pending := d } := by
  have hlookup := h.lookup
  obtain ⟨⟨isOpen, closed, inFlight, cycle⟩, pending, queue, callers, flusher, outcomes, joinable,
    stats, handed⟩ := s
  obtain ⟨hpending, -, hfree, -, -⟩ := h
  obtain ⟨-, hopen, hclosed⟩ := ho
  simp only at hpending hfree hopen hclosed hlookup
  subst hpending hfree hopen hclosed
  -- The caller runs out its sections: it passes, merges both parts, leaves, waits.
  simp [settle, callerSections, List.replicate, step, State.advance, State.enter, State.moveTo,
    mergeCounters_empty, mergeGauges_nothing, State.leave, hlookup]

/-- A flush asks the flusher for a window, and waits. -/
theorem settle_flush (h : Resting s) (ho : s.Serving) :
    settle { s with callers := s.callers ++ [⟨.flush, .entering⟩] } s.callers.length =
      { s with callers := s.callers ++ [⟨.flush, .waiting s.gate.cycle⟩], queue := [.flush] } := by
  have hlookup := h.lookup
  obtain ⟨⟨isOpen, closed, inFlight, cycle⟩, pending, queue, callers, flusher, outcomes, joinable,
    stats, handed⟩ := s
  obtain ⟨-, hqueue, hfree, -, -⟩ := h
  obtain ⟨hidle, hopen, hclosed⟩ := ho
  simp only at hqueue hfree hidle hopen hclosed hlookup
  subst hqueue hfree hidle hopen hclosed
  -- It merges nothing on its way: it passes, leaves, sends its command, waits.
  simp [settle, callerSections, List.replicate, step, State.advance, State.enter, State.moveTo,
    State.leave, State.send, State.hasExited, queueBound, hlookup]

/-- A caller that finds the gate closed returns at once. -/
theorem settle_refused (hr : s.Retired) (task : Task) (ht : task.start = .entering) :
    settle { s with callers := s.callers ++ [⟨task, task.start⟩] } s.callers.length =
      { s with callers := s.callers ++ [⟨task, .returned (.error .closed)⟩] } := by
  rw [ht]
  simp [settle, callerSections, List.replicate, step, State.advance, State.enter, State.moveTo,
    hr.2]

/-- A caller whose window has ended returns with its outcome. -/
theorem settle_wake {callers : List Caller} {task : Task} {cycle : Nat} {outcome : Outcome}
    (hc : s.callers = callers ++ [⟨task, .waiting cycle⟩])
    (ho : s.outcomes.lookup cycle = some outcome) :
    settle s callers.length =
      { s with callers := callers ++ [⟨task, .returned outcome⟩] } := by
  simp [settle, callerSections, List.replicate, step, State.advance, State.moveTo, hc, ho]

end

/-! ## The window -/

/-- What a window with this delta ends with, and what it does to the sink. -/
def flushed (sink : Sink σ) (d : Delta) (sinkState : σ) : Outcome × σ :=
  if d.isEmpty then (.ok (), sinkState)
  else ((sink d sinkState).1.outcome, (sink d sinkState).2)

/-- Nothing was collected, so a window calls no sink. -/
theorem Resting.untouched {s : State} (h : Resting s) (sink : Sink σ) (sinkState : σ) :
    (flushed sink s.pending sinkState).2 = sinkState := by
  rw [h.pending]
  rfl

/-- A window that nobody holds up, from its start to its end. -/
theorem runFlusher_shut (sink : Sink σ) (s : State) (sinkState : σ) (last : Bool)
    (hfree : s.gate.inFlight = 0) :
    runFlusher sink flusherSections (s.shut last, sinkState) =
      ({ s with
          gate := ⟨! (s.gate.closed || last), s.gate.closed || last, 0, s.gate.cycle + 1⟩
          pending := Delta.empty
          flusher := if last then .exited else .idle
          outcomes := (s.gate.cycle, (flushed sink s.pending sinkState).1) :: s.outcomes
          stats := (runFlusher sink flusherSections (s.shut last, sinkState)).1.stats
          handed := (runFlusher sink flusherSections (s.shut last, sinkState)).1.handed },
        (flushed sink s.pending sinkState).2) := by
  obtain ⟨⟨isOpen, closed, inFlight, cycle⟩, ⟨gauges, counters⟩, queue, callers, flusher, outcomes,
    joinable, stats, handed⟩ := s
  simp only at hfree
  subst hfree
  -- With nothing collected the sink is not called; all else is the same.
  by_cases he : (⟨gauges, counters⟩ : Delta).isEmpty = true
  · cases last <;> cases closed <;>
      simp [State.shut, State.swap, flusherSections, runFlusher, step, State.proceed, State.taken,
        flushed, he, Delta.empty]
  · cases last <;> cases closed <;>
      simp [State.shut, State.swap, flusherSections, runFlusher, step, State.proceed, State.taken,
        State.replied, flushed, he, Delta.empty]

/-- What a window leaves behind. -/
structure AfterWindow (s s' : State) (outcome : Outcome) (last : Bool) : Prop where
  callers : s'.callers = s.callers
  queue : s'.queue = s.queue
  pending : s'.pending = Delta.empty
  free : s'.gate.inFlight = 0
  cycle : s'.gate.cycle = s.gate.cycle + 1
  outcomes : s'.outcomes = (s.gate.cycle, outcome) :: s.outcomes
  serving : last = false → s.gate.closed = false → s'.Serving
  retired : last = true → s'.Retired

theorem shut_afterWindow (sink : Sink σ) (s : State) (sinkState : σ) (last : Bool)
    (hfree : s.gate.inFlight = 0) :
    (runFlusher sink flusherSections (s.shut last, sinkState)).2 =
        (flushed sink s.pending sinkState).2 ∧
      AfterWindow s (runFlusher sink flusherSections (s.shut last, sinkState)).1
        (flushed sink s.pending sinkState).1 last := by
  rw [runFlusher_shut sink s sinkState last hfree]
  refine ⟨rfl, rfl, rfl, rfl, rfl, rfl, rfl, ?_, ?_⟩
  · rintro rfl hclosed
    simp [State.Serving, hclosed]
  · rintro rfl
    simp [State.Retired]

/-- The machine rests after a window, once its caller has returned. -/
theorem AfterWindow.resting {s s' : State} {outcome : Outcome} {last : Bool}
    (a : AfterWindow s s' outcome last) (hqueue : s.queue = [])
    (hended : ∀ p ∈ s.outcomes, p.1 < s.gate.cycle) (hclosed : s.gate.closed = false) :
    Resting s' where
  pending := a.pending
  queue := by rw [a.queue, hqueue]
  free := a.free
  ended := by
    intro p hp
    rw [a.outcomes] at hp
    rw [a.cycle]
    rcases List.mem_cons.1 hp with rfl | hp
    · exact Nat.lt_succ_self _
    · have hlt := hended p hp
      omega
  still := by
    cases last with
    | false => exact .inl (a.serving rfl hclosed)
    | true => exact .inr (a.retired rfl)

/-! ## Whole calls -/

section

variable {s : State}

/-- The timer starts a window of a machine that serves. -/
theorem step_tick (hidle : s.flusher = .idle) : step s .tick = s.shut false := by
  simp [step, hidle]

/-- **A submit that comes alone gets the reply of the sink to its delta.** -/
theorem submitAlone_serving (sink : Sink σ) (h : Resting s) (ho : s.Serving) (d : Delta)
    (sinkState : σ) :
    ∃ s', submitAlone sink d (s, sinkState) =
        (some (flushed sink d sinkState).1, s', (flushed sink d sinkState).2) ∧
      Resting s' ∧ s'.Serving := by
  let waiting : State :=
    { s with callers := s.callers ++ [⟨.submit d, .waiting s.gate.cycle⟩], pending := d }
  have harrive : arrive s (.submit d) = (s.callers.length, waiting) :=
    congrArg (Prod.mk s.callers.length) (settle_submit h ho d)
  have hanswer : waiting.answer? s.callers.length = none := by simp [waiting, State.answer?]
  -- It waits, so the timer starts a window, and nobody holds that up.
  have hwindow : window sink .tick (waiting, sinkState) =
      runFlusher sink flusherSections (waiting.shut false, sinkState) := by
    show runFlusher sink flusherSections (step waiting .tick, sinkState) = _
    rw [step_tick (s := waiting) ho.1]
  obtain ⟨hsink, a⟩ := shut_afterWindow sink waiting sinkState false h.free
  generalize runFlusher sink flusherSections (waiting.shut false, sinkState) = r at hwindow hsink a
  -- The outcome of the window is the latest one, and wakes the caller.
  have hwake := settle_wake a.callers (by rw [a.outcomes]; exact List.lookup_cons_self)
  refine ⟨{ r.1 with callers := s.callers ++ [⟨.submit d, .returned (flushed sink d sinkState).1⟩] },
    ?_, (a.resting h.queue h.ended ho.2.2).withCallers _, a.serving rfl ho.2.2⟩
  unfold submitAlone
  simp only [harrive, hanswer, hwindow]
  rw [hwake, hsink]
  simp [State.answer?, waiting]

/-- **A submit that comes after the last window is refused.** -/
theorem submitAlone_retired (sink : Sink σ) (h : Resting s) (hr : s.Retired) (d : Delta)
    (sinkState : σ) :
    ∃ s', submitAlone sink d (s, sinkState) = (some (.error .closed), s', sinkState) ∧
      Resting s' ∧ s'.Retired := by
  let refused : State := { s with callers := s.callers ++ [⟨.submit d, .returned (.error .closed)⟩] }
  have harrive : arrive s (.submit d) = (s.callers.length, refused) :=
    congrArg (Prod.mk s.callers.length) (settle_refused hr (.submit d) rfl)
  refine ⟨refused, ?_, h.withCallers _, hr⟩
  unfold submitAlone
  simp [harrive, refused, State.answer?]

/-- A machine that reads the only command that waits starts a window. -/
theorem obey_single (sink : Sink σ) {command : Command} (hidle : s.flusher = .idle)
    (sinkState : σ) :
    obey sink ({ s with queue := [command] }, sinkState) =
      runFlusher sink flusherSections
        ({ s with queue := [] }.shut (decide (command = Command.shutdown)), sinkState) := by
  simp [obey, window, step, hidle]

/-- A caller that has returned does nothing more. -/
theorem settle_returned {id : Nat} {task : Task} {outcome : Outcome}
    (hc : s.callers[id]? = some ⟨task, .returned outcome⟩) : settle s id = s := by
  simp [settle, callerSections, List.replicate, step, State.advance, hc]

/-- **The timer leaves a machine that rests**, and has called no sink. -/
theorem tick_rests (sink : Sink σ) (h : Resting s) (ho : s.Serving) (sinkState : σ) :
    Resting (window sink .tick (s, sinkState)).1 ∧ (window sink .tick (s, sinkState)).1.Serving ∧
      (window sink .tick (s, sinkState)).2 = sinkState := by
  have hwindow : window sink .tick (s, sinkState) =
      runFlusher sink flusherSections (s.shut false, sinkState) := by
    show runFlusher sink flusherSections (step s .tick, sinkState) = _
    rw [step_tick ho.1]
  obtain ⟨hsink, a⟩ := shut_afterWindow sink s sinkState false h.free
  rw [hwindow]
  exact ⟨a.resting h.queue h.ended ho.2.2, a.serving rfl ho.2.2,
    hsink.trans (h.untouched sink sinkState)⟩

/-- **A flush that comes alone leaves a machine that rests**, and has called no sink.  It has
nothing to wait for, or is refused. -/
theorem flushAlone_rests (sink : Sink σ) (h : Resting s) (sinkState : σ) :
    Resting (flushAlone sink (s, sinkState)).2.1 ∧
      (s.Serving → (flushAlone sink (s, sinkState)).2.1.Serving) ∧
      (flushAlone sink (s, sinkState)).2.2 = sinkState ∧
      ((flushAlone sink (s, sinkState)).1 = some (.ok ()) ∨
        (flushAlone sink (s, sinkState)).1 = some (.error .closed)) := by
  rcases h.still with ho | hr
  · -- The command of the flush starts its window.
    let waiting : State := { s with callers := s.callers ++ [⟨.flush, .waiting s.gate.cycle⟩] }
    have harrive : arrive s .flush = (s.callers.length, { waiting with queue := [.flush] }) :=
      congrArg (Prod.mk s.callers.length) (settle_flush h ho)
    have hwindow := @obey_single σ waiting sink .flush ho.1 sinkState
    obtain ⟨hsink, a⟩ := shut_afterWindow sink { waiting with queue := [] } sinkState false h.free
    have hflush : decide (Command.flush = Command.shutdown) = false := rfl
    rw [hflush] at hwindow
    generalize runFlusher sink flusherSections
      ({ waiting with queue := [] }.shut false, sinkState) = r at hwindow hsink a
    have hwake := settle_wake a.callers (by rw [a.outcomes]; exact List.lookup_cons_self)
    have hrest := a.resting rfl h.ended ho.2.2
    have hnothing : (flushed sink s.pending sinkState).1 = .ok () := by
      rw [h.pending]
      rfl
    unfold flushAlone
    simp only [harrive, hwindow]
    rw [hwake]
    refine ⟨hrest.withCallers _, fun _ => a.serving rfl ho.2.2,
      hsink.trans (h.untouched sink sinkState), .inl ?_⟩
    simpa [State.answer?] using hnothing
  · -- Nobody reads commands any more, and the flush has not sent one.
    let refused : State := { s with callers := s.callers ++ [⟨.flush, .returned (.error .closed)⟩] }
    have harrive : arrive s .flush = (s.callers.length, refused) :=
      congrArg (Prod.mk s.callers.length) (settle_refused hr .flush rfl)
    have hobey : obey sink (refused, sinkState) = (refused, sinkState) := by
      simp [obey, refused, h.queue]
    have hrest : Resting refused := h.withCallers _
    have hfound : refused.callers[s.callers.length]? = some ⟨.flush, .returned (.error .closed)⟩ := by
      simp [refused]
    have hsettle : settle refused s.callers.length = refused := settle_returned hfound
    unfold flushAlone
    simp only [harrive, hobey]
    rw [hsettle]
    exact ⟨hrest, id, trivial, .inr (by simp [State.answer?, hfound])⟩

/-- Who stops the flusher takes no part in a window. -/
theorem settle_shutdown (h : Resting s) :
    ∃ point, (point = .stopJoining ∨ ∃ stats, point = .stopped stats) ∧ ∃ joinable,
      settle { s with callers := s.callers ++ [⟨.shutdown, .stopSending⟩] } s.callers.length =
        { s with
          callers := s.callers ++ [⟨.shutdown, point⟩]
          queue := if s.hasExited then [] else [.shutdown]
          joinable } := by
  obtain ⟨gate, pending, queue, callers, flusher, outcomes, joinable, stats, handed⟩ := s
  have hqueue : queue = [] := h.queue
  subst hqueue
  -- Who comes first takes the handle of the flusher; later ones find none.
  cases joinable <;> cases flusher <;>
    simp [settle, callerSections, List.replicate, step, State.advance, State.moveTo,
      State.sendStop, State.hasExited, queueBound]

/-- Who stops the flusher is told once it has exited. -/
theorem settle_stopped {callers : List Caller} {point : Point}
    (hp : point = .stopJoining ∨ ∃ stats, point = .stopped stats)
    (hc : s.callers = callers ++ [⟨.shutdown, point⟩]) (hx : s.flusher = .exited) :
    ∃ told, settle s callers.length =
      { s with callers := callers ++ [⟨.shutdown, .stopped told⟩] } := by
  obtain ⟨gate, pending, queue, cs, flusher, outcomes, joinable, stats, handed⟩ := s
  have hcs : cs = callers ++ [⟨.shutdown, point⟩] := hc
  have hexited : flusher = .exited := hx
  subst hcs hexited
  rcases hp with rfl | ⟨told, rfl⟩
  · exact ⟨stats, by
      simp [settle, callerSections, List.replicate, step, State.advance, State.moveTo,
        State.hasExited]⟩
  · exact ⟨told, by
      simp [settle, callerSections, List.replicate, step, State.advance]⟩

/-- **A shutdown that comes alone leaves a machine that has retired**, has
called no sink, and gets the statistics. -/
theorem shutdownAlone_rests (sink : Sink σ) (h : Resting s) (sinkState : σ) :
    Resting (shutdownAlone sink (s, sinkState)).2.1 ∧
      (shutdownAlone sink (s, sinkState)).2.1.Retired ∧
        (shutdownAlone sink (s, sinkState)).2.2 = sinkState ∧
        ∃ told, (shutdownAlone sink (s, sinkState)).2.1.stats? s.callers.length = some told := by
  obtain ⟨point, hp, joinable, hsettle⟩ := settle_shutdown h
  let stopping : State := { s with callers := s.callers ++ [⟨.shutdown, point⟩], joinable }
  have hfound : ∀ (t : State) told, t.callers = s.callers ++ [⟨.shutdown, .stopped told⟩] →
      t.stats? s.callers.length = some told := by
    intro t told ht
    unfold State.stats?
    rw [ht, List.getElem?_concat_length]
  rcases h.still with ho | hr
  · -- Its command starts the last window, and then the flusher exits.
    have hexited : s.hasExited = false := by simp [State.hasExited, ho.1]
    rw [hexited] at hsettle
    have harrive : arrive s .shutdown = (s.callers.length, { stopping with queue := [.shutdown] }) :=
      congrArg (Prod.mk s.callers.length) hsettle
    have hwindow := @obey_single σ stopping sink .shutdown ho.1 sinkState
    obtain ⟨hsink, a⟩ := shut_afterWindow sink { stopping with queue := [] } sinkState true h.free
    have hshutdown : decide (Command.shutdown = Command.shutdown) = true := rfl
    rw [hshutdown] at hwindow
    generalize runFlusher sink flusherSections
      ({ stopping with queue := [] }.shut true, sinkState) = r at hwindow hsink a
    obtain ⟨told, hstopped⟩ := settle_stopped (s := r.1) hp a.callers (a.retired rfl).1
    have hrest := a.resting rfl h.ended ho.2.2
    unfold shutdownAlone
    simp only [harrive, hwindow]
    rw [hstopped]
    exact ⟨hrest.withCallers _, a.retired rfl, hsink.trans (h.untouched sink sinkState), told,
      hfound _ told rfl⟩
  · -- The flusher has exited before, so there is nothing to wait for.
    have hexited : s.hasExited = true := by simp [State.hasExited, hr.1]
    rw [hexited] at hsettle
    have harrive : arrive s .shutdown = (s.callers.length, { stopping with queue := [] }) :=
      congrArg (Prod.mk s.callers.length) hsettle
    have hobey : obey sink ({ stopping with queue := [] }, sinkState) =
        ({ stopping with queue := [] }, sinkState) := rfl
    obtain ⟨told, hstopped⟩ :=
      settle_stopped (s := { stopping with queue := [] }) hp rfl hr.1
    have hrest : Resting { stopping with
        queue := [], callers := s.callers ++ [⟨.shutdown, .stopped told⟩] } :=
      ⟨h.pending, rfl, h.free, h.ended, .inr hr⟩
    unfold shutdownAlone
    simp only [harrive, hobey]
    rw [hstopped]
    exact ⟨hrest, hr, trivial, told, hfound _ told rfl⟩

end

end Meterbank.Window
