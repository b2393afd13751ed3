/-
  Meterbank.Proofs.Window.Sections — what one section can do.

  `Section s n s'` lists every way the machine can go on from `s`, with its
  guard and its effect, and with the notice an onlooker would take of it.
  A notice is one entry of the chronicle of a run: who passed the gate in
  which window, what was merged, handed over, replied, published and
  returned, in the order in which it happened.

  Invariants are proved from the list and never from `step` itself.

  Main results:
    * `step_sections` — each event is at most two sections, the first of
      them unnoticed.
    * `run_induction` — what holds at the start and is kept by every
      section holds of every run and its chronicle.
-/
import Meterbank.Window.Machine

namespace Meterbank.Window

/-! ## Notices -/

/-- Something that happened, as an onlooker sees it. -/
inductive Notice where
  /-- A caller passed the gate and joined this window. -/
  | passed (id cycle : Nat)
  /-- The whole delta of a caller is in the pending tables. -/
  | merged (id cycle : Nat) (delta : Delta)
  /-- The sink was given the delta of a window. -/
  | handed (cycle : Nat) (delta : Delta)
  /-- The call of the sink ended. -/
  | replied (cycle : Nat) (reply : Reply)
  /-- The outcome of a window was published. -/
  | published (cycle : Nat) (outcome : Outcome)
  /-- A caller returned from a submit or a flush. -/
  | returned (id : Nat) (outcome : Outcome)

/-- What is noticed of the next section of a caller. -/
def State.callerNotice (s : State) (id : Nat) (c : Caller) : Option Notice :=
  match c.point, c.task with
  | .entering, _ =>
    if s.gate.closed then some (.returned id (.error .closed))
    else if s.gate.isOpen then some (.passed id s.gate.cycle)
    else none
  | .mergingGauges cycle, .submit delta => some (.merged id cycle delta)
  | .leaving _ (some e), _ => some (.returned id (.error e))
  | .waiting cycle, _ => (s.outcomes.lookup cycle).map (.returned id)
  | _, _ => none

/-- What is noticed of the next section of the flusher. -/
def State.flusherNotice (s : State) : Option Notice :=
  match s.flusher with
  | .takingCounters _ cycle gauges =>
    let delta : Delta := ⟨gauges, s.pending.counters⟩
    if delta.isEmpty then none else some (.handed cycle delta)
  | .completing _ cycle outcome => some (.published cycle outcome)
  | _ => none

/-- What is noticed of an event. -/
def notice (s : State) : Event → Option Notice
  | .advance id =>
    match s.callers[id]? with
    | some c => s.callerNotice id c
    | none => none
  | .proceed => s.flusherNotice
  | .reply reply =>
    match s.flusher with
    | .calling _ cycle _ => some (.replied cycle reply)
    | _ => none
  | _ => none

/-- What is noticed of a run, oldest first. -/
def chronicle (s : State) (events : List Event) : List Notice :=
  record (fun s e => (notice s e).toList) step s events

/-- The chronicle of a longer run goes on where that of the shorter ends. -/
theorem chronicle_append (s : State) (es fs : List Event) :
    chronicle s (es ++ fs) = chronicle s es ++ chronicle (run step s es) fs :=
  record_append _ _ s es fs

/-! ## Where a caller goes -/

/-- Where a caller is once it has passed the gate. -/
def Task.passed (task : Task) (cycle : Nat) : Point :=
  match task with
  | .submit _ => .mergingCounters cycle
  | _ => .leaving cycle none

/-- Where a caller is once it has left with nothing refused. -/
def Task.left (task : Task) (cycle : Nat) : Point :=
  match task with
  | .flush => .sending cycle
  | _ => .waiting cycle

/-- Where a caller is once the flusher has been told to stop. -/
def Task.told (task : Task) : Point :=
  match task with
  | .abandon => .returned (.ok ())
  | _ => .stopTaking

/-! ## Sections -/

/-- The state after the flusher has shut the gate. -/
def State.shutGate (s : State) (last : Bool) (queue : List Command) : State :=
  { s with
    gate := { s.gate with isOpen := false, closed := s.gate.closed || last }
    queue
    flusher := .draining last }

/-- Every way to go on, with what is noticed of it. -/
inductive Section (s : State) : Option Notice → State → Prop where
  | stay : Section s none s
  | come (task : Task) : Section s none { s with callers := s.callers ++ [⟨task, task.start⟩] }
  -- callers at the gate
  | refuse {id : Nat} {c : Caller} (hc : s.callers[id]? = some c) (hp : c.point = .entering)
      (hg : s.gate.closed = true) :
      Section s (some (.returned id (.error .closed)))
        (s.moveTo id c (.returned (.error .closed)))
  | pass {id : Nat} {c : Caller} (hc : s.callers[id]? = some c) (hp : c.point = .entering)
      (hclosed : s.gate.closed = false) (hopen : s.gate.isOpen = true) :
      Section s (some (.passed id s.gate.cycle))
        { s.moveTo id c (c.task.passed s.gate.cycle) with
          gate := { s.gate with inFlight := s.gate.inFlight + 1 } }
  | count {id cycle : Nat} {c : Caller} {delta pending : Delta} (hc : s.callers[id]? = some c)
      (hp : c.point = .mergingCounters cycle) (ht : c.task = .submit delta)
      (hm : s.pending.mergeCounters delta = .ok pending) :
      Section s none { s.moveTo id c (.mergingGauges cycle) with pending }
  | overflow {id cycle : Nat} {c : Caller} {delta : Delta} {e : StoreError}
      (hc : s.callers[id]? = some c) (hp : c.point = .mergingCounters cycle)
      (ht : c.task = .submit delta) (hm : s.pending.mergeCounters delta = .error e) :
      Section s none (s.moveTo id c (.leaving cycle (some e)))
  | merge {id cycle : Nat} {c : Caller} {delta : Delta} (hc : s.callers[id]? = some c)
      (hp : c.point = .mergingGauges cycle) (ht : c.task = .submit delta) :
      Section s (some (.merged id cycle delta))
        { s.moveTo id c (.leaving cycle none) with pending := s.pending.mergeGauges delta }
  | leaveRefused {id cycle : Nat} {c : Caller} {e : StoreError} (hc : s.callers[id]? = some c)
      (hp : c.point = .leaving cycle (some e)) :
      Section s (some (.returned id (.error e)))
        { s.moveTo id c (.returned (.error e)) with
          gate := { s.gate with inFlight := s.gate.inFlight - 1 } }
  | leave {id cycle : Nat} {c : Caller} (hc : s.callers[id]? = some c)
      (hp : c.point = .leaving cycle none) :
      Section s none
        { s.moveTo id c (c.task.left cycle) with
          gate := { s.gate with inFlight := s.gate.inFlight - 1 } }
  -- callers that wait
  | send {id cycle : Nat} {c : Caller} {queue : List Command} (hc : s.callers[id]? = some c)
      (hp : c.point = .sending cycle)
      (hq : queue = if s.hasExited = false ∧ s.queue.length < queueBound
        then s.queue ++ [.flush] else s.queue) :
      Section s none { s.moveTo id c (.waiting cycle) with queue }
  | wake {id cycle : Nat} {c : Caller} {outcome : Outcome} (hc : s.callers[id]? = some c)
      (hp : c.point = .waiting cycle) (ho : s.outcomes.lookup cycle = some outcome) :
      Section s (some (.returned id outcome)) (s.moveTo id c (.returned outcome))
  -- callers that stop the flusher
  | tell {id : Nat} {c : Caller} {queue : List Command} (hc : s.callers[id]? = some c)
      (hp : c.point = .stopSending)
      (hq : s.hasExited = true ∧ queue = s.queue ∨
        s.hasExited = false ∧ s.queue.length < queueBound ∧ queue = s.queue ++ [.shutdown]) :
      Section s none { s.moveTo id c c.task.told with queue }
  | takeJoin {id : Nat} {c : Caller} (hc : s.callers[id]? = some c) (hp : c.point = .stopTaking)
      (hj : s.joinable = true) :
      Section s none { s.moveTo id c .stopJoining with joinable := false }
  | missJoin {id : Nat} {c : Caller} (hc : s.callers[id]? = some c) (hp : c.point = .stopTaking)
      (hj : s.joinable = false) :
      Section s none (s.moveTo id c (.stopped .zero))
  | join {id : Nat} {c : Caller} (hc : s.callers[id]? = some c) (hp : c.point = .stopJoining)
      (hx : s.hasExited = true) :
      Section s none (s.moveTo id c (.stopped s.stats))
  -- the flusher
  | shut {last : Bool} {queue : List Command} (hf : s.flusher = .idle)
      (hq : last = false ∧ queue = s.queue ∨
        ∃ command, s.queue = command :: queue ∧ last = decide (command = Command.shutdown)) :
      Section s none (s.shutGate last queue)
  | swap {last : Bool} (hf : s.flusher = .draining last) (hd : s.gate.inFlight = 0) :
      Section s none (s.swap last)
  | takeGauges {last : Bool} {cycle : Nat} (hf : s.flusher = .takingGauges last cycle) :
      Section s none
        { s with
          pending := { s.pending with gauges := ∅ }
          flusher := .takingCounters last cycle s.pending.gauges }
  | takeNothing {last : Bool} {cycle : Nat} {delta : Delta}
      (hf : s.flusher = .takingCounters last cycle delta.gauges)
      (hd : delta.counters = s.pending.counters) (he : delta.isEmpty = true) :
      Section s none
        { s with
          pending := { s.pending with counters := ∅ }
          stats := { s.stats with cycles := s.stats.cycles + 1 }
          flusher := .completing last cycle (.ok ()) }
  | hand {last : Bool} {cycle : Nat} {delta : Delta}
      (hf : s.flusher = .takingCounters last cycle delta.gauges)
      (hd : delta.counters = s.pending.counters) (he : delta.isEmpty = false) :
      Section s (some (.handed cycle delta))
        { s with
          pending := { s.pending with counters := ∅ }
          stats := { s.stats with cycles := s.stats.cycles + 1, flushes := s.stats.flushes + 1 }
          handed := s.handed ++ [(cycle, delta)]
          flusher := .calling last cycle delta }
  | reply {last : Bool} {cycle : Nat} {delta : Delta} (reply : Reply) (stats : Stats)
      (hf : s.flusher = .calling last cycle delta) :
      Section s (some (.replied cycle reply))
        { s with stats, flusher := .completing last cycle reply.outcome }
  | publish {last : Bool} {cycle : Nat} {outcome : Outcome}
      (hf : s.flusher = .completing last cycle outcome) :
      Section s (some (.published cycle outcome))
        { s with outcomes := (cycle, outcome) :: s.outcomes, flusher := .reopening last }
  | reopen {last : Bool} (hf : s.flusher = .reopening last) :
      Section s none
        { s with
          gate := if s.gate.closed then s.gate else { s.gate with isOpen := true }
          flusher := if last then .exited else .idle }

/-! ## Events are sections -/

theorem enter_section (s : State) {id : Nat} {c : Caller} (hc : s.callers[id]? = some c)
    (hp : c.point = .entering) : Section s (s.callerNotice id c) (s.enter id c) := by
  unfold State.callerNotice State.enter
  rw [hp]
  simp only
  by_cases hclosed : s.gate.closed = true
  · rw [if_pos hclosed, if_pos hclosed]
    exact .refuse hc hp hclosed
  · rw [if_neg hclosed, if_neg hclosed]
    by_cases hopen : s.gate.isOpen = true
    · rw [if_pos hopen, if_pos hopen]
      exact .pass hc hp (by simpa using hclosed) hopen
    · rw [if_neg hopen, if_neg hopen]
      exact .stay

theorem leave_section (s : State) {id cycle : Nat} {c : Caller} {refusal : Option StoreError}
    (hc : s.callers[id]? = some c) (hp : c.point = .leaving cycle refusal) :
    Section s (s.callerNotice id c) (s.leave id c cycle refusal) := by
  unfold State.callerNotice State.leave
  rw [hp]
  cases refusal with
  | some e => exact .leaveRefused hc hp
  | none =>
    -- A flush goes on to send its command, any other task waits at once.
    have h := Section.leave hc hp
    unfold Task.left at h
    cases ht : c.task <;> rw [ht] at h <;> exact h

theorem send_section (s : State) {id cycle : Nat} {c : Caller} (hc : s.callers[id]? = some c)
    (hp : c.point = .sending cycle) : Section s none (s.send id c cycle) := by
  unfold State.send
  simp only
  by_cases hq : s.hasExited = false ∧ s.queue.length < queueBound
  · rw [if_pos hq]
    exact .send hc hp (by rw [if_pos hq])
  · rw [if_neg hq]
    have hsame : s.queue = if s.hasExited = false ∧ s.queue.length < queueBound
        then s.queue ++ [.flush] else s.queue := by rw [if_neg hq]
    exact .send hc hp hsame

theorem tell_section (s : State) {id : Nat} {c : Caller} (hc : s.callers[id]? = some c)
    (hp : c.point = .stopSending) : Section s none (s.sendStop id c) := by
  -- Told or not, every task goes on from here in its own way.
  have htold : s.sendStop id c =
      if s.hasExited then s.moveTo id c c.task.told
      else if s.queue.length < queueBound then
        { s.moveTo id c c.task.told with queue := s.queue ++ [.shutdown] }
      else s := by
    unfold State.sendStop Task.told
    cases c.task <;> rfl
  rw [htold]
  split
  · next hx =>
    have hsame : s.hasExited = true ∧ s.queue = s.queue ∨ s.hasExited = false ∧
        s.queue.length < queueBound ∧ s.queue = s.queue ++ [.shutdown] := .inl ⟨hx, rfl⟩
    exact .tell hc hp hsame
  · next hx =>
    split
    · next hroom => exact .tell hc hp (.inr ⟨by simpa using hx, hroom, rfl⟩)
    · exact .stay

/-- The next step of a caller is a section. -/
theorem advance_section (s : State) (id : Nat) :
    Section s (notice s (.advance id)) (s.advance id) := by
  unfold State.advance
  rw [notice]
  cases hc : s.callers[id]? with
  | none => exact .stay
  | some c =>
    simp only
    cases hp : c.point with
    | entering => exact enter_section s hc hp
    | mergingCounters cycle =>
      cases ht : c.task with
      | submit delta =>
        simp only [State.callerNotice, hp, ht]
        cases hm : s.pending.mergeCounters delta with
        | ok pending => exact .count hc hp ht hm
        | error e => exact .overflow hc hp ht hm
      | _ =>
        simp only [State.callerNotice, hp, ht]
        exact .stay
    | mergingGauges cycle =>
      cases ht : c.task with
      | submit delta =>
        simp only [State.callerNotice, hp, ht]
        exact .merge hc hp ht
      | _ =>
        simp only [State.callerNotice, hp, ht]
        exact .stay
    | leaving cycle refusal => exact leave_section s hc hp
    | sending cycle =>
      simp only [State.callerNotice, hp]
      exact send_section s hc hp
    | waiting cycle =>
      simp only [State.callerNotice, hp]
      cases ho : s.outcomes.lookup cycle with
      | some outcome => exact .wake hc hp ho
      | none => exact .stay
    | stopSending =>
      simp only [State.callerNotice, hp]
      exact tell_section s hc hp
    | stopTaking =>
      simp only [State.callerNotice, hp]
      by_cases hj : s.joinable = true
      · rw [if_pos hj]
        exact .takeJoin hc hp hj
      · rw [if_neg hj]
        exact .missJoin hc hp (by simpa using hj)
    | stopJoining =>
      simp only [State.callerNotice, hp]
      by_cases hx : s.hasExited = true
      · rw [if_pos hx]
        exact .join hc hp hx
      · rw [if_neg hx]
        exact .stay
    | returned outcome | stopped stats =>
      simp only [State.callerNotice, hp]
      exact .stay

/-- The next step of the busy flusher is a section. -/
theorem proceed_section (s : State) : Section s s.flusherNotice s.proceed := by
  unfold State.flusherNotice State.proceed
  cases hf : s.flusher with
  | draining last =>
    simp only
    by_cases hd : s.gate.inFlight = 0
    · rw [if_pos hd]
      exact .swap hf hd
    · rw [if_neg hd]
      exact .stay
  | takingGauges last cycle => exact .takeGauges hf
  | takingCounters last cycle gauges =>
    simp only [State.taken]
    by_cases he : (⟨gauges, s.pending.counters⟩ : Delta).isEmpty = true
    · rw [if_pos he, if_pos he]
      exact @Section.takeNothing s last cycle ⟨gauges, s.pending.counters⟩ hf rfl he
    · rw [if_neg he, if_neg he]
      exact @Section.hand s last cycle ⟨gauges, s.pending.counters⟩ hf rfl (by simpa using he)
  | completing last cycle outcome => exact .publish hf
  | reopening last => exact .reopen hf
  | _ => exact .stay

/-- Shutting the gate is a section, and so is going on at once. -/
theorem shut_sections (s : State) (last : Bool) (queue : List Command) (hf : s.flusher = .idle)
    (hq : last = false ∧ queue = s.queue ∨
      ∃ command, s.queue = command :: queue ∧ last = decide (command = Command.shutdown)) :
    ∃ mid, Section s none mid ∧ Section mid none ({ s with queue }.shut last) := by
  refine ⟨s.shutGate last queue, .shut hf hq, ?_⟩
  unfold State.shut
  simp only
  by_cases hd : s.gate.inFlight = 0
  · rw [if_pos hd]
    exact Section.swap (s := s.shutGate last queue) rfl hd
  · rw [if_neg hd]
    exact .stay

/-- **Each event is at most two sections, the first of them unnoticed.** -/
theorem step_sections (s : State) (e : Event) :
    ∃ mid, Section s none mid ∧ Section mid (notice s e) (step s e) := by
  cases e with
  | call task => exact ⟨s, .stay, .come task⟩
  | advance id => exact ⟨s, .stay, advance_section s id⟩
  | tick =>
    rw [step]
    split
    · next hf => exact shut_sections s false s.queue hf (.inl ⟨rfl, rfl⟩)
    · exact ⟨s, .stay, .stay⟩
  | receive =>
    rw [step]
    split
    · next command queue hf hq =>
      exact shut_sections s _ queue hf (.inr ⟨command, hq, rfl⟩)
    · exact ⟨s, .stay, .stay⟩
  | proceed => exact ⟨s, .stay, proceed_section s⟩
  | reply reply =>
    refine ⟨s, .stay, ?_⟩
    rw [step, notice]
    unfold State.replied
    cases hf : s.flusher with
    | calling last cycle delta => exact .reply reply _ hf
    | _ => exact .stay

/-! ## Runs -/

/-- What every section keeps, a whole run keeps. -/
theorem sections_keep {P : State → List Notice → Prop}
    (keeps : ∀ s log n s', P s log → Section s n s' → P s' (log ++ n.toList))
    (s : State) (log : List Notice) (start : P s log) (events : List Event) :
    P (run step s events) (log ++ chronicle s events) := by
  refine run_keeps_record (fun s log e h => ?_) start events
  -- The first of the two sections is not noticed, the second makes the notice.
  obtain ⟨mid, h₁, h₂⟩ := step_sections s e
  have hmid : P mid log := by
    have h' := keeps s log none mid h h₁
    rwa [Option.toList_none, List.append_nil] at h'
  exact keeps mid log (notice s e) (step s e) hmid h₂

/-- **What holds at the start and is kept by every section holds of every
run and its chronicle.** -/
theorem run_induction {P : State → List Notice → Prop} (start : P State.init [])
    (keeps : ∀ s log n s', P s log → Section s n s' → P s' (log ++ n.toList))
    (events : List Event) : P (run step State.init events) (chronicle State.init events) := by
  have h := sections_keep keeps State.init [] start events
  rwa [List.nil_append] at h

end Meterbank.Window
