/-
  Meterbank.Proofs.Window.Progress — the machine comes to rest without the timer.

  Every section that is neither a tick of the timer nor the coming of a
  caller uses up some of the work that is left: a caller is nearer to its
  return, a command has been read, or the flusher is nearer to the end of
  its window.  So the callers, the sink and the flusher come to rest by
  themselves.  At rest the flusher is idle or has exited, nobody is at the
  gate, and the only callers that wait are submits of the current window.

  Main results:
    * `step_work` — what a section without the timer does to the work.
    * `reaches_rest` — every state comes to rest without the timer.
    * `AtRest.flusher`, `AtRest.nobody`, `AtRest.waiting` — where everybody
      is when the machine is at rest.
-/
import Meterbank.Proofs.Window.Attending
import Meterbank.Proofs.Window.Landing

namespace Meterbank.Window

/-! ## Work -/

/-- Whether an event needs neither the timer nor another caller. -/
def Event.isOwn : Event → Bool
  | .advance _ | .receive | .proceed | .reply _ => true
  | .call _ | .tick => false

/-- What a command costs the flusher: more than a window has sections. -/
def commandWork : Nat := 8

/-- What is left to a caller, the command that it may send included. -/
def Point.work : Point → Nat
  | .returned _ | .stopped _ => 0
  | .waiting _ | .stopJoining => 1
  | .stopTaking => 2
  | .sending _ | .stopSending => 3 + commandWork
  | .leaving _ _ => 4 + commandWork
  | .mergingGauges _ => 5 + commandWork
  | .mergingCounters _ => 6 + commandWork
  | .entering => 7 + commandWork

/-- What is left to the flusher of its window. -/
def Flusher.work : Flusher → Nat
  | .idle | .exited => 0
  | .reopening _ => 1
  | .completing _ _ _ => 2
  | .calling _ _ _ => 3
  | .takingCounters _ _ _ => 4
  | .takingGauges _ _ => 5
  | .draining _ => 6

/-- What is left to all callers. -/
def callersWork (callers : List Caller) : Nat :=
  callers.foldr (fun c rest => c.point.work + rest) 0

/-- The work that is left. -/
def State.work (s : State) : Nat :=
  callersWork s.callers + commandWork * s.queue.length + s.flusher.work

/-- The work of all callers after one of them has moved. -/
theorem callersWork_set {l : List Caller} {i : Nat} {old : Caller} (h : l[i]? = some old)
    (new : Caller) :
    callersWork (l.set i new) + old.point.work = callersWork l + new.point.work := by
  induction l generalizing i with
  | nil => exact absurd h (by simp)
  | cons x xs ih =>
    cases i with
    | zero =>
      have hx : x = old := by simpa using h
      subst hx
      simp only [callersWork, List.set_cons_zero, List.foldr_cons]
      omega
    | succ i =>
      have hxs := ih (i := i) (by simpa using h)
      simp only [callersWork, List.set_cons_succ, List.foldr_cons] at hxs ⊢
      omega

section

variable {s s' : State}

/-- A caller that moves uses up work, also if it sends a command. -/
theorem Moves.work_lt {id : Nat} {c : Caller} {point : Point} (m : Moves s s' id c point)
    (h : point.work + commandWork * s'.queue.length <
      c.point.work + commandWork * s.queue.length) : s'.work < s.work := by
  have hset := callersWork_set m.found { c with point }
  unfold State.work
  rw [m.callers, m.flusher]
  simp only at hset
  omega

/-- A flusher that goes on uses up work. -/
theorem work_lt_of_flusher (hcallers : s'.callers = s.callers) (hqueue : s'.queue = s.queue)
    (h : s'.flusher.work < s.flusher.work) : s'.work < s.work := by
  unfold State.work
  rw [hcallers, hqueue]
  omega

/-- **A section uses up work, unless somebody comes or the flusher begins
a window without a command.** -/
theorem Section.work {n : Option Notice} (hs : Section s n s') :
    s' = s ∨ s'.work < s.work ∨ s'.callers.length = s.callers.length + 1 ∨
      s.flusher = .idle ∧ s'.flusher ≠ .idle ∧ s'.queue = s.queue := by
  cases hs with
  | stay => exact .inl rfl
  | come task =>
    right; right; left
    exact List.length_append
  | refuse hc hp _ | leaveRefused hc hp =>
    right; left
    refine Moves.work_lt ⟨hc, rfl, rfl, rfl, rfl, rfl, rfl, rfl⟩ ?_
    rw [hp]
    simp [Point.work, State.moveTo, commandWork]
  | @pass id c hc hp _ _ =>
    right; left
    refine Moves.work_lt ⟨hc, rfl, rfl, rfl, rfl, rfl, rfl, rfl⟩ ?_
    rw [hp]
    cases c.task <;> simp [Task.passed, Point.work, State.moveTo]
  | count hc hp _ _ | overflow hc hp _ _ | merge hc hp _ | wake hc hp _ | takeJoin hc hp _
  | missJoin hc hp _ | join hc hp _ =>
    right; left
    refine Moves.work_lt ⟨hc, rfl, rfl, rfl, rfl, rfl, rfl, rfl⟩ ?_
    rw [hp]
    simp [Point.work, State.moveTo]
  | @leave id cycle c hc hp =>
    right; left
    refine Moves.work_lt ⟨hc, rfl, rfl, rfl, rfl, rfl, rfl, rfl⟩ ?_
    rw [hp]
    cases c.task <;> simp [Task.left, Point.work, State.moveTo, commandWork]
  | @send id cycle c queue hc hp hq =>
    right; left
    refine Moves.work_lt ⟨hc, rfl, rfl, rfl, rfl, rfl, rfl, rfl⟩ ?_
    have hlength : queue.length ≤ s.queue.length + 1 := by
      rw [hq]
      split <;> simp
    rw [hp]
    simp only [Point.work, commandWork]
    omega
  | @tell id c queue hc hp hq =>
    right; left
    refine Moves.work_lt ⟨hc, rfl, rfl, rfl, rfl, rfl, rfl, rfl⟩ ?_
    have hlength : queue.length ≤ s.queue.length + 1 := by
      rcases hq with ⟨-, hq⟩ | ⟨-, -, hq⟩
      · rw [hq]
        omega
      · rw [hq]
        simp
    have htold : c.task.told.work ≤ 2 := by cases c.task <;> simp [Task.told, Point.work]
    have hbefore : c.point.work = 3 + commandWork := by rw [hp]; rfl
    unfold commandWork at hbefore ⊢
    show c.task.told.work + 8 * queue.length < c.point.work + 8 * s.queue.length
    omega
  | @shut last queue hf hq =>
    right
    rcases hq with ⟨-, hq⟩ | ⟨command, hq, -⟩
    · right; right
      exact ⟨hf, by simp [State.shutGate], hq⟩
    · -- The command that was read pays for the window.
      left
      simp only [State.work, State.shutGate, hf, hq, List.length_cons, Flusher.work, commandWork]
      omega
  | swap hf _ =>
    exact .inr (.inl (work_lt_of_flusher rfl rfl (by simp [State.swap, hf, Flusher.work])))
  | takeGauges hf | takeNothing hf _ _ | hand hf _ _ | reply _ _ hf | publish hf =>
    exact .inr (.inl (work_lt_of_flusher rfl rfl (by simp [hf, Flusher.work])))
  | @reopen last hf =>
    refine .inr (.inl (work_lt_of_flusher rfl rfl ?_))
    rw [hf]
    cases last <;> simp [Flusher.work]

/-- A section after which nobody has come, of a flusher that begins nothing. -/
theorem Section.work_own {n : Option Notice} (hs : Section s n s')
    (hlength : s'.callers.length = s.callers.length)
    (hflusher : s.flusher = .idle → s'.flusher = .idle) : s' = s ∨ s'.work < s.work := by
  rcases hs.work with h | h | h | ⟨hidle, hbusy, -⟩
  · exact .inl h
  · exact .inr h
  · omega
  · exact absurd (hflusher hidle) hbusy

/-! ## Events without the timer -/

/-- A caller that goes on leaves the flusher where it is. -/
theorem advance_flusher (s : State) (id : Nat) : (s.advance id).flusher = s.flusher := by
  rcases advance_moves s id with hsame | ⟨c, point, m⟩
  · rw [hsame]
  · exact m.flusher

theorem advance_length (s : State) (id : Nat) :
    (s.advance id).callers.length = s.callers.length := by
  have htasks := congrArg List.length (advance_tasks s id)
  simpa [State.tasks] using htasks

/-- **An event that needs no timer uses up work, or changes nothing.** -/
theorem step_work (s : State) {e : Event} (he : e.isOwn = true) :
    step s e = s ∨ (step s e).work < s.work := by
  cases e with
  | call task => exact absurd he (by simp [Event.isOwn])
  | tick => exact absurd he (by simp [Event.isOwn])
  | advance id =>
    refine (advance_section s id).work_own (advance_length s id) ?_
    intro hidle
    rw [advance_flusher, hidle]
  | proceed =>
    have hlength : s.proceed.callers.length = s.callers.length := by
      unfold State.proceed State.taken State.swap
      split
      · split <;> rfl
      · rfl
      · simp only
        split <;> rfl
      · rfl
      · rfl
      · rfl
    refine (proceed_section s).work_own hlength ?_
    intro hidle
    simp [State.proceed, hidle]
  | reply reply =>
    cases hf : s.flusher with
    | calling last cycle delta =>
      right
      refine work_lt_of_flusher ?_ ?_ ?_ <;> simp [step, State.replied, hf, Flusher.work]
    | _ =>
      left
      simp [step, State.replied, hf]
  | receive =>
    cases hf : s.flusher with
    | idle =>
      cases hq : s.queue with
      | nil =>
        left
        simp [step, hf, hq]
      | cons command queue =>
        right
        have hstep : step s .receive =
            { s with queue }.shut (decide (command = Command.shutdown)) := by
          simp only [step, hf, hq]
        -- Whether or not it has to wait, the command that was read pays for it.
        rw [hstep]
        unfold State.shut
        simp only
        split <;>
        · simp only [State.work, State.swap, hf, hq, List.length_cons, Flusher.work, commandWork]
          omega
    | _ =>
      left
      simp [step, hf]

/-! ## Rest -/

/-- Nothing goes on without the timer or another caller. -/
def State.AtRest (s : State) : Prop := ∀ e : Event, e.isOwn = true → step s e = s

/-- **Every state comes to rest without the timer.** -/
theorem reaches_rest (s : State) :
    ∃ events, (∀ e ∈ events, Event.isOwn e = true) ∧ (run step s events).AtRest := by
  induction hw : s.work using Nat.strongRecOn generalizing s with
  | ind w ih =>
    by_cases hrest : s.AtRest
    · refine ⟨[], ?_, hrest⟩
      intro e he
      exact absurd he (by simp)
    · -- Some event goes on, and leaves less to do.
      unfold State.AtRest at hrest
      push Not at hrest
      obtain ⟨e, he, hstep⟩ := hrest
      have hlt : (step s e).work < w := by
        rw [← hw]
        exact (step_work s he).resolve_left hstep
      obtain ⟨events, hown, hrests⟩ := ih _ hlt (step s e) rfl
      refine ⟨e :: events, ?_, hrests⟩
      intro x hx
      rcases List.mem_cons.1 hx with rfl | hx
      · exact he
      · exact hown x hx

namespace State.AtRest

/-- At rest the flusher is at no window, unless it waits for callers to
leave. -/
theorem flusher (h : s.AtRest) :
    s.flusher = .idle ∧ s.queue = [] ∨ s.flusher = .exited ∨
      s.flusher.isDraining = true ∧ s.gate.inFlight ≠ 0 := by
  have hproceed : s.proceed.flusher = s.flusher := congrArg State.flusher (h .proceed rfl)
  have hreply : (s.replied .panicked).flusher = s.flusher :=
    congrArg State.flusher (h (.reply .panicked) rfl)
  cases hf : s.flusher with
  | idle =>
    refine .inl ⟨rfl, ?_⟩
    cases hq : s.queue with
    | nil => rfl
    | cons command queue =>
      have hstep : step s .receive =
          { s with queue }.shut (decide (command = Command.shutdown)) := by
        simp only [step, hf, hq]
      have hsame := congrArg State.flusher ((hstep.symm.trans (h .receive rfl)))
      unfold State.shut at hsame
      simp only at hsame
      rw [hf] at hsame
      split at hsame <;> exact absurd hsame (by simp [State.swap])
  | exited => exact .inr (.inl rfl)
  | draining last =>
    refine .inr (.inr ⟨rfl, ?_⟩)
    intro hzero
    simp only [State.proceed, hf, if_pos hzero] at hproceed
    exact absurd hproceed (by simp [State.swap])
  | takingGauges last cycle | completing last cycle outcome =>
    simp only [State.proceed, hf] at hproceed
    exact absurd hproceed (by simp)
  | takingCounters last cycle gauges =>
    simp only [State.proceed, hf, State.taken] at hproceed
    split at hproceed <;> exact absurd hproceed (by simp)
  | calling last cycle delta =>
    simp only [State.replied, hf] at hreply
    exact absurd hreply (by simp)
  | reopening last =>
    simp only [State.proceed, hf] at hproceed
    cases last <;> exact absurd hproceed (by simp)

variable {id : Nat} {c : Caller}

/-- At rest no caller goes on to another point. -/
theorem point (h : s.AtRest) (hc : s.callers[id]? = some c) (point : Point)
    (hmoved : (s.advance id).callers = s.callers.set id { c with point }) : c.point = point := by
  have hsame : s.advance id = s := h (.advance id) rfl
  have hlt := (List.getElem?_eq_some_iff.1 hc).1
  have hself : s.callers[id]? = some { c with point } := by
    rw [hsame] at hmoved
    rw [hmoved, List.getElem?_set_self hlt]
  rw [hc, Option.some.injEq] at hself
  rw [hself]

/-- At rest nobody is registered. -/
theorem nobody (h : s.AtRest) (hc : s.callers[id]? = some c)
    (ht : ∀ cycle, c.point = .mergingCounters cycle ∨ c.point = .mergingGauges cycle →
      ∃ delta, c.task = .submit delta) : c.point.joined? = none := by
  cases hp : c.point with
  | mergingCounters cycle =>
    obtain ⟨delta, hd⟩ := ht cycle (.inl hp)
    -- Whether its delta fits or not, the caller goes on.
    cases hm : s.pending.mergeCounters delta with
    | ok pending =>
      have hpoint := h.point hc (.mergingGauges cycle)
        (by simp [State.advance, hc, hp, hd, hm, State.moveTo])
      rw [hp] at hpoint
      exact absurd hpoint (by simp)
    | error e =>
      have hpoint := h.point hc (.leaving cycle (some e))
        (by simp [State.advance, hc, hp, hd, hm, State.moveTo])
      rw [hp] at hpoint
      exact absurd hpoint (by simp)
  | mergingGauges cycle =>
    obtain ⟨delta, hd⟩ := ht cycle (.inr hp)
    have hpoint := h.point hc (.leaving cycle none)
      (by simp [State.advance, hc, hp, hd, State.moveTo])
    rw [hp] at hpoint
    exact absurd hpoint (by simp)
  | leaving cycle refusal =>
    cases refusal with
    | some e =>
      have hpoint := h.point hc (.returned (.error e))
        (by simp [State.advance, hc, hp, State.leave, State.moveTo])
      rw [hp] at hpoint
      exact absurd hpoint (by simp)
    | none =>
      have hpoint := h.point hc (c.task.left cycle)
        (by cases ht : c.task <;>
          simp [State.advance, hc, hp, ht, State.leave, State.moveTo, Task.left])
      rw [hp] at hpoint
      cases ht : c.task <;> rw [ht] at hpoint <;> exact absurd hpoint (by simp [Task.left])
  | _ => rfl

/-- At rest nobody waits for an outcome that is known. -/
theorem waiting (h : s.AtRest) (hc : s.callers[id]? = some c) {cycle : Nat}
    (hp : c.point = .waiting cycle) : s.published cycle = false := by
  unfold State.published
  cases ho : s.outcomes.lookup cycle with
  | none => rfl
  | some outcome =>
    have hpoint := h.point hc (.returned outcome)
      (by simp [State.advance, hc, hp, ho, State.moveTo])
    rw [hp] at hpoint
    exact absurd hpoint (by simp)

end State.AtRest

end

end Meterbank.Window
