/-
  Meterbank.Proofs.Window.Unstranded — nobody waits for ever.

  For every interleaving of callers, flusher, timer and commands, and for
  every sequence of replies of the sink, its panics included: whoever
  waits has somebody who will wake it; a flusher that has exited leaves
  the gate closed and no window without an outcome; and a flush, whether
  or not there was room for its command, gets its answer without the
  timer.

  Main result:
    * `run_strands_nobody` — all of this, of every run.
-/
import Meterbank.Proofs.Window.Progress

namespace Meterbank.Window

variable {s s' : State}

/-! ## What becomes of one caller -/

/-- How a caller may go on from a point, as far as waiting is concerned:
nobody passes a closed gate, who waits can only return, and who has
returned stays so. -/
structure State.Follows (s : State) (old new : Point) : Prop where
  entering : old = .entering →
    new = .entering ∨ new = .returned (.error .closed) ∨ s.gate.closed = false
  waiting : ∀ cycle, old = .waiting cycle →
    new = .waiting cycle ∨ ∃ outcome, new = .returned outcome
  returned : ∀ outcome, old = .returned outcome → new = .returned outcome

/-- A caller that stays follows. -/
theorem State.Follows.refl (s : State) (p : Point) : s.Follows p p :=
  ⟨fun h => .inl h, fun _ h => .inl h, fun _ h => h⟩

/-- A caller follows if it was registered, about to send, or about to
stop the flusher. -/
theorem State.Follows.of_busy {old new : Point} (hentering : old ≠ .entering)
    (hwaiting : ∀ cycle, old ≠ .waiting cycle) (hreturned : ∀ outcome, old ≠ .returned outcome) :
    s.Follows old new :=
  ⟨fun h => absurd h hentering, fun cycle h => absurd h (hwaiting cycle),
    fun outcome h => absurd h (hreturned outcome)⟩

/-- Every caller is there afterwards, and follows. -/
def Following (s s' : State) : Prop :=
  ∀ (j : Nat) (x : Caller), s.callers[j]? = some x →
    ∃ new, s'.callers[j]? = some { x with point := new } ∧ s.Follows x.point new

/-- When nobody moves, all follow. -/
theorem Following.of_same (h : s'.callers = s.callers) : Following s s' := by
  intro j x hx
  rw [h]
  exact ⟨x.point, hx, .refl s x.point⟩

/-- When one caller moves, all follow if it does. -/
theorem Moves.follows {id : Nat} {c : Caller} {point : Point} (m : Moves s s' id c point)
    (h : s.Follows c.point point) : Following s s' := by
  intro j x hx
  by_cases hj : j = id
  · rw [hj, m.found] at hx
    rw [← Option.some.inj hx, hj]
    exact ⟨point, m.lookup_self, h⟩
  · refine ⟨x.point, ?_, .refl s x.point⟩
    rw [m.lookup_other hj, hx]

/-- **Every caller follows in every section.** -/
theorem Section.follows {n : Option Notice} (hs : Section s n s') : Following s s' := by
  cases hs with
  | come task =>
    intro j x hx
    refine ⟨x.point, ?_, .refl s x.point⟩
    have hlt := (List.getElem?_eq_some_iff.1 hx).1
    show (s.callers ++ [_])[j]? = some x
    rw [List.getElem?_append_left hlt, hx]
  | refuse hc hp _ =>
    refine Moves.follows ⟨hc, rfl, rfl, rfl, rfl, rfl, rfl, rfl⟩ ?_
    rw [hp]
    exact ⟨fun _ => .inr (.inl rfl), fun _ h => absurd h (by simp), fun _ h => absurd h (by simp)⟩
  | pass hc hp hclosed _ =>
    refine Moves.follows ⟨hc, rfl, rfl, rfl, rfl, rfl, rfl, rfl⟩ ?_
    rw [hp]
    exact ⟨fun _ => .inr (.inr hclosed), fun _ h => absurd h (by simp),
      fun _ h => absurd h (by simp)⟩
  | wake hc hp _ =>
    refine Moves.follows ⟨hc, rfl, rfl, rfl, rfl, rfl, rfl, rfl⟩ ?_
    rw [hp]
    exact ⟨fun h => absurd h (by simp), fun _ _ => .inr ⟨_, rfl⟩, fun _ h => absurd h (by simp)⟩
  | count hc hp _ _ | overflow hc hp _ _ | merge hc hp _ | leaveRefused hc hp | leave hc hp
  | send hc hp _ | tell hc hp _ | takeJoin hc hp _ | missJoin hc hp _ | join hc hp _ =>
    refine Moves.follows ⟨hc, rfl, rfl, rfl, rfl, rfl, rfl, rfl⟩ ?_
    exact .of_busy (by simp [hp]) (by simp [hp]) (by simp [hp])
  | _ => exact .of_same rfl

/-- A caller after a section has just come, or was there before. -/
theorem Section.caller_cases {n : Option Notice} (hs : Section s n s') {j : Nat} {x : Caller}
    (hx : s'.callers[j]? = some x) :
    x.point = x.task.start ∧ s.callers[j]? = none ∨
      ∃ old, s.callers[j]? = some old ∧ x.task = old.task ∧ s.Follows old.point x.point := by
  cases hold : s.callers[j]? with
  | some old =>
    obtain ⟨new, hnew, hfollows⟩ := hs.follows j old hold
    rw [hx, Option.some.injEq] at hnew
    subst hnew
    exact .inr ⟨old, rfl, rfl, hfollows⟩
  | none =>
    refine .inl ⟨?_, rfl⟩
    have hge : s.callers.length ≤ j := List.getElem?_eq_none_iff.1 hold
    have hlt : j < s'.callers.length := (List.getElem?_eq_some_iff.1 hx).1
    -- Only a section in which somebody comes makes the list longer.
    cases hs
    case come task =>
      have hx' : (s.callers ++ [⟨task, task.start⟩])[j]? = some x := hx
      rw [List.getElem?_append_right hge] at hx'
      have hmem := List.mem_of_getElem? hx'
      rw [List.mem_singleton.1 hmem]
    all_goals
      exact absurd hlt (Nat.not_lt.2 (by simpa [State.moveTo, State.shutGate, State.swap] using hge))

/-- **Whoever waits goes on waiting for the same window, or returns.** -/
theorem run_waiting {id cycle : Nat} {c : Caller} (hc : s.callers[id]? = some c)
    (hp : c.point = .waiting cycle) (events : List Event) :
    ∃ c', (run step s events).callers[id]? = some c' ∧ c'.task = c.task ∧
      (c'.point = .waiting cycle ∨ ∃ outcome, c'.point = .returned outcome) := by
  refine sections_keep (P := fun s _ => ∃ c', s.callers[id]? = some c' ∧ c'.task = c.task ∧
    (c'.point = .waiting cycle ∨ ∃ outcome, c'.point = .returned outcome)) ?_ s []
    ⟨c, hc, rfl, .inl hp⟩ events
  rintro t _ n t' ⟨x, hx, htask, hpoint⟩ hs
  obtain ⟨new, hnew, hfollows⟩ := hs.follows id x hx
  refine ⟨_, hnew, htask, ?_⟩
  rcases hpoint with hw | ⟨outcome, hr⟩
  · exact hfollows.waiting cycle hw
  · exact .inr ⟨outcome, hfollows.returned outcome hr⟩

/-- A caller that has returned has been told. -/
theorem answer?_of_point {id : Nat} {c : Caller} {outcome : Outcome}
    (hc : s.callers[id]? = some c) (hp : c.point = .returned outcome) :
    s.answer? id = some outcome := by
  obtain ⟨task, point⟩ := c
  have hpoint : point = .returned outcome := hp
  unfold State.answer?
  rw [hc, hpoint]

/-! ## After the flusher has exited -/

/-- What holds once the flusher has exited. -/
structure State.Over (s : State) : Prop where
  closed : s.gate.closed = true
  /-- Every window that anybody holds has its outcome. -/
  published : ∀ c ∈ s.callers, ∀ cycle, c.point.cycle? = some cycle → s.published cycle = true
  /-- Whoever is at the gate is told that it is closed. -/
  refused : ∀ (id : Nat) (c : Caller), s.callers[id]? = some c → c.point = .entering →
    (step s (.advance id)).answer? id = some (.error .closed)
  /-- The flusher stays away, and nobody touches the pending tables. -/
  still : ∀ events, (run step s events).hasExited = true ∧ (run step s events).pending = s.pending
  /-- A submit or a flush that is at the gate, or comes later, is refused. -/
  later : ∀ (events : List Event) (id : Nat) (c : Caller),
    (run step s events).callers[id]? = some c → c.task.start = .entering →
    (∀ old : Caller, s.callers[id]? = some old → old.point = .entering) →
    c.point = .entering ∨ c.point = .returned (.error .closed)

/-- A section of a machine whose flusher has exited. -/
theorem Section.after_exit {n : Option Notice} (hs : Section s n s') (a : Attended s) (g : Gated s)
    (hx : s.flusher = .exited) :
    s'.flusher = .exited ∧ s'.pending = s.pending := by
  have hbusy : ∀ {id : Nat} {c : Caller} {cycle : Nat}, s.callers[id]? = some c →
      c.point.joined? ≠ some cycle := by
    intro id c cycle hc
    rw [a.nobody_of_exited g hx (List.mem_of_getElem? hc)]
    simp
  cases hs with
  | count hc hp _ _ | merge hc hp _ =>
    exact absurd (by rw [hp]; rfl) (hbusy hc)
  | shut hf _ | swap hf _ | takeGauges hf | takeNothing hf _ _ | hand hf _ _ | reply _ _ hf
  | publish hf | reopen hf =>
    exact absurd (hx.symm.trans hf) (by simp)
  | _ => exact ⟨hx, rfl⟩

/-- What is kept once the flusher has exited, seen from that moment. -/
structure ClosedSince (s₀ s : State) : Prop where
  gated : Gated s
  attended : Attended s
  exited : s.flusher = .exited
  pending : s.pending = s₀.pending
  known : s₀.callers.length ≤ s.callers.length
  outside : ∀ (id : Nat) (c : Caller), s.callers[id]? = some c → c.task.start = .entering →
    (∀ old : Caller, s₀.callers[id]? = some old → old.point = .entering) →
    c.point = .entering ∨ c.point = .returned (.error .closed)

theorem ClosedSince.section_keeps {s₀ : State} {n : Option Notice} (h : ClosedSince s₀ s)
    (hs : Section s n s') : ClosedSince s₀ s' where
  gated := h.gated.section_keeps hs
  attended := h.attended.section_keeps h.gated hs
  exited := (hs.after_exit h.attended h.gated h.exited).1
  pending := (hs.after_exit h.attended h.gated h.exited).2.trans h.pending
  known := by
    refine Nat.le_trans h.known ?_
    by_contra hlt
    -- Nobody who was there is missing afterwards.
    have hlast := List.getElem?_eq_getElem (l := s.callers) (i := s'.callers.length) (by omega)
    obtain ⟨new, hnew, -⟩ := hs.follows _ _ hlast
    rw [List.getElem?_eq_none_iff.2 (Nat.le_refl _)] at hnew
    exact absurd hnew (by simp)
  outside := by
    intro id c hc hstart hold
    rcases hs.caller_cases hc with ⟨hnew, -⟩ | ⟨old, hfound, htask, hfollows⟩
    · exact .inl (hnew.trans hstart)
    · have hclosed : s.gate.closed = true := h.gated.closed (by rw [h.exited]; rfl)
      rcases h.outside id old hfound (htask ▸ hstart) hold with hp | hp
      · rcases hfollows.entering hp with hstays | hrefused | hopen
        · exact .inl hstays
        · exact .inr hrefused
        · rw [hclosed] at hopen
          exact absurd hopen (by simp)
      · exact .inr (hfollows.returned _ hp)

/-- **Once the flusher has exited, it is over for everybody.** -/
theorem Attended.over (h : Attended s) (g : Gated s) (hx : s.flusher = .exited) : s.Over := by
  have hclosed : s.gate.closed = true := g.closed (by rw [hx]; rfl)
  have hstart : ClosedSince s s := by
    refine ⟨g, h, hx, rfl, Nat.le_refl _, ?_⟩
    intro id c hc _ hold
    exact .inl (hold c hc)
  have hrun : ∀ events, ClosedSince s (run step s events) := by
    intro events
    exact sections_keep (P := fun t _ => ClosedSince s t) (fun _ _ _ _ ht hs => ht.section_keeps hs) s []
      hstart events
  refine ⟨hclosed, fun c hc cycle => h.published_of_exited hx hc, ?_, ?_, ?_⟩
  · intro id c hc hp
    have hlt := (List.getElem?_eq_some_iff.1 hc).1
    have hstep : step s (.advance id) = s.moveTo id c (.returned (.error .closed)) := by
      simp only [step, State.advance, hc, hp, State.enter, hclosed, if_true]
    rw [hstep]
    exact answer?_of_point (List.getElem?_set_self hlt) rfl
  · intro events
    exact ⟨(State.hasExited_iff _).2 (hrun events).exited, (hrun events).pending⟩
  · intro events
    exact (hrun events).outside

/-! ## Nobody is stranded -/

/-- Nobody is stranded in a state. -/
structure Unstranded (s : State) : Prop where
  /-- Whoever waits, waits for a window whose outcome is there, or which
  the flusher is at, or for the current one of a flusher that still runs. -/
  waiting : ∀ c ∈ s.callers, ∀ cycle, c.point = .waiting cycle →
    s.published cycle = true ∨ s.flusher.window? = some cycle ∨
      cycle = s.gate.cycle ∧ s.hasExited = false
  /-- The gate is shut and not closed only while the flusher is at a window. -/
  shut : s.gate.isOpen = false → s.gate.closed = false → s.flusher.isBusy = true
  /-- A flusher that has exited leaves nothing to wait for. -/
  exited : s.hasExited = true → s.Over
  /-- A flush that waits has its outcome, or a command is queued that the
  flusher will read for its window, or the flusher is ending that window. -/
  heard : ∀ c ∈ s.callers, c.task = .flush → ∀ cycle, c.point = .waiting cycle →
    s.published cycle = true ∨
      (s.queue ≠ [] ∧ cycle = s.gate.cycle ∧ s.hasExited = false) ∨ s.Due cycle
  /-- A window that the flusher is ending is ended. -/
  due : ∀ cycle, s.Due cycle → ∀ events,
    (run step s events).Due cycle ∨ (run step s events).published cycle = true
  /-- Without the timer and without other callers all comes to rest, -/
  rests : ∃ events, (∀ e ∈ events, Event.isOwn e = true) ∧ (run step s events).AtRest
  /-- and at rest every flush that waited has its answer. -/
  answered : ∀ events, (run step s events).AtRest → ∀ (id : Nat) (c : Caller) (cycle : Nat),
    s.callers[id]? = some c → c.task = .flush → c.point = .waiting cycle →
    ∃ outcome, (run step s events).answer? id = some outcome

/-- At rest the flusher is idle with nothing to read, or has exited. -/
theorem State.AtRest.idle_or_exited (h : s.AtRest) {log : List Notice} (t : Told s log) :
    s.flusher = .idle ∧ s.queue = [] ∨ s.flusher = .exited := by
  rcases h.flusher with hidle | hx | ⟨-, hflight⟩
  · exact .inl hidle
  · exact .inr hx
  · -- Somebody would have to be registered, and would go on.
    rw [t.gated.counted] at hflight
    obtain ⟨c, hc, hreg⟩ := List.countP_pos_iff.1 (Nat.pos_of_ne_zero hflight)
    obtain ⟨id, hid⟩ := List.getElem?_of_mem hc
    have htask : ∀ cycle, c.point = .mergingCounters cycle ∨ c.point = .mergingGauges cycle →
        ∃ delta, c.task = .submit delta := by
      intro cycle hp
      have htrail := t.trails.known id c hid
      unfold Caller.HasTrail at htrail
      rcases hp with hp | hp
      · rw [hp] at htrail
        exact htrail.2
      · rw [hp] at htrail
        exact htrail.2
    have hnobody := h.nobody hid htask
    rw [Point.isRegistered_eq, hnobody] at hreg
    exact absurd hreg (by simp)

/-- **At rest no flush waits.** -/
theorem State.AtRest.flush_returned (h : s.AtRest) {log : List Notice} (t : Told s log)
    (a : Attended s) {id : Nat} {c : Caller} (hc : s.callers[id]? = some c) (ht : c.task = .flush)
    (cycle : Nat) : c.point ≠ .waiting cycle := by
  intro hp
  have hmem := List.mem_of_getElem? hc
  have hheld : c.point.cycle? = some cycle := by rw [hp]; rfl
  have hunknown := h.waiting hc hp
  rcases h.idle_or_exited t with ⟨hidle, hqueue⟩ | hx
  · -- An idle flusher holds nothing, so the window is the current one.
    have hwhere := a.held c hmem cycle hheld
    rw [hidle] at hwhere
    rcases hwhere with hcurrent | hwindow | hpublished
    · rw [hcurrent] at hp
      rcases a.nudged c hmem ht hp with hq | hd
      · exact hq hqueue
      · rw [hidle] at hd
        exact absurd hd (by simp [Flusher.isDraining])
    · exact absurd hwindow (by simp [Flusher.window?])
    · rw [hunknown] at hpublished
      exact absurd hpublished (by simp)
  · have hpublished := a.published_of_exited hx hmem hheld
    rw [hunknown] at hpublished
    exact absurd hpublished (by simp)

/-- **No caller is ever stranded**, in any run. -/
theorem run_strands_nobody (events : List Event) : Unstranded (run step State.init events) := by
  obtain ⟨g, a⟩ := attended_run events
  -- Whatever follows is a run of the machine as well.
  have hlater : ∀ more, run step (run step State.init events) more =
      run step State.init (events ++ more) := by
    intro more
    rw [run_append]
  generalize hs : run step State.init events = s at g a hlater ⊢
  have hcurrent : ∀ c ∈ s.callers, ∀ cycle, c.point = .waiting cycle → cycle = s.gate.cycle →
      s.hasExited = false := by
    intro c hc cycle hp hcycle
    cases hx : s.hasExited with
    | false => rfl
    | true =>
      have hheld : c.point.cycle? = some s.gate.cycle := by rw [hp, hcycle]; rfl
      exact absurd hheld (a.left (.inr ((State.hasExited_iff s).1 hx)) c hc)
  refine ⟨?waiting, ?shut, ?exited, ?heard, ?due, reaches_rest s, ?answered⟩
  case waiting =>
    intro c hc cycle hp
    rcases a.held c hc cycle (by rw [hp]; rfl) with hcycle | hwindow | hpublished
    · exact .inr (.inr ⟨hcycle, hcurrent c hc cycle hp hcycle⟩)
    · exact .inr (.inl hwindow)
    · exact .inl hpublished
  case shut =>
    intro hshut hclosed
    cases hf : s.flusher with
    | idle =>
      have hopen := a.idle hf
      rw [hshut] at hopen
      exact absurd hopen (by simp)
    | exited =>
      have hlast := g.closed (by rw [hf]; rfl)
      rw [hclosed] at hlast
      exact absurd hlast (by simp)
    | _ => rfl
  case exited =>
    intro hx
    exact a.over g ((State.hasExited_iff s).1 hx)
  case heard =>
    intro c hc ht cycle hp
    rcases a.held c hc cycle (by rw [hp]; rfl) with hcycle | hwindow | hpublished
    · have hx := hcurrent c hc cycle hp hcycle
      rcases a.nudged c hc ht (by rw [hp, hcycle]) with hqueue | hdraining
      · exact .inr (.inl ⟨hqueue, hcycle, hx⟩)
      · exact .inr (.inr (.inr ⟨hdraining, hcycle⟩))
    · exact .inr (.inr (.inl hwindow))
    · exact .inl hpublished
  case due =>
    intro cycle hdue more
    exact hdue.run more
  case answered =>
    intro more hrest id c cycle hc ht hp
    obtain ⟨c', hc', htask, hpoint⟩ := run_waiting hc hp more
    have htold := told_run (events ++ more)
    rw [← hlater more] at htold
    have hattended := (attended_run (events ++ more)).2
    rw [← hlater more] at hattended
    rcases hpoint with hw | ⟨outcome, hr⟩
    · exact absurd hw (hrest.flush_returned htold hattended hc' (htask.trans ht) cycle)
    · exact ⟨outcome, answer?_of_point hc' hr⟩

end Meterbank.Window
