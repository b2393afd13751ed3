/-
  Meterbank.Proofs.Window.Barrier — a flush waits for all that came before it.

  A flush joins the window that is open when it comes to the gate, and
  only asks for it to be ended.  Windows are numbered in the order in
  which they are open, and their outcomes are published in that order.  So
  once a flush has been told the outcome of its window, all windows before
  it have ended, too, and with them every submit that had merged when the
  flush began.

  Main results:
    * `Ending.section_keeps` — windows end in the order of their numbers.
    * `passed_later` — who comes later joins no earlier window.
    * `Told.flush_returned` — what a flush is told.
    * `run_flush_is_barrier` — a flush that returns well is a barrier.
-/
import Meterbank.Proofs.Window.InOrder
import Meterbank.Proofs.Window.Unstranded

namespace Meterbank.Window

variable {s s' : State} {log : List Notice}

/-! ## Windows that have ended -/

/-- The first window whose outcome has not been published. -/
def State.unended (s : State) : Nat := s.flusher.window?.getD s.gate.cycle

/-- A section leaves it, or publishes the outcome of this window. -/
theorem Section.unended (g : Gated s) {n : Option Notice} (hs : Section s n s') :
    s'.unended = s.unended ∧ (∀ cycle outcome, n ≠ some (.published cycle outcome)) ∨
      s'.unended = s.unended + 1 ∧ ∃ outcome, n = some (.published s.unended outcome) := by
  cases hs with
  | shut hf => exact .inl ⟨by simp [State.unended, State.shutGate, Flusher.window?, hf], by simp⟩
  | swap hf => exact .inl ⟨by simp [State.unended, State.swap, Flusher.window?, hf], by simp⟩
  | takeGauges hf | takeNothing hf | hand hf | reply reply stats hf =>
    exact .inl ⟨by simp [State.unended, Flusher.window?, hf], by simp⟩
  | @publish last cycle outcome hf =>
    have hnext : cycle + 1 = s.gate.cycle := g.previous cycle (by rw [hf]; rfl)
    refine .inr ⟨?_, outcome, ?_⟩
    · simp [State.unended, Flusher.window?, hf, hnext]
    · simp [State.unended, Flusher.window?, hf]
  | @reopen last hf =>
    refine .inl ⟨?_, by simp⟩
    cases last <;> by_cases hclosed : s.gate.closed = true <;>
      simp [State.unended, Flusher.window?, hf, hclosed]
  | _ => exact .inl ⟨rfl, by simp⟩

/-- Exactly the windows before the first that has not ended have been
published, and callers join windows from the first one on. -/
structure Ending (s : State) (log : List Notice) : Prop where
  begun : 0 < s.gate.cycle
  passed : ∀ id cycle, .passed id cycle ∈ log → 0 < cycle
  published : ∀ cycle outcome, .published cycle outcome ∈ log → cycle < s.unended
  ended : ∀ cycle, 0 < cycle → cycle < s.unended → ∃ outcome, .published cycle outcome ∈ log

/-- A caller passes the gate into the current window. -/
theorem Section.passed_current {id cycle : Nat} (hs : Section s (some (.passed id cycle)) s') :
    cycle = s.gate.cycle := by
  cases hs
  rfl

/-- No section goes back to an earlier window. -/
theorem Section.cycle_le {n : Option Notice} (hs : Section s n s') :
    s.gate.cycle ≤ s'.gate.cycle := by
  cases n with
  | some n => exact Nat.le_of_eq hs.cycle_of_notice.symm
  | none =>
    have hcycle := hs.cycle_of_none
    omega

namespace Ending

theorem init : Ending State.init [] where
  begun := by decide
  passed id cycle hmem := absurd hmem (by simp)
  published cycle outcome hmem := absurd hmem (by simp)
  ended cycle hpos hlt := by
    have hone : State.init.unended = 1 := rfl
    omega

/-- **Every section ends windows in their order.** -/
theorem section_keeps (h : Ending s log) (g : Gated s) {n : Option Notice} (hs : Section s n s') :
    Ending s' (log ++ n.toList) := by
  have hbegun : 0 < s'.gate.cycle := Nat.lt_of_lt_of_le h.begun hs.cycle_le
  have hpassed : ∀ id cycle, .passed id cycle ∈ log ++ n.toList → 0 < cycle := by
    intro id cycle hmem
    rcases List.mem_append.1 hmem with hold | hnew
    · exact h.passed id cycle hold
    · rw [Option.mem_toList.1 hnew] at hs
      rw [hs.passed_current]
      exact h.begun
  rcases hs.unended g with ⟨hsame, hnone⟩ | ⟨hnext, outcome, rfl⟩
  · -- Nothing was published.
    refine ⟨hbegun, hpassed, ?_, ?_⟩
    · intro cycle outcome hmem
      rw [hsame]
      rcases List.mem_append.1 hmem with hold | hnew
      · exact h.published cycle outcome hold
      · exact absurd (Option.mem_toList.1 hnew) (hnone cycle outcome)
    · intro cycle hpos hlt
      rw [hsame] at hlt
      obtain ⟨outcome, hmem⟩ := h.ended cycle hpos hlt
      exact ⟨outcome, List.mem_append_left _ hmem⟩
  · refine ⟨hbegun, hpassed, ?_, ?_⟩
    · intro cycle told hmem
      rw [hnext]
      rcases List.mem_append.1 hmem with hold | hnew
      · have hlt := h.published cycle told hold
        omega
      · obtain ⟨rfl, -⟩ := Notice.published.inj (List.mem_singleton.1 hnew)
        omega
    · intro cycle hpos hlt
      rw [hnext] at hlt
      by_cases heq : cycle = s.unended
      · exact ⟨outcome, by rw [heq]; simp⟩
      · obtain ⟨told, hmem⟩ := h.ended cycle hpos (by omega)
        exact ⟨told, List.mem_append_left _ hmem⟩

/-- In every run windows end in their order. -/
theorem run (events : List Event) :
    Ending (Meterbank.run Window.step State.init events) (chronicle State.init events) :=
  (run_induction (P := fun s log => Gated s ∧ Ending s log) ⟨.init, .init⟩
    (fun _ _ _ _ h hs => ⟨h.1.section_keeps hs, h.2.section_keeps h.1 hs⟩) events).2

/-- **Once a window has ended, so has every window before it** that was
joined. -/
theorem before (h : Ending s log) {cycle cycle' id : Nat} {outcome : Outcome}
    (hp : .published cycle outcome ∈ log) (hle : cycle' ≤ cycle) (hj : .passed id cycle' ∈ log) :
    ∃ outcome', .published cycle' outcome' ∈ log := by
  have hlt := h.published cycle outcome hp
  exact h.ended cycle' (h.passed id cycle' hj) (by omega)

end Ending

/-! ## Who comes later -/

/-- **Who comes later joins no earlier window.** -/
theorem passed_later (s : State) (events : List Event) {id cycle : Nat}
    (hmem : .passed id cycle ∈ chronicle s events) : s.gate.cycle ≤ cycle := by
  have hall := sections_keep (P := fun t log => s.gate.cycle ≤ t.gate.cycle ∧
    ∀ id cycle, .passed id cycle ∈ log → s.gate.cycle ≤ cycle) ?_ s []
    ⟨Nat.le_refl _, fun _ _ h => absurd h (by simp)⟩ events
  · exact hall.2 id cycle hmem
  · rintro t log n t' ⟨hcycle, hpassed⟩ hs
    refine ⟨Nat.le_trans hcycle hs.cycle_le, fun id cycle hmem => ?_⟩
    rcases List.mem_append.1 hmem with hold | hnew
    · exact hpassed id cycle hold
    · rw [Option.mem_toList.1 hnew] at hs
      rw [hs.passed_current]
      exact hcycle

/-- A caller keeps what it came for. -/
theorem run_task {id : Nat} {c : Caller} (hc : s.callers[id]? = some c) (events : List Event) :
    ∃ c', (run step s events).callers[id]? = some c' ∧ c'.task = c.task := by
  refine sections_keep (P := fun s _ => ∃ c', s.callers[id]? = some c' ∧ c'.task = c.task) ?_ s []
    ⟨c, hc, rfl⟩ events
  rintro t _ n t' ⟨x, hx, htask⟩ hs
  obtain ⟨new, hnew, -⟩ := hs.follows id x hx
  exact ⟨_, hnew, htask⟩

/-! ## What callers are told -/

/-- **A window has one outcome.** -/
theorem Coherent.published_unique (h : Coherent log) {cycle : Nat} {outcome outcome' : Outcome}
    (hp : .published cycle outcome ∈ log) (hp' : .published cycle outcome' ∈ log) :
    outcome = outcome' := by
  induction h with
  | nil => exact absurd hp (by simp)
  | @snoc log n _ hn ih =>
    rcases List.mem_append.1 hp with hp | hp <;> rcases List.mem_append.1 hp' with hp' | hp'
    · exact ih hp hp'
    · rw [← List.mem_singleton.1 hp'] at hn
      exact absurd hp (hn.2 outcome)
    · rw [← List.mem_singleton.1 hp] at hn
      exact absurd hp' (hn.2 outcome')
    · rw [← List.mem_singleton.1 hp] at hp'
      exact (Notice.published.inj (List.mem_singleton.1 hp')).2.symm

namespace Told

/-- **What a flush is told**: the outcome of the window that it joined, or
that the gate is closed. -/
theorem flush_returned (h : Told s log) {id : Nat} {c : Caller} {outcome : Outcome}
    (hc : s.callers[id]? = some c) (ht : c.task = .flush) (ha : s.answer? id = some outcome) :
    outcome = .error .closed ∨
      ∃ cycle, .passed id cycle ∈ log ∧ .published cycle outcome ∈ log := by
  have htrail := h.returnTrail hc ha
  rw [ht] at htrail
  generalize hlog : trail log id = t at htrail
  cases htrail with
  | refused => exact .inl rfl
  | overflowed cycle e he hsubmit =>
    obtain ⟨delta, hdelta⟩ := hsubmit
    exact absurd hdelta (by simp)
  | answered cycle outcome ho =>
    have hpassed : .passed id cycle ∈ trail log id := by
      rw [hlog]
      simp
    exact .inr ⟨cycle, (mem_trail.1 hpassed).1, h.flushed.outcomes cycle outcome ho⟩
  | gone hgone => exact absurd hgone (by simp)

/-- A submit that has merged is told the outcome of the window. -/
theorem submit_returned (h : Told s log) {id cycle : Nat} {delta : Delta} {outcome told : Outcome}
    (hm : .merged id cycle delta ∈ log) (hp : .published cycle outcome ∈ log)
    (ha : s.answer? id = some told) : told = outcome := by
  obtain ⟨⟨c, hc, -⟩, -⟩ := h.trails.merged hm
  have hmem : .merged id cycle delta ∈ trail log id := mem_trail.2 ⟨hm, rfl⟩
  have htrail := h.returnTrail hc ha
  generalize hlog : trail log id = t at hmem htrail
  cases htrail with
  | answered cycle' told ho =>
    have hpassed : .passed id cycle' ∈ trail log id := by
      rw [hlog]
      simp
    have hcycle : cycle' = cycle := (h.passed_of_merged hm).2 cycle' (mem_trail.1 hpassed).1
    rw [hcycle] at ho
    exact h.coherent.published_unique (h.flushed.outcomes cycle told ho) hp
  | _ => exact absurd hmem (by simp)

end Told

/-! ## The barrier -/

/-- What has become of a submit whose window has ended with an outcome. -/
structure Completed (s : State) (log : List Notice) (id cycle : Nat) (delta : Delta)
    (outcome : Outcome) : Prop where
  published : .published cycle outcome ∈ log
  /-- Whatever happens from now on, its caller is told nothing else. -/
  told : ∀ events told, (run step s events).answer? id = some told → told = outcome
  /-- The pending tables hold what was merged into a later window. -/
  later : Collected s log ∧ cycle < s.collecting
  /-- The sink was given the whole window with it, and this was the reply. -/
  flushed : delta.isEmpty = false → ∃ whole reply, (cycle, whole) ∈ s.handed ∧
    whole.IsMergeOf (deltas log cycle) ∧ (id, delta) ∈ merges log cycle ∧
      .replied cycle reply ∈ log ∧ reply.outcome = outcome

/-- A submit whose window has been published is complete. -/
theorem completed_of_published {events : List Event} {id cycle : Nat} {delta : Delta}
    {outcome : Outcome} (hm : .merged id cycle delta ∈ chronicle State.init events)
    (hp : .published cycle outcome ∈ chronicle State.init events) :
    Completed (run step State.init events) (chronicle State.init events) id cycle delta outcome := by
  have h := told_run events
  refine ⟨hp, ?_, ⟨h.collected, h.flushed.past _ hp cycle rfl⟩, ?_⟩
  · intro more told ha
    rw [← run_append] at ha
    have hlater := told_run (events ++ more)
    rw [chronicle_append] at hlater
    exact hlater.submit_returned (List.mem_append_left _ hm) (List.mem_append_left _ hp) ha
  · intro hne
    obtain ⟨whole, reply, hw, hr, ho⟩ :=
      (h.coherent.ended hp).reply (mem_deltas.2 ⟨id, hm⟩) hne
    have hhanded : (cycle, whole) ∈ (run step State.init events).handed := by
      rw [h.flushed.handed]
      exact mem_handedIn.2 hw
    exact ⟨whole, reply, hhanded, h.coherent.isMergeOf hw, mem_merges.2 hm, hr, ho.symm⟩

/-- What a flush means that began when `before` had been noticed. -/
structure IsBarrier (before : List Notice) (id : Nat) (s : State) (log : List Notice) : Prop where
  /-- When it has returned well, all that had merged is complete. -/
  done : s.answer? id = some (.ok ()) → ∀ submit cycle delta,
    .merged submit cycle delta ∈ before → ∃ outcome, Completed s log submit cycle delta outcome
  /-- When it has returned an error, and not that the gate is closed, the
  sink was given the window that it joined, and replied with this error. -/
  refused : ∀ e, s.answer? id = some (.error e) → e ≠ .closed →
    ∃ cycle whole reply, .passed id cycle ∈ log ∧ (cycle, whole) ∈ s.handed ∧
      .replied cycle reply ∈ log ∧ reply.outcome = .error e

/-- A flush that was called joins no window that was over by then. -/
theorem flush_joins_later {before after : List Event} {submit cycle cycle' : Nat} {delta : Delta}
    (hm : .merged submit cycle' delta ∈ chronicle State.init before)
    (hj : .passed (run step State.init before).callers.length cycle ∈
      chronicle State.init (before ++ after)) : cycle' ≤ cycle := by
  have h := told_run before
  have hjoined : cycle' ≤ (run step State.init before).gate.cycle :=
    Nat.le_trans (h.collected.upTo submit cycle' delta hm) h.gated.collecting_le
  rw [chronicle_append] at hj
  rcases List.mem_append.1 hj with hold | hnew
  · -- It was not there before, so it has left no trail by then.
    have hnone := h.trails.unknown _ (Nat.le_refl _)
    have hmem := mem_trail.2 ⟨hold, rfl⟩
    rw [hnone] at hmem
    exact absurd hmem (by simp)
  · exact Nat.le_trans hjoined (passed_later _ after hnew)

/-- **A flush is a barrier**, in every run, whatever callers, timer, commands
and sink do. -/
theorem run_flush_is_barrier (before after : List Event) :
    IsBarrier (chronicle State.init before) (run step State.init before).callers.length
      (run step State.init (before ++ .call .flush :: after))
      (chronicle State.init (before ++ .call .flush :: after)) := by
  have h := told_run (before ++ .call .flush :: after)
  have hending := Ending.run (before ++ .call .flush :: after)
  -- The flush is there from its call on.
  obtain ⟨c, hc, ht⟩ : ∃ c, (run step State.init (before ++ .call .flush :: after)).callers[
      (run step State.init before).callers.length]? = some c ∧ c.task = .flush := by
    have hcalled : (step (run step State.init before) (.call .flush)).callers[
        (run step State.init before).callers.length]? = some ⟨.flush, .entering⟩ :=
      List.getElem?_concat_length
    rw [run_append]
    exact run_task hcalled after
  refine ⟨?_, ?_⟩
  · intro ha submit cycle' delta hm
    have hmerged : .merged submit cycle' delta ∈
        chronicle State.init (before ++ .call .flush :: after) := by
      rw [chronicle_append]
      exact List.mem_append_left _ hm
    rcases h.flush_returned hc ht ha with hclosed | ⟨cycle, hj, hp⟩
    · exact absurd hclosed (by simp)
    · have hpassed := (h.passed_of_merged hmerged).1
      obtain ⟨outcome, hp'⟩ := hending.before hp (flush_joins_later hm hj) hpassed
      exact ⟨outcome, completed_of_published hmerged hp'⟩
  · intro e ha hne
    rcases h.flush_returned hc ht ha with hclosed | ⟨cycle, hj, hp⟩
    · exact absurd (Except.error.inj hclosed) hne
    · -- A window with nothing in it does not end with an error.
      rcases h.coherent.ended hp with ⟨whole, reply, hw, hr, ho⟩ | ⟨ho, -⟩
      · have hhanded : (cycle, whole) ∈
            (run step State.init (before ++ .call .flush :: after)).handed := by
          rw [h.flushed.handed]
          exact mem_handedIn.2 hw
        exact ⟨cycle, whole, reply, hj, hhanded, hr, ho.symm⟩
      · exact absurd ho (by simp)

/-! ## A flush behind a submit -/

/-- What one submit adds. -/
def oneRequest : Delta := ⟨∅, (∅ : Table Int64).set "requests" 1⟩

/-- It comes, and goes as far as it gets without the flusher. -/
def submitting : List Event := .call (.submit oneRequest) :: List.replicate 4 (.advance 0)

/-- A flush goes as far, the flusher ends the window for it, and it returns. -/
def flushing (reply : Reply) : List Event :=
  List.replicate 3 (.advance 1) ++
    [.receive, .proceed, .proceed, .reply reply, .proceed, .advance 1]

/-- When the sink replies well the submit is complete; when the sink dies of
the window the flush is told so. -/
theorem submit_complete_or_flush_told :
    (∃ outcome, Completed (run step State.init (submitting ++ .call .flush :: flushing (.done (.ok ()))))
      (chronicle State.init (submitting ++ .call .flush :: flushing (.done (.ok ())))) 0 1 oneRequest
      outcome) ∧
    ∃ cycle whole reply,
      .passed 1 cycle ∈ chronicle State.init (submitting ++ .call .flush :: flushing .panicked) ∧
      (cycle, whole) ∈ (run step State.init (submitting ++ .call .flush :: flushing .panicked)).handed ∧
      .replied cycle reply ∈
        chronicle State.init (submitting ++ .call .flush :: flushing .panicked) ∧
      reply.outcome = .error (.io .sinkPanicked) := by
  have hmerged : chronicle State.init submitting = [.passed 0 1, .merged 0 1 oneRequest] := rfl
  exact ⟨(run_flush_is_barrier submitting (flushing (.done (.ok ())))).done rfl 0 1 oneRequest
      (by rw [hmerged]; simp),
    (run_flush_is_barrier submitting (flushing .panicked)).refused _ rfl (by simp)⟩

end Meterbank.Window
