/-
  Meterbank.Proofs.Window.Landing — which submits have been written.

  A submit lands when the sink replies well to the window it merged into.
  So what has landed can be read off the chronicle: window by window, in
  the order of the replies, the merges of each window that was written.
  It only grows, and a caller that has been answered knows whether its
  submit is in it.

  Main results:
    * `Coherent.nodup_landed` — no submit lands twice.
    * `Told.landed_of_ok` — a submit that was answered well has landed.
    * `Told.not_landed_of_error` — one that was refused never lands.
-/
import Mathlib.Data.List.Nodup
import Meterbank.Proofs.Window.Submits
import Meterbank.Window.Schedule

namespace Meterbank.Window

/-! ## What callers came for -/

/-- The tasks of all callers. -/
def State.tasks (s : State) : List Task := s.callers.map Caller.task

theorem getElem?_tasks {s : State} {id : Nat} {task : Task} :
    s.tasks[id]? = some task ↔ ∃ c, s.callers[id]? = some c ∧ c.task = task := by
  unfold State.tasks
  rw [List.getElem?_map, Option.map_eq_some_iff]

/-- Replacing an element by one that looks the same changes no look. -/
theorem map_set_same {α β : Type} {f : α → β} {l : List α} {i : Nat} {a b : α}
    (ha : l[i]? = some a) (hb : f b = f a) : (l.set i b).map f = l.map f := by
  apply List.ext_getElem?
  intro j
  rw [List.getElem?_map, List.getElem?_map, List.getElem?_set]
  split
  · next hj =>
    subst hj
    rw [if_pos (List.getElem?_eq_some_iff.1 ha).1, ha, Option.map_some, Option.map_some, hb]
  · rfl

/-- A caller that goes on keeps its task. -/
theorem advance_tasks (s : State) (id : Nat) : (s.advance id).tasks = s.tasks := by
  rcases advance_moves s id with hsame | ⟨c, point, m⟩
  · rw [hsame]
  · unfold State.tasks
    rw [m.callers]
    exact map_set_same m.found rfl

theorem tasks_call (s : State) (task : Task) :
    (step s (.call task)).tasks = s.tasks ++ [task] := by
  simp [step, State.tasks]

/-- Nothing but a new caller, and a caller's own section, changes the
callers. -/
theorem step_callers (s : State) {e : Event} (hcall : ∀ task, e ≠ .call task)
    (hadvance : ∀ id, e ≠ .advance id) : (step s e).callers = s.callers := by
  have hshut : ∀ (t : State) last, (t.shut last).callers = t.callers := by
    intro t last
    unfold State.shut
    simp only
    split <;> rfl
  cases e with
  | call task => exact absurd rfl (hcall task)
  | advance id => exact absurd rfl (hadvance id)
  | tick =>
    rw [step]
    split
    · exact hshut s false
    · rfl
  | receive =>
    rw [step]
    split
    · exact hshut _ _
    · rfl
  | proceed =>
    rw [step]
    unfold State.proceed
    split
    · split <;> rfl
    · rfl
    · unfold State.taken
      simp only
      split <;> rfl
    · rfl
    · rfl
    · rfl
  | reply reply =>
    rw [step]
    unfold State.replied
    split <;> rfl

/-- Nothing but a new caller adds a task. -/
theorem step_tasks (s : State) {e : Event} (he : ∀ task, e ≠ .call task) :
    (step s e).tasks = s.tasks := by
  by_cases hadvance : ∃ id, e = .advance id
  · obtain ⟨id, rfl⟩ := hadvance
    exact advance_tasks s id
  · have hcallers := step_callers s he fun id heq => hadvance ⟨id, heq⟩
    unfold State.tasks
    rw [hcallers]

/-! ## Windows that were written -/

/-- The window that a notice says was written. -/
def Notice.written? : Notice → Option Nat
  | .replied cycle (.done (.ok _)) => some cycle
  | _ => none

/-- The windows that were written, in order. -/
def written (log : List Notice) : List Nat := log.filterMap Notice.written?

/-- The submits that have landed: who merged what, in order. -/
def landed (log : List Notice) : List (Nat × Delta) := (written log).flatMap (merges log)

theorem written_snoc (log : List Notice) (n : Notice) :
    written (log ++ [n]) = written log ++ n.written?.toList := by
  unfold written
  rw [List.filterMap_append]
  cases hw : n.written? <;> simp [hw]

theorem mem_written {log : List Notice} {cycle : Nat} :
    cycle ∈ written log ↔ .replied cycle (.done (.ok ())) ∈ log := by
  unfold written
  rw [List.mem_filterMap]
  constructor
  · rintro ⟨n, hn, h⟩
    -- Only a reply says it, and only the one that says well.
    cases n with
    | replied c reply =>
      obtain (outcome | _) := reply
      · cases outcome with
        | ok u =>
          have hc : c = cycle := Option.some.inj h
          rw [← hc]
          exact hn
        | error e => exact absurd h (by simp [Notice.written?])
      · exact absurd h (by simp [Notice.written?])
    | _ => exact absurd h (by simp [Notice.written?])
  · intro h
    exact ⟨_, h, rfl⟩

theorem mem_landed {log : List Notice} {id : Nat} {delta : Delta} :
    (id, delta) ∈ landed log ↔
      ∃ cycle, .replied cycle (.done (.ok ())) ∈ log ∧ .merged id cycle delta ∈ log := by
  unfold landed
  rw [List.mem_flatMap]
  simp only [mem_written, mem_merges]

/-- Only an end of a call of the sink says that a window was written. -/
theorem notice_written {s : State} {e : Event} (he : ∀ reply, e ≠ .reply reply) {n : Notice}
    (hn : n ∈ notice s e) : n.written? = none := by
  cases e with
  | reply reply => exact absurd rfl (he reply)
  | advance id =>
    rw [notice] at hn
    cases hc : s.callers[id]? with
    | none =>
      rw [hc] at hn
      exact absurd hn (by simp)
    | some c =>
      rw [hc] at hn
      simp only [State.callerNotice] at hn
      split at hn
      · split at hn
        · rw [← Option.some.inj hn]
          rfl
        · split at hn
          · rw [← Option.some.inj hn]
            rfl
          · exact absurd hn (by simp)
      · rw [← Option.some.inj hn]
        rfl
      · rw [← Option.some.inj hn]
        rfl
      · obtain ⟨outcome, -, rfl⟩ := Option.map_eq_some_iff.1 hn
        rfl
      · exact absurd hn (by simp)
  | proceed =>
    rw [notice] at hn
    unfold State.flusherNotice at hn
    split at hn
    · simp only at hn
      split at hn
      · exact absurd hn (by simp)
      · rw [← Option.some.inj hn]
        rfl
    · rw [← Option.some.inj hn]
      rfl
    · exact absurd hn (by simp)
  | _ => exact absurd hn (by simp [notice])

/-- What a notice adds to what has landed: the merges of a window, if it
says that the window was written. -/
def Notice.lands (log : List Notice) (n : Notice) : List (Nat × Delta) :=
  match n.written? with
  | some cycle => merges log cycle
  | none => []

namespace Coherent

variable {log : List Notice}

/-- **The sink replies once to a window.** -/
theorem reply_unique (h : Coherent log) {cycle : Nat} {reply reply' : Reply}
    (hr : .replied cycle reply ∈ log) (hr' : .replied cycle reply' ∈ log) : reply = reply' := by
  induction h with
  | nil => exact absurd hr (by simp)
  | @snoc log n _ hn ih =>
    rcases List.mem_append.1 hr with hr | hr <;> rcases List.mem_append.1 hr' with hr' | hr'
    · exact ih hr hr'
    · rw [← List.mem_singleton.1 hr'] at hn
      exact absurd hr (hn.2.1 reply)
    · rw [← List.mem_singleton.1 hr] at hn
      exact absurd hr' (hn.2.1 reply')
    · rw [← List.mem_singleton.1 hr] at hr'
      simpa using (List.mem_singleton.1 hr').symm

/-- No window is written twice. -/
theorem nodup_written (h : Coherent log) : (written log).Nodup := by
  induction h with
  | nil => exact List.nodup_nil
  | @snoc log n _ hn ih =>
    rw [written_snoc]
    cases hw : n.written? with
    | none => simpa using ih
    | some cycle =>
      have hmem : .replied cycle (.done (.ok ())) ∈ [n] :=
        mem_written.1 (by simp [written, hw])
      rw [← List.mem_singleton.1 hmem] at hn
      have hfirst : cycle ∉ written log := fun hc => hn.2.1 _ (mem_written.1 hc)
      rw [Option.toList_some]
      refine List.nodup_append.2 ⟨ih, by simp, ?_⟩
      intro c hc c' hc' heq
      rw [List.mem_singleton.1 hc'] at heq
      rw [heq] at hc
      exact hfirst hc

/-- Later notices add to what has landed, and change nothing of it. -/
theorem landed_snoc {n : Notice} (hn : Justified log n) :
    landed (log ++ [n]) = landed log ++ n.lands log := by
  -- Nothing is merged into the windows that were written before.
  have hold : (written log).flatMap (merges (log ++ [n])) = landed log := by
    unfold landed
    rw [List.flatMap_congr]
    intro cycle hc
    exact merges_snoc_of_flushed hn (mem_written.1 hc) rfl
  have hnew : n.written?.toList.flatMap (merges (log ++ [n])) = n.lands log := by
    unfold Notice.lands
    cases hw : n.written? with
    | none => rfl
    | some cycle =>
      have hne : ∀ id delta, n ≠ .merged id cycle delta := by
        rintro id delta rfl
        exact absurd hw (by simp [Notice.written?])
      simp only [Option.toList_some, List.flatMap_singleton]
      exact merges_snoc_of_ne hne
  unfold landed at hold ⊢
  rw [written_snoc, List.flatMap_append, hold, hnew]

end Coherent

namespace Told

variable {s : State} {log : List Notice}

/-- What holds of a state and its chronicle holds after an event. -/
theorem step (h : Told s log) (e : Event) :
    Told (Window.step s e) (log ++ (notice s e).toList) := by
  obtain ⟨mid, h₁, h₂⟩ := step_sections s e
  have hmid := h.section_keeps h₁
  rw [Option.toList_none, List.append_nil] at hmid
  exact hmid.section_keeps h₂

/-- A caller that has returned has the trail of its return. -/
theorem returnTrail (h : Told s log) {id : Nat} {c : Caller} {outcome : Outcome}
    (hc : s.callers[id]? = some c) (ha : s.answer? id = some outcome) :
    ReturnTrail s.outcomes id c.task outcome (trail log id) := by
  have htrail := h.trails.known id c hc
  obtain ⟨task, point⟩ := c
  unfold State.answer? at ha
  rw [hc] at ha
  cases point with
  | returned told =>
    have htold : told = outcome := Option.some.inj ha
    subst htold
    exact htrail
  | _ => exact absurd ha (by simp)

/-- What a caller has been told has been noticed. -/
theorem returned (h : Told s log) {id : Nat} {task : Task} {outcome : Outcome}
    (ht : s.tasks[id]? = some task) (hne : task ≠ .abandon) (ha : s.answer? id = some outcome) :
    .returned id outcome ∈ log := by
  obtain ⟨c, hc, rfl⟩ := getElem?_tasks.1 ht
  have htrail := h.returnTrail hc ha
  have hmem : .returned id outcome ∈ trail log id := by
    generalize trail log id = t at htrail
    cases htrail with
    | refused | overflowed cycle e he _ | answered cycle outcome ho => simp
    | gone hgone => exact absurd hgone hne
  exact (mem_trail.1 hmem).1

/-- **No submit lands twice.** -/
theorem nodup_landed (h : Told s log) : ((landed log).map Prod.fst).Nodup := by
  unfold landed
  rw [List.map_flatMap, List.nodup_flatMap]
  refine ⟨fun cycle _ => h.coherent.nodup_merges cycle, ?_⟩
  refine h.coherent.nodup_written.imp ?_
  -- A caller in two windows would have merged twice.
  intro cycle cycle' hne id hid hid'
  obtain ⟨⟨_, delta⟩, hm, rfl⟩ := List.mem_map.1 hid
  obtain ⟨⟨_, delta'⟩, hm', hsame⟩ := List.mem_map.1 hid'
  simp only at hsame
  subst hsame
  exact hne (h.merged_unique (mem_merges.1 hm') (mem_merges.1 hm)).1

/-- **A submit that was answered well has landed.** -/
theorem landed_of_ok (h : Told s log) {id : Nat} {c : Caller} {delta : Delta}
    (hc : s.callers[id]? = some c) (ht : c.task = .submit delta) (hne : delta.isEmpty = false)
    (hr : .returned id (.ok ()) ∈ log) : (id, delta) ∈ landed log := by
  by_cases hm : ∃ cycle d, .merged id cycle d ∈ log
  · -- It was told the reply to its window, so that was a good one.
    obtain ⟨cycle, d, hmerged⟩ := hm
    obtain ⟨c', hc', ht'⟩ := (h.trails.merged hmerged).1
    rw [hc] at hc'
    rw [← Option.some.inj hc', ht] at ht'
    rw [← Task.submit.inj ht'] at hmerged
    obtain ⟨before, after, hlog⟩ := List.append_of_mem hr
    obtain ⟨whole, reply, -, hreply, houtcome⟩ := h.answer hlog hmerged hne
    have hwritten : .replied cycle reply ∈ log := by
      rw [hlog]
      exact List.mem_append_left _ hreply
    have hdone : reply = .done (.ok ()) := by
      cases reply with
      | done outcome => rw [show outcome = .ok () from houtcome.symm]
      | panicked => exact absurd houtcome (by simp [Reply.outcome])
    rw [hdone] at hwritten
    exact mem_landed.2 ⟨cycle, hwritten, hmerged⟩
  · -- A submit that has not merged is never answered well.
    have hnone : ∀ cycle d, .merged id cycle d ∉ log := fun cycle d hd => hm ⟨cycle, d, hd⟩
    rcases h.trails.refused hc ht hr hnone with hclosed | ⟨e, he, -⟩
    · exact absurd hclosed (by simp)
    · exact absurd he (by simp)

/-- **A submit that was refused never lands.** -/
theorem not_landed_of_error (h : Told s log) {id : Nat} {e : StoreError} {delta : Delta}
    (hne : delta.isEmpty = false) (hr : .returned id (.error e) ∈ log) :
    (id, delta) ∉ landed log := by
  intro hmem
  obtain ⟨cycle, hwritten, hmerged⟩ := mem_landed.1 hmem
  obtain ⟨before, after, hlog⟩ := List.append_of_mem hr
  obtain ⟨whole, reply, -, hreply, houtcome⟩ := h.answer hlog hmerged hne
  -- The sink replied once to the window, and well.
  have hreply' : .replied cycle reply ∈ log := by
    rw [hlog]
    exact List.mem_append_left _ hreply
  rw [h.coherent.reply_unique hreply' hwritten] at houtcome
  exact absurd houtcome (by simp [Reply.outcome])

end Told

end Meterbank.Window
