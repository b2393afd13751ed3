/-
  Meterbank.Proofs.Window.Stopping — who waits until the flusher has stopped.

  Callers that stop the flusher tell it so, and then take the right to wait
  for it.  There is one such right: who finds it taken is let go at once,
  with zeros.  So whoever has been let go has either waited for the flusher
  to exit, or somebody else still waits for it.

  Main results:
    * `section_halting` — what a section does to those who stop.
    * `step_patient` — nobody is let go before the flusher has exited,
      except past somebody who waits for it.
-/
import Meterbank.Proofs.Window.Attending
import Meterbank.Proofs.Window.Landing
import Meterbank.Window.Schedule

namespace Meterbank.Window

/-! ## Callers that stop the flusher -/

/-- Whether a caller has the right to wait for the flusher, or has been let go. -/
def Point.halts : Point → Bool
  | .stopJoining | .stopped _ => true
  | _ => false

/-- Whether a caller is there to stop the flusher. -/
def Point.isStop : Point → Bool
  | .stopSending | .stopTaking | .stopJoining | .stopped _ => true
  | _ => false

theorem Task.halts_start (task : Task) : task.start.halts = false := by
  cases task <;> rfl

/-- What a section does to those who stop the flusher. -/
inductive Halting (s s' : State) : Prop where
  | flusher (hcallers : s'.callers = s.callers) (hj : s'.joinable = s.joinable)
      (hx : s.hasExited = true → s'.hasExited = true)
  | come (task : Task) (hcallers : s'.callers = s.callers ++ [⟨task, task.start⟩])
      (hj : s'.joinable = s.joinable) (hf : s'.flusher = s.flusher)
  | move {id : Nat} {c : Caller} {point : Point} (m : Moves s s' id c point)
      (hj : s'.joinable = s.joinable) (hp : c.point.halts = false) (hq : point.halts = false)
      (hstop : point.isStop = true → c.point.isStop = true)
  | take {id : Nat} {c : Caller} (m : Moves s s' id c .stopJoining) (hp : c.point = .stopTaking)
      (hj : s'.joinable = false)
  | miss {id : Nat} {c : Caller} (m : Moves s s' id c (.stopped .zero))
      (hp : c.point = .stopTaking) (hj : s.joinable = false) (hj' : s'.joinable = s.joinable)
  | join {id : Nat} {c : Caller} {told : Stats} (m : Moves s s' id c (.stopped told))
      (hp : c.point = .stopJoining) (hx : s.hasExited = true) (hj : s'.joinable = s.joinable)

variable {s s' : State}

theorem hasExited_congr (h : s'.flusher = s.flusher) : s'.hasExited = s.hasExited := by
  unfold State.hasExited
  rw [h]

/-- A flusher that is at work has not exited. -/
theorem not_exited {f : Flusher} (hf : s.flusher = f) (h : f ≠ .exited) : s.hasExited ≠ true := by
  rw [ne_eq, State.hasExited_iff, hf]
  exact h

/-- **What a section does to those who stop.** -/
theorem section_halting {n : Option Notice} (h : Section s n s') : Halting s s' := by
  cases h with
  | stay => exact .flusher rfl rfl id
  | come task => exact .come task rfl rfl rfl
  | refuse hc hp | count hc hp | overflow hc hp | merge hc hp | leaveRefused hc hp | send hc hp
  | wake hc hp =>
    exact .move ⟨hc, rfl, rfl, rfl, rfl, rfl, rfl, rfl⟩ rfl (by rw [hp]; rfl) rfl (by simp [Point.isStop])
  | @pass id c hc hp =>
    refine .move ⟨hc, rfl, rfl, rfl, rfl, rfl, rfl, rfl⟩ rfl (by rw [hp]; rfl) ?_ ?_
    · cases c.task <;> rfl
    · cases c.task <;> simp [Task.passed, Point.isStop]
  | @leave id cycle c hc hp =>
    refine .move ⟨hc, rfl, rfl, rfl, rfl, rfl, rfl, rfl⟩ rfl (by rw [hp]; rfl) ?_ ?_
    · cases c.task <;> rfl
    · cases c.task <;> simp [Task.left, Point.isStop]
  | @tell id c queue hc hp =>
    refine .move ⟨hc, rfl, rfl, rfl, rfl, rfl, rfl, rfl⟩ rfl (by rw [hp]; rfl) ?_ ?_
    · cases c.task <;> rfl
    · rw [hp]
      exact fun _ => rfl
  | takeJoin hc hp => exact .take ⟨hc, rfl, rfl, rfl, rfl, rfl, rfl, rfl⟩ hp rfl
  | missJoin hc hp hj => exact .miss ⟨hc, rfl, rfl, rfl, rfl, rfl, rfl, rfl⟩ hp hj rfl
  | join hc hp hx => exact .join ⟨hc, rfl, rfl, rfl, rfl, rfl, rfl, rfl⟩ hp hx rfl
  | shut hf | swap hf | takeGauges hf | takeNothing hf | hand hf | reply _ _ hf | publish hf
  | reopen hf =>
    exact .flusher rfl rfl fun hx => absurd hx (not_exited hf (by simp))

/-- A flusher that has exited stays so. -/
theorem Halting.exited (h : Halting s s') (hx : s.hasExited = true) : s'.hasExited = true := by
  cases h with
  | flusher _ _ hmono => exact hmono hx
  | come _ _ _ hf => rw [hasExited_congr hf, hx]
  | move m | take m | miss m | join m => rw [hasExited_congr m.flusher, hx]

/-- Who has been let go stays where it is. -/
theorem Halting.stopped (h : Halting s s') {id : Nat} {c : Caller} {told : Stats}
    (hc : s.callers[id]? = some c) (hp : c.point = .stopped told) : s'.callers[id]? = some c := by
  have hother : ∀ {i : Nat} {d : Caller} {point : Point}, Moves s s' i d point →
      d.point ≠ .stopped told → s'.callers[id]? = some c := by
    intro i d point m hd
    have hne : id ≠ i := by
      rintro rfl
      rw [m.found] at hc
      exact hd (Option.some.inj hc ▸ hp)
    rw [m.lookup_other hne, hc]
  cases h with
  | flusher hcallers => rw [hcallers, hc]
  | come _ hcallers =>
    rw [hcallers, List.getElem?_append_left (List.getElem?_eq_some_iff.1 hc).1, hc]
  | move m _ hp' => exact hother m (by rintro heq; simp [heq, Point.halts] at hp')
  | take m hp' | miss m hp' | join m hp' => exact hother m (by simp [hp'])

/-! ## The right to wait -/

/-- The right to wait for the flusher is with one who waits, until the flusher has exited. -/
structure Stopping (s : State) : Prop where
  /-- Who waits, or has been let go, has found the right taken or has taken it. -/
  taken : ∀ c ∈ s.callers, c.point.halts = true → s.joinable = false
  /-- Who has taken it waits until the flusher has exited. -/
  waited : s.joinable = false → s.hasExited = true ∨
    ∃ (id : Nat) (c : Caller), s.callers[id]? = some c ∧ c.point = .stopJoining
  /-- Nobody who submits is among those who stop the flusher. -/
  tasks : ∀ c ∈ s.callers, c.point.isStop = true → c.task = .shutdown ∨ c.task = .abandon

namespace Stopping

theorem init : Stopping State.init where
  taken c hc := absurd hc (by simp [State.init])
  waited h := absurd h (by simp [State.init])
  tasks c hc := absurd hc (by simp [State.init])

/-- One caller moves, and whoever waits goes on waiting. -/
theorem move (h : Stopping s) {id : Nat} {c : Caller} {point : Point} (m : Moves s s' id c point)
    (hstop : point.isStop = true → c.point.isStop = true)
    (htaken : point.halts = true → s'.joinable = false)
    (hkept : s.joinable = false → s'.joinable = false)
    (hwaited : s'.joinable = false → s.hasExited = true ∨ point = .stopJoining ∨
      s.joinable = false ∧ c.point ≠ .stopJoining) : Stopping s' where
  taken x hx hh := by
    rcases m.mem_cases hx with rfl | hx
    · exact htaken hh
    · exact hkept (h.taken x hx hh)
  waited hj := by
    rw [hasExited_congr m.flusher]
    rcases hwaited hj with hx | rfl | ⟨hj', hp⟩
    · exact .inl hx
    · exact .inr ⟨id, _, m.lookup_self, rfl⟩
    · rcases h.waited hj' with hx | ⟨i, x, hx, hpx⟩
      · exact .inl hx
      · have hne : i ≠ id := by
          rintro rfl
          rw [m.found] at hx
          exact hp (Option.some.inj hx ▸ hpx)
        exact .inr ⟨i, x, by rw [m.lookup_other hne, hx], hpx⟩
  tasks x hx hs := by
    rcases m.mem_cases hx with rfl | hx
    · exact h.tasks c m.mem (hstop hs)
    · exact h.tasks x hx hs

theorem keeps (h : Stopping s) (step : Halting s s') : Stopping s' := by
  cases step with
  | flusher hcallers hj hx =>
    refine ⟨?_, fun hj' => ?_, ?_⟩
    · rw [hcallers, hj]
      exact h.taken
    · rw [hj] at hj'
      rw [hcallers]
      exact (h.waited hj').imp_left hx
    · rw [hcallers]
      exact h.tasks
  | come task hcallers hj hf =>
    refine ⟨fun c hc hh => ?_, fun hj' => ?_, fun c hc hs => ?_⟩
    · rw [hj]
      rw [hcallers, List.mem_append, List.mem_singleton] at hc
      rcases hc with hc | rfl
      · exact h.taken c hc hh
      · exact absurd hh (by simp [task.halts_start])
    · rw [hj] at hj'
      rw [hcallers, hasExited_congr hf]
      refine (h.waited hj').imp_right ?_
      rintro ⟨id, c, hc, hp⟩
      exact ⟨id, c, by rw [List.getElem?_append_left (List.getElem?_eq_some_iff.1 hc).1, hc], hp⟩
    · rw [hcallers, List.mem_append, List.mem_singleton] at hc
      rcases hc with hc | rfl
      · exact h.tasks c hc hs
      · cases task with
        | shutdown => exact .inl rfl
        | abandon => exact .inr rfl
        | _ => exact absurd hs (by simp [Task.start, Point.isStop])
  | move m hj hp hq hstop =>
    refine h.move m hstop (by simp [hq]) (by rw [hj]; exact id) fun hj' => ?_
    rw [hj] at hj'
    exact .inr (.inr ⟨hj', by rintro heq; simp [heq, Point.halts] at hp⟩)
  | take m hp hj =>
    exact h.move m (by simp [hp, Point.isStop]) (fun _ => hj) (fun _ => hj) fun _ => .inr (.inl rfl)
  | miss m hp hj hj' =>
    rw [hj] at hj'
    exact h.move m (by simp [hp, Point.isStop]) (fun _ => hj') (fun _ => hj')
      fun _ => .inr (.inr ⟨hj, by simp [hp]⟩)
  | join m hp hx hj =>
    have hj' := h.taken _ m.mem (by rw [hp]; rfl)
    rw [hj'] at hj
    exact h.move m (by simp [hp, Point.isStop]) (fun _ => hj) (fun _ => hj) fun _ => .inl hx

theorem step (h : Stopping s) (e : Event) : Stopping (step s e) := by
  obtain ⟨mid, h₁, h₂⟩ := step_sections s e
  exact (h.keeps (section_halting h₁)).keeps (section_halting h₂)

end Stopping

/-! ## Being let go -/

/-- Whether nobody has been let go before the flusher has exited. -/
def Patient (s : State) : Prop :=
  ∀ c ∈ s.callers, ∀ told, c.point = .stopped told → s.hasExited = true

/-- Whether somebody has been let go, with zeros, while somebody else waits for the flusher. -/
def Overtaken (s : State) : Prop :=
  s.hasExited = false ∧ (∃ (id : Nat) (c : Caller), s.callers[id]? = some c ∧ c.point = .stopJoining) ∧
    ∃ (id : Nat) (c : Caller), s.callers[id]? = some c ∧ c.point = .stopped .zero

theorem step_exited (s : State) (e : Event) (hx : s.hasExited = true) :
    (step s e).hasExited = true := by
  obtain ⟨mid, h₁, h₂⟩ := step_sections s e
  exact (section_halting h₂).exited ((section_halting h₁).exited hx)

/-- **Nobody is let go before the flusher has exited, except past somebody who waits for it.** -/
theorem step_patient (h : Stopping s) (hp : Patient s) (e : Event) :
    Patient (step s e) ∨ Overtaken (step s e) := by
  by_cases hcall : ∃ task, e = .call task
  · obtain ⟨task, rfl⟩ := hcall
    refine .inl fun c hc told hpoint => ?_
    rcases List.mem_append.1 hc with hold | hnew
    · exact hp c hold told hpoint
    · rw [List.mem_singleton.1 hnew] at hpoint
      have hstart := task.halts_start
      rw [show task.start = .stopped told from hpoint] at hstart
      exact absurd hstart (by simp [Point.halts])
  by_cases hadvance : ∃ id, e = .advance id
  · obtain ⟨id, rfl⟩ := hadvance
    have hhalting := section_halting (advance_section s id)
    have hstopping := h.step (.advance id)
    change Halting s (step s (.advance id)) at hhalting
    generalize step s (.advance id) = s' at hhalting hstopping ⊢
    -- Whoever was let go before was so after the flusher had exited.
    have hmove : ∀ {i : Nat} {d : Caller} {point : Point}, Moves s s' i d point →
        (∀ told, point = .stopped told → s.hasExited = true) → Patient s' := by
      intro i d point m hpoint x hx told hpx
      rw [hasExited_congr m.flusher]
      rcases m.mem_cases hx with rfl | hx
      · exact hpoint told hpx
      · exact hp x hx told hpx
    cases hhalting with
    | flusher hcallers _ hx =>
      refine .inl fun c hc told hpoint => hx ?_
      rw [hcallers] at hc
      exact hp c hc told hpoint
    | come task hcallers _ hf =>
      refine .inl fun c hc told hpoint => ?_
      rw [hasExited_congr hf]
      rw [hcallers, List.mem_append, List.mem_singleton] at hc
      rcases hc with hc | rfl
      · exact hp c hc told hpoint
      · have hstart := task.halts_start
        rw [show task.start = .stopped told from hpoint] at hstart
        exact absurd hstart (by simp [Point.halts])
    | move m _ _ hq =>
      refine .inl (hmove m fun told heq => ?_)
      simp [heq, Point.halts] at hq
    | take m => exact .inl (hmove m fun told heq => by simp at heq)
    | @miss i c m hpc hj hj' =>
      by_cases hx : s'.hasExited = true
      · refine .inl fun x hx' told hpx => hx
      · rw [hj] at hj'
        rcases hstopping.waited hj' with hx' | hwaits
        · exact absurd hx' hx
        · exact .inr ⟨by simpa using hx, hwaits, i, _, m.lookup_self, rfl⟩
    | join m _ hx => exact .inl (hmove m fun _ _ => hx)
  · have hcallers := step_callers s (e := e) (fun task heq => hcall ⟨task, heq⟩)
      fun id heq => hadvance ⟨id, heq⟩
    refine .inl fun c hc told hpoint => step_exited s e ?_
    rw [hcallers] at hc
    exact hp c hc told hpoint

/-! ## Windows that were not told the store is closed -/

/-- Whether no window has failed because the sink was closed, and none is about to. -/
def Unrefused (s : State) : Prop :=
  (∀ cycle, (cycle, .error .closed) ∉ s.outcomes) ∧
    ∀ last cycle, s.flusher ≠ .completing last cycle (.error .closed)

/-- Outcomes come from the flusher that completes a window, and that one from the sink. -/
theorem Section.unrefused {n : Option Notice} (h : Section s n s') (hs : Unrefused s)
    (hn : ∀ cycle, n ≠ some (.replied cycle (.done (.error .closed)))) : Unrefused s' := by
  have hkept : ∀ {f : Flusher}, (∀ last cycle, f ≠ .completing last cycle (.error .closed)) →
      s'.outcomes = s.outcomes → s'.flusher = f → Unrefused s' := by
    rintro f hf houtcomes rfl
    exact ⟨by rw [houtcomes]; exact hs.1, hf⟩
  cases h with
  | @shut last queue => exact hkept (f := .draining last) (by simp) rfl rfl
  | @swap last => exact hkept (f := .takingGauges last s.gate.cycle) (by simp) rfl rfl
  | takeGauges | takeNothing | hand => exact hkept (by simp) rfl rfl
  | @reply last cycle delta reply stats hf =>
    refine hkept (fun last' cycle' heq => ?_) rfl rfl
    have houtcome : reply.outcome = .error .closed := by
      injection heq
    cases reply with
    | done outcome => exact hn cycle (by rw [show outcome = .error .closed from houtcome])
    | panicked => exact absurd houtcome (by simp [Reply.outcome])
  | @publish last cycle outcome hf =>
    refine ⟨fun cycle' hmem => ?_, by simp⟩
    rcases List.mem_cons.1 hmem with heq | hold
    · rw [← (Prod.mk.inj heq).2] at hf
      exact hs.2 last cycle hf
    · exact hs.1 cycle' hold
  | @reopen last hf =>
    refine hkept (fun last' cycle' heq => ?_) rfl rfl
    cases last <;> simp at heq
  | _ => exact hs

/-- Only the end of a call of the sink is noticed as one. -/
theorem eq_reply_of_notice {e : Event} {cycle : Nat} {reply : Reply}
    (h : notice s e = some (.replied cycle reply)) : e = .reply reply := by
  unfold notice at h
  split at h
  · split at h
    · unfold State.callerNotice at h
      repeat' split at h
      all_goals simp at h
    · simp at h
  · unfold State.flusherNotice at h
    split at h
    · simp only at h
      split at h <;> simp at h
    · simp at h
    · simp at h
  · split at h
    · simp only [Option.some.injEq, Notice.replied.injEq] at h
      rw [h.2]
    · simp at h
  · simp at h

theorem Unrefused.step (h : Unrefused s) {e : Event}
    (he : e ≠ .reply (.done (.error .closed))) : Unrefused (Window.step s e) := by
  obtain ⟨mid, h₁, h₂⟩ := step_sections s e
  exact h₂.unrefused (h₁.unrefused h (by simp)) fun cycle hn => he (eq_reply_of_notice hn)

end Meterbank.Window
