/-
  Meterbank.Proofs.Window.Attending — every caller is attended to.

  A caller holds a window from the moment it passes the gate until it
  returns.  That window is the current one, or the flusher is at it, or
  its outcome has been published; and it is not the current one any more
  once the flusher has found nobody registered.  So a flusher that exits
  leaves nobody behind.  A flush that waits for the current window has
  left a command in the queue, or the flusher is about to end that window.

  Main results:
    * `Attended.section_keeps`, `attended_run` — so it is in every run.
    * `Attended.published_of_exited` — the flusher that has exited has
      published the outcome of every window that anybody holds.
    * `State.Due.run` — a window that the flusher is about to end stays so
      until its outcome is published.
-/
import Meterbank.Proofs.Window.Gate

namespace Meterbank.Window

/-! ## Windows that are held -/

/-- The window that a caller holds. -/
def Point.cycle? : Point → Option Nat
  | .mergingCounters cycle | .mergingGauges cycle | .leaving cycle _ | .sending cycle
  | .waiting cycle => some cycle
  | _ => none

theorem Point.cycle?_of_joined? {p : Point} {cycle : Nat} (h : p.joined? = some cycle) :
    p.cycle? = some cycle := by
  cases p <;> first | exact h | exact absurd h (by simp [Point.joined?])

theorem State.hasExited_iff (s : State) : s.hasExited = true ↔ s.flusher = .exited := by
  unfold State.hasExited
  cases s.flusher <;> simp

/-- Whether the flusher is at a window. -/
def Flusher.isBusy : Flusher → Bool
  | .idle | .exited => false
  | _ => true

/-- Whether the flusher has shut the gate and waits for those registered. -/
def Flusher.isDraining : Flusher → Bool
  | .draining _ => true
  | _ => false

/-- Whether the outcome of a window has been published. -/
def State.published (s : State) (cycle : Nat) : Bool := (s.outcomes.lookup cycle).isSome

/-- Another outcome takes none back. -/
theorem lookup_isSome_cons {outcomes : List (Nat × Outcome)} {cycle : Nat}
    (h : (outcomes.lookup cycle).isSome = true) (p : Nat × Outcome) :
    ((p :: outcomes).lookup cycle).isSome = true := by
  obtain ⟨c, outcome⟩ := p
  rw [List.lookup_cons]
  split
  · rfl
  · exact h

theorem lookup_isSome_self (outcomes : List (Nat × Outcome)) (cycle : Nat) (outcome : Outcome) :
    (((cycle, outcome) :: outcomes).lookup cycle).isSome = true := by
  rw [List.lookup_cons_self]
  rfl

/-! ## The invariant -/

/-- Every caller is attended to. -/
structure Attended (s : State) : Prop where
  /-- Nobody holds a window that has not begun. -/
  upTo : ∀ c ∈ s.callers, ∀ cycle, c.point.cycle? = some cycle → cycle ≤ s.gate.cycle
  /-- A window that is held is the current one, or the flusher is at it,
  or its outcome is known. -/
  held : ∀ c ∈ s.callers, ∀ cycle, c.point.cycle? = some cycle →
    cycle = s.gate.cycle ∨ s.flusher.window? = some cycle ∨ s.published cycle = true
  /-- Nobody holds the current window while the flusher is alone, or when
  it has exited. -/
  left : s.flusher.isAlone = true ∨ s.flusher = .exited →
    ∀ c ∈ s.callers, c.point.cycle? ≠ some s.gate.cycle
  /-- The gate is open while the flusher is idle. -/
  idle : s.flusher = .idle → s.gate.isOpen = true
  /-- Only the last window closes the gate. -/
  closing : s.gate.closed = true → s.flusher.isLast = true
  /-- Whoever asked for a flush of the current window has been heard. -/
  nudged : ∀ c ∈ s.callers, c.task = .flush → c.point = .waiting s.gate.cycle →
    s.queue ≠ [] ∨ s.flusher.isDraining = true

namespace Attended

variable {s s' : State}

/-- Nothing has happened yet. -/
theorem init : Attended State.init where
  upTo c hc := absurd hc (by simp [State.init])
  held c hc := absurd hc (by simp [State.init])
  left _ c hc := absurd hc (by simp [State.init])
  idle _ := rfl
  closing h := absurd h (by simp [State.init])
  nudged c hc := absurd hc (by simp [State.init])

/-- A caller that moves is attended to if it holds on to its window, or
takes the current one from an idle flusher; and if a flush that begins to
wait has been heard. -/
theorem move (h : Attended s) {id : Nat} {c : Caller} {point : Point} (m : Moves s s' id c point)
    (hqueue : s.queue ≠ [] → s'.queue ≠ [])
    (hheld : ∀ cycle, point.cycle? = some cycle →
      c.point.cycle? = some cycle ∨ cycle = s.gate.cycle ∧ s.flusher = .idle)
    (hnudged : c.task = .flush → point = .waiting s.gate.cycle →
      s'.queue ≠ [] ∨ s.flusher.isDraining = true) : Attended s' := by
  have hpublished : s'.published = s.published := by
    funext cycle
    unfold State.published
    rw [m.outcomes]
  refine ⟨?upTo, ?held, ?left, ?idle, ?closing, ?nudged⟩
  case upTo =>
    intro x hx cycle hcycle
    rw [m.cycle]
    rcases m.mem_cases hx with rfl | hx
    · rcases hheld cycle hcycle with hc | ⟨hc, -⟩
      · exact h.upTo c m.mem cycle hc
      · omega
    · exact h.upTo x hx cycle hcycle
  case held =>
    intro x hx cycle hcycle
    rw [m.cycle, m.flusher, hpublished]
    rcases m.mem_cases hx with rfl | hx
    · rcases hheld cycle hcycle with hc | ⟨hc, -⟩
      · exact h.held c m.mem cycle hc
      · exact .inl hc
    · exact h.held x hx cycle hcycle
  case left =>
    intro hf x hx
    rw [m.flusher] at hf
    rw [m.cycle]
    rcases m.mem_cases hx with rfl | hx
    · intro hcycle
      rcases hheld _ hcycle with hc | ⟨-, hidle⟩
      · exact h.left hf c m.mem hc
      · rw [hidle] at hf
        exact absurd hf (by simp [Flusher.isAlone])
    · exact h.left hf x hx
  case idle =>
    intro hf
    rw [m.flusher] at hf
    rw [m.isOpen]
    exact h.idle hf
  case closing =>
    intro hc
    rw [m.closed] at hc
    rw [m.flusher]
    exact h.closing hc
  case nudged =>
    intro x hx ht hp
    rw [m.cycle] at hp
    rw [m.flusher]
    rcases m.mem_cases hx with rfl | hx
    · exact hnudged ht hp
    · rcases h.nudged x hx ht hp with hq | hf
      · exact .inl (hqueue hq)
      · exact .inr hf

/-- A caller that is left without a window is attended to. -/
theorem release (h : Attended s) {id : Nat} {c : Caller} {point : Point} (m : Moves s s' id c point)
    (hqueue : s.queue ≠ [] → s'.queue ≠ []) (hpoint : point.cycle? = none) : Attended s' := by
  refine h.move m hqueue ?_ ?_
  · intro cycle hcycle
    rw [hpoint] at hcycle
    exact absurd hcycle (by simp)
  · intro _ hwaits
    rw [hwaits] at hpoint
    exact absurd hpoint (by simp [Point.cycle?])

/-- A caller that goes on with its window is attended to, if it is not a
flush that begins to wait. -/
theorem hold (h : Attended s) {id : Nat} {c : Caller} {point : Point} (m : Moves s s' id c point)
    (hqueue : s.queue ≠ [] → s'.queue ≠ []) (hpoint : point.cycle? = c.point.cycle?)
    (hwaits : c.task = .flush → point ≠ .waiting s.gate.cycle) : Attended s' := by
  refine h.move m hqueue ?_ ?_
  · intro cycle hcycle
    rw [hpoint] at hcycle
    exact .inl hcycle
  · intro ht hw
    exact absurd hw (hwaits ht)

/-- While the flusher is at no window, a window that is held is the current
one, or its outcome is known. -/
theorem current_or_published (h : Attended s) (hw : s.flusher.window? = none) {c : Caller}
    (hc : c ∈ s.callers) {cycle : Nat} (hheld : c.point.cycle? = some cycle) :
    cycle = s.gate.cycle ∨ s.published cycle = true := by
  rcases h.held c hc cycle hheld with hcurrent | hwindow | hpublished
  · exact .inl hcurrent
  · rw [hw] at hwindow
    exact absurd hwindow (by simp)
  · exact .inr hpublished

/-- Nobody waits for the current window while the flusher is alone. -/
theorem not_waiting (h : Attended s) (ha : s.flusher.isAlone = true) {c : Caller}
    (hc : c ∈ s.callers) : c.point ≠ .waiting s.gate.cycle := by
  intro hp
  have hheld : c.point.cycle? = some s.gate.cycle := by rw [hp]; rfl
  exact h.left (.inl ha) c hc hheld

/-! ## What callers do -/

/-- Whoever comes holds nothing. -/
theorem come (h : Attended s) (task : Task) :
    Attended { s with callers := s.callers ++ [⟨task, task.start⟩] } := by
  have hnew : (task.start).cycle? = none := by cases task <;> rfl
  -- So what is said of holders is said of the others.
  have hold : ∀ x ∈ s.callers ++ [⟨task, task.start⟩], ∀ cycle, x.point.cycle? = some cycle →
      x ∈ s.callers := by
    intro x hx cycle hcycle
    rcases List.mem_append.1 hx with hx | hx
    · exact hx
    · rw [List.mem_singleton.1 hx, hnew] at hcycle
      exact absurd hcycle (by simp)
  refine ⟨?upTo, ?held, ?left, h.idle, h.closing, ?nudged⟩
  case upTo =>
    intro x hx cycle hcycle
    exact h.upTo x (hold x hx cycle hcycle) cycle hcycle
  case held =>
    intro x hx cycle hcycle
    exact h.held x (hold x hx cycle hcycle) cycle hcycle
  case left =>
    intro hf x hx hcycle
    exact h.left hf x (hold x hx _ hcycle) hcycle
  case nudged =>
    intro x hx ht hp
    exact h.nudged x (hold x hx s.gate.cycle (by rw [hp]; rfl)) ht hp

/-- A flush sends its command, if there is room for it. -/
theorem send (h : Attended s) {id cycle : Nat} {c : Caller} {queue : List Command}
    (m : Moves s s' id c (.waiting cycle)) (hp : c.point = .sending cycle)
    (hq : queue = if s.hasExited = false ∧ s.queue.length < queueBound
      then s.queue ++ [.flush] else s.queue) (hqueue : s'.queue = queue) : Attended s' := by
  refine h.move m ?_ ?_ ?_
  · intro hne
    rw [hqueue, hq]
    split
    · simp
    · exact hne
  · intro cycle' hcycle
    rw [hp]
    exact .inl hcycle
  · intro _ hw
    left
    rw [hqueue, hq]
    split
    · simp
    · next hfull =>
      -- It has sent nothing, so the queue is full: the flusher that has
      -- exited has left no caller with the current window.
      intro hnil
      have hexited : s.flusher = .exited := by
        rw [← State.hasExited_iff]
        by_cases hx : s.hasExited = true
        · exact hx
        · exact absurd ⟨by simpa using hx, by simp [hnil, queueBound]⟩ hfull
      have hcycle : cycle = s.gate.cycle := by simpa using hw
      have hheld : c.point.cycle? = some s.gate.cycle := by rw [hp, hcycle]; rfl
      exact h.left (.inr hexited) c m.mem hheld

/-! ## What the flusher does -/

/-- The flusher goes on within a window, with nothing published. -/
theorem goOn (h : Attended s) (hcallers : s'.callers = s.callers) (hgate : s'.gate = s.gate)
    (houtcomes : s'.outcomes = s.outcomes) (halone : s.flusher.isAlone = true)
    (halone' : s'.flusher.isAlone = true) (hwindow : s'.flusher.window? = s.flusher.window?)
    (hlast : s'.flusher.isLast = s.flusher.isLast) : Attended s' where
  upTo := by rw [hcallers, hgate]; exact h.upTo
  held := by
    unfold State.published
    rw [hcallers, hgate, hwindow, houtcomes]
    exact h.held
  left := by
    intro _
    rw [hcallers, hgate]
    exact h.left (.inl halone)
  idle := by
    intro hf
    rw [hf] at halone'
    exact absurd halone' (by simp [Flusher.isAlone])
  closing := by rw [hgate, hlast]; exact h.closing
  nudged := by
    intro c hc _ hp
    rw [hcallers] at hc
    rw [hgate] at hp
    exact absurd hp (h.not_waiting halone hc)

/-- The flusher shuts the gate. -/
theorem shutGate (h : Attended s) (hf : s.flusher = .idle) (last : Bool) (queue : List Command) :
    Attended (s.shutGate last queue) where
  upTo := h.upTo
  held := by
    intro c hc cycle hcycle
    rcases h.current_or_published (by rw [hf]; rfl) hc hcycle with hcurrent | hpublished
    · exact .inl hcurrent
    · exact .inr (.inr hpublished)
  left halone := absurd halone (by simp [State.shutGate, Flusher.isAlone])
  idle hidle := absurd hidle (by simp [State.shutGate])
  closing := by
    intro hclosed
    -- The gate was not closed before, as the flusher was idle.
    have hbefore : s.gate.closed = false := by
      cases hcl : s.gate.closed with
      | false => rfl
      | true =>
        have hlast := h.closing hcl
        rw [hf] at hlast
        exact absurd hlast (by simp [Flusher.isLast])
    have hor : (s.gate.closed || last) = true := hclosed
    show last = true
    rwa [hbefore, Bool.false_or] at hor
  nudged _ _ _ _ := .inr rfl

/-- The flusher, which has found nobody registered, begins the next window. -/
theorem swap (h : Attended s) {last : Bool} (hf : s.flusher = .draining last) :
    Attended (s.swap last) where
  upTo := by
    intro c hc cycle hcycle
    have hle := h.upTo c hc cycle hcycle
    show cycle ≤ s.gate.cycle + 1
    omega
  held := by
    intro c hc cycle hcycle
    rcases h.current_or_published (by rw [hf]; rfl) hc hcycle with hcurrent | hpublished
    · exact .inr (.inl (by rw [hcurrent]; rfl))
    · exact .inr (.inr hpublished)
  left := by
    intro _ c hc hcycle
    have hle := h.upTo c hc (s.gate.cycle + 1) hcycle
    omega
  idle hidle := absurd hidle (by simp [State.swap])
  closing := by
    intro hclosed
    have hlast := h.closing hclosed
    rw [hf] at hlast
    exact hlast
  nudged := by
    intro c hc _ hp
    have hp' : c.point = .waiting (s.gate.cycle + 1) := hp
    have hle := h.upTo c hc (s.gate.cycle + 1) (by rw [hp']; rfl)
    omega

/-- The flusher publishes an outcome. -/
theorem publish (h : Attended s) {last : Bool} {cycle : Nat} {outcome : Outcome}
    (hf : s.flusher = .completing last cycle outcome) :
    Attended { s with outcomes := (cycle, outcome) :: s.outcomes, flusher := .reopening last } := by
  have halone : s.flusher.isAlone = true := by rw [hf]; rfl
  refine ⟨h.upTo, ?held, fun _ => h.left (.inl halone), ?idle, ?closing, ?nudged⟩
  case held =>
    intro c hc cycle' hcycle
    have hold := h.held c hc cycle' hcycle
    rw [hf] at hold
    rcases hold with hcurrent | hwindow | hpublished
    · exact .inl hcurrent
    · have hsame : cycle = cycle' := Option.some.inj hwindow
      rw [← hsame]
      exact .inr (.inr (lookup_isSome_self s.outcomes cycle outcome))
    · exact .inr (.inr (lookup_isSome_cons hpublished _))
  case idle =>
    intro hidle
    exact absurd hidle (by simp)
  case closing =>
    intro hclosed
    have hlast := h.closing hclosed
    rw [hf] at hlast
    exact hlast
  case nudged =>
    intro c hc _ hp
    exact absurd hp (h.not_waiting halone hc)

/-- The flusher opens the gate again, or exits after the last window. -/
theorem reopen (h : Attended s) {last : Bool} (hf : s.flusher = .reopening last) :
    Attended { s with
      gate := if s.gate.closed then s.gate else { s.gate with isOpen := true }
      flusher := if last then .exited else .idle } := by
  have halone : s.flusher.isAlone = true := by rw [hf]; rfl
  have hcycle : (if s.gate.closed then s.gate else { s.gate with isOpen := true }).cycle =
      s.gate.cycle := by split <;> rfl
  -- Only the last window leaves the gate shut, and the flusher exits then.
  have hlast : s.gate.closed = true → last = true := by
    intro hclosed
    have hlast := h.closing hclosed
    rwa [hf] at hlast
  refine ⟨?upTo, ?held, ?left, ?idle, ?closing, ?nudged⟩
  case upTo =>
    intro c hc cycle hheld
    rw [hcycle]
    exact h.upTo c hc cycle hheld
  case held =>
    intro c hc cycle hheld
    rw [hcycle]
    rcases h.current_or_published (by rw [hf]; rfl) hc hheld with hcurrent | hpublished
    · exact .inl hcurrent
    · exact .inr (.inr hpublished)
  case left =>
    intro _
    rw [hcycle]
    exact h.left (.inl halone)
  case idle =>
    intro hidle
    by_cases hclosed : s.gate.closed = true
    · rw [hlast hclosed] at hidle
      exact absurd hidle (by simp)
    · rw [if_neg hclosed]
  case closing =>
    intro hclosed
    have hbefore : s.gate.closed = true := by
      by_cases hcl : s.gate.closed = true
      · exact hcl
      · rwa [if_neg hcl] at hclosed
    rw [hlast hbefore]
    rfl
  case nudged =>
    intro c hc _ hp
    rw [hcycle] at hp
    exact absurd hp (h.not_waiting halone hc)

/-! ## All sections -/

/-- **Every section keeps every caller attended to.** -/
theorem section_keeps {n : Option Notice} (h : Attended s) (g : Gated s) (hs : Section s n s') :
    Attended s' := by
  cases hs with
  | stay => exact h
  | come task => exact h.come task
  | refuse hc _ _ | leaveRefused hc _ | wake hc _ _ | takeJoin hc _ _ | missJoin hc _ _
  | join hc _ _ =>
    exact h.release ⟨hc, rfl, rfl, rfl, rfl, rfl, rfl, rfl⟩ id rfl
  | @pass id c hc _ _ hopen =>
    -- It takes the current window, and the flusher is idle.
    have hpassed : (c.task.passed s.gate.cycle).cycle? = some s.gate.cycle := by
      cases c.task <;> rfl
    refine h.move ⟨hc, rfl, rfl, rfl, rfl, rfl, rfl, rfl⟩ (fun hq => hq) ?_ ?_
    · intro cycle hcycle
      rw [hpassed] at hcycle
      exact .inr ⟨(Option.some.inj hcycle).symm, g.idle hopen⟩
    · intro ht hp
      rw [ht] at hp
      exact absurd hp (by simp [Task.passed])
  | count hc hp _ _ | overflow hc hp _ _ | merge hc hp _ =>
    exact h.hold ⟨hc, rfl, rfl, rfl, rfl, rfl, rfl, rfl⟩ id (by rw [hp]; rfl) (by simp)
  | @leave id cycle c hc hp =>
    have hleft : (c.task.left cycle).cycle? = some cycle := by cases c.task <;> rfl
    refine h.hold ⟨hc, rfl, rfl, rfl, rfl, rfl, rfl, rfl⟩ (fun hq => hq) ?_ ?_
    · rw [hleft, hp]
      rfl
    · -- A flush does not wait before it has sent its command.
      intro ht
      simp [ht, Task.left]
  | send hc hp hq => exact h.send ⟨hc, rfl, rfl, rfl, rfl, rfl, rfl, rfl⟩ hp hq rfl
  | @tell id c queue hc _ hq =>
    refine h.release ⟨hc, rfl, rfl, rfl, rfl, rfl, rfl, rfl⟩ ?_ ?_
    · intro hne
      show queue ≠ []
      rcases hq with ⟨-, hq⟩ | ⟨-, -, hq⟩
      · rw [hq]
        exact hne
      · rw [hq]
        simp
    · cases c.task <;> rfl
  | shut hf _ => exact h.shutGate hf _ _
  | swap hf _ => exact h.swap hf
  | takeGauges hf | takeNothing hf _ _ | hand hf _ _ | reply _ _ hf =>
    exact h.goOn rfl rfl rfl (by rw [hf]; rfl) rfl (by rw [hf]; rfl) (by rw [hf]; rfl)
  | publish hf => exact h.publish hf
  | reopen hf => exact h.reopen hf

/-! ## What follows from it -/

/-- **The flusher that has exited has published every window that is held.** -/
theorem published_of_exited (h : Attended s) (hx : s.flusher = .exited) {c : Caller}
    (hc : c ∈ s.callers) {cycle : Nat} (hheld : c.point.cycle? = some cycle) :
    s.published cycle = true := by
  rcases h.current_or_published (by rw [hx]; rfl) hc hheld with hcurrent | hpublished
  · rw [hcurrent] at hheld
    exact absurd hheld (h.left (.inr hx) c hc)
  · exact hpublished

/-- Nobody is registered once the flusher has exited. -/
theorem nobody_of_exited (h : Attended s) (g : Gated s) (hx : s.flusher = .exited) {c : Caller}
    (hc : c ∈ s.callers) : c.point.joined? = none := by
  cases hj : c.point.joined? with
  | none => rfl
  | some cycle =>
    have hcycle := g.current c hc cycle hj
    have hheld := Point.cycle?_of_joined? hj
    rw [hcycle] at hheld
    exact absurd hheld (h.left (.inr hx) c hc)

end Attended

/-- The gate is in order and every caller is attended to, in every run. -/
theorem attended_run (events : List Event) :
    Gated (run step State.init events) ∧ Attended (run step State.init events) :=
  run_induction (P := fun s _ => Gated s ∧ Attended s) ⟨Gated.init, Attended.init⟩
    (fun _ _ _ _ h hs => ⟨h.1.section_keeps hs, h.2.section_keeps h.1 hs⟩) events

/-! ## Windows that are due -/

/-- The flusher is at a window, and has not published its outcome. -/
def State.Due (s : State) (cycle : Nat) : Prop :=
  s.flusher.window? = some cycle ∨ s.flusher.isDraining = true ∧ cycle = s.gate.cycle

/-- A section that leaves a published outcome as it is, or adds another. -/
theorem Section.published {s s' : State} {n : Option Notice} (hs : Section s n s') {cycle : Nat}
    (h : s.published cycle = true) : s'.published cycle = true := by
  cases hs
  case publish => exact lookup_isSome_cons h _
  all_goals exact h

/-- A window that is due stays due, or its outcome is published. -/
theorem Section.due {s s' : State} {n : Option Notice} (hs : Section s n s') {cycle : Nat}
    (h : s.Due cycle) : s'.Due cycle ∨ s'.published cycle = true := by
  cases hs with
  | shut hf _ =>
    rcases h with hw | ⟨hd, -⟩
    · rw [hf] at hw
      exact absurd hw (by simp [Flusher.window?])
    · rw [hf] at hd
      exact absurd hd (by simp [Flusher.isDraining])
  | swap hf _ =>
    rcases h with hw | ⟨-, hc⟩
    · rw [hf] at hw
      exact absurd hw (by simp [Flusher.window?])
    · left
      left
      rw [hc]
      rfl
  | takeGauges hf | takeNothing hf _ _ | hand hf _ _ | reply _ _ hf =>
    exact .inl (by simpa [State.Due, hf, Flusher.window?, Flusher.isDraining] using h)
  | @publish last c outcome hf =>
    have hc : c = cycle := by simpa [State.Due, hf, Flusher.window?, Flusher.isDraining] using h
    rw [← hc]
    exact .inr (lookup_isSome_self s.outcomes c outcome)
  | reopen hf =>
    exact absurd h (by simp [State.Due, hf, Flusher.window?, Flusher.isDraining])
  | _ => exact .inl h

/-- **A window that is due stays due until its outcome is published.** -/
theorem State.Due.run {s : State} {cycle : Nat} (h : s.Due cycle) (events : List Event) :
    (Meterbank.run Window.step s events).Due cycle ∨
      (Meterbank.run Window.step s events).published cycle = true := by
  refine sections_keep (P := fun s _ => s.Due cycle ∨ s.published cycle = true) ?_ s [] (.inl h) events
  intro s _ n s' h hs
  rcases h with hdue | hpublished
  · exact hs.due hdue
  · exact .inr (hs.published hpublished)

end Meterbank.Window
