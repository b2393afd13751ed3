/-
  Meterbank.Proofs.Window.Gate — the gate keeps callers and flusher apart.

  The gate counts the callers that are registered, and every one of them
  holds the current window.  The gate is open only while the flusher is
  idle; so once the flusher has found nobody registered it stays alone
  until it opens the gate again, and what it takes from the pending tables
  in two sections is what one section would have taken.

  Main results:
    * `Gated.section_keeps` — every section keeps the gate in order.
    * `gated_run` — so the gate is in order in every run.
    * `Gated.nobody` — nobody is registered while the flusher is alone.
-/
import Meterbank.Proofs.Window.Sections

namespace Meterbank.Window

/-! ## Moving one caller -/

/-- Counting after one entry of a list was replaced. -/
theorem countP_set_add {α : Type} (p : α → Bool) {l : List α} {i : Nat} {old : α}
    (h : l[i]? = some old) (new : α) :
    (l.set i new).countP p + (p old).toNat = l.countP p + (p new).toNat := by
  obtain ⟨hi, rfl⟩ := List.getElem?_eq_some_iff.1 h
  have hpos : p l[i] = true → 0 < l.countP p := fun hp =>
    List.countP_pos_iff.2 ⟨l[i], List.getElem_mem hi, hp⟩
  rw [List.countP_set hi]
  cases hold : p l[i] with
  | false => cases p new <;> simp
  | true =>
    have hcount := hpos hold
    cases p new <;> simp <;> omega

/-- One caller goes to another point.  What belongs to the flusher stays. -/
structure Moves (s s' : State) (id : Nat) (c : Caller) (point : Point) : Prop where
  found : s.callers[id]? = some c
  callers : s'.callers = s.callers.set id { c with point }
  isOpen : s'.gate.isOpen = s.gate.isOpen
  closed : s'.gate.closed = s.gate.closed
  cycle : s'.gate.cycle = s.gate.cycle
  flusher : s'.flusher = s.flusher
  outcomes : s'.outcomes = s.outcomes
  handed : s'.handed = s.handed

namespace Moves

variable {s s' : State} {id : Nat} {c : Caller} {point : Point}

theorem lt_length (m : Moves s s' id c point) : id < s.callers.length :=
  (List.getElem?_eq_some_iff.1 m.found).1

theorem mem (m : Moves s s' id c point) : c ∈ s.callers := List.mem_of_getElem? m.found

/-- The caller that moves is at its new point. -/
theorem lookup_self (m : Moves s s' id c point) : s'.callers[id]? = some { c with point } := by
  rw [m.callers, List.getElem?_set_self m.lt_length]

/-- The others are where they were. -/
theorem lookup_other (m : Moves s s' id c point) {j : Nat} (hj : j ≠ id) :
    s'.callers[j]? = s.callers[j]? := by
  rw [m.callers, List.getElem?_set_ne hj.symm]

/-- A caller after the move is the one that moved, or was there before. -/
theorem mem_cases (m : Moves s s' id c point) {x : Caller} (hx : x ∈ s'.callers) :
    x = { c with point } ∨ x ∈ s.callers := by
  rw [m.callers] at hx
  rcases List.mem_or_eq_of_mem_set hx with h | h
  · exact .inr h
  · exact .inl h

end Moves

/-- **A caller's section moves it, or changes nothing.** -/
theorem advance_moves (s : State) (id : Nat) :
    s.advance id = s ∨ ∃ c point, Moves s (s.advance id) id c point := by
  unfold State.advance
  cases hc : s.callers[id]? with
  | none => exact .inl rfl
  | some c =>
    simp only
    split
    · unfold State.enter
      split
      · exact .inr ⟨c, _, hc, rfl, rfl, rfl, rfl, rfl, rfl, rfl⟩
      · split
        · exact .inr ⟨c, _, hc, rfl, rfl, rfl, rfl, rfl, rfl, rfl⟩
        · exact .inl rfl
    · split <;> exact .inr ⟨c, _, hc, rfl, rfl, rfl, rfl, rfl, rfl, rfl⟩
    · exact .inr ⟨c, _, hc, rfl, rfl, rfl, rfl, rfl, rfl, rfl⟩
    · exact .inr ⟨c, _, hc, rfl, rfl, rfl, rfl, rfl, rfl, rfl⟩
    · unfold State.send
      simp only
      split <;> exact .inr ⟨c, _, hc, rfl, rfl, rfl, rfl, rfl, rfl, rfl⟩
    · split
      · exact .inr ⟨c, _, hc, rfl, rfl, rfl, rfl, rfl, rfl, rfl⟩
      · exact .inl rfl
    · unfold State.sendStop
      simp only
      split
      · exact .inr ⟨c, _, hc, rfl, rfl, rfl, rfl, rfl, rfl, rfl⟩
      · split
        · exact .inr ⟨c, _, hc, rfl, rfl, rfl, rfl, rfl, rfl, rfl⟩
        · exact .inl rfl
    · split <;> exact .inr ⟨c, _, hc, rfl, rfl, rfl, rfl, rfl, rfl, rfl⟩
    · split
      · exact .inr ⟨c, _, hc, rfl, rfl, rfl, rfl, rfl, rfl, rfl⟩
      · exact .inl rfl
    · exact .inl rfl

/-! ## The invariant -/

/-- The window that a registered caller has joined. -/
def Point.joined? : Point → Option Nat
  | .mergingCounters cycle | .mergingGauges cycle | .leaving cycle _ => some cycle
  | _ => none

theorem Point.isRegistered_eq (p : Point) : p.isRegistered = p.joined?.isSome := by
  cases p <;> rfl

/-- The window whose tables the flusher is taking or handing over. -/
def Flusher.window? : Flusher → Option Nat
  | .takingGauges _ cycle | .takingCounters _ cycle _ | .calling _ cycle _
  | .completing _ cycle _ => some cycle
  | _ => none

/-- Whether the flusher has found nobody registered and has not opened the
gate since. -/
def Flusher.isAlone : Flusher → Bool
  | .idle | .draining _ | .exited => false
  | _ => true

/-- Whether the flusher is at its last window, or past it. -/
def Flusher.isLast : Flusher → Bool
  | .idle => false
  | .draining last | .takingGauges last _ | .takingCounters last _ _ | .calling last _ _
  | .completing last _ _ | .reopening last => last
  | .exited => true

/-- The gate is in order. -/
structure Gated (s : State) : Prop where
  /-- The gate counts the registered callers. -/
  counted : s.gate.inFlight = s.callers.countP (·.point.isRegistered)
  /-- They all have joined the current window. -/
  current : ∀ c ∈ s.callers, ∀ cycle, c.point.joined? = some cycle → cycle = s.gate.cycle
  /-- The gate is shut while the flusher is busy. -/
  idle : s.gate.isOpen = true → s.flusher = .idle
  /-- Nobody registers behind the back of the flusher. -/
  alone : s.flusher.isAlone = true → s.gate.inFlight = 0
  /-- The flusher is at the window before the current one. -/
  previous : ∀ cycle, s.flusher.window? = some cycle → cycle + 1 = s.gate.cycle
  /-- The last window closes the gate for good. -/
  closed : s.flusher.isLast = true → s.gate.closed = true

namespace Gated

variable {s s' : State}

/-- Nobody has joined a window if the gate counts nobody. -/
theorem nobody_of_zero (h : Gated s) (hzero : s.gate.inFlight = 0) {c : Caller}
    (hc : c ∈ s.callers) : c.point.joined? = none := by
  have hcount : s.callers.countP (·.point.isRegistered) = 0 := by rw [← h.counted, hzero]
  have hreg : ¬ c.point.isRegistered = true := List.countP_eq_zero.1 hcount c hc
  rw [Point.isRegistered_eq] at hreg
  simpa using hreg

/-- **Nobody is registered while the flusher is alone.** -/
theorem nobody (h : Gated s) (ha : s.flusher.isAlone = true) {c : Caller} (hc : c ∈ s.callers) :
    c.point.joined? = none :=
  h.nobody_of_zero (h.alone ha) hc

/-! ## What callers do -/

/-- A caller that moves keeps the gate in order if the gate counts it. -/
theorem move (h : Gated s) {id : Nat} {c : Caller} {point : Point} (m : Moves s s' id c point)
    (hcount : s'.gate.inFlight + c.point.joined?.isSome.toNat =
      s.gate.inFlight + point.joined?.isSome.toNat)
    (hjoin : ∀ cycle, point.joined? = some cycle →
      c.point.joined? = some cycle ∨ cycle = s.gate.cycle ∧ s.gate.isOpen = true) :
    Gated s' where
  counted := by
    have hset := countP_set_add (fun x : Caller => x.point.isRegistered) m.found
      { c with point }
    have hbefore := h.counted
    simp only [Point.isRegistered_eq] at hset hbefore ⊢
    rw [m.callers]
    omega
  current := by
    intro x hx cycle hcycle
    rw [m.cycle]
    rcases m.mem_cases hx with rfl | hx
    · rcases hjoin cycle hcycle with hc | hc
      · exact h.current c m.mem cycle hc
      · exact hc.1
    · exact h.current x hx cycle hcycle
  idle := by
    intro hopen
    rw [m.flusher]
    exact h.idle (by rw [← m.isOpen]; exact hopen)
  alone := by
    intro ha
    rw [m.flusher] at ha
    have hzero := h.alone ha
    have hc : c.point.joined? = none := h.nobody ha m.mem
    -- It cannot join now either: the gate is open for an idle flusher only.
    have hp : point.joined? = none := by
      cases hp : point.joined? with
      | none => rfl
      | some cycle =>
        rcases hjoin cycle hp with hj | hj
        · rw [hc] at hj
          exact absurd hj (by simp)
        · rw [h.idle hj.2] at ha
          exact absurd ha (by simp [Flusher.isAlone])
    rw [hc, hp] at hcount
    simpa [hzero] using hcount
  previous := by
    intro cycle hw
    rw [m.flusher] at hw
    rw [m.cycle]
    exact h.previous cycle hw
  closed := by
    intro hlast
    rw [m.flusher] at hlast
    rw [m.closed]
    exact h.closed hlast

/-- A caller that neither joins a window nor leaves one. -/
theorem stand (h : Gated s) {id : Nat} {c : Caller} {point : Point} (m : Moves s s' id c point)
    (hcount : s'.gate.inFlight = s.gate.inFlight) (hpoint : point.joined? = c.point.joined?) :
    Gated s' := by
  refine h.move m ?_ ?_
  · rw [hcount, hpoint]
  · intro cycle hcycle
    rw [hpoint] at hcycle
    exact .inl hcycle

/-- A caller that leaves its window. -/
theorem leave (h : Gated s) {id cycle : Nat} {c : Caller} {point : Point}
    (m : Moves s s' id c point) (hjoined : c.point.joined? = some cycle)
    (hcount : s'.gate.inFlight = s.gate.inFlight - 1) (hpoint : point.joined? = none) :
    Gated s' := by
  -- The caller that leaves is counted, so the count does not stop at zero.
  have hpos : 0 < s.gate.inFlight := by
    rw [h.counted]
    refine List.countP_pos_iff.2 ⟨c, m.mem, ?_⟩
    rw [Point.isRegistered_eq, hjoined]
    rfl
  refine h.move m ?_ ?_
  · rw [hcount, hjoined, hpoint]
    show s.gate.inFlight - 1 + 1 = s.gate.inFlight + 0
    omega
  · intro cycle' hcycle
    rw [hpoint] at hcycle
    exact absurd hcycle (by simp)

/-- Whoever comes has not joined a window. -/
theorem come (h : Gated s) (task : Task) :
    Gated { s with callers := s.callers ++ [⟨task, task.start⟩] } := by
  have hnew : (task.start).joined? = none := by cases task <;> rfl
  refine ⟨?counted, ?current, h.idle, h.alone, h.previous, h.closed⟩
  case counted =>
    rw [List.countP_append, ← h.counted]
    simp [Point.isRegistered_eq, hnew]
  case current =>
    intro c hc cycle hcycle
    rcases List.mem_append.1 hc with hc | hc
    · exact h.current c hc cycle hcycle
    · rw [List.mem_singleton.1 hc, hnew] at hcycle
      exact absurd hcycle (by simp)

/-! ## What the flusher does -/

/-- The flusher goes on alone with the gate as it is. -/
theorem goOn (h : Gated s) (hcallers : s'.callers = s.callers) (hgate : s'.gate = s.gate)
    (halone : s.flusher.isAlone = true)
    (hwindow : ∀ cycle, s'.flusher.window? = some cycle → s.flusher.window? = some cycle)
    (hlast : s'.flusher.isLast = s.flusher.isLast) : Gated s' where
  counted := by rw [hgate, hcallers]; exact h.counted
  current := by rw [hgate, hcallers]; exact h.current
  idle := by
    intro hopen
    rw [hgate] at hopen
    rw [h.idle hopen] at halone
    exact absurd halone (by simp [Flusher.isAlone])
  alone := by
    intro _
    rw [hgate]
    exact h.alone halone
  previous := by
    intro cycle hw
    rw [hgate]
    exact h.previous cycle (hwindow cycle hw)
  closed := by
    intro hl
    rw [hgate]
    exact h.closed (by rw [← hlast]; exact hl)

/-- The flusher shuts the gate. -/
theorem shutGate (h : Gated s) (last : Bool) (queue : List Command) :
    Gated (s.shutGate last queue) where
  counted := h.counted
  current := h.current
  idle hopen := absurd hopen (by simp [State.shutGate])
  alone ha := absurd ha (by simp [State.shutGate, Flusher.isAlone])
  previous cycle hw := absurd hw (by simp [State.shutGate, Flusher.window?])
  closed := by
    intro hlast
    have hlast' : last = true := hlast
    show (s.gate.closed || last) = true
    rw [hlast', Bool.or_true]

/-- The flusher begins the next window: nobody is registered who has joined
the one before. -/
theorem swap (h : Gated s) {last : Bool} (hf : s.flusher = .draining last)
    (hd : s.gate.inFlight = 0) : Gated (s.swap last) where
  counted := h.counted
  current := by
    intro c hc cycle hcycle
    rw [h.nobody_of_zero hd hc] at hcycle
    exact absurd hcycle (by simp)
  idle := by
    intro hopen
    have hidle := h.idle hopen
    rw [hf] at hidle
    exact absurd hidle (by simp)
  alone _ := hd
  previous := by
    intro cycle hw
    have hcycle : s.gate.cycle = cycle := Option.some.inj hw
    rw [← hcycle]
    rfl
  closed := by
    intro hlast
    exact h.closed (by rw [hf]; exact hlast)

/-- The flusher opens the gate again, or exits after the last window. -/
theorem reopen (h : Gated s) {last : Bool} (hf : s.flusher = .reopening last) :
    Gated { s with
      gate := if s.gate.closed then s.gate else { s.gate with isOpen := true }
      flusher := if last then .exited else .idle } := by
  have halone : s.gate.inFlight = 0 := h.alone (by rw [hf]; rfl)
  by_cases hclosed : s.gate.closed = true
  · rw [if_pos hclosed]
    refine ⟨h.counted, h.current, ?idle, fun _ => halone, ?previous, fun _ => hclosed⟩
    case idle =>
      intro hopen
      have hidle := h.idle hopen
      rw [hf] at hidle
      exact absurd hidle (by simp)
    case previous =>
      intro cycle hw
      cases last <;> exact absurd hw (by simp [Flusher.window?])
  · rw [if_neg hclosed]
    -- The last window has closed the gate, so this one was not the last.
    have hlast : last = false := by
      cases last with
      | false => rfl
      | true => exact absurd (h.closed (by rw [hf]; rfl)) hclosed
    rw [hlast]
    refine ⟨h.counted, h.current, fun _ => rfl, fun _ => halone, ?previous, ?closed⟩
    case previous =>
      intro cycle hw
      exact absurd hw (by simp [Flusher.window?])
    case closed =>
      intro hl
      exact absurd hl (by simp [Flusher.isLast])

/-! ## All sections -/

/-- The machine starts with the gate in order. -/
theorem init : Gated State.init where
  counted := rfl
  current := by
    intro c hc
    exact absurd hc (by simp [State.init])
  idle _ := rfl
  alone h := absurd h (by simp [State.init, Flusher.isAlone])
  previous cycle h := absurd h (by simp [State.init, Flusher.window?])
  closed h := absurd h (by simp [State.init, Flusher.isLast])

/-- **Every section keeps the gate in order.** -/
theorem section_keeps {n : Option Notice} (h : Gated s) (hs : Section s n s') : Gated s' := by
  cases hs with
  | stay => exact h
  | come task => exact h.come task
  | refuse hc hp _ | count hc hp _ _ | overflow hc hp _ _ | merge hc hp _ | send hc hp _
  | wake hc hp _ | takeJoin hc hp _ | missJoin hc hp _ | join hc hp _ =>
    exact h.stand ⟨hc, rfl, rfl, rfl, rfl, rfl, rfl, rfl⟩ rfl (by rw [hp]; rfl)
  | @pass id c hc hp _ hopen =>
    have hjoin : (c.task.passed s.gate.cycle).joined? = some s.gate.cycle := by
      cases c.task <;> rfl
    refine h.move ⟨hc, rfl, rfl, rfl, rfl, rfl, rfl, rfl⟩ ?_ ?_
    · rw [hp, hjoin]
      rfl
    · intro cycle hcycle
      rw [hjoin] at hcycle
      exact .inr ⟨(Option.some.inj hcycle).symm, hopen⟩
  | leaveRefused hc hp =>
    exact h.leave ⟨hc, rfl, rfl, rfl, rfl, rfl, rfl, rfl⟩ (by rw [hp]; rfl) rfl rfl
  | @leave id cycle c hc hp =>
    have hleft : (c.task.left cycle).joined? = none := by cases c.task <;> rfl
    exact h.leave ⟨hc, rfl, rfl, rfl, rfl, rfl, rfl, rfl⟩ (by rw [hp]; rfl) rfl hleft
  | @tell id c queue hc hp _ =>
    have htold : c.task.told.joined? = none := by cases c.task <;> rfl
    exact h.stand ⟨hc, rfl, rfl, rfl, rfl, rfl, rfl, rfl⟩ rfl (by rw [hp, htold]; rfl)
  | shut _ _ => exact h.shutGate _ _
  | swap hf hd => exact h.swap hf hd
  | takeGauges hf | takeNothing hf _ _ | hand hf _ _ | reply _ _ hf =>
    exact h.goOn rfl rfl (by rw [hf]; rfl) (by rw [hf]; exact fun _ hw => hw) (by rw [hf]; rfl)
  | publish hf =>
    refine h.goOn rfl rfl (by rw [hf]; rfl) ?_ (by rw [hf]; rfl)
    intro cycle hw
    exact absurd hw (by simp [Flusher.window?])
  | reopen hf => exact h.reopen hf

end Gated

/-- The gate is in order in every run. -/
theorem gated_run (events : List Event) : Gated (run step State.init events) :=
  run_induction (P := fun s _ => Gated s) Gated.init (fun _ _ _ _ h hs => h.section_keeps hs) events

end Meterbank.Window
