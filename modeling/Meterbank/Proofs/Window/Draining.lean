/-
  Meterbank.Proofs.Window.Draining — the flusher is alone with the tables.

  The flusher works in turns.  Woken by the timer or by a command it shuts
  the gate, waits until nobody is registered, puts the next cycle in the
  place of the current one, takes the tables, completes the old cycle with
  the outcome and opens the gate.  From the moment when nobody was
  registered until the gate is open again nobody registers, so nothing is
  merged, and what callers do meanwhile could as well come later: the two
  tables, which are taken one after the other, are taken as one.

  Main results:
    * `step_turning` — what an event does to turns and cycles.
    * `Completing.section_keeps` — cycles are completed one after the other.
    * `taken_at_once` — the two tables are taken as one.
    * `run_drains` — what keeps callers and flusher apart in every run.
-/
import Meterbank.Proofs.Window.Barrier

namespace Meterbank.Window

variable {s s' : State} {log : List Notice}

/-! ## Turns -/

/-- Whether the flusher waits for the timer or a command. -/
def Flusher.isIdle : Flusher → Bool
  | .idle => true
  | _ => false

/-- Whether the flusher has been woken. -/
def State.wokenIn (s s' : State) : Bool := s.flusher.isIdle && !s'.flusher.isIdle

/-- How many turns the flusher has begun. -/
def turns (s : State) : List Event → Nat
  | [] => 0
  | e :: es => (s.wokenIn (step s e)).toNat + turns (step s e) es

/-- How the flusher goes on with its turns. -/
inductive Turning (s s' : State) : Prop where
  /-- It neither begins a turn nor goes on to the next cycle. -/
  | same (hcycle : s'.gate.cycle = s.gate.cycle)
      (hdraining : s'.flusher.isDraining = s.flusher.isDraining) (hwoken : s.wokenIn s' = false)
  /-- It has begun a turn and waits for those registered. -/
  | shut (hf : s.flusher = .idle) (hf' : ∃ last, s'.flusher = .draining last)
      (hcycle : s'.gate.cycle = s.gate.cycle)
  /-- Nobody is registered any more, and it has taken the cycle out. -/
  | swap (hf : ∃ last, s.flusher = .draining last)
      (hf' : ∃ last, s'.flusher = .takingGauges last s.gate.cycle)
      (hcycle : s'.gate.cycle = s.gate.cycle + 1) (hfree : s.gate.inFlight = 0)
  /-- It has begun a turn and found nobody registered. -/
  | both (hf : s.flusher = .idle)
      (hf' : ∃ last, s'.flusher = .takingGauges last s.gate.cycle)
      (hcycle : s'.gate.cycle = s.gate.cycle + 1) (hfree : s.gate.inFlight = 0)

/-- A section that leaves the flusher and the cycle leaves the turn. -/
theorem Turning.of_same (hcycle : s'.gate.cycle = s.gate.cycle) (hf : s'.flusher = s.flusher) :
    Turning s s' := by
  refine .same hcycle (by rw [hf]) ?_
  unfold State.wokenIn
  rw [hf]
  cases s.flusher.isIdle <;> rfl

/-- A busy flusher that goes on within its turn. -/
theorem Turning.of_busy (hcycle : s'.gate.cycle = s.gate.cycle)
    (hdraining : s'.flusher.isDraining = s.flusher.isDraining) (hidle : s.flusher.isIdle = false) :
    Turning s s' := by
  refine .same hcycle hdraining ?_
  unfold State.wokenIn
  rw [hidle]
  rfl

theorem Section.turning {n : Option Notice} (hs : Section s n s') : Turning s s' := by
  cases hs with
  | shut hf _ => exact .shut hf ⟨_, rfl⟩ rfl
  | swap hf hd => exact .swap ⟨_, hf⟩ ⟨_, rfl⟩ rfl hd
  | takeGauges hf | takeNothing hf _ _ | hand hf _ _ | reply _ _ hf | publish hf =>
    exact .of_busy rfl (by rw [hf]; rfl) (by rw [hf]; rfl)
  | @reopen last hf =>
    refine .of_busy ?_ ?_ (by rw [hf]; rfl)
    · simp only
      split <;> rfl
    · rw [hf]
      cases last <;> rfl
  | _ => exact .of_same rfl rfl

/-- An idle flusher that shuts the gate has begun a turn, and may go on at
once. -/
theorem shut_turning {last : Bool} (queue : List Command) (hf : s.flusher = .idle) :
    Turning s ({ s with queue }.shut last) := by
  unfold State.shut
  simp only
  by_cases hd : s.gate.inFlight = 0
  · rw [if_pos hd]
    exact .both hf ⟨_, rfl⟩ rfl hd
  · rw [if_neg hd]
    exact .shut hf ⟨_, rfl⟩ rfl

/-- **What an event does to turns and cycles.** -/
theorem step_turning (s : State) (e : Event) : Turning s (step s e) := by
  cases e with
  | call task => exact .of_same rfl rfl
  | advance id => exact (advance_section s id).turning
  | tick =>
    rw [step]
    split
    · next hf => exact shut_turning s.queue hf
    · exact .of_same rfl rfl
  | receive =>
    rw [step]
    split
    · next hf _ => exact shut_turning _ hf
    · exact .of_same rfl rfl
  | proceed => exact (proceed_section s).turning
  | reply reply =>
    rw [step]
    unfold State.replied
    cases hf : s.flusher with
    | calling last cycle delta => exact .of_busy rfl (by rw [hf]; rfl) (by rw [hf]; rfl)
    | _ => exact .of_same rfl rfl

namespace Turning

/-- The cycle counts the turns that have found nobody registered. -/
theorem counts (h : Turning s s') :
    s'.gate.cycle + s'.flusher.isDraining.toNat =
      s.gate.cycle + s.flusher.isDraining.toNat + (s.wokenIn s').toNat := by
  cases h with
  | same hcycle hdraining hwoken =>
    rw [hcycle, hdraining, hwoken]
    rfl
  | shut hf hf' hcycle | both hf hf' hcycle _ =>
    obtain ⟨last, hf'⟩ := hf'
    unfold State.wokenIn
    rw [hcycle, hf, hf']
    rfl
  | swap hf hf' hcycle _ =>
    obtain ⟨last, hf⟩ := hf
    obtain ⟨last', hf'⟩ := hf'
    unfold State.wokenIn
    rw [hcycle, hf, hf']
    rfl

/-- A cycle is taken out when nobody is registered, and by one who keeps it. -/
theorem next (h : Turning s s') :
    s'.gate.cycle = s.gate.cycle ∨
      s'.gate.cycle = s.gate.cycle + 1 ∧ s.gate.inFlight = 0 ∧
        ∃ last, s'.flusher = .takingGauges last s.gate.cycle := by
  cases h with
  | same hcycle _ _ => exact .inl hcycle
  | shut _ _ hcycle => exact .inl hcycle
  | swap _ hf' hcycle hfree => exact .inr ⟨hcycle, hfree, hf'⟩
  | both _ hf' hcycle hfree => exact .inr ⟨hcycle, hfree, hf'⟩

end Turning

/-- In every run each turn that has found nobody registered has led to the
next cycle. -/
theorem run_turns (s : State) (events : List Event) :
    (run step s events).gate.cycle + (run step s events).flusher.isDraining.toNat =
      s.gate.cycle + s.flusher.isDraining.toNat + turns s events := by
  induction events generalizing s with
  | nil => rfl
  | cons e es ih =>
    have hstep := (step_turning s e).counts
    have hrest := ih (step s e)
    rw [turns]
    show (run step (step s e) es).gate.cycle + (run step (step s e) es).flusher.isDraining.toNat = _
    omega

/-! ## Cycles that are completed -/

/-- The cycle that a notice says is complete. -/
def Notice.completed? : Notice → Option Nat
  | .published cycle _ => some cycle
  | _ => none

/-- The cycles that were completed, in order. -/
def completed (log : List Notice) : List Nat := log.filterMap Notice.completed?

theorem completed_append (log more : List Notice) :
    completed (log ++ more) = completed log ++ completed more :=
  List.filterMap_append ..

/-- A section publishes the outcome that is noticed, and no other. -/
theorem Section.outcomes {n : Option Notice} (hs : Section s n s') :
    s'.outcomes.map Prod.fst = completed n.toList ++ s.outcomes.map Prod.fst := by
  cases hs <;> rfl

theorem range'_snoc {n : Nat} (h : 0 < n) : List.range' 1 n = List.range' 1 (n - 1) ++ [n] := by
  have hn : n = n - 1 + 1 := by omega
  conv_lhs => rw [hn, List.range'_concat, Nat.one_mul, Nat.add_comm 1, ← hn]

/-- Cycles are completed one after the other, each once. -/
structure Completing (s : State) (log : List Notice) : Prop where
  begun : 0 < s.unended
  completed : completed log = List.range' 1 (s.unended - 1)
  /-- Every outcome that was published is kept, the newest first. -/
  recorded : s.outcomes.map Prod.fst = (Window.completed log).reverse

namespace Completing

theorem init : Completing State.init [] := ⟨by decide, rfl, rfl⟩

/-- **Every section completes no cycle, or the one that comes next.** -/
theorem section_keeps (h : Completing s log) (g : Gated s) {n : Option Notice}
    (hs : Section s n s') : Completing s' (log ++ n.toList) := by
  have hrecorded := hs.outcomes
  rw [h.recorded] at hrecorded
  rcases hs.unended g with ⟨hsame, hnone⟩ | ⟨hnext, outcome, rfl⟩
  · have hquiet : Window.completed n.toList = [] := by
      rw [Window.completed, List.filterMap_eq_nil_iff]
      intro x hx
      cases x with
      | published cycle outcome => exact absurd (Option.mem_toList.1 hx) (hnone cycle outcome)
      | _ => rfl
    rw [hquiet, List.nil_append] at hrecorded
    refine ⟨by rw [hsame]; exact h.begun, ?_, ?_⟩
    · rw [completed_append, hquiet, List.append_nil, hsame, h.completed]
    · rw [completed_append, hquiet, List.append_nil, hrecorded]
  · have hone : Window.completed (some (Notice.published s.unended outcome)).toList =
        [s.unended] := rfl
    refine ⟨by omega, ?_, ?_⟩
    · rw [completed_append, h.completed, hone, hnext, Nat.add_sub_cancel, range'_snoc h.begun]
    · rw [completed_append, List.reverse_append, hrecorded, hone]
      rfl

/-- In every run cycles are completed one after the other. -/
theorem run (events : List Event) :
    Completing (Meterbank.run Window.step State.init events) (chronicle State.init events) :=
  (run_induction (P := fun s log => Gated s ∧ Completing s log) ⟨.init, .init⟩
    (fun _ _ _ _ h hs => ⟨h.1.section_keeps hs, h.2.section_keeps h.1 hs⟩) events).2

/-- The cycles that were completed, and then the one that the flusher
keeps, are all that have been taken out of the gate. -/
theorem kept (h : Completing s log) (g : Gated s) :
    Window.completed log ++ s.flusher.window?.toList = List.range' 1 (s.gate.cycle - 1) := by
  have hbegun := h.begun
  rw [h.completed]
  unfold State.unended at hbegun ⊢
  cases hw : s.flusher.window? with
  | none => rw [Option.toList_none, List.append_nil, Option.getD_none]
  | some cycle =>
    rw [hw, Option.getD_some] at hbegun
    rw [Option.getD_some, Option.toList_some, ← g.previous cycle hw, Nat.add_sub_cancel,
      range'_snoc hbegun]

end Completing

/-! ## Tables that are taken at once -/

/-- Whether an event is one of callers. -/
def Event.isCaller : Event → Bool
  | .call _ | .advance _ => true
  | _ => false

/-- The state with everything that the flusher changes when it takes the
tables. -/
def State.taking (s : State) (pending : Delta) (stats : Stats) (handed : List (Nat × Delta))
    (flusher : Flusher) : State :=
  { s with pending, stats, handed, flusher }

/-- Whether the flusher is taking the tables. -/
def Flusher.isTaking : Flusher → Bool
  | .takingGauges _ _ | .takingCounters _ _ _ => true
  | _ => false

theorem Flusher.isTaking_cases {f : Flusher} (h : f.isTaking = true) :
    (∃ last cycle, f = .takingGauges last cycle) ∨
      ∃ last cycle gauges, f = .takingCounters last cycle gauges := by
  cases f with
  | takingGauges last cycle => exact .inl ⟨last, cycle, rfl⟩
  | takingCounters last cycle gauges => exact .inr ⟨last, cycle, gauges, rfl⟩
  | _ => exact absurd h (by simp [Flusher.isTaking])

/-- The flusher that takes tables is alone, and has not exited. -/
theorem busy_of_isTaking (hf : s.flusher.isTaking = true) :
    s.flusher.isAlone = true ∧ s.hasExited = false := by
  unfold State.hasExited
  rcases Flusher.isTaking_cases hf with ⟨last, cycle, h⟩ | ⟨last, cycle, gauges, h⟩ <;>
    rw [h] <;> exact ⟨rfl, rfl⟩

/-- A caller that is not registered looks at the flusher only to see
whether it has exited. -/
theorem advance_taking {pending : Delta} {stats : Stats} {handed : List (Nat × Delta)}
    {flusher : Flusher} (hnobody : ∀ c ∈ s.callers, c.point.joined? = none)
    (hexited : s.hasExited = false)
    (hexited' : (s.taking pending stats handed flusher).hasExited = false) (id : Nat) :
    (s.taking pending stats handed flusher).advance id =
      (s.advance id).taking pending stats handed flusher := by
  have hcallers : (s.taking pending stats handed flusher).callers = s.callers := rfl
  unfold State.advance
  rw [hcallers]
  cases hc : s.callers[id]? with
  | none => rfl
  | some c =>
    have hfree := hnobody c (List.mem_of_getElem? hc)
    simp only
    cases hp : c.point with
    | entering =>
      unfold State.enter State.taking
      simp only
      split
      · rfl
      · split <;> rfl
    | mergingCounters cycle | mergingGauges cycle | leaving cycle refusal =>
      exact absurd hfree (by rw [hp]; simp [Point.joined?])
    | sending cycle =>
      unfold State.send
      simp only [hexited, hexited']
      unfold State.taking
      simp only
      split <;> rfl
    | waiting cycle | stopTaking =>
      unfold State.taking
      simp only
      split <;> rfl
    | stopSending =>
      unfold State.sendStop
      simp only [hexited, hexited']
      unfold State.taking
      simp only [Bool.false_eq_true, if_false]
      split <;> rfl
    | stopJoining => simp only [hexited, hexited', Bool.false_eq_true, if_false]
    | returned outcome => rfl
    | stopped stats => rfl

/-- So it is with every event of callers. -/
theorem step_taking {pending : Delta} {stats : Stats} {handed : List (Nat × Delta)}
    {flusher : Flusher} (hnobody : ∀ c ∈ s.callers, c.point.joined? = none)
    (hexited : s.hasExited = false)
    (hexited' : (s.taking pending stats handed flusher).hasExited = false) {e : Event}
    (he : e.isCaller = true) :
    step (s.taking pending stats handed flusher) e =
      (step s e).taking pending stats handed flusher := by
  cases e with
  | call task => rfl
  | advance id => exact advance_taking hnobody hexited hexited' id
  | _ => exact absurd he (by simp [Event.isCaller])

/-- When the flusher takes a table it looks at nothing that belongs to
callers, and changes nothing of theirs. -/
theorem proceed_taking (hf : s.flusher.isTaking = true) (t : State) :
    (t.taking s.pending s.stats s.handed s.flusher).proceed =
      t.taking s.proceed.pending s.proceed.stats s.proceed.handed s.proceed.flusher := by
  unfold State.proceed State.taking
  rcases Flusher.isTaking_cases hf with ⟨last, cycle, h⟩ | ⟨last, cycle, gauges, h⟩
  · rw [h]
  · simp only [h, State.taken]
    split <;> rfl

/-- The flusher that takes a table does not exit. -/
theorem proceed_stays (hf : s.flusher.isTaking = true) : s.proceed.hasExited = false := by
  rw [Bool.eq_false_iff, Ne, State.hasExited_iff]
  unfold State.proceed
  rcases Flusher.isTaking_cases hf with ⟨last, cycle, h⟩ | ⟨last, cycle, gauges, h⟩
  · simp [h]
  · simp only [h, State.taken]
    split <;> simp

/-- **While tables are taken, what callers do could as well come later.** -/
theorem step_comes_later (g : Gated s) (hf : s.flusher.isTaking = true) {e : Event}
    (he : e.isCaller = true) : step (step s e) .proceed = step (step s .proceed) e := by
  obtain ⟨halone, hexited⟩ := busy_of_isTaking hf
  have hnobody : ∀ c ∈ s.callers, c.point.joined? = none := fun c hc => g.nobody halone hc
  -- Neither the event nor the table that is taken changes what the other looks at.
  have hkept : step (s.taking s.pending s.stats s.handed s.flusher) e =
      (step s e).taking s.pending s.stats s.handed s.flusher :=
    step_taking hnobody hexited hexited he
  calc step (step s e) .proceed
      = ((step s e).taking s.pending s.stats s.handed s.flusher).proceed :=
        congrArg State.proceed hkept
    _ = (step s e).taking s.proceed.pending s.proceed.stats s.proceed.handed s.proceed.flusher :=
        proceed_taking hf _
    _ = step (s.taking s.proceed.pending s.proceed.stats s.proceed.handed s.proceed.flusher) e :=
        (step_taking hnobody hexited (proceed_stays hf) he).symm
    _ = step (step s .proceed) e := congrArg (step · e) (proceed_taking hf s).symm

/-- The flusher that takes tables reads no command, and is in no call. -/
theorem step_waits (hf : s.flusher.isTaking = true) {e : Event} (hcaller : e.isCaller = false)
    (hproceed : e ≠ .proceed) : step s e = s := by
  cases e with
  | call task => exact absurd hcaller (by simp [Event.isCaller])
  | advance id => exact absurd hcaller (by simp [Event.isCaller])
  | proceed => exact absurd rfl hproceed
  | _ =>
    rcases Flusher.isTaking_cases hf with ⟨last, cycle, h⟩ | ⟨last, cycle, gauges, h⟩ <;>
      simp [step, State.replied, h]

/-- An event of callers does not move the flusher. -/
theorem step_flusher {e : Event} (he : e.isCaller = true) : (step s e).flusher = s.flusher := by
  cases e with
  | call task => rfl
  | advance id => exact advance_flusher s id
  | _ => exact absurd he (by simp [Event.isCaller])

/-- The gate is in order after any event. -/
theorem Gated.step (g : Gated s) (e : Event) : Gated (step s e) := by
  obtain ⟨mid, h₁, h₂⟩ := step_sections s e
  exact (g.section_keeps h₁).section_keeps h₂

/-- **Taking a table comes before whatever else happens meanwhile.** -/
theorem proceed_comes_first (g : Gated s) (hf : s.flusher.isTaking = true) {between : List Event}
    (hb : ∀ e ∈ between, e ≠ .proceed) :
    run step s (between ++ [.proceed]) = run step (step s .proceed) (between.filter Event.isCaller) := by
  induction between generalizing s with
  | nil => rfl
  | cons e es ih =>
    have hes : ∀ e ∈ es, e ≠ .proceed := fun x hx => hb x (List.mem_cons_of_mem _ hx)
    show run step (Window.step s e) (es ++ [.proceed]) = _
    by_cases he : e.isCaller = true
    · rw [ih (g.step e) (by rw [step_flusher he]; exact hf) hes, step_comes_later g hf he,
        List.filter_cons_of_pos he]
      rfl
    · rw [step_waits hf (by simpa using he) (hb e List.mem_cons_self), ih g hf hes,
        List.filter_cons_of_neg he]

/-- **The two tables are taken as one**: whatever happens between the two
sections, callers find the pending tables as if they had been taken together
before it. -/
theorem taken_at_once (g : Gated s) {last : Bool} {cycle : Nat}
    (hf : s.flusher = .takingGauges last cycle) {between : List Event}
    (hb : ∀ e ∈ between, e ≠ .proceed) :
    run step s (.proceed :: (between ++ [.proceed])) =
      run step ({ s with pending := .empty }.taken last cycle s.pending)
        (between.filter Event.isCaller) := by
  have hfirst : step s .proceed =
      { s with
        pending := { s.pending with gauges := ∅ }
        flusher := .takingCounters last cycle s.pending.gauges } := by
    unfold step State.proceed
    rw [hf]
  have hboth : step (step s .proceed) .proceed =
      { s with pending := .empty }.taken last cycle s.pending := by
    rw [hfirst]
    unfold step State.proceed State.taken
    simp only
    split <;> rfl
  show run step (step s .proceed) (between ++ [.proceed]) = _
  rw [proceed_comes_first (g.step .proceed) (by rw [hfirst]; rfl) hb, hboth]

/-! ## Every run -/

/-- A caller that leaves is counted, so there is something to take away. -/
theorem Gated.leaves (g : Gated s) {id cycle : Nat} {c : Caller} {refusal : Option StoreError}
    (hc : s.callers[id]? = some c) (hp : c.point = .leaving cycle refusal) :
    (s.advance id).gate.inFlight + 1 = s.gate.inFlight := by
  have hpos : 0 < s.gate.inFlight := by
    rw [g.counted]
    exact List.countP_pos_iff.2 ⟨c, List.mem_of_getElem? hc, by rw [hp]; rfl⟩
  have hless : (s.advance id).gate.inFlight = s.gate.inFlight - 1 := by
    unfold State.advance State.leave
    rw [hc]
    simp only [hp]
  omega

/-- What keeps callers and flusher apart, `begun` turns after the start. -/
structure Drained (s : State) (log : List Notice) (begun : Nat) : Prop where
  /-- The gate counts the registered callers, -/
  counted : s.gate.inFlight = s.callers.countP (·.point.isRegistered)
  /-- so each of them that leaves takes one away. -/
  leaves : ∀ id c cycle refusal, s.callers[id]? = some c → c.point = .leaving cycle refusal →
    (s.advance id).gate.inFlight + 1 = s.gate.inFlight
  /-- They all hold the current cycle. -/
  current : ∀ c ∈ s.callers, ∀ cycle, c.point.joined? = some cycle → cycle = s.gate.cycle
  /-- While the flusher is alone the gate is shut, and nobody is registered,
  so nobody merges. -/
  alone : s.flusher.isAlone = true →
    s.gate.isOpen = false ∧ ∀ c ∈ s.callers, c.point.isRegistered = false
  /-- Whatever happens between the taking of the one table and the taking of
  the other could as well happen after both. -/
  atOnce : ∀ last cycle, s.flusher = .takingGauges last cycle →
    ∀ between, (∀ e ∈ between, e ≠ .proceed) →
      run step s (.proceed :: (between ++ [.proceed])) =
        run step ({ s with pending := .empty }.taken last cycle s.pending)
          (between.filter Event.isCaller)
  /-- Every turn that has found nobody registered has led to the next cycle, -/
  turns : s.gate.cycle + s.flusher.isDraining.toNat = begun + 1
  /-- and nothing else has: an event leaves the cycle, or takes it out of the
  gate for the flusher to keep. -/
  next : ∀ e, (step s e).gate.cycle = s.gate.cycle ∨
    (step s e).gate.cycle = s.gate.cycle + 1 ∧ s.gate.inFlight = 0 ∧
      ∃ last, (step s e).flusher = .takingGauges last s.gate.cycle
  /-- The cycles that were completed, and the one that the flusher keeps, are
  those that were taken out, in their order. -/
  completed : completed log ++ s.flusher.window?.toList = List.range' 1 (s.gate.cycle - 1)
  /-- What was completed is what is kept of it. -/
  recorded : s.outcomes.map Prod.fst = (Window.completed log).reverse

/-- **The flusher is alone with the tables that it takes**, in every run,
whatever callers, timer, commands and sink do. -/
theorem run_drains (events : List Event) :
    Drained (run step State.init events) (chronicle State.init events) (turns State.init events) := by
  have g := gated_run events
  have hcompleting := Completing.run events
  have hturns := run_turns State.init events
  refine ⟨g.counted, fun _ _ _ _ hc hp => g.leaves hc hp, g.current, ?_, ?_, ?_, ?_,
    hcompleting.kept g, hcompleting.recorded⟩
  · intro ha
    refine ⟨?_, fun c hc => ?_⟩
    · cases hopen : (run step State.init events).gate.isOpen with
      | false => rfl
      | true =>
        rw [g.idle hopen] at ha
        exact absurd ha (by simp [Flusher.isAlone])
    · rw [Point.isRegistered_eq, g.nobody ha hc]
      rfl
  · intro last cycle hf between hb
    exact taken_at_once g hf hb
  · rw [hturns]
    exact Nat.add_comm 1 _
  · exact fun e => (step_turning _ e).next

end Meterbank.Window
