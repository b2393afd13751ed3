/-
  Meterbank.Proofs.Window.Windows — the course of a window.

  The flusher works on one window at a time, and on each of them once: it
  takes the tables, hands over what was in them unless that is nothing,
  hears the reply of the sink, publishes the outcome and opens the gate.
  So the notices of the flusher are about windows whose tables have been
  taken, and each of those windows was offered to the sink or was empty.

  Main results:
    * `Flushed.section_keeps` — every section keeps to this course.
    * `section_justified` — every notice is justified when it is made.
-/
import Meterbank.Proofs.Window.Pending
import Meterbank.Proofs.Window.Trails

namespace Meterbank.Window

/-! ## The invariant -/

/-- The windows before the one that is being collected have been offered
to the sink, in order, and the flusher knows how far it has come. -/
structure Flushed (s : State) (log : List Notice) : Prop where
  handed : s.handed = handedIn log
  outcomes : ∀ cycle outcome, (cycle, outcome) ∈ s.outcomes → .published cycle outcome ∈ log
  /-- The notices of the flusher are about windows that were taken. -/
  past : ∀ n ∈ log, ∀ cycle, n.flushed? = some cycle → cycle < s.collecting
  /-- A window that was taken was handed over, or there was nothing in it. -/
  offered : ∀ cycle, cycle < s.collecting →
    (∃ whole, .handed cycle whole ∈ log) ∨ ∀ d ∈ deltas log cycle, d.isEmpty = true
  calling : ∀ last cycle delta, s.flusher = .calling last cycle delta →
    .handed cycle delta ∈ log ∧ (∀ reply, .replied cycle reply ∉ log) ∧
      ∀ outcome, .published cycle outcome ∉ log
  completing : ∀ last cycle outcome, s.flusher = .completing last cycle outcome →
    Ended log cycle outcome ∧ ∀ outcome', .published cycle outcome' ∉ log

namespace Flushed

variable {s s' : State} {log : List Notice}

/-- Nothing is known of the flusher's work on the window being collected. -/
theorem not_flushed (h : Flushed s log) {n : Notice} (hn : n ∈ log) :
    n.flushed? ≠ some s.collecting := by
  intro hf
  exact absurd (h.past n hn _ hf) (by omega)

/-- A section of a caller: it may merge into the window being collected. -/
theorem move (h : Flushed s log) {id : Nat} {c : Caller} {point : Point} {n : Option Notice}
    (m : Moves s s' id c point) (hflushed : ∀ x ∈ n, x.flushed? = none)
    (hmerged : ∀ x ∈ n, ∀ id cycle delta, x = .merged id cycle delta →
      cycle = s.collecting ∧ s.flusher.isAlone = false) : Flushed s' (log ++ n.toList) := by
  have hcollecting : s'.collecting = s.collecting := by
    unfold State.collecting
    rw [m.flusher, m.cycle]
  -- What a caller does is no notice of the flusher.
  have hnot : ∀ x, x.flushed? ≠ none → (x ∈ log ++ n.toList ↔ x ∈ log) := by
    intro x hx
    rw [List.mem_append]
    constructor
    · rintro (hmem | hmem)
      · exact hmem
      · exact absurd (hflushed x (by simpa using hmem)) hx
    · exact .inl
  -- It adds to no window but the one being collected, and to that one only
  -- while the flusher is not alone.
  have hdeltas : ∀ cycle, cycle < s.collecting ∨ s.flusher.isAlone = true →
      deltas (log ++ n.toList) cycle = deltas log cycle := by
    intro cycle hcycle
    cases n with
    | none => rw [Option.toList_none, List.append_nil]
    | some x =>
      apply deltas_snoc_of_ne
      intro id delta hx
      obtain ⟨hc, ha⟩ := hmerged x rfl id cycle delta hx
      rcases hcycle with hcycle | hcycle
      · omega
      · rw [ha] at hcycle
        exact absurd hcycle (by simp)
  refine ⟨?handed, ?outcomes, ?past, ?offered, ?calling, ?completing⟩
  case handed =>
    rw [m.handed, h.handed]
    cases n with
    | none => rw [Option.toList_none, List.append_nil]
    | some x =>
      have hx : x.handed? = none := by
        have hxf := hflushed x rfl
        cases x <;> first | rfl | exact absurd hxf (by simp [Notice.flushed?])
      rw [Option.toList_some, handedIn_snoc, hx, Option.toList_none, List.append_nil]
  case outcomes =>
    intro cycle outcome hmem
    rw [m.outcomes] at hmem
    exact List.mem_append_left _ (h.outcomes cycle outcome hmem)
  case past =>
    intro x hx cycle hf
    rw [hcollecting]
    exact h.past x ((hnot x (by rw [hf]; simp)).1 hx) cycle hf
  case offered =>
    intro cycle hcycle
    rw [hcollecting] at hcycle
    rw [hdeltas cycle (.inl hcycle)]
    rcases h.offered cycle hcycle with ⟨whole, hw⟩ | hempty
    · exact .inl ⟨whole, List.mem_append_left _ hw⟩
    · exact .inr hempty
  case calling =>
    intro last cycle delta hf
    rw [m.flusher] at hf
    obtain ⟨h₁, h₂, h₃⟩ := h.calling last cycle delta hf
    refine ⟨List.mem_append_left _ h₁, fun reply => ?_, fun outcome => ?_⟩
    · rw [hnot _ (by simp [Notice.flushed?])]
      exact h₂ reply
    · rw [hnot _ (by simp [Notice.flushed?])]
      exact h₃ outcome
  case completing =>
    intro last cycle outcome hf
    rw [m.flusher] at hf
    obtain ⟨h₁, h₂⟩ := h.completing last cycle outcome hf
    have ha : s.flusher.isAlone = true := by rw [hf]; rfl
    refine ⟨h₁.append _ (hdeltas cycle (.inr ha)), fun outcome' => ?_⟩
    rw [hnot _ (by simp [Notice.flushed?])]
    exact h₂ outcome'

/-- A section of the flusher that nobody notices, within one window. -/
theorem goOn (h : Flushed s log) (hcollecting : s'.collecting = s.collecting)
    (hhanded : s'.handed = s.handed) (houtcomes : s'.outcomes = s.outcomes)
    (hcalling : ∀ last cycle delta, s'.flusher ≠ .calling last cycle delta)
    (hcompleting : ∀ last cycle outcome, s'.flusher ≠ .completing last cycle outcome) :
    Flushed s' (log ++ (none : Option Notice).toList) := by
  rw [Option.toList_none, List.append_nil]
  refine ⟨?handed, ?outcomes, ?past, ?offered, ?calling, ?completing⟩
  case handed => rw [hhanded, h.handed]
  case outcomes =>
    rw [houtcomes]
    exact h.outcomes
  case past =>
    rw [hcollecting]
    exact h.past
  case offered =>
    rw [hcollecting]
    exact h.offered
  case calling => exact fun last cycle delta hf => absurd hf (hcalling last cycle delta)
  case completing => exact fun last cycle outcome hf => absurd hf (hcompleting last cycle outcome)

/-- The flusher takes tables with nothing in them. -/
theorem takeNothing (h : Flushed s log) (col : Collected s log) (g : Gated s) {last : Bool}
    {cycle : Nat} {delta : Delta} (hf : s.flusher = .takingCounters last cycle delta.gauges)
    (hd : delta.counters = s.pending.counters) (he : delta.isEmpty = true)
    (hcollecting : s'.collecting = cycle + 1) (hhanded : s'.handed = s.handed)
    (houtcomes : s'.outcomes = s.outcomes) (hflusher : s'.flusher = .completing last cycle (.ok ())) :
    Flushed s' log := by
  have hnow : s.collecting = cycle := by simp [State.collecting, hf]
  -- The merge of the window is empty, so each of its deltas is.
  have hempty : ∀ d ∈ deltas log cycle, d.isEmpty = true := by
    have hmerge := col.taken g hf hd
    exact hmerge.isEmpty_iff.1 he
  refine ⟨?handed, ?outcomes, ?past, ?offered, ?calling, ?completing⟩
  case handed => rw [hhanded, h.handed]
  case outcomes =>
    rw [houtcomes]
    exact h.outcomes
  case past =>
    intro n hn c hc
    have hlt := h.past n hn c hc
    omega
  case offered =>
    intro c hc
    rw [hcollecting] at hc
    by_cases heq : c = cycle
    · rw [heq]
      exact .inr hempty
    · exact h.offered c (by omega)
  case calling =>
    intro l c d hcalling
    rw [hflusher] at hcalling
    exact absurd hcalling (by simp)
  case completing =>
    intro l c o hcompleting
    rw [hflusher] at hcompleting
    simp only [Flusher.completing.injEq] at hcompleting
    obtain ⟨-, rfl, rfl⟩ := hcompleting
    refine ⟨.inr ⟨rfl, hempty⟩, fun outcome' hmem => ?_⟩
    exact h.not_flushed hmem (by rw [hnow]; rfl)

/-! ## Notices of the flusher -/

/-- One more notice of the flusher, about a window that was taken. -/
theorem past_snoc (h : Flushed s log) {n : Notice} {now : Nat} (hnow : s.collecting ≤ now)
    (hn : ∀ cycle, n.flushed? = some cycle → cycle < now) :
    ∀ x ∈ log ++ [n], ∀ cycle, x.flushed? = some cycle → cycle < now := by
  intro x hx cycle hc
  rcases List.mem_append.1 hx with hx | hx
  · have hlt := h.past x hx cycle hc
    omega
  · rw [List.mem_singleton.1 hx] at hc
    exact hn cycle hc

/-- Windows that were offered stay so. -/
theorem offered_snoc (h : Flushed s log) {n : Notice}
    (hn : ∀ id cycle delta, n ≠ .merged id cycle delta) {cycle : Nat} (hc : cycle < s.collecting) :
    (∃ whole, .handed cycle whole ∈ log ++ [n]) ∨
      ∀ d ∈ deltas (log ++ [n]) cycle, d.isEmpty = true := by
  rw [deltas_snoc_of_ne fun id delta => hn id cycle delta]
  rcases h.offered cycle hc with ⟨whole, hw⟩ | hempty
  · exact .inl ⟨whole, List.mem_append_left _ hw⟩
  · exact .inr hempty

/-- The flusher hands over what it has taken. -/
theorem hand (h : Flushed s log) {last : Bool} {cycle : Nat} {delta : Delta}
    (hnow : s.collecting = cycle) (hcollecting : s'.collecting = cycle + 1)
    (hhanded : s'.handed = s.handed ++ [(cycle, delta)]) (houtcomes : s'.outcomes = s.outcomes)
    (hflusher : s'.flusher = .calling last cycle delta) :
    Flushed s' (log ++ [.handed cycle delta]) := by
  -- It is the first notice of the flusher about this window.
  have hnone : ∀ n ∈ log, n.flushed? ≠ some cycle := by
    intro n hn
    rw [← hnow]
    exact h.not_flushed hn
  refine ⟨?handed, ?outcomes, ?past, ?offered, ?calling, ?completing⟩
  case handed =>
    rw [hhanded, h.handed, handedIn_snoc]
    rfl
  case outcomes =>
    intro c o hmem
    rw [houtcomes] at hmem
    exact List.mem_append_left _ (h.outcomes c o hmem)
  case past =>
    rw [hcollecting]
    refine h.past_snoc (by omega) fun c hc => ?_
    have hcycle : cycle = c := Option.some.inj hc
    omega
  case offered =>
    intro c hc
    rw [hcollecting] at hc
    by_cases heq : c = cycle
    · exact .inl ⟨delta, by rw [heq]; simp⟩
    · exact h.offered_snoc (by simp) (by omega)
  case calling =>
    intro l c d hcalling
    rw [hflusher] at hcalling
    simp only [Flusher.calling.injEq] at hcalling
    obtain ⟨-, rfl, rfl⟩ := hcalling
    refine ⟨by simp, fun reply hmem => ?_, fun outcome hmem => ?_⟩
    · exact hnone _ (by simpa using hmem) rfl
    · exact hnone _ (by simpa using hmem) rfl
  case completing =>
    intro l c o hcompleting
    rw [hflusher] at hcompleting
    exact absurd hcompleting (by simp)

/-- The call of the sink ends. -/
theorem reply (h : Flushed s log) {last : Bool} {cycle : Nat} {delta : Delta} (reply : Reply)
    (hf : s.flusher = .calling last cycle delta) (hcollecting : s'.collecting = s.collecting)
    (hhanded : s'.handed = s.handed) (houtcomes : s'.outcomes = s.outcomes)
    (hflusher : s'.flusher = .completing last cycle reply.outcome) :
    Flushed s' (log ++ [.replied cycle reply]) := by
  obtain ⟨hhand, -, hpublished⟩ := h.calling last cycle delta hf
  refine ⟨?handed, ?outcomes, ?past, ?offered, ?calling, ?completing⟩
  case handed =>
    rw [hhanded, h.handed, handedIn_snoc]
    simp [Notice.handed?]
  case outcomes =>
    intro c o hmem
    rw [houtcomes] at hmem
    exact List.mem_append_left _ (h.outcomes c o hmem)
  case past =>
    rw [hcollecting]
    refine h.past_snoc (Nat.le_refl _) fun c hc => ?_
    -- What the sink was given is of a window that was taken.
    rw [← Option.some.inj hc]
    exact h.past _ hhand cycle rfl
  case offered =>
    intro c hc
    rw [hcollecting] at hc
    exact h.offered_snoc (by simp) hc
  case calling =>
    intro l c d hcalling
    rw [hflusher] at hcalling
    exact absurd hcalling (by simp)
  case completing =>
    intro l c o hcompleting
    rw [hflusher] at hcompleting
    simp only [Flusher.completing.injEq] at hcompleting
    obtain ⟨-, rfl, rfl⟩ := hcompleting
    refine ⟨.inl ⟨delta, reply, List.mem_append_left _ hhand, by simp, rfl⟩, fun o' hmem => ?_⟩
    exact hpublished o' (by simpa using hmem)

/-- The outcome is published. -/
theorem publish (h : Flushed s log) (g : Gated s) {last : Bool} {cycle : Nat} {outcome : Outcome}
    (hf : s.flusher = .completing last cycle outcome) (hcollecting : s'.collecting = s.collecting)
    (hhanded : s'.handed = s.handed) (houtcomes : s'.outcomes = (cycle, outcome) :: s.outcomes)
    (hflusher : s'.flusher = .reopening last) :
    Flushed s' (log ++ [.published cycle outcome]) := by
  have hnow : s.collecting = s.gate.cycle := by simp [State.collecting, hf]
  have hcycle : cycle + 1 = s.gate.cycle := g.previous cycle (by rw [hf]; rfl)
  refine ⟨?handed, ?outcomes, ?past, ?offered, ?calling, ?completing⟩
  case handed =>
    rw [hhanded, h.handed, handedIn_snoc]
    simp [Notice.handed?]
  case outcomes =>
    intro c o hmem
    rw [houtcomes] at hmem
    rcases List.mem_cons.1 hmem with hmem | hmem
    · simp only [Prod.mk.injEq] at hmem
      rw [hmem.1, hmem.2]
      simp
    · exact List.mem_append_left _ (h.outcomes c o hmem)
  case past =>
    rw [hcollecting]
    refine h.past_snoc (Nat.le_refl _) fun c hc => ?_
    have hc' : cycle = c := Option.some.inj hc
    omega
  case offered =>
    intro c hc
    rw [hcollecting] at hc
    exact h.offered_snoc (by simp) hc
  case calling =>
    intro l c d hcalling
    rw [hflusher] at hcalling
    exact absurd hcalling (by simp)
  case completing =>
    intro l c o hcompleting
    rw [hflusher] at hcompleting
    exact absurd hcompleting (by simp)

/-! ## All sections -/

/-- The first window is being collected: the flusher has done nothing.
There is no window with the number zero. -/
theorem init : Flushed State.init [] where
  handed := rfl
  outcomes cycle outcome hmem := absurd hmem (by simp [State.init])
  past n hn := absurd hn (by simp)
  offered cycle _ := .inr fun d hd => absurd hd (by simp [deltas, merges])
  calling last cycle delta hf := absurd hf (by simp [State.init])
  completing last cycle outcome hf := absurd hf (by simp [State.init])

/-- **Every section keeps to the course of the windows.** -/
theorem section_keeps (h : Flushed s log) (g : Gated s) (col : Collected s log)
    {n : Option Notice} (hs : Section s n s') : Flushed s' (log ++ n.toList) := by
  cases hs with
  | stay =>
    rw [Option.toList_none, List.append_nil]
    exact h
  | come task =>
    rw [Option.toList_none, List.append_nil]
    exact ⟨h.handed, h.outcomes, h.past, h.offered, h.calling, h.completing⟩
  | refuse hc _ _ | pass hc _ _ _ | leaveRefused hc _ | wake hc _ _ =>
    exact h.move ⟨hc, rfl, rfl, rfl, rfl, rfl, rfl, rfl⟩ (by simp [Notice.flushed?]) (by simp)
  | count hc _ _ _ | overflow hc _ _ _ | leave hc _ | send hc _ _ | tell hc _ _
  | takeJoin hc _ _ | missJoin hc _ _ | join hc _ _ =>
    exact h.move ⟨hc, rfl, rfl, rfl, rfl, rfl, rfl, rfl⟩ (by simp) (by simp)
  | merge hc hp _ =>
    refine h.move ⟨hc, rfl, rfl, rfl, rfl, rfl, rfl, rfl⟩ (by simp [Notice.flushed?]) ?_
    intro x hx id cycle delta heq
    have hmem := List.mem_of_getElem? hc
    have hjoined := congrArg Point.joined? hp
    have ha := g.not_alone hmem hjoined
    rw [← Option.some.inj hx] at heq
    simp only [Notice.merged.injEq] at heq
    rw [collecting_of_not_alone ha, ← heq.2.1]
    exact ⟨g.current _ hmem _ hjoined, ha⟩
  | shut hf _ =>
    refine h.goOn ?_ rfl rfl (by simp [State.shutGate]) (by simp [State.shutGate])
    simp [State.collecting, State.shutGate, hf]
  | swap hf _ =>
    refine h.goOn ?_ rfl rfl (by simp [State.swap]) (by simp [State.swap])
    simp [State.collecting, State.swap, hf]
  | takeGauges hf =>
    refine h.goOn ?_ rfl rfl (by simp) (by simp)
    simp [State.collecting, hf]
  | takeNothing hf hd he =>
    rw [Option.toList_none, List.append_nil]
    have hnext := g.previous _ (by rw [hf]; rfl)
    exact h.takeNothing col g hf hd he hnext.symm rfl rfl rfl
  | hand hf _ _ =>
    have hnext := g.previous _ (by rw [hf]; rfl)
    exact h.hand (by simp [State.collecting, hf]) hnext.symm rfl rfl rfl
  | reply reply _ hf => exact h.reply reply hf (by simp [State.collecting, hf]) rfl rfl rfl
  | publish hf => exact h.publish g hf (by simp [State.collecting, hf]) rfl rfl rfl
  | @reopen last hf =>
    refine h.goOn ?_ rfl rfl ?_ ?_
    · cases last <;> by_cases hclosed : s.gate.closed = true <;>
        simp [State.collecting, hf, hclosed]
    · cases last <;> simp
    · cases last <;> simp

end Flushed

/-! ## Every notice is justified -/

/-- **A notice is justified by those before it when it is made.** -/
theorem section_justified {s s' : State} {log : List Notice} {n : Notice} (g : Gated s)
    (t : Trails s log) (col : Collected s log) (f : Flushed s log) (hs : Section s (some n) s') :
    Justified log n := by
  cases hs with
  | refuse hc hp _ => exact .inl ⟨t.entering hc hp, rfl⟩
  | pass hc hp _ _ => exact t.entering hc hp
  | @merge id cycle c delta hc hp ht =>
    have hmem := List.mem_of_getElem? hc
    have hjoined : c.point.joined? = some cycle := by rw [hp]; rfl
    refine ⟨t.merging hc (.inr hp), fun n hn => ?_⟩
    rw [g.current c hmem cycle hjoined, ← collecting_of_not_alone (g.not_alone hmem hjoined)]
    exact f.not_flushed hn
  | leaveRefused hc hp =>
    have hleft := t.leavingRefused hc hp
    exact .inr (.inl ⟨_, _, hleft.1, rfl, hleft.2.1⟩)
  | @wake id cycle c outcome hc hp ho =>
    obtain ⟨l₁, l₂, hl, -⟩ := List.lookup_eq_some_iff.1 ho
    have hpublished := f.outcomes cycle outcome (by rw [hl]; simp)
    refine .inr (.inr ⟨cycle, _, t.waiting hc (.inr (.inr hp)), ?_, hpublished⟩)
    intro x hx
    cases ht : c.task <;> rw [ht] at hx <;> simp [Task.mergedAs] at hx
    exact ⟨_, hx⟩
  | @hand last cycle delta hf hd he =>
    have hnow : s.collecting = cycle := by simp [State.collecting, hf]
    refine ⟨he, col.taken g hf hd, fun n hn => ?_⟩
    rw [← hnow]
    exact f.not_flushed hn
  | reply reply _ hf =>
    obtain ⟨hhand, hreply, hpublished⟩ := f.calling _ _ _ hf
    exact ⟨⟨_, hhand⟩, hreply, hpublished⟩
  | publish hf => exact f.completing _ _ _ hf

/-! ## All of it -/

/-- What holds of every run and its chronicle. -/
structure Told (s : State) (log : List Notice) : Prop where
  gated : Gated s
  trails : Trails s log
  collected : Collected s log
  flushed : Flushed s log
  coherent : Coherent log

theorem Told.section_keeps {s s' : State} {log : List Notice} {n : Option Notice}
    (h : Told s log) (hs : Section s n s') : Told s' (log ++ n.toList) where
  gated := h.gated.section_keeps hs
  trails := h.trails.section_keeps hs
  collected := h.collected.section_keeps h.gated hs
  flushed := h.flushed.section_keeps h.gated h.collected hs
  coherent := by
    cases n with
    | none =>
      rw [Option.toList_none, List.append_nil]
      exact h.coherent
    | some n =>
      exact h.coherent.snoc (section_justified h.gated h.trails h.collected h.flushed hs)

/-- **The chronicle of every run is coherent**, and tells where callers,
tables and flusher are. -/
theorem told_run (events : List Event) :
    Told (run step State.init events) (chronicle State.init events) :=
  run_induction (P := Told) ⟨Gated.init, Trails.init, Collected.init, Flushed.init, .nil⟩
    (fun _ _ _ _ h hs => h.section_keeps hs) events

end Meterbank.Window
