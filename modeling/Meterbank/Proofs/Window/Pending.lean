/-
  Meterbank.Proofs.Window.Pending — what the pending tables hold.

  The two tables are merged into one after the other and taken one after
  the other.  The tables of the window that is being collected hold the
  merge of the window so far; the counters hold, on top of it, the deltas
  of those callers that have merged their counters and not their gauges.
  Once the flusher is alone there are no such callers.

  Main results:
    * `Collected.section_keeps` — every section keeps it so.
    * `Collected.isMergeOf` — what the flusher takes is the merge of the
      window, gauges and counters together.
-/
import Meterbank.Proofs.Window.Chronicle
import Meterbank.Proofs.Window.Gate

namespace Meterbank.Window

open Meterbank.Table (joined joined_none none_joined joined_comm joined_assoc)
open Meterbank.Delta (lastGauge? sumCounter?)

/-! ## The window that is being collected -/

/-- The window whose deltas are in the pending tables. -/
def State.collecting (s : State) : Nat :=
  match s.flusher with
  | .takingGauges _ cycle | .takingCounters _ cycle _ => cycle
  | _ => s.gate.cycle

/-- What has been collected for it, also if the flusher has taken a part. -/
def State.collected (s : State) : Delta :=
  match s.flusher with
  | .takingCounters _ _ gauges => ⟨gauges, s.pending.counters⟩
  | _ => s.pending

/-- The delta of a caller that has merged its counters and not its gauges. -/
def Caller.half? (c : Caller) : Option Delta :=
  match c.point, c.task with
  | .mergingGauges _, .submit delta => some delta
  | _, _ => none

/-- The deltas that are merged by half. -/
def State.halves (s : State) : List Delta := s.callers.filterMap Caller.half?

theorem Caller.half?_eq_none {c : Caller} (h : ∀ cycle, c.point ≠ .mergingGauges cycle) :
    c.half? = none := by
  obtain ⟨task, point⟩ := c
  cases point with
  | mergingGauges cycle => exact absurd rfl (h cycle)
  | _ => rfl

/-- The sum of the halves after one caller has moved. -/
theorem sum_halves_set {l : List Caller} {i : Nat} {old : Caller} (h : l[i]? = some old)
    (new : Caller) (k : String) :
    joined (sumCounter? ((l.set i new).filterMap Caller.half?) k)
        (sumCounter? old.half?.toList k) =
      joined (sumCounter? (l.filterMap Caller.half?) k) (sumCounter? new.half?.toList k) := by
  induction l generalizing i with
  | nil => exact absurd h (by simp)
  | cons x xs ih =>
    have hcons : ∀ (y : Caller) (ys : List Caller), sumCounter? ((y :: ys).filterMap Caller.half?) k =
        joined (sumCounter? y.half?.toList k) (sumCounter? (ys.filterMap Caller.half?) k) := by
      intro y ys
      rw [← Delta.sumCounter?_append]
      congr 1
      cases hy : y.half? <;> simp [hy]
    cases i with
    | zero =>
      have hx : x = old := by simpa using h
      subst hx
      rw [List.set_cons_zero, hcons, hcons, joined_comm, joined_comm (sumCounter? new.half?.toList k),
        ← joined_assoc]
    | succ i =>
      have hxs := ih (i := i) (by simpa using h)
      rw [List.set_cons_succ, hcons, hcons, joined_assoc, hxs, ← joined_assoc]

/-! ## While the flusher is not alone -/

section

variable {s : State}

/-- A registered caller keeps the flusher from being alone. -/
theorem Gated.not_alone (g : Gated s) {c : Caller} (hc : c ∈ s.callers) {cycle : Nat}
    (hj : c.point.joined? = some cycle) : s.flusher.isAlone = false := by
  cases ha : s.flusher.isAlone with
  | false => rfl
  | true =>
    rw [g.nobody ha hc] at hj
    exact absurd hj (by simp)

theorem collecting_of_not_alone (ha : s.flusher.isAlone = false) :
    s.collecting = s.gate.cycle := by
  unfold State.collecting
  split <;> first | rfl | next hf => rw [hf] at ha; exact absurd ha (by simp [Flusher.isAlone])

theorem collected_of_not_alone (ha : s.flusher.isAlone = false) : s.collected = s.pending := by
  unfold State.collected
  split <;> first | rfl | next hf => rw [hf] at ha; exact absurd ha (by simp [Flusher.isAlone])

/-- It has taken no gauges by themselves. -/
theorem not_taking_of_not_alone (ha : s.flusher.isAlone = false) (last : Bool) (cycle : Nat)
    (gauges : Table Binary64) : s.flusher ≠ .takingCounters last cycle gauges := by
  intro hf
  rw [hf] at ha
  exact absurd ha (by simp [Flusher.isAlone])

/-- Nothing is merged by half while the flusher is alone. -/
theorem Gated.halves_eq_nil (g : Gated s) (ha : s.flusher.isAlone = true) : s.halves = [] := by
  unfold State.halves
  rw [List.filterMap_eq_nil_iff]
  intro c hc
  apply Caller.half?_eq_none
  intro cycle hp
  have hj := g.nobody ha hc
  rw [hp] at hj
  exact absurd hj (by simp [Point.joined?])

end

/-! ## The invariant -/

/-- The pending tables hold the merge of the window that is being
collected, and the counters that are merged by half. -/
structure Collected (s : State) (log : List Notice) : Prop where
  gauges : ∀ k, s.collected.gauges.get? k = lastGauge? (deltas log s.collecting) k
  counters : ∀ k, s.collected.counters.count? k =
    joined (sumCounter? (deltas log s.collecting) k) (sumCounter? s.halves k)
  /-- No later window has been merged into. -/
  upTo : ∀ id cycle delta, .merged id cycle delta ∈ log → cycle ≤ s.collecting
  /-- Gauges that the flusher has taken are not in the table any more. -/
  cleared : ∀ last cycle gauges, s.flusher = .takingCounters last cycle gauges →
    s.pending.gauges = ∅

namespace Collected

variable {s s' : State} {log : List Notice}

/-- **What the flusher takes is the merge of the window.** -/
theorem isMergeOf (h : Collected s log) (g : Gated s) (ha : s.flusher.isAlone = true) :
    s.collected.IsMergeOf (deltas log s.collecting) where
  gauges := h.gauges
  counters k := by rw [h.counters k, g.halves_eq_nil ha, Delta.sumCounter?_nil, joined_none]

/-- The two tables that the flusher takes one after the other are the merge
of its window. -/
theorem taken (h : Collected s log) (g : Gated s) {last : Bool} {cycle : Nat} {delta : Delta}
    (hf : s.flusher = .takingCounters last cycle delta.gauges)
    (hd : delta.counters = s.pending.counters) : delta.IsMergeOf (deltas log cycle) := by
  have hnow : s.collecting = cycle := by simp [State.collecting, hf]
  have hdelta : s.collected = delta := by
    cases delta
    simp only at hf hd
    simp [State.collected, hf, hd]
  have hmerge := h.isMergeOf g (by rw [hf]; rfl)
  rwa [hdelta, hnow] at hmerge

/-- Nothing has been merged into the windows to come. -/
theorem deltas_eq_nil (h : Collected s log) {cycle : Nat} (hc : s.collecting < cycle) :
    deltas log cycle = [] := by
  rw [List.eq_nil_iff_forall_not_mem]
  intro d hd
  obtain ⟨id, hmem⟩ := mem_deltas.1 hd
  exact absurd (h.upTo id cycle d hmem) (by omega)

/-- A section that merges nothing keeps what is collected. -/
theorem keep (h : Collected s log) {n : Option Notice} (hcollecting : s'.collecting = s.collecting)
    (hcollected : s'.collected = s.collected)
    (hhalves : ∀ k, sumCounter? s'.halves k = sumCounter? s.halves k)
    (hn : ∀ x ∈ n, ∀ id cycle delta, x ≠ .merged id cycle delta)
    (hcleared : ∀ last cycle gauges, s'.flusher = .takingCounters last cycle gauges →
      s'.pending.gauges = ∅) : Collected s' (log ++ n.toList) := by
  have hdeltas : ∀ cycle, deltas (log ++ n.toList) cycle = deltas log cycle := by
    intro cycle
    cases n with
    | none => rw [Option.toList_none, List.append_nil]
    | some x => exact deltas_snoc_of_ne fun id delta => hn x rfl id cycle delta
  refine ⟨?gauges, ?counters, ?upTo, hcleared⟩
  case gauges =>
    intro k
    rw [hcollected, hcollecting, hdeltas]
    exact h.gauges k
  case counters =>
    intro k
    rw [hcollected, hcollecting, hdeltas, hhalves]
    exact h.counters k
  case upTo =>
    intro id cycle delta hmem
    rw [hcollecting]
    rcases List.mem_append.1 hmem with hmem | hmem
    · exact h.upTo id cycle delta hmem
    · exact absurd rfl (hn _ (by simpa using hmem) id cycle delta)

/-- A caller that merges nothing keeps what is collected. -/
theorem move (h : Collected s log) {id : Nat} {c : Caller} {point : Point} {n : Option Notice}
    (m : Moves s s' id c point) (hpending : s'.pending = s.pending)
    (hold : ∀ cycle, c.point ≠ .mergingGauges cycle) (hnew : ∀ cycle, point ≠ .mergingGauges cycle)
    (hn : ∀ x ∈ n, ∀ id cycle delta, x ≠ .merged id cycle delta) :
    Collected s' (log ++ n.toList) := by
  refine h.keep ?_ ?_ ?_ hn ?_
  · unfold State.collecting
    rw [m.flusher, m.cycle]
  · unfold State.collected
    rw [m.flusher, hpending]
  · intro k
    have hset := sum_halves_set m.found { c with point } k
    rw [Caller.half?_eq_none hold, Caller.half?_eq_none hnew, Option.toList_none,
      Delta.sumCounter?_nil, joined_none, joined_none, ← m.callers] at hset
    exact hset
  · intro last cycle gauges hf
    rw [m.flusher] at hf
    rw [hpending]
    exact h.cleared last cycle gauges hf

/-- A caller merges its counters: they are merged by half. -/
theorem count (h : Collected s log) (g : Gated s) {id cycle : Nat} {c : Caller}
    {delta pending : Delta} (hc : s.callers[id]? = some c) (hp : c.point = .mergingCounters cycle)
    (ht : c.task = .submit delta) (hm : s.pending.mergeCounters delta = .ok pending) :
    Collected { s.moveTo id c (.mergingGauges cycle) with pending } log := by
  have hjoined : c.point.joined? = some cycle := by rw [hp]; rfl
  have ha : s.flusher.isAlone = false := g.not_alone (List.mem_of_getElem? hc) hjoined
  obtain ⟨hgauges, hcounters⟩ := (Delta.mergeCounters_eq_ok_iff _ _ _).1 hm
  have hcollected := collected_of_not_alone ha
  have hcollecting := collecting_of_not_alone ha
  refine ⟨?gauges, ?counters, ?upTo, ?cleared⟩
  case gauges =>
    intro k
    rw [collected_of_not_alone (by exact ha), collecting_of_not_alone (by exact ha)]
    show pending.gauges.get? k = lastGauge? (deltas log s.gate.cycle) k
    rw [hgauges, ← hcollected, ← hcollecting]
    exact h.gauges k
  case counters =>
    intro k
    rw [collected_of_not_alone (by exact ha), collecting_of_not_alone (by exact ha)]
    show pending.counters.count? k = joined (sumCounter? (deltas log s.gate.cycle) k)
      (sumCounter? ((s.callers.set id { c with point := .mergingGauges cycle }).filterMap
        Caller.half?) k)
    have hset := sum_halves_set hc { c with point := .mergingGauges cycle } k
    have hold : c.half? = none := Caller.half?_eq_none (by rw [hp]; simp)
    have hnew : Caller.half? { c with point := .mergingGauges cycle } = some delta := by
      simp [Caller.half?, ht]
    -- The sum of the halves grows by the delta, as the pending counters do.
    rw [hold, hnew, Option.toList_none, Delta.sumCounter?_nil, joined_none] at hset
    rw [hset, hcounters, ← hcollected, h.counters k, hcollecting, joined_assoc]
    simp [State.halves]
  case upTo =>
    intro id' cycle' delta' hmem
    rw [collecting_of_not_alone (by exact ha)]
    show cycle' ≤ s.gate.cycle
    rw [← hcollecting]
    exact h.upTo id' cycle' delta' hmem
  case cleared =>
    exact fun last window gauges hf => absurd hf (not_taking_of_not_alone ha last window gauges)

/-- A caller merges its gauges: now its delta is merged as a whole. -/
theorem merge (h : Collected s log) (g : Gated s) {id cycle : Nat} {c : Caller} {delta : Delta}
    (hc : s.callers[id]? = some c) (hp : c.point = .mergingGauges cycle)
    (ht : c.task = .submit delta) :
    Collected { s.moveTo id c (.leaving cycle none) with pending := s.pending.mergeGauges delta }
      (log ++ [.merged id cycle delta]) := by
  have hmem : c ∈ s.callers := List.mem_of_getElem? hc
  have hjoined : c.point.joined? = some cycle := by rw [hp]; rfl
  have ha : s.flusher.isAlone = false := g.not_alone hmem hjoined
  have hcycle : cycle = s.gate.cycle := g.current c hmem cycle hjoined
  have hcollected := collected_of_not_alone ha
  have hcollecting := collecting_of_not_alone ha
  subst hcycle
  refine ⟨?gauges, ?counters, ?upTo, ?cleared⟩
  case gauges =>
    intro k
    rw [collected_of_not_alone (by exact ha), collecting_of_not_alone (by exact ha)]
    show (s.pending.mergeGauges delta).gauges.get? k =
      lastGauge? (deltas (log ++ [.merged id s.gate.cycle delta]) s.gate.cycle) k
    rw [deltas_snoc_merged, Delta.lastGauge?_append, Delta.lastGauge?_singleton,
      Delta.get?_mergeGauges, ← hcollected, h.gauges k, hcollecting]
  case counters =>
    intro k
    rw [collected_of_not_alone (by exact ha), collecting_of_not_alone (by exact ha)]
    show s.pending.counters.count? k =
      joined (sumCounter? (deltas (log ++ [.merged id s.gate.cycle delta]) s.gate.cycle) k)
        (sumCounter? ((s.callers.set id { c with point := .leaving s.gate.cycle none }).filterMap
          Caller.half?) k)
    have hset := sum_halves_set hc { c with point := .leaving s.gate.cycle none } k
    have hold : c.half? = some delta := by simp [Caller.half?, hp, ht]
    have hnew : Caller.half? { c with point := .leaving s.gate.cycle none } = none := rfl
    -- The delta goes from the halves to the window; the sum of both stays.
    rw [hold, hnew, Option.toList_none, Delta.sumCounter?_nil, joined_none, joined_comm,
      Option.toList_some] at hset
    rw [deltas_snoc_merged, Delta.sumCounter?_append, joined_assoc, hset, ← hcollected,
      h.counters k, hcollecting]
    rfl
  case upTo =>
    intro id' cycle' delta' hmem'
    rw [collecting_of_not_alone (by exact ha)]
    show cycle' ≤ s.gate.cycle
    rcases List.mem_append.1 hmem' with hmem' | hmem'
    · rw [← hcollecting]
      exact h.upTo id' cycle' delta' hmem'
    · simp only [List.mem_singleton, Notice.merged.injEq] at hmem'
      omega
  case cleared =>
    exact fun last window gauges hf => absurd hf (not_taking_of_not_alone ha last window gauges)

/-- Both tables have been taken: the next window is being collected, and
nothing is in it. -/
theorem clear (h : Collected s log) (g : Gated s) {last : Bool} {cycle : Nat}
    {gauges : Table Binary64} {n : Option Notice}
    (hf : s.flusher = .takingCounters last cycle gauges)
    (hcallers : s'.callers = s.callers) (hgate : s'.gate = s.gate)
    (hpending : s'.pending = { s.pending with counters := ∅ })
    (hcollecting : s'.collecting = s'.gate.cycle) (hcollected : s'.collected = s'.pending)
    (hn : ∀ x ∈ n, ∀ id cycle delta, x ≠ .merged id cycle delta)
    (hflusher : ∀ last cycle gauges, s'.flusher ≠ .takingCounters last cycle gauges) :
    Collected s' (log ++ n.toList) := by
  have hnow : s.collecting = cycle := by simp [State.collecting, hf]
  have hnext : cycle + 1 = s.gate.cycle := g.previous cycle (by rw [hf]; rfl)
  -- The gate is at the window after the one taken, and that one is empty.
  have hnil : deltas (log ++ n.toList) s.gate.cycle = [] := by
    have hbefore : deltas log s.gate.cycle = [] := h.deltas_eq_nil (by omega)
    cases n with
    | none => rw [Option.toList_none, List.append_nil, hbefore]
    | some x =>
      rw [← hbefore]
      exact deltas_snoc_of_ne fun id delta => hn x rfl id _ delta
  have hhalves : s'.halves = [] := by
    rw [← g.halves_eq_nil (by rw [hf]; rfl)]
    unfold State.halves
    rw [hcallers]
  refine ⟨?gauges, ?counters, ?upTo, fun l c g' hf' => absurd hf' (hflusher l c g')⟩
  case gauges =>
    intro k
    rw [hcollected, hcollecting, hgate, hnil, hpending]
    show s.pending.gauges.get? k = none
    rw [h.cleared last cycle gauges hf, Table.get?_empty]
  case counters =>
    intro k
    rw [hcollected, hcollecting, hgate, hnil, hpending, hhalves]
    exact Table.count?_empty k
  case upTo =>
    intro id c delta hmem
    rw [hcollecting, hgate]
    rcases List.mem_append.1 hmem with hmem | hmem
    · have hle := h.upTo id c delta hmem
      omega
    · exact absurd rfl (hn _ (by simpa using hmem) id c delta)

/-- At the start nothing is pending. -/
theorem init : Collected State.init [] where
  gauges k := Table.get?_empty k
  counters k := Table.count?_empty k
  upTo id cycle delta hmem := absurd hmem (by simp)
  cleared last cycle gauges hf := absurd hf (by simp [State.init])

/-- **Every section keeps the pending tables so.** -/
theorem section_keeps (h : Collected s log) (g : Gated s) {n : Option Notice}
    (hs : Section s n s') : Collected s' (log ++ n.toList) := by
  cases hs with
  | stay => exact h.keep rfl rfl (fun _ => rfl) (by simp) h.cleared
  | come task =>
    refine h.keep rfl rfl ?_ (by simp) h.cleared
    intro k
    have hnew : Caller.half? ⟨task, task.start⟩ = none := by cases task <;> rfl
    simp [State.halves, hnew]
  | refuse hc hp _ | overflow hc hp _ _ | leaveRefused hc hp | send hc hp _ | wake hc hp _
  | takeJoin hc hp _ | missJoin hc hp _ | join hc hp _ =>
    exact h.move ⟨hc, rfl, rfl, rfl, rfl, rfl, rfl, rfl⟩ rfl (by rw [hp]; simp) (by simp) (by simp)
  | @pass id c hc hp _ _ =>
    refine h.move ⟨hc, rfl, rfl, rfl, rfl, rfl, rfl, rfl⟩ rfl (by rw [hp]; simp) ?_ (by simp)
    cases c.task <;> simp [Task.passed]
  | count hc hp ht hm =>
    rw [Option.toList_none, List.append_nil]
    exact h.count g hc hp ht hm
  | merge hc hp ht => exact h.merge g hc hp ht
  | @leave id cycle c hc hp =>
    refine h.move ⟨hc, rfl, rfl, rfl, rfl, rfl, rfl, rfl⟩ rfl (by rw [hp]; simp) ?_ (by simp)
    cases c.task <;> simp [Task.left]
  | @tell id c queue hc hp _ =>
    refine h.move ⟨hc, rfl, rfl, rfl, rfl, rfl, rfl, rfl⟩ rfl (by rw [hp]; simp) ?_ (by simp)
    cases c.task <;> simp [Task.told]
  | shut hf _ =>
    refine h.keep ?_ ?_ (fun _ => rfl) (by simp) (by simp [State.shutGate])
    · simp [State.collecting, State.shutGate, hf]
    · simp [State.collected, State.shutGate, hf]
  | swap hf _ =>
    refine h.keep ?_ ?_ (fun _ => rfl) (by simp) (by simp [State.swap])
    · simp [State.collecting, State.swap, hf]
    · simp [State.collected, State.swap, hf]
  | takeGauges hf =>
    refine h.keep ?_ ?_ (fun _ => rfl) (by simp) (fun _ _ _ _ => rfl)
    · simp [State.collecting, hf]
    · simp [State.collected, hf]
  | takeNothing hf _ _ | hand hf _ _ =>
    exact h.clear g hf rfl rfl rfl rfl rfl (by simp) (by simp)
  | reply _ _ hf | publish hf =>
    refine h.keep ?_ ?_ (fun _ => rfl) (by simp) (by simp)
    · simp [State.collecting, hf]
    · simp [State.collected, hf]
  | @reopen last hf =>
    refine h.keep ?_ ?_ (fun _ => rfl) (by simp) ?_
    · cases last <;> by_cases hclosed : s.gate.closed = true <;>
        simp [State.collecting, hf, hclosed]
    · cases last <;> simp [State.collected, hf]
    · cases last <;> simp

end Collected

end Meterbank.Window
