/-
  Meterbank.Proofs.Window.Trails — what was noticed of one caller.

  Where a caller stands tells exactly what has been noticed of it: before
  the gate nothing, then that it passed, then that it merged, and in the
  end that it returned.  So the chronicle has room for one merge of each
  submit at most, and a caller that waits has left the merge behind it.

  Main results:
    * `Trails.section_keeps` — every section keeps the trails exact.
    * `Trails.merged` — a merge is that of a caller that came to submit the
      delta, and is in the window that it joined at the gate.
-/
import Meterbank.Proofs.Window.Chronicle
import Meterbank.Proofs.Window.Gate

namespace Meterbank.Window

/-! ## The trail of a point -/

/-- The notice of the merge, for a caller that came to submit a delta. -/
def Task.mergedAs (task : Task) (id cycle : Nat) : List Notice :=
  match task with
  | .submit delta => [.merged id cycle delta]
  | _ => []

/-- The trail of a caller that has returned. -/
inductive ReturnTrail (outcomes : List (Nat × Outcome)) (id : Nat) (task : Task) :
    Outcome → List Notice → Prop where
  /-- It found the gate closed. -/
  | refused : ReturnTrail outcomes id task (.error .closed) [.returned id (.error .closed)]
  /-- Its delta did not fit. -/
  | overflowed (cycle : Nat) (e : StoreError) (he : IsOverflow e)
      (ht : ∃ delta, task = .submit delta) :
      ReturnTrail outcomes id task (.error e) [.passed id cycle, .returned id (.error e)]
  /-- It was told the outcome of its window. -/
  | answered (cycle : Nat) (outcome : Outcome) (ho : (cycle, outcome) ∈ outcomes) :
      ReturnTrail outcomes id task outcome
        (.passed id cycle :: (task.mergedAs id cycle ++ [.returned id outcome]))
  /-- It did not wait. -/
  | gone (ht : task = .abandon) : ReturnTrail outcomes id task (.ok ()) []

/-- The trail of a caller at a point. -/
def Caller.HasTrail (c : Caller) (outcomes : List (Nat × Outcome)) (id : Nat)
    (t : List Notice) : Prop :=
  match c.point with
  | .entering | .stopSending | .stopTaking | .stopJoining | .stopped _ => t = []
  | .mergingCounters cycle | .mergingGauges cycle =>
    t = [.passed id cycle] ∧ ∃ delta, c.task = .submit delta
  | .leaving cycle (some e) =>
    t = [.passed id cycle] ∧ IsOverflow e ∧ ∃ delta, c.task = .submit delta
  | .leaving cycle none | .sending cycle | .waiting cycle =>
    t = .passed id cycle :: c.task.mergedAs id cycle
  | .returned outcome => ReturnTrail outcomes id c.task outcome t

theorem ReturnTrail.mono {outcomes outcomes' : List (Nat × Outcome)} {id : Nat} {task : Task}
    {outcome : Outcome} {t : List Notice} (h : ReturnTrail outcomes id task outcome t)
    (hsub : outcomes ⊆ outcomes') : ReturnTrail outcomes' id task outcome t := by
  cases h with
  | refused => exact .refused
  | overflowed cycle e he ht => exact .overflowed cycle e he ht
  | answered cycle outcome ho => exact .answered cycle outcome (hsub ho)
  | gone ht => exact .gone ht

/-- A trail stays right when more outcomes are known. -/
theorem Caller.HasTrail.mono {c : Caller} {outcomes outcomes' : List (Nat × Outcome)} {id : Nat}
    {t : List Notice} (h : c.HasTrail outcomes id t) (hsub : outcomes ⊆ outcomes') :
    c.HasTrail outcomes' id t := by
  obtain ⟨task, point⟩ := c
  cases point with
  | returned outcome => exact ReturnTrail.mono h hsub
  | leaving cycle refusal => cases refusal <;> exact h
  | _ => exact h

/-- The trails there are: nothing, the passing of the gate, with it the
merge, and with them the return. -/
theorem Caller.HasTrail.forms {c : Caller} {outcomes : List (Nat × Outcome)} {id : Nat}
    {t : List Notice} (h : c.HasTrail outcomes id t) :
    t = [] ∨ (∃ cycle, t = [.passed id cycle]) ∨
      (∃ cycle, t = .passed id cycle :: c.task.mergedAs id cycle) ∨
      ∃ outcome, ReturnTrail outcomes id c.task outcome t := by
  obtain ⟨task, point⟩ := c
  cases point with
  | mergingCounters cycle => exact .inr (.inl ⟨cycle, h.1⟩)
  | mergingGauges cycle => exact .inr (.inl ⟨cycle, h.1⟩)
  | leaving cycle refusal =>
    cases refusal with
    | some e => exact .inr (.inl ⟨cycle, h.1⟩)
    | none => exact .inr (.inr (.inl ⟨cycle, h⟩))
  | sending cycle => exact .inr (.inr (.inl ⟨cycle, h⟩))
  | waiting cycle => exact .inr (.inr (.inl ⟨cycle, h⟩))
  | returned outcome => exact .inr (.inr (.inr ⟨outcome, h⟩))
  | _ => exact .inl h

/-! ## The invariant -/

/-- Every caller has the trail of the point at which it stands. -/
structure Trails (s : State) (log : List Notice) : Prop where
  known : ∀ id (c : Caller), s.callers[id]? = some c → c.HasTrail s.outcomes id (trail log id)
  unknown : ∀ id, s.callers.length ≤ id → trail log id = []

namespace Trails

variable {s s' : State} {log : List Notice}

/-- One caller goes on, and leaves the trail of its new point. -/
theorem move (h : Trails s log) {id : Nat} {c : Caller} {point : Point} {n : Option Notice}
    (m : Moves s s' id c point) (hn : ∀ x ∈ n, x.caller? = some id)
    (ht : Caller.HasTrail { c with point } s.outcomes id (trail log id ++ n.toList)) :
    Trails s' (log ++ n.toList) where
  known := by
    intro j x hx
    rw [m.outcomes, trail_append]
    -- What is noticed is in the trail of the caller that moved, and in no other.
    by_cases hj : j = id
    · subst hj
      rw [m.lookup_self] at hx
      have hall : trail n.toList j = n.toList := trail_of_all (by simpa using hn)
      rw [← Option.some.inj hx, hall]
      exact ht
    · rw [m.lookup_other hj] at hx
      have hother : trail n.toList j = [] := by
        apply trail_of_none
        intro y hy hyj
        have hid := hn y (by simpa using hy)
        rw [hid] at hyj
        exact hj (Option.some.inj hyj).symm
      rw [hother, List.append_nil]
      exact h.known j x hx
  unknown := by
    intro j hj
    rw [m.callers, List.length_set] at hj
    have hne : j ≠ id := by
      rintro rfl
      exact absurd m.lt_length (by omega)
    rw [trail_append, h.unknown j hj, List.nil_append]
    apply trail_of_none
    intro y hy hyj
    have hid := hn y (by simpa using hy)
    rw [hid] at hyj
    exact hne (Option.some.inj hyj).symm

/-- The flusher goes on, and no caller is noticed. -/
theorem goOn (h : Trails s log) {n : Option Notice} (hcallers : s'.callers = s.callers)
    (houtcomes : s.outcomes ⊆ s'.outcomes) (hn : ∀ x ∈ n, x.caller? = none) :
    Trails s' (log ++ n.toList) := by
  have hnone : ∀ id, trail n.toList id = [] := by
    intro id
    apply trail_of_none
    intro y hy
    rw [hn y (by simpa using hy)]
    simp
  refine ⟨?_, ?_⟩
  · intro id c hc
    rw [hcallers] at hc
    rw [trail_append, hnone id, List.append_nil]
    exact (h.known id c hc).mono houtcomes
  · intro id hid
    rw [hcallers] at hid
    rw [trail_append, hnone id, List.append_nil]
    exact h.unknown id hid

/-- A new caller has not been noticed. -/
theorem come (h : Trails s log) (task : Task)
    (hcallers : s'.callers = s.callers ++ [⟨task, task.start⟩])
    (houtcomes : s'.outcomes = s.outcomes) : Trails s' log where
  known := by
    intro id c hc
    rw [houtcomes]
    rw [hcallers] at hc
    rcases Nat.lt_trichotomy id s.callers.length with hlt | heq | hgt
    · rw [List.getElem?_append_left hlt] at hc
      exact h.known id c hc
    · rw [heq, List.getElem?_concat_length] at hc
      rw [← Option.some.inj hc, h.unknown id (by omega)]
      cases task <;> exact rfl
    · rw [List.getElem?_eq_none (by simp; omega)] at hc
      exact absurd hc (by simp)
  unknown := by
    intro id hid
    rw [hcallers, List.length_append] at hid
    exact h.unknown id (by omega)

/-- Before anything happens there are no callers. -/
theorem init : Trails State.init [] where
  known id c hc := absurd hc (by simp [State.init])
  unknown _ _ := rfl

/-! ## Where the callers stand -/

/-- A caller at the gate has left no trail. -/
theorem entering (h : Trails s log) {id : Nat} {c : Caller} (hc : s.callers[id]? = some c)
    (hp : c.point = .entering) : trail log id = [] := by
  have ht := h.known id c hc
  rw [Caller.HasTrail, hp] at ht
  exact ht

/-- A caller that merges has passed the gate in its window. -/
theorem merging (h : Trails s log) {id cycle : Nat} {c : Caller} (hc : s.callers[id]? = some c)
    (hp : c.point = .mergingCounters cycle ∨ c.point = .mergingGauges cycle) :
    trail log id = [.passed id cycle] := by
  have ht := h.known id c hc
  rcases hp with hp | hp <;> rw [Caller.HasTrail, hp] at ht <;> exact ht.1

/-- A caller whose delta did not fit has merged nothing. -/
theorem leavingRefused (h : Trails s log) {id cycle : Nat} {c : Caller} {e : StoreError}
    (hc : s.callers[id]? = some c) (hp : c.point = .leaving cycle (some e)) :
    trail log id = [.passed id cycle] ∧ IsOverflow e ∧ ∃ delta, c.task = .submit delta := by
  have ht := h.known id c hc
  rw [Caller.HasTrail, hp] at ht
  exact ht

/-- A caller that leaves or waits has merged what it came to submit. -/
theorem waiting (h : Trails s log) {id cycle : Nat} {c : Caller} (hc : s.callers[id]? = some c)
    (hp : c.point = .leaving cycle none ∨ c.point = .sending cycle ∨ c.point = .waiting cycle) :
    trail log id = .passed id cycle :: c.task.mergedAs id cycle := by
  have ht := h.known id c hc
  rcases hp with hp | hp | hp <;> rw [Caller.HasTrail, hp] at ht <;> exact ht

/-- A caller that stops the flusher leaves no trail. -/
theorem stopping (h : Trails s log) {id : Nat} {c : Caller} (hc : s.callers[id]? = some c)
    (hp : c.point = .stopSending ∨ c.point = .stopTaking ∨ c.point = .stopJoining) :
    trail log id = [] := by
  have ht := h.known id c hc
  rcases hp with hp | hp | hp <;> rw [Caller.HasTrail, hp] at ht <;> exact ht

/-- **Every section keeps the trails exact.** -/
theorem section_keeps (h : Trails s log) {n : Option Notice} (hs : Section s n s') :
    Trails s' (log ++ n.toList) := by
  cases hs with
  | stay | shut _ _ | swap _ _ | takeGauges _ | takeNothing _ _ _ | reopen _ =>
    exact h.goOn rfl (List.Subset.refl _) (by simp)
  | come task =>
    rw [Option.toList_none, List.append_nil]
    exact h.come task rfl rfl
  | refuse hc hp _ =>
    refine h.move ⟨hc, rfl, rfl, rfl, rfl, rfl, rfl, rfl⟩ (by simp [Notice.caller?]) ?_
    rw [h.entering hc hp]
    exact ReturnTrail.refused
  | @pass id c hc hp _ _ =>
    refine h.move ⟨hc, rfl, rfl, rfl, rfl, rfl, rfl, rfl⟩ (by simp [Notice.caller?]) ?_
    rw [h.entering hc hp]
    cases c.task with
    | submit delta => exact ⟨rfl, delta, rfl⟩
    | _ => simp [Caller.HasTrail, Task.passed, Task.mergedAs]
  | @count id cycle c delta pending hc hp ht _ =>
    refine h.move ⟨hc, rfl, rfl, rfl, rfl, rfl, rfl, rfl⟩ (by simp) ?_
    rw [h.merging hc (.inl hp)]
    exact ⟨rfl, delta, ht⟩
  | overflow hc hp ht hm =>
    refine h.move ⟨hc, rfl, rfl, rfl, rfl, rfl, rfl, rfl⟩ (by simp) ?_
    rw [h.merging hc (.inl hp)]
    exact ⟨rfl, Delta.mergeCounters_error hm, _, ht⟩
  | merge hc hp ht =>
    refine h.move ⟨hc, rfl, rfl, rfl, rfl, rfl, rfl, rfl⟩ (by simp [Notice.caller?]) ?_
    rw [h.merging hc (.inr hp)]
    simp [Caller.HasTrail, Task.mergedAs, ht]
  | leaveRefused hc hp =>
    refine h.move ⟨hc, rfl, rfl, rfl, rfl, rfl, rfl, rfl⟩ (by simp [Notice.caller?]) ?_
    obtain ⟨htrail, hover, ht⟩ := h.leavingRefused hc hp
    rw [htrail]
    exact ReturnTrail.overflowed _ _ hover ht
  | @leave id cycle c hc hp =>
    refine h.move ⟨hc, rfl, rfl, rfl, rfl, rfl, rfl, rfl⟩ (by simp) ?_
    rw [h.waiting hc (.inl hp), Option.toList_none, List.append_nil]
    cases c.task <;> simp [Caller.HasTrail, Task.left]
  | send hc hp _ =>
    refine h.move ⟨hc, rfl, rfl, rfl, rfl, rfl, rfl, rfl⟩ (by simp) ?_
    rw [h.waiting hc (.inr (.inl hp)), Option.toList_none, List.append_nil]
    rfl
  | wake hc hp ho =>
    refine h.move ⟨hc, rfl, rfl, rfl, rfl, rfl, rfl, rfl⟩ (by simp [Notice.caller?]) ?_
    rw [h.waiting hc (.inr (.inr hp))]
    obtain ⟨l₁, l₂, hl, -⟩ := List.lookup_eq_some_iff.1 ho
    exact ReturnTrail.answered _ _ (by rw [hl]; simp)
  | @tell id c queue hc hp _ =>
    refine h.move ⟨hc, rfl, rfl, rfl, rfl, rfl, rfl, rfl⟩ (by simp) ?_
    rw [h.stopping hc (.inl hp)]
    cases c.task with
    | abandon => exact ReturnTrail.gone rfl
    | _ => rfl
  | takeJoin hc hp _ | missJoin hc hp _ =>
    refine h.move ⟨hc, rfl, rfl, rfl, rfl, rfl, rfl, rfl⟩ (by simp) ?_
    rw [h.stopping hc (.inr (.inl hp))]
    rfl
  | join hc hp _ =>
    refine h.move ⟨hc, rfl, rfl, rfl, rfl, rfl, rfl, rfl⟩ (by simp) ?_
    rw [h.stopping hc (.inr (.inr hp))]
    rfl
  | hand _ _ _ | reply _ _ _ =>
    exact h.goOn rfl (List.Subset.refl _) (by simp [Notice.caller?])
  | publish _ => exact h.goOn rfl (List.subset_cons_self _ _) (by simp [Notice.caller?])

/-! ## What a merge says of its caller -/

/-- **A merge is that of a caller that came to submit the delta**, and is in
the window that it joined at the gate.  After it the caller can only
return. -/
theorem merged (h : Trails s log) {id cycle : Nat} {delta : Delta}
    (hm : .merged id cycle delta ∈ log) :
    (∃ c, s.callers[id]? = some c ∧ c.task = .submit delta) ∧
      (trail log id = [.passed id cycle, .merged id cycle delta] ∨
        ∃ outcome, trail log id =
          [.passed id cycle, .merged id cycle delta, .returned id outcome]) := by
  have hmem : .merged id cycle delta ∈ trail log id := mem_trail.2 ⟨hm, rfl⟩
  cases hc : s.callers[id]? with
  | none =>
    rw [h.unknown id (List.getElem?_eq_none_iff.1 hc)] at hmem
    exact absurd hmem (by simp)
  | some c =>
    have htrail := h.known id c hc
    generalize trail log id = t at hmem htrail ⊢
    -- Only a submit that has merged has a merge in its trail.
    have hsubmit : ∀ window, .merged id cycle delta ∈ c.task.mergedAs id window →
        c.task = .submit delta ∧ window = cycle := by
      intro window hin
      cases ht : c.task <;> rw [ht] at hin <;> simp [Task.mergedAs] at hin
      rw [hin.1, hin.2]
      exact ⟨rfl, rfl⟩
    rcases htrail.forms with rfl | ⟨window, rfl⟩ | ⟨window, rfl⟩ | ⟨outcome, hreturn⟩
    · exact absurd hmem (by simp)
    · exact absurd hmem (by simp)
    · obtain ⟨ht, rfl⟩ := hsubmit window (by simpa using hmem)
      exact ⟨⟨c, rfl, ht⟩, .inl (by rw [ht, Task.mergedAs])⟩
    · cases hreturn with
      | refused | overflowed window e he _ | gone _ => exact absurd hmem (by simp)
      | answered window outcome ho =>
        obtain ⟨ht, rfl⟩ := hsubmit window (by simpa using hmem)
        exact ⟨⟨c, rfl, ht⟩, .inr ⟨outcome, by rw [ht, Task.mergedAs]; rfl⟩⟩

/-- A submit that returns without having merged was refused. -/
theorem refused (h : Trails s log) {id : Nat} {c : Caller} {delta : Delta} {outcome : Outcome}
    (hc : s.callers[id]? = some c) (ht : c.task = .submit delta)
    (hr : .returned id outcome ∈ log) (hm : ∀ cycle d, .merged id cycle d ∉ log) :
    outcome = .error .closed ∨ ∃ e, outcome = .error e ∧ IsOverflow e := by
  have hmem : .returned id outcome ∈ trail log id := mem_trail.2 ⟨hr, rfl⟩
  have hnone : ∀ cycle d, .merged id cycle d ∉ trail log id := by
    intro cycle d hd
    exact hm cycle d (mem_trail.1 hd).1
  have htrail := h.known id c hc
  generalize trail log id = t at hmem hnone htrail
  rcases htrail.forms with rfl | ⟨window, rfl⟩ | ⟨window, rfl⟩ | ⟨told, hreturn⟩
  · exact absurd hmem (by simp)
  · exact absurd hmem (by simp)
  · rw [ht] at hmem
    exact absurd hmem (by simp [Task.mergedAs])
  · rw [ht] at hreturn
    cases hreturn with
    | refused =>
      have hclosed : outcome = .error .closed := by simpa using hmem
      exact .inl hclosed
    | overflowed window e he _ =>
      have hover : outcome = .error e := by simpa using hmem
      exact .inr ⟨e, hover, he⟩
    | gone hgone => exact absurd hgone (by simp)
    | answered window told _ =>
      exact absurd (by simp [Task.mergedAs]) (hnone window delta)

end Trails

end Meterbank.Window
