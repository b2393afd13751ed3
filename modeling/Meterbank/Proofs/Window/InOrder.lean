/-
  Meterbank.Proofs.Window.InOrder — windows land in the order of the merges.

  While a window is open nothing is merged into another one, and the
  flusher writes one window after the other.  So whoever looks at the
  merges in the order in which they happened sees the submits that have
  landed in the order in which they were written, with those of the
  failed windows left out.

  Main results:
    * `InOrder.section_keeps` — every section merges into the current
      window, or writes the one before it.
    * `landed_sublist_merging` — what has landed is in the order of the
      merges.
    * `landed_same`, `landed_reply` — what an event lands.
-/
import Mathlib.Data.List.Flatten
import Mathlib.Data.List.Sort
import Meterbank.Proofs.Window.Landing

namespace Meterbank.Window

variable {s s' : State} {log : List Notice}

/-! ## All merges -/

/-- The caller and the delta of a merge. -/
def Notice.merged? : Notice → Option (Nat × Delta)
  | .merged id _ delta => some (id, delta)
  | _ => none

/-- Who merged what, in the order of the merging, whatever the window. -/
def merging (log : List Notice) : List (Nat × Delta) := log.filterMap Notice.merged?

theorem merging_snoc_merged (log : List Notice) (id cycle : Nat) (delta : Delta) :
    merging (log ++ [.merged id cycle delta]) = merging log ++ [(id, delta)] :=
  List.filterMap_append ..

theorem merging_snoc_of_ne {n : Notice} (h : ∀ id cycle delta, n ≠ .merged id cycle delta) :
    merging (log ++ [n]) = merging log := by
  have hnone : n.merged? = none := by
    cases n with
    | merged id cycle delta => exact absurd rfl (h id cycle delta)
    | _ => rfl
  unfold merging
  rw [List.filterMap_append, List.filterMap_cons_none hnone, List.filterMap_nil, List.append_nil]

theorem merges_snoc_merged (log : List Notice) (id cycle : Nat) (delta : Delta) :
    merges (log ++ [.merged id cycle delta]) cycle = merges log cycle ++ [(id, delta)] := by
  unfold merges
  rw [List.filterMap_append]
  simp [Notice.mergedIn?]

theorem written_snoc_of_none {n : Notice} (h : n.written? = none) :
    written (log ++ [n]) = written log := by
  rw [written_snoc, h, Option.toList_none, List.append_nil]

/-! ## One section -/

theorem Gated.collecting_le (g : Gated s) : s.collecting ≤ s.gate.cycle := by
  unfold State.collecting
  split
  · next hf =>
    have hnext := g.previous _ (by rw [hf]; rfl)
    omega
  · next hf =>
    have hnext := g.previous _ (by rw [hf]; rfl)
    omega
  · exact Nat.le_refl _

/-- A section that is noticed leaves the number of the window. -/
theorem Section.cycle_of_notice {n : Notice} (hs : Section s (some n) s') :
    s'.gate.cycle = s.gate.cycle := by
  cases hs <;> rfl

/-- One that is not noticed may go on to the next window. -/
theorem Section.cycle_of_none (hs : Section s none s') :
    s'.gate.cycle = s.gate.cycle ∨ s'.gate.cycle = s.gate.cycle + 1 := by
  cases hs with
  | swap hf hd => exact .inr rfl
  | reopen hf =>
    refine .inl ?_
    simp only
    split <;> rfl
  | _ => exact .inl rfl

/-- A caller merges into the current window. -/
theorem Section.merged_current (g : Gated s) {id cycle : Nat} {delta : Delta}
    (hs : Section s (some (.merged id cycle delta)) s') : cycle = s.gate.cycle := by
  cases hs with
  | merge hc hp _ => exact g.current _ (List.mem_of_getElem? hc) cycle (by rw [hp]; rfl)

/-- The sink replies to the window before it. -/
theorem Section.replied_calling {cycle : Nat} {reply : Reply}
    (hs : Section s (some (.replied cycle reply)) s') :
    ∃ last delta, s.flusher = .calling last cycle delta := by
  cases hs with
  | reply reply _ hf => exact ⟨_, _, hf⟩

/-! ## The invariant -/

/-- Windows are merged into, and written, one after the other. -/
structure InOrder (s : State) (log : List Notice) : Prop where
  grouped : merging log = (List.range (s.gate.cycle + 1)).flatMap (merges log)
  rising : (written log).Pairwise (· < ·)
  past : ∀ cycle ∈ written log, cycle < s.gate.cycle

namespace InOrder

theorem init : InOrder State.init [] where
  grouped := rfl
  rising := .nil
  past cycle hcycle := absurd hcycle (by simp [written])

/-- The next window has nothing in it. -/
theorem goOn (h : InOrder s log) (t : Told s log)
    (hcycle : s'.gate.cycle = s.gate.cycle ∨ s'.gate.cycle = s.gate.cycle + 1) :
    InOrder s' log := by
  rcases hcycle with hsame | hnext
  · exact ⟨by rw [hsame]; exact h.grouped, h.rising, by rw [hsame]; exact h.past⟩
  · have hnone : merges log (s.gate.cycle + 1) = [] := by
      rw [List.eq_nil_iff_forall_not_mem]
      rintro ⟨id, delta⟩ hmem
      have hle := t.collected.upTo id _ delta (mem_merges.1 hmem)
      have hcollecting := t.gated.collecting_le
      omega
    refine ⟨?_, h.rising, fun cycle hc => ?_⟩
    · rw [hnext, List.range_succ, List.flatMap_append, ← h.grouped, List.flatMap_singleton, hnone,
        List.append_nil]
    · have hlt := h.past cycle hc
      omega

/-- One more merge into the current window. -/
theorem merge (h : InOrder s log) (hsame : s'.gate.cycle = s.gate.cycle) (id : Nat)
    (delta : Delta) : InOrder s' (log ++ [.merged id s.gate.cycle delta]) where
  grouped := by
    -- The windows before it stay as they are.
    have hold : (List.range s.gate.cycle).flatMap
        (merges (log ++ [.merged id s.gate.cycle delta])) =
          (List.range s.gate.cycle).flatMap (merges log) := by
      refine List.flatMap_congr fun cycle hc => merges_snoc_of_ne fun id' delta' heq => ?_
      have hlt := List.mem_range.1 hc
      have hcycle : s.gate.cycle = cycle := (Notice.merged.inj heq).2.1
      omega
    rw [merging_snoc_merged, h.grouped, hsame, List.range_succ, List.flatMap_append,
      List.flatMap_append, hold, List.flatMap_singleton, List.flatMap_singleton, merges_snoc_merged,
      List.append_assoc]
  rising := by
    rw [written_snoc_of_none rfl]
    exact h.rising
  past := by
    rw [written_snoc_of_none rfl, hsame]
    exact h.past

/-- Another notice that adds nothing to the windows. -/
theorem notice (h : InOrder s log) (hsame : s'.gate.cycle = s.gate.cycle) {n : Notice}
    (hn : ∀ id cycle delta, n ≠ .merged id cycle delta)
    (hrising : (written (log ++ [n])).Pairwise (· < ·))
    (hpast : ∀ cycle ∈ written (log ++ [n]), cycle < s.gate.cycle) : InOrder s' (log ++ [n]) where
  grouped := by
    rw [merging_snoc_of_ne hn, h.grouped, hsame]
    exact List.flatMap_congr fun cycle _ => (merges_snoc_of_ne fun id => hn id cycle).symm
  rising := hrising
  past := by
    rw [hsame]
    exact hpast

/-- A reply of the sink comes after those to earlier windows. -/
theorem reply (h : InOrder s log) (t : Told s log) (hsame : s'.gate.cycle = s.gate.cycle)
    {last : Bool} {cycle : Nat} {delta : Delta} (hf : s.flusher = .calling last cycle delta)
    (reply : Reply) : InOrder s' (log ++ [.replied cycle reply]) := by
  have hnext : cycle + 1 = s.gate.cycle := t.gated.previous cycle (by rw [hf]; rfl)
  have hfirst := (t.flushed.calling last cycle delta hf).2.1
  have hbefore : ∀ c ∈ written log, c < cycle := by
    intro c hc
    have hlt := h.past c hc
    have hne : c ≠ cycle := by
      rintro rfl
      exact hfirst _ (mem_written.1 hc)
    omega
  have hnew : ∀ c ∈ (Notice.replied cycle reply).written?.toList, c = cycle := by
    intro c hc
    obtain (outcome | _) := reply
    · cases outcome with
      | ok u => exact (Option.some.inj (Option.mem_toList.1 hc)).symm
      | error e => exact absurd hc (by simp [Notice.written?])
    · exact absurd hc (by simp [Notice.written?])
  refine h.notice hsame (by simp) ?_ ?_
  · rw [written_snoc, List.pairwise_append]
    refine ⟨h.rising, ?_, fun c hc c' hc' => ?_⟩
    · cases (Notice.replied cycle reply).written? <;> simp
    · rw [hnew c' hc']
      exact hbefore c hc
  · intro c hc
    rw [written_snoc] at hc
    rcases List.mem_append.1 hc with hc | hc
    · exact h.past c hc
    · rw [hnew c hc]
      omega

/-- **Every section merges into the current window, or writes the one
before it**, and does neither elsewhere. -/
theorem section_keeps (h : InOrder s log) (t : Told s log) {n : Option Notice}
    (hs : Section s n s') : InOrder s' (log ++ n.toList) := by
  cases n with
  | none =>
    rw [Option.toList_none, List.append_nil]
    exact h.goOn t hs.cycle_of_none
  | some n =>
    have hsame := hs.cycle_of_notice
    -- Only a good reply says that a window was written.
    have hother : n.written? = none → (∀ id cycle delta, n ≠ .merged id cycle delta) →
        InOrder s' (log ++ [n]) := by
      intro hnone hne
      have hwritten : written (log ++ [n]) = written log := written_snoc_of_none hnone
      exact h.notice hsame hne (by rw [hwritten]; exact h.rising) (by rw [hwritten]; exact h.past)
    cases n with
    | merged id cycle delta =>
      obtain rfl := Section.merged_current t.gated hs
      exact h.merge hsame id delta
    | replied cycle reply =>
      obtain ⟨last, delta, hf⟩ := hs.replied_calling
      exact h.reply t hsame hf reply
    | _ => exact hother rfl (by simp)

/-- The windows of every run are in order. -/
theorem run (events : List Event) :
    InOrder (Meterbank.run Window.step State.init events) (chronicle State.init events) :=
  (run_induction (P := fun s log => Told s log ∧ InOrder s log)
    ⟨⟨.init, .init, .init, .init, .nil⟩, .init⟩
    (fun _ _ _ _ h hs => ⟨h.1.section_keeps hs, h.2.section_keeps h.1 hs⟩) events).2

/-- **What has landed is in the order of the merges.** -/
theorem landed_sublist_merging (h : InOrder s log) : (landed log).Sublist (merging log) := by
  have hsub : (written log).Subperm (List.range (s.gate.cycle + 1)) := by
    refine List.subperm_of_subset (h.rising.imp fun hlt => Nat.ne_of_lt hlt) fun cycle hc => ?_
    have hlt := h.past cycle hc
    exact List.mem_range.2 (by omega)
  have hle : ∀ {l : List Nat}, l.Pairwise (· < ·) → l.Pairwise (· ≤ ·) :=
    fun hl => hl.imp fun hlt => Nat.le_of_lt hlt
  have hwritten : (written log).Sublist (List.range (s.gate.cycle + 1)) :=
    List.sublist_of_subperm_of_pairwise hsub (hle h.rising) (hle List.pairwise_lt_range)
  rw [h.grouped]
  exact hwritten.flatMap (merges log)

end InOrder

/-! ## What an event lands -/

namespace Told

/-- What a notice lands is added to what has landed. -/
theorem landed_step (h : Told s log) (e : Event) :
    landed (log ++ (notice s e).toList) =
      landed log ++ (notice s e).toList.flatMap (Notice.lands log) := by
  have hnext := h.step e
  cases hn : notice s e with
  | none => simp
  | some n =>
    rw [hn] at hnext
    have hjust : Justified log n := hnext.coherent.split rfl
    rw [Option.toList_some, Coherent.landed_snoc hjust, List.flatMap_singleton]

/-- Nothing lands unless a call of the sink ends. -/
theorem landed_same (h : Told s log) {e : Event} (he : ∀ reply, e ≠ .reply reply) :
    landed (log ++ (notice s e).toList) = landed log := by
  rw [h.landed_step, List.flatMap_eq_nil_iff.2, List.append_nil]
  intro n hn
  unfold Notice.lands
  rw [notice_written he (Option.mem_toList.1 hn)]

/-- **When a call of the sink ends, all of its window lands, or nothing.** -/
theorem landed_reply (h : Told s log) {last : Bool} {cycle : Nat} {delta : Delta}
    (hf : s.flusher = .calling last cycle delta) (reply : Reply) :
    landed (log ++ (notice s (.reply reply)).toList) = landed log ++
      match reply.outcome with
      | .ok _ => merges log cycle
      | .error _ => [] := by
  have hnotice : notice s (.reply reply) = some (.replied cycle reply) := by
    rw [Window.notice, hf]
  rw [h.landed_step, hnotice, Option.toList_some, List.flatMap_singleton]
  obtain (outcome | _) := reply
  · cases outcome <;> rfl
  · rfl

/-- Nothing lands of a window that fails. -/
theorem landed_refused (h : Told s log) {reply : Reply} {e : StoreError}
    (hr : reply.outcome = .error e) :
    landed (log ++ (notice s (.reply reply)).toList) = landed log := by
  cases hf : s.flusher with
  | calling last cycle delta => rw [h.landed_reply hf, hr, List.append_nil]
  | _ => simp [Window.notice, hf]

end Told

end Meterbank.Window
