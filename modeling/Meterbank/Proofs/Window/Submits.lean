/-
  Meterbank.Proofs.Window.Submits — each write lands whole in one window.

  For every interleaving of callers, flusher, timer and commands, and for
  every sequence of replies of the sink: a delta that was merged is in the
  delta of exactly one window, the one whose cycle its caller took at the
  gate; a window's delta is the merge of the window's submits and of
  nothing else; and the caller is told the reply of the sink to it, after
  the call has ended.

  Main result:
    * `run_lands_whole` — all of this, of every run.
-/
import Mathlib.Logic.ExistsUnique
import Meterbank.Proofs.Window.Windows

namespace Meterbank.Window

/-! ## One merge of each submit -/

/-- No caller merges twice into a window. -/
theorem Coherent.nodup_merges {log : List Notice} (h : Coherent log) (cycle : Nat) :
    ((merges log cycle).map Prod.fst).Nodup := by
  induction h with
  | nil => exact List.nodup_nil
  | @snoc log n _ hn ih =>
    unfold merges at ih ⊢
    rw [List.filterMap_append, List.map_append]
    cases hm : n.mergedIn? cycle with
    | none => simpa [hm] using ih
    | some p =>
      cases n <;> simp only [Notice.mergedIn?, reduceCtorEq] at hm
      case merged id c delta =>
        split at hm
        · next hc =>
          subst hc
          have hp : p = (id, delta) := (Option.some.inj hm).symm
          -- Before it merges, a caller has only passed the gate.
          have hfirst : id ∉ (merges log c).map Prod.fst := by
            intro hmem
            obtain ⟨⟨id', d⟩, hmerge, hid⟩ := List.mem_map.1 hmem
            have hid' : id' = id := hid
            subst hid'
            have htrail : .merged id' c d ∈ trail log id' := mem_trail.2 ⟨mem_merges.1 hmerge, rfl⟩
            rw [hn.1] at htrail
            exact absurd htrail (by simp)
          have hlast : ([Notice.merged id c delta].filterMap (Notice.mergedIn? c)).map Prod.fst =
              [id] := by simp [Notice.mergedIn?]
          rw [hlast]
          refine List.nodup_append.2 ⟨ih, by simp, ?_⟩
          intro a ha b hb heq
          rw [List.mem_singleton.1 hb] at heq
          rw [heq] at ha
          exact hfirst ha
        · exact absurd hm (by simp)

/-! ## What becomes of a submit -/

/-- What a run does with the deltas that are submitted to it. -/
structure LandsWhole (s : State) (log : List Notice) : Prop where
  /-- A window is handed to the sink once at most. -/
  once : (s.handed.map Prod.fst).Nodup
  /-- The delta of a window is the merge of its submits, and nothing else. -/
  exact : ∀ cycle whole, (cycle, whole) ∈ s.handed → whole.IsMergeOf (deltas log cycle)
  /-- No submit is merged twice into it. -/
  single : ∀ cycle, ((merges log cycle).map Prod.fst).Nodup
  /-- A merge is that of the whole delta of a submit, in the one window
  that the submit joined at the gate. -/
  submits : ∀ id cycle delta, .merged id cycle delta ∈ log →
    (∃ c, s.callers[id]? = some c ∧ c.task = .submit delta) ∧ .passed id cycle ∈ log ∧
      (∀ cycle', .passed id cycle' ∈ log → cycle' = cycle) ∧
      ∀ cycle' delta', .merged id cycle' delta' ∈ log → cycle' = cycle ∧ delta' = delta
  /-- Its delta is in exactly one of the deltas that were handed over,
  unless its window is still being collected. -/
  included : ∀ id cycle delta, .merged id cycle delta ∈ log → delta.isEmpty = false →
    cycle = s.collecting ∨
      ∃! h : Nat × Delta, h ∈ s.handed ∧ (id, delta) ∈ merges log h.1
  /-- The submit returns after the call of the sink with that delta has
  ended, and returns its outcome. -/
  answered : ∀ before after id outcome cycle delta, log = before ++ .returned id outcome :: after →
    .merged id cycle delta ∈ log → delta.isEmpty = false →
    (∃ whole reply, .handed cycle whole ∈ before ∧ .replied cycle reply ∈ before ∧
      outcome = reply.outcome) ∧
      ∃! h : Nat × Delta, h ∈ s.handed ∧ (id, delta) ∈ merges log h.1
  /-- A submit that returns without having merged returns a refusal. -/
  refused : ∀ id outcome c delta, .returned id outcome ∈ log → s.callers[id]? = some c →
    c.task = .submit delta → (∀ cycle d, .merged id cycle d ∉ log) →
    outcome = .error .closed ∨ ∃ e, outcome = .error e ∧ IsOverflow e

/-- A window that ended with something in it was replied to. -/
theorem Ended.reply {log : List Notice} {cycle : Nat} {outcome : Outcome} {delta : Delta}
    (h : Ended log cycle outcome) (hd : delta ∈ deltas log cycle) (hne : delta.isEmpty = false) :
    ∃ whole reply, .handed cycle whole ∈ log ∧ .replied cycle reply ∈ log ∧
      outcome = reply.outcome := by
  rcases h with hreply | ⟨-, hempty⟩
  · exact hreply
  · have he := hempty delta hd
    rw [hne] at he
    exact absurd he (by simp)

namespace Told

variable {s : State} {log : List Notice}

/-- The window and the delta of a submit are the only ones of its caller. -/
theorem merged_unique (h : Told s log) {id cycle cycle' : Nat} {delta delta' : Delta}
    (hm : .merged id cycle delta ∈ log) (hm' : .merged id cycle' delta' ∈ log) :
    cycle' = cycle ∧ delta' = delta := by
  have hmem : .merged id cycle' delta' ∈ trail log id := mem_trail.2 ⟨hm', rfl⟩
  rcases (h.trails.merged hm).2 with htrail | ⟨outcome, htrail⟩
  · rw [htrail] at hmem
    simpa using hmem
  · rw [htrail] at hmem
    simpa using hmem

theorem passed_of_merged (h : Told s log) {id cycle : Nat} {delta : Delta}
    (hm : .merged id cycle delta ∈ log) :
    .passed id cycle ∈ log ∧ ∀ cycle', .passed id cycle' ∈ log → cycle' = cycle := by
  have htrail : ∀ cycle', .passed id cycle' ∈ log ↔ cycle' = cycle := by
    intro cycle'
    have hmem : .passed id cycle' ∈ trail log id ↔ .passed id cycle' ∈ log := by
      rw [mem_trail]
      simp [Notice.caller?]
    rw [← hmem]
    rcases (h.trails.merged hm).2 with htrail | ⟨outcome, htrail⟩ <;> rw [htrail] <;> simp
  exact ⟨(htrail cycle).2 rfl, fun cycle' => (htrail cycle').1⟩

/-- A delta that was handed over with its window is in no other delta. -/
theorem included_once (h : Told s log) {id cycle : Nat} {delta whole : Delta}
    (hm : .merged id cycle delta ∈ log) (hw : .handed cycle whole ∈ log) :
    ∃! p : Nat × Delta, p ∈ s.handed ∧ (id, delta) ∈ merges log p.1 := by
  rw [h.flushed.handed]
  refine ⟨(cycle, whole), ⟨mem_handedIn.2 hw, mem_merges.2 hm⟩, ?_⟩
  rintro ⟨cycle', whole'⟩ ⟨hw', hm'⟩
  -- Its caller merged into one window, and the merge of that one is unique.
  have hcycle : cycle' = cycle := (h.merged_unique hm (mem_merges.1 hm')).1
  subst hcycle
  have hwhole : whole' = whole :=
    (h.coherent.isMergeOf (mem_handedIn.1 hw')).unique (h.coherent.isMergeOf hw)
  rw [hwhole]

/-- A submit that has merged returns the reply of the sink to its window,
and returns it after the reply. -/
theorem answer (h : Told s log) {before after : List Notice} {id cycle : Nat} {delta : Delta}
    {outcome : Outcome} (hlog : log = before ++ .returned id outcome :: after)
    (hm : .merged id cycle delta ∈ log) (hne : delta.isEmpty = false) :
    ∃ whole reply, .handed cycle whole ∈ before ∧ .replied cycle reply ∈ before ∧
      outcome = reply.outcome := by
  have hbefore : Coherent before := h.coherent.front hlog
  -- The trail of the caller ends with the return, so the merge comes before it.
  have htrail : trail before id = [.passed id cycle, .merged id cycle delta] := by
    have hall : trail log id =
        trail before id ++ .returned id outcome :: trail after id := by
      rw [hlog, trail_append]
      simp [trail, Notice.caller?]
    rcases (h.trails.merged hm).2 with ht | ⟨outcome', ht⟩
    · rw [ht] at hall
      have hret : .returned id outcome ∈ [Notice.passed id cycle, .merged id cycle delta] := by
        rw [hall]
        simp
      exact absurd hret (by simp)
    · rw [ht] at hall
      generalize trail before id = t at hall
      generalize trail after id = u at hall
      rcases t with _ | ⟨a, _ | ⟨b, _ | ⟨c, t⟩⟩⟩
      · exact absurd hall (by simp)
      · exact absurd hall (by simp)
      · simp only [List.cons_append, List.nil_append, List.cons.injEq] at hall
        rw [hall.1, hall.2.1]
      · exact absurd hall (by simp)
  have hmerged : .merged id cycle delta ∈ before :=
    (mem_trail.1 (by rw [htrail]; simp : .merged id cycle delta ∈ trail before id)).1
  -- Of the three ways to return, only that of a caller that has merged is left.
  rcases h.coherent.split hlog with ⟨hnil, -⟩ | ⟨c, e, hpassed, -⟩ | ⟨c, merge, hcons, -, hpub⟩
  · rw [htrail] at hnil
    exact absurd hnil (by simp)
  · rw [htrail] at hpassed
    exact absurd hpassed (by simp)
  · rw [htrail] at hcons
    simp only [List.cons.injEq, Notice.passed.injEq, true_and] at hcons
    rw [← hcons.1] at hpub
    exact (hbefore.ended hpub).reply (mem_deltas.2 ⟨id, hmerged⟩) hne

end Told

/-- **Each write lands whole in exactly one window and is told the outcome
of that window**, in every run. -/
theorem run_lands_whole (events : List Event) :
    LandsWhole (run step State.init events) (chronicle State.init events) := by
  have h := told_run events
  generalize run step State.init events = s at h ⊢
  generalize chronicle State.init events = log at h ⊢
  refine ⟨?_, ?_, h.coherent.nodup_merges, ?_, ?_, ?_, ?_⟩
  · rw [h.flushed.handed]
    exact h.coherent.nodup_handed
  · intro cycle whole hmem
    rw [h.flushed.handed] at hmem
    exact h.coherent.isMergeOf (mem_handedIn.1 hmem)
  · intro id cycle delta hm
    have hpassed := h.passed_of_merged hm
    exact ⟨(h.trails.merged hm).1, hpassed.1, hpassed.2,
      fun cycle' delta' hm' => h.merged_unique hm hm'⟩
  · intro id cycle delta hm hne
    have hle := h.collected.upTo id cycle delta hm
    by_cases heq : cycle = s.collecting
    · exact .inl heq
    · right
      rcases h.flushed.offered cycle (by omega) with ⟨whole, hw⟩ | hempty
      · exact h.included_once hm hw
      · have he := hempty delta (mem_deltas.2 ⟨id, hm⟩)
        rw [hne] at he
        exact absurd he (by simp)
  · intro before after id outcome cycle delta hlog hm hne
    have hanswer := h.answer hlog hm hne
    have ⟨whole, _, hw, _⟩ := hanswer
    have hhanded : .handed cycle whole ∈ log := by
      rw [hlog]
      exact List.mem_append_left _ hw
    exact ⟨hanswer, h.included_once hm hhanded⟩
  · intro id outcome c delta hr hc ht hm
    exact h.trails.refused hc ht hr hm

/-- A submit whose window the sink dies of: it returns after the reply. -/
example :
    let delta : Delta := ⟨∅, (∅ : Table Int64).set "requests" 3⟩
    let log := chronicle State.init
      ([.call (.submit delta)] ++ List.replicate 4 (.advance 0) ++
        [.tick, .proceed, .proceed, .reply .panicked, .proceed, .advance 0])
    log.map (fun n => (n.caller?, n.flushed?)) =
      [(some 0, none), (some 0, none), (none, some 1), (none, some 1), (none, some 1),
        (some 0, none)] := by
  decide

end Meterbank.Window
