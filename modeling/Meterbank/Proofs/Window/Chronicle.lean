/-
  Meterbank.Proofs.Window.Chronicle — what a chronicle says of callers and windows.

  A chronicle is coherent if every notice is justified by those before it:
  a caller merges once, in the window in which it passed the gate, and
  never into a window that the flusher has begun to hand over; what is
  handed over is the merge of the window so far; an outcome is published
  once, after the reply of the sink; and a caller returns what was
  published for its window.  Coherence does not mention the state of the
  machine.

  Main results:
    * `Coherent.split` — each notice of a coherent chronicle is justified.
    * `Coherent.isMergeOf` — what was handed over is the merge of the whole
      window, also of the window as it is known later.
    * `Coherent.ended` — a published outcome is the reply of the sink, or
      there was nothing to flush.
-/
import Meterbank.Proofs.Merging
import Meterbank.Proofs.Window.Sections

namespace Meterbank.Window

/-! ## Callers -/

/-- The caller a notice is about. -/
def Notice.caller? : Notice → Option Nat
  | .passed id _ | .merged id _ _ | .returned id _ => some id
  | .handed _ _ | .replied _ _ | .published _ _ => none

/-- The notices about one caller. -/
def trail (log : List Notice) (id : Nat) : List Notice :=
  log.filter fun n => decide (n.caller? = some id)

theorem mem_trail {log : List Notice} {id : Nat} {n : Notice} :
    n ∈ trail log id ↔ n ∈ log ∧ n.caller? = some id := by
  unfold trail
  rw [List.mem_filter, decide_eq_true_eq]

theorem trail_append (log more : List Notice) (id : Nat) :
    trail (log ++ more) id = trail log id ++ trail more id :=
  List.filter_append ..

/-- A list of notices about one caller is its trail. -/
theorem trail_of_all {log : List Notice} {id : Nat} (h : ∀ n ∈ log, n.caller? = some id) :
    trail log id = log :=
  List.filter_eq_self.2 fun n hn => decide_eq_true (h n hn)

/-- Notices about others leave no trail. -/
theorem trail_of_none {log : List Notice} {id : Nat} (h : ∀ n ∈ log, n.caller? ≠ some id) :
    trail log id = [] :=
  List.filter_eq_nil_iff.2 fun n hn => by simpa using h n hn

/-! ## Windows -/

/-- The window that a notice of the flusher is about. -/
def Notice.flushed? : Notice → Option Nat
  | .handed cycle _ | .replied cycle _ | .published cycle _ => some cycle
  | .passed _ _ | .merged _ _ _ | .returned _ _ => none

/-- The caller and the delta that a notice adds to a window. -/
def Notice.mergedIn? (cycle : Nat) : Notice → Option (Nat × Delta)
  | .merged id c delta => if c = cycle then some (id, delta) else none
  | _ => none

/-- Who merged what into a window, in the order of the merging. -/
def merges (log : List Notice) (cycle : Nat) : List (Nat × Delta) :=
  log.filterMap (Notice.mergedIn? cycle)

/-- The deltas that were merged into a window. -/
def deltas (log : List Notice) (cycle : Nat) : List Delta := (merges log cycle).map Prod.snd

theorem mem_merges {log : List Notice} {cycle id : Nat} {delta : Delta} :
    (id, delta) ∈ merges log cycle ↔ .merged id cycle delta ∈ log := by
  unfold merges
  rw [List.mem_filterMap]
  constructor
  · rintro ⟨n, hn, h⟩
    cases n <;> simp only [Notice.mergedIn?, reduceCtorEq] at h
    case merged id' c delta' =>
      split at h
      · next hc =>
        simp only [Option.some.injEq, Prod.mk.injEq] at h
        rw [← h.1, ← h.2, ← hc]
        exact hn
      · exact absurd h (by simp)
  · intro h
    exact ⟨_, h, by simp [Notice.mergedIn?]⟩

theorem mem_deltas {log : List Notice} {cycle : Nat} {delta : Delta} :
    delta ∈ deltas log cycle ↔ ∃ id, .merged id cycle delta ∈ log := by
  unfold deltas
  rw [List.mem_map]
  constructor
  · rintro ⟨⟨id, d⟩, hmem, rfl⟩
    exact ⟨id, mem_merges.1 hmem⟩
  · rintro ⟨id, h⟩
    exact ⟨(id, delta), mem_merges.2 h, rfl⟩

/-- A window grows by what a notice merges into it. -/
theorem deltas_snoc (log : List Notice) (n : Notice) (cycle : Nat) :
    deltas (log ++ [n]) cycle =
      deltas log cycle ++ (n.mergedIn? cycle).toList.map Prod.snd := by
  unfold deltas merges
  rw [List.filterMap_append, List.map_append]
  cases h : n.mergedIn? cycle <;> simp [h]

theorem deltas_snoc_merged (log : List Notice) (id cycle : Nat) (delta : Delta) :
    deltas (log ++ [.merged id cycle delta]) cycle = deltas log cycle ++ [delta] := by
  rw [deltas_snoc]
  simp [Notice.mergedIn?]

/-- Merging into one window leaves the others. -/
theorem merges_snoc_of_ne {log : List Notice} {n : Notice} {cycle : Nat}
    (h : ∀ id delta, n ≠ .merged id cycle delta) : merges (log ++ [n]) cycle = merges log cycle := by
  have hnone : n.mergedIn? cycle = none := by
    cases n with
    | merged id c delta =>
      have hc : c ≠ cycle := fun hc => h id delta (by rw [hc])
      simp [Notice.mergedIn?, hc]
    | _ => rfl
  unfold merges
  rw [List.filterMap_append]
  simp [hnone]

theorem deltas_snoc_of_ne {log : List Notice} {n : Notice} {cycle : Nat}
    (h : ∀ id delta, n ≠ .merged id cycle delta) : deltas (log ++ [n]) cycle = deltas log cycle := by
  unfold deltas
  rw [merges_snoc_of_ne h]

/-! ## Coherence -/

/-- How a window ended with an outcome: with the reply of the sink to its
delta, or well, as there was nothing to flush. -/
def Ended (log : List Notice) (cycle : Nat) (outcome : Outcome) : Prop :=
  (∃ whole reply, .handed cycle whole ∈ log ∧ .replied cycle reply ∈ log ∧
    outcome = reply.outcome) ∨
  (outcome = .ok () ∧ ∀ d ∈ deltas log cycle, d.isEmpty = true)

/-- A window that ended stays ended if nothing is merged into it any more. -/
theorem Ended.append {log : List Notice} {cycle : Nat} {outcome : Outcome}
    (h : Ended log cycle outcome) (more : List Notice)
    (hd : deltas (log ++ more) cycle = deltas log cycle) : Ended (log ++ more) cycle outcome := by
  rcases h with ⟨whole, reply, h₁, h₂, ho⟩ | ⟨ho, hempty⟩
  · exact .inl ⟨whole, reply, List.mem_append_left _ h₁, List.mem_append_left _ h₂, ho⟩
  · exact .inr ⟨ho, by rw [hd]; exact hempty⟩

/-- Whether an error says that a total would leave its range. -/
def IsOverflow (e : StoreError) : Prop :=
  ∃ key total delta, e = .validation (.overflow key total delta)

/-- Why a notice may follow others. -/
def Justified (before : List Notice) : Notice → Prop
  | .passed id _ => trail before id = []
  | .merged id cycle _ =>
    trail before id = [.passed id cycle] ∧ ∀ n ∈ before, n.flushed? ≠ some cycle
  | .handed cycle whole =>
    whole.isEmpty = false ∧ whole.IsMergeOf (deltas before cycle) ∧
      ∀ n ∈ before, n.flushed? ≠ some cycle
  | .replied cycle _ =>
    (∃ whole, .handed cycle whole ∈ before) ∧ (∀ reply, .replied cycle reply ∉ before) ∧
      ∀ outcome, .published cycle outcome ∉ before
  | .published cycle outcome =>
    Ended before cycle outcome ∧ ∀ outcome', .published cycle outcome' ∉ before
  | .returned id outcome =>
    trail before id = [] ∧ outcome = .error .closed ∨
    (∃ cycle e, trail before id = [.passed id cycle] ∧ outcome = .error e ∧ IsOverflow e) ∨
    ∃ cycle merge, trail before id = .passed id cycle :: merge ∧
      (∀ n ∈ merge, ∃ delta, n = .merged id cycle delta) ∧ .published cycle outcome ∈ before

/-- A chronicle in which every notice is justified by those before it. -/
inductive Coherent : List Notice → Prop where
  | nil : Coherent []
  | snoc {log : List Notice} {n : Notice} (h : Coherent log) (hn : Justified log n) :
      Coherent (log ++ [n])

namespace Coherent

variable {log : List Notice}

/-- **Each notice of a coherent chronicle is justified.** -/
theorem split (h : Coherent log) {before after : List Notice} {n : Notice}
    (hlog : log = before ++ n :: after) : Justified before n := by
  induction h generalizing after with
  | nil => exact absurd hlog (by simp)
  | @snoc log' m _ hm ih =>
    -- Either the notice is the last one, or the last one is behind it.
    rcases List.eq_nil_or_concat after with rfl | ⟨after', x, rfl⟩
    · obtain ⟨h₁, h₂⟩ := List.append_inj' hlog rfl
      rw [← h₁, ← List.singleton_inj.1 h₂]
      exact hm
    · rw [List.concat_eq_append, ← List.cons_append, ← List.append_assoc] at hlog
      exact ih (List.append_inj' hlog rfl).1

/-- A part of a coherent chronicle up to some moment is coherent. -/
theorem front (h : Coherent log) {before after : List Notice} (hlog : log = before ++ after) :
    Coherent before := by
  induction h generalizing after with
  | nil =>
    have hb : before = [] := (List.append_eq_nil_iff.1 hlog.symm).1
    rw [hb]
    exact .nil
  | @snoc log' m h' hm ih =>
    rcases List.eq_nil_or_concat after with rfl | ⟨after', x, rfl⟩
    · rw [List.append_nil] at hlog
      rw [← hlog]
      exact .snoc h' hm
    · rw [List.concat_eq_append, ← List.append_assoc] at hlog
      exact ih (List.append_inj' hlog rfl).1

/-- What was handed over is not added to later. -/
theorem merges_snoc_of_flushed {n : Notice} (hn : Justified log n) {m : Notice} {cycle : Nat}
    (hm : m ∈ log) (hf : m.flushed? = some cycle) : merges (log ++ [n]) cycle = merges log cycle := by
  apply merges_snoc_of_ne
  rintro id delta rfl
  exact hn.2 m hm hf

theorem deltas_snoc_of_flushed {n : Notice} (hn : Justified log n) {m : Notice} {cycle : Nat}
    (hm : m ∈ log) (hf : m.flushed? = some cycle) : deltas (log ++ [n]) cycle = deltas log cycle := by
  unfold deltas
  rw [merges_snoc_of_flushed hn hm hf]

/-- **What was handed over is the merge of the whole window.** -/
theorem isMergeOf (h : Coherent log) {cycle : Nat} {whole : Delta}
    (hmem : .handed cycle whole ∈ log) : whole.IsMergeOf (deltas log cycle) := by
  -- By induction on what came later: none of it merged into the window.
  induction h with
  | nil => exact absurd hmem (by simp)
  | @snoc log n _ hn ih =>
    rcases List.mem_append.1 hmem with hmem | hmem
    · rw [deltas_snoc_of_flushed hn hmem rfl]
      exact ih hmem
    · rw [← List.mem_singleton.1 hmem] at hn ⊢
      rw [deltas_snoc_of_ne (by simp)]
      exact hn.2.1

/-- **A published outcome is the reply of the sink, or there was nothing
to flush.** -/
theorem ended (h : Coherent log) {cycle : Nat} {outcome : Outcome}
    (hmem : .published cycle outcome ∈ log) : Ended log cycle outcome := by
  induction h with
  | nil => exact absurd hmem (by simp)
  | @snoc log n _ hn ih =>
    rcases List.mem_append.1 hmem with hmem | hmem
    · exact (ih hmem).append _ (deltas_snoc_of_flushed hn hmem rfl)
    · rw [← List.mem_singleton.1 hmem] at hn ⊢
      exact hn.1.append _ (deltas_snoc_of_ne (by simp))

end Coherent

/-! ## Handing over -/

/-- The window and the delta that a notice hands over. -/
def Notice.handed? : Notice → Option (Nat × Delta)
  | .handed cycle whole => some (cycle, whole)
  | _ => none

/-- What was handed over, oldest first. -/
def handedIn (log : List Notice) : List (Nat × Delta) := log.filterMap Notice.handed?

theorem mem_handedIn {log : List Notice} {cycle : Nat} {whole : Delta} :
    (cycle, whole) ∈ handedIn log ↔ .handed cycle whole ∈ log := by
  unfold handedIn
  rw [List.mem_filterMap]
  constructor
  · rintro ⟨n, hn, h⟩
    cases n <;> simp only [Notice.handed?, reduceCtorEq] at h
    case handed c d =>
      simp only [Option.some.injEq, Prod.mk.injEq] at h
      rw [← h.1, ← h.2]
      exact hn
  · intro h
    exact ⟨_, h, rfl⟩

theorem handedIn_snoc (log : List Notice) (n : Notice) :
    handedIn (log ++ [n]) = handedIn log ++ n.handed?.toList := by
  unfold handedIn
  rw [List.filterMap_append]
  cases h : n.handed? <;> simp [h]

/-- **A window is handed over once at most.** -/
theorem Coherent.nodup_handed {log : List Notice} (h : Coherent log) :
    ((handedIn log).map Prod.fst).Nodup := by
  induction h with
  | nil => exact List.nodup_nil
  | @snoc log n _ hn ih =>
    rw [handedIn_snoc, List.map_append]
    cases n with
    | handed cycle whole =>
      show ((handedIn log).map Prod.fst ++ [cycle]).Nodup
      refine List.nodup_append.2 ⟨ih, by simp, ?_⟩
      intro c hc c' hc' heq
      obtain ⟨⟨c₁, d⟩, hmem, rfl⟩ := List.mem_map.1 hc
      have hcycle : c' = cycle := List.mem_singleton.1 hc'
      have hflushed := hn.2.2 _ (mem_handedIn.1 hmem)
      rw [← hcycle, ← heq] at hflushed
      exact hflushed rfl
    | _ =>
      show ((handedIn log).map Prod.fst ++ []).Nodup
      rw [List.append_nil]
      exact ih

end Meterbank.Window
