/-
  Meterbank.Proofs.Updates — what updates come to, name by name.

  Of a list of updates a gauge gets the last value that is written to it,
  and a counter the integer sum of what is added to it.  Nothing is said
  of a name that no update of its kind bears.

  Main results:
    * `add_counts` — adding to a table adds the delta to one counter.
    * `ofUpdates_added`, `ofUpdates_lastSet` — what updates fold to.
    * `sumCounter?_map`, `lastGauge?_map` — what many lists fold to.
-/
import Meterbank.Proofs.Merging

namespace Meterbank

open Meterbank.Table (joined joined_none none_joined joined_assoc joined_some)

/-! ## One name -/

namespace Update

/-- What an update adds to a counter, if it is one of this counter. -/
def adds? (u : Update) (k : String) : Option Int :=
  match u.sample with
  | .gauge _ => none
  | .counter delta => if u.id = k then some delta.toInt else none

/-- The value that an update gives a gauge, if it is one of this gauge. -/
def sets? (u : Update) (k : String) : Option Binary64 :=
  match u.sample with
  | .gauge x => if u.id = k then some x else none
  | .counter _ => none

/-- The integer sum of what updates add to a counter, if one of them does. -/
def added? (us : List Update) (k : String) : Option Int :=
  us.foldr (fun u sum => joined (u.adds? k) sum) none

/-- The value that the last of the updates gives a gauge, if one does. -/
def lastSet? (us : List Update) (k : String) : Option Binary64 :=
  us.reverse.findSome? fun u => u.sets? k

@[simp] theorem added?_cons (u : Update) (us : List Update) (k : String) :
    added? (u :: us) k = joined (u.adds? k) (added? us k) := rfl

theorem added?_single (u : Update) (k : String) : added? [u] k = u.adds? k := joined_none _

theorem added?_append (us vs : List Update) (k : String) :
    added? (us ++ vs) k = joined (added? us k) (added? vs k) := by
  induction us with
  | nil => exact (none_joined _).symm
  | cons u us ih => rw [List.cons_append, added?_cons, added?_cons, ih, joined_assoc]

theorem lastSet?_append (us vs : List Update) (k : String) :
    lastSet? (us ++ vs) k = (lastSet? vs k).or (lastSet? us k) := by
  unfold lastSet?
  rw [List.reverse_append, List.findSome?_append]

theorem lastSet?_cons (u : Update) (us : List Update) (k : String) :
    lastSet? (u :: us) k = (lastSet? us k).or (u.sets? k) := by
  unfold lastSet?
  rw [List.reverse_cons, List.findSome?_append, List.findSome?_singleton]

end Update

/-! ## Adding to a table -/

namespace Table

theorem count?_set (t : Table Int64) (key k : String) (n : Int64) :
    (t.set key n).count? k = if key = k then some n.toInt else t.count? k := by
  unfold count?
  rw [get?_set]
  split <;> rfl

/-- **Adding to a table adds the delta to one counter**, whose total it
gives. -/
theorem add_counts {t t' : Table Int64} {key : String} {delta total : Int64}
    (h : t.add key delta = .ok (total, t')) :
    t'.count? key = some total.toInt ∧
      ∀ k, t'.count? k = joined (t.count? k) (if key = k then some delta.toInt else none) := by
  obtain ⟨htotal, rfl⟩ := (add_ok_iff _ _ _ _ _).1 h
  refine ⟨by rw [count?_set, if_pos rfl], fun k => ?_⟩
  rw [count?_set]
  by_cases hk : key = k
  · subst hk
    rw [if_pos rfl, if_pos rfl, joined_some, ← toInt_total, htotal]
  · rw [if_neg hk, if_neg hk, joined_none]

end Table

/-! ## Folding -/

namespace Delta

/-- One more update is folded into the counter that it is one of. -/
theorem apply_counts {d d' : Delta} {u : Update} (h : d.apply u = .ok d') (k : String) :
    d'.counters.count? k = joined (d.counters.count? k) (u.adds? k) := by
  unfold apply at h
  unfold Update.adds?
  cases hs : u.sample with
  | gauge x =>
    rw [hs] at h
    rw [← Except.ok.inj h]
    exact (joined_none _).symm
  | counter delta =>
    rw [hs] at h
    simp only at h
    split at h
    · next total counters hadd =>
      rw [← Except.ok.inj h]
      exact (Table.add_counts hadd).2 k
    · exact absurd h (by simp)

/-- One more update is folded into the gauge that it is one of. -/
theorem apply_gauges {d d' : Delta} {u : Update} (h : d.apply u = .ok d') (k : String) :
    d'.gauges.get? k = (u.sets? k).or (d.gauges.get? k) := by
  unfold apply at h
  unfold Update.sets?
  cases hs : u.sample with
  | gauge x =>
    rw [hs] at h
    rw [← Except.ok.inj h]
    simp only [Table.get?_set]
    split <;> rfl
  | counter delta =>
    rw [hs] at h
    simp only at h
    split at h
    · rw [← Except.ok.inj h]
      rfl
    · exact absurd h (by simp)

theorem applyAll_counts {us : List Update} {d d' : Delta} (h : d.applyAll us = .ok d')
    (k : String) : d'.counters.count? k = joined (d.counters.count? k) (Update.added? us k) := by
  induction us generalizing d with
  | nil =>
    rw [← Except.ok.inj h]
    exact (joined_none _).symm
  | cons u us ih =>
    obtain ⟨e, he, hrest⟩ := (ofUpdates_cons d d' u us).1 h
    rw [ih hrest, apply_counts he, Update.added?_cons, joined_assoc]

theorem applyAll_sets {us : List Update} {d d' : Delta} (h : d.applyAll us = .ok d')
    (k : String) : d'.gauges.get? k = (Update.lastSet? us k).or (d.gauges.get? k) := by
  induction us generalizing d with
  | nil =>
    rw [← Except.ok.inj h]
    rfl
  | cons u us ih =>
    obtain ⟨e, he, hrest⟩ := (ofUpdates_cons d d' u us).1 h
    rw [ih hrest, apply_gauges he, Update.lastSet?_cons, Option.or_assoc]

/-- **A folded counter is the exact sum of its updates.** -/
theorem ofUpdates_added {us : List Update} {d : Delta} (h : ofUpdates us = .ok d) (k : String) :
    d.counters.count? k = Update.added? us k := by
  have hsum := applyAll_counts h k
  rwa [show empty.counters = ∅ from rfl, Table.count?_empty, none_joined] at hsum

/-- **A folded gauge has the last value of its updates.** -/
theorem ofUpdates_lastSet {us : List Update} {d : Delta} (h : ofUpdates us = .ok d) (k : String) :
    d.gauges.get? k = Update.lastSet? us k := by
  have hlast := applyAll_sets h k
  rwa [show empty.gauges = ∅ from rfl, Table.get?_empty, Option.or_none] at hlast

/-! ## Folding many lists -/

section

variable {α : Type} {us : α → List Update} {d : α → Delta} {l : List α}

/-- The sum of folded counters is that of all updates. -/
theorem sumCounter?_map (h : ∀ x ∈ l, ofUpdates (us x) = .ok (d x)) (k : String) :
    sumCounter? (l.map d) k = Update.added? (l.flatMap us) k := by
  induction l with
  | nil => rfl
  | cons x l ih =>
    rw [List.forall_mem_cons] at h
    rw [List.map_cons, sumCounter?_cons, List.flatMap_cons, Update.added?_append, ih h.2,
      ofUpdates_added h.1]

/-- The last of folded gauges is that of all updates. -/
theorem lastGauge?_map (h : ∀ x ∈ l, ofUpdates (us x) = .ok (d x)) (k : String) :
    lastGauge? (l.map d) k = Update.lastSet? (l.flatMap us) k := by
  induction l with
  | nil => rfl
  | cons x l ih =>
    rw [List.forall_mem_cons] at h
    rw [List.map_cons, ← List.singleton_append, lastGauge?_append, lastGauge?_singleton,
      List.flatMap_cons, Update.lastSet?_append, ih h.2, ofUpdates_lastSet h.1]

end

end Delta

end Meterbank
