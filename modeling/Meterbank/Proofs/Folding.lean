/-
  Meterbank.Proofs.Folding — what updates fold to.

  Only finite gauges are accepted, so only finite gauges are folded.  A
  fold of any updates has something to apply, and a single update folds
  to a single entry.

  Main results:
    * `ofUpdates_finite` — what is folded is finite.
    * `ofUpdates_isEmpty` — and it is not nothing.
    * `ofUpdates_gauge`, `ofUpdates_counter` — single updates.
-/
import Meterbank.Metric.Batch
import Meterbank.Proofs.Merging

namespace Meterbank

/-! ## Finite gauges -/

namespace Delta

/-- Whether all gauges are finite. -/
def Finite (d : Delta) : Prop := ∀ k x, d.gauges.get? k = some x → x.isFinite = true

theorem Finite.rows {d : Delta} (h : d.Finite) : ∀ row ∈ d.gauges.toList, row.2.isFinite = true :=
  fun row hrow => h row.1 row.2 ((d.gauges.mem_toList_iff row.1 row.2).1 hrow)

/-- What is merged of finite deltas is finite. -/
theorem IsMergeOf.finite {whole : Delta} {ds : List Delta} (hm : whole.IsMergeOf ds)
    (h : ∀ d ∈ ds, d.Finite) : whole.Finite := by
  intro k x hx
  rw [hm.gauges] at hx
  obtain ⟨d, hd, hget⟩ := List.exists_of_findSome?_eq_some hx
  exact h d (List.mem_reverse.1 hd) k x hget

end Delta

/-- Whether an update may be stored. -/
def Update.Finite (u : Update) : Prop := ∀ x, u.sample = .gauge x → x.isFinite = true

theorem Metric.finite_of_validate {m : Metric} {u : Update} (h : m.validate = .ok u) :
    u.Finite := by
  intro x hx
  unfold Metric.validate at h
  split at h
  · exact absurd h (by simp)
  · split at h
    · exact absurd h (by simp)
    · split at h
      · exact absurd h (by simp)
      · next y _ =>
        cases hy : checkGauge y with
        | error e =>
          rw [hy] at h
          exact absurd h (by simp [Except.map])
        | ok z =>
          rw [hy] at h
          rw [← Except.ok.inj h] at hx
          obtain ⟨hfinite, hz⟩ := (checkGauge_eq_ok_iff y z).1 hy
          rw [← Sample.gauge.inj hx, hz]
          exact hfinite
    · split at h
      · exact absurd h (by simp)
      · rw [← Except.ok.inj h] at hx
        exact absurd hx (by simp)

/-- What holds of the update of every accepted metric holds of the updates of an accepted batch. -/
theorem Batch.forall_of_validateFrom {P : Update → Prop}
    (hP : ∀ {m : Metric} {u : Update}, m.validate = .ok u → P u) {index : Nat} {ms : List Metric}
    {us : List Update} (h : validateFrom index ms = .ok us) : ∀ u ∈ us, P u := by
  induction ms generalizing index us with
  | nil =>
    rw [← Except.ok.inj h]
    exact fun u hu => absurd hu (by simp)
  | cons m ms ih =>
    obtain ⟨u, rest, hu, hrest, rfl⟩ := (validate_cons index m ms us).1 h
    rw [List.forall_mem_cons]
    exact ⟨hP hu, ih hrest⟩

theorem Batch.finite_of_validateFrom {index : Nat} {ms : List Metric} {us : List Update}
    (h : validateFrom index ms = .ok us) : ∀ u ∈ us, u.Finite :=
  forall_of_validateFrom Metric.finite_of_validate h

theorem Delta.applyAll_finite {us : List Update} {d d' : Delta} (hd : d.Finite)
    (hu : ∀ u ∈ us, u.Finite) (h : d.applyAll us = .ok d') : d'.Finite := by
  induction us generalizing d with
  | nil =>
    rw [← Except.ok.inj h]
    exact hd
  | cons u us ih =>
    rw [List.forall_mem_cons] at hu
    obtain ⟨e, he, hrest⟩ := (ofUpdates_cons d d' u us).1 h
    refine ih ?_ hu.2 hrest
    -- One update sets one gauge, and to a finite value.
    intro k x hx
    unfold apply at he
    cases hs : u.sample with
    | gauge y =>
      rw [hs] at he
      rw [← Except.ok.inj he, Table.get?_set] at hx
      split at hx
      · rw [← Option.some.inj hx]
        exact hu.1 y hs
      · exact hd k x hx
    | counter delta =>
      rw [hs] at he
      simp only at he
      split at he
      · rw [← Except.ok.inj he] at hx
        exact hd k x hx
      · exact absurd he (by simp)

theorem Delta.ofUpdates_finite {us : List Update} {d : Delta} (hu : ∀ u ∈ us, u.Finite)
    (h : Delta.ofUpdates us = .ok d) : d.Finite :=
  Delta.applyAll_finite (fun k x hx => absurd hx (by simp [Delta.empty])) hu h

/-! ## Something to apply -/

namespace Delta

/-- Folding an update leaves something to apply. -/
theorem apply_isEmpty {d d' : Delta} {u : Update} (h : d.apply u = .ok d') :
    d'.isEmpty = false := by
  rw [Bool.eq_false_iff]
  intro hempty
  have hnone := (isEmpty_iff d').1 hempty u.id
  unfold apply at h
  cases hs : u.sample with
  | gauge x =>
    rw [hs] at h
    rw [← Except.ok.inj h] at hnone
    exact absurd hnone.1 (by simp [Table.get?_set])
  | counter delta =>
    rw [hs] at h
    simp only at h
    split at h
    · next n counters hadd =>
      rw [← Except.ok.inj h, ((Table.add_ok_iff _ _ _ _ _).1 hadd).2] at hnone
      exact absurd hnone.2 (by simp [Table.count?, Table.get?_set])
    · exact absurd h (by simp)

/-- Any updates fold to something. -/
theorem ofUpdates_isEmpty {us : List Update} {d : Delta} (h : ofUpdates us = .ok d)
    (hus : us ≠ []) : d.isEmpty = false := by
  unfold ofUpdates at h
  generalize empty = start at h
  induction us generalizing start with
  | nil => exact absurd rfl hus
  | cons u us ih =>
    obtain ⟨e, he, hrest⟩ := (ofUpdates_cons start d u us).1 h
    -- The last update leaves something, whatever was folded before it.
    cases us with
    | nil =>
      rw [← Except.ok.inj hrest]
      exact apply_isEmpty he
    | cons u' us' => exact ih (by simp) e hrest

/-! ## Single updates -/

theorem ofUpdates_gauge (id : String) (x : Binary64) :
    ofUpdates [⟨id, .gauge x⟩] = .ok ⟨(∅ : Table Binary64).set id x, ∅⟩ := rfl

theorem ofUpdates_counter (id : String) (delta : Int64) :
    ofUpdates [⟨id, .counter delta⟩] = .ok ⟨∅, (∅ : Table Int64).set id delta⟩ := by
  have hadd : (∅ : Table Int64).add id delta = .ok (delta, (∅ : Table Int64).set id delta) :=
    (Table.add_ok_iff _ _ _ _ _).2 ⟨by simp [Table.total], rfl⟩
  simp only [ofUpdates, applyAll, apply, empty, hadd]

end Delta

end Meterbank
