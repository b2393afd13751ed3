/-
  Meterbank.Proofs.Refusals — what a check refuses, it refuses as invalid.

  Metrics, texts, values that are not finite and sums out of range are
  all refused before anything is written, and always with a validation
  error.  So a caller can tell a refusal from a fault of disk or database.

  Main results:
    * `Metric.validate_error`, `Batch.validate_error` — what is written.
    * `Delta.ofUpdates_error` — what it folds to.
    * `SqlStore.checkGauges_error`, `FileStore.applyAll_error` — what is
      applied.
-/
import Meterbank.Proofs.Contents
import Meterbank.Proofs.Metric.Accepting
import Meterbank.Store.File
import Meterbank.Store.Sql

namespace Meterbank

/-- Whether an error is the refusal of what was asked for. -/
def StoreError.IsInvalid (e : StoreError) : Prop := ∃ cause, e = .validation cause

/-! ## Numbers -/

theorem checkGauge_error {x : Binary64} {e : StoreError} (h : checkGauge x = .error e) :
    e = .validation (.notFinite x) ∧ x.isFinite = false := by
  unfold checkGauge at h
  split at h
  · exact absurd h (by simp)
  · next hx => exact ⟨(Except.error.inj h).symm, Bool.eq_false_iff.2 hx⟩

theorem checkedTotal_error {id : String} {total delta : Int64} {e : StoreError}
    (h : checkedTotal id total delta = .error e) : e = .validation (.overflow id total delta) :=
  ((checkedTotal_eq_error_iff ..).1 h).2

theorem parseGauge_error {raw : String} {e : StoreError} (h : parseGauge raw = .error e) :
    e.IsInvalid := by
  unfold parseGauge at h
  simp only at h
  split at h
  · exact ⟨_, (checkGauge_error h).1⟩
  · exact ⟨_, (Except.error.inj h).symm⟩

theorem parseCounter_error {raw : String} {e : StoreError} (h : parseCounter raw = .error e) :
    e.IsInvalid := by
  unfold parseCounter at h
  simp only at h
  split at h
  · exact absurd h (by simp)
  · exact ⟨_, (Except.error.inj h).symm⟩

/-! ## Metrics and batches -/

/-- **A metric is refused as invalid.** -/
theorem Metric.validate_error {m : Metric} {e : StoreError} (h : m.validate = .error e) :
    e.IsInvalid := by
  obtain ⟨cause, -, rfl⟩ := (m.validate_eq_error_iff e).1 h
  exact ⟨cause, rfl⟩

theorem Batch.validateFrom_error {index : Nat} {ms : List Metric} {e : StoreError}
    (h : validateFrom index ms = .error e) : e.IsInvalid := by
  obtain ⟨i, cause, -, rfl⟩ := (validateFrom_eq_error_iff index ms e).1 h
  exact ⟨_, rfl⟩

/-- **A batch is refused as invalid.** -/
theorem Batch.validate_error {b : Batch} {e : StoreError} (h : b.validate = .error e) :
    e.IsInvalid :=
  validateFrom_error h

/-! ## Folds -/

namespace Delta

theorem apply_error {d : Delta} {u : Update} {e : StoreError} (h : d.apply u = .error e) :
    e.IsInvalid := by
  obtain ⟨delta, -, -, rfl⟩ := (d.apply_eq_error_iff u e).1 h
  exact ⟨_, rfl⟩

theorem applyAll_error {d : Delta} {us : List Update} {e : StoreError}
    (h : d.applyAll us = .error e) : e.IsInvalid := by
  induction us generalizing d with
  | nil => exact absurd h (by simp [applyAll])
  | cons u us ih =>
    rw [applyAll] at h
    split at h
    · exact ih h
    · next e' hu =>
      obtain rfl : e' = e := Except.error.inj h
      exact apply_error hu

/-- **A fold is refused as invalid.** -/
theorem ofUpdates_error {us : List Update} {e : StoreError} (h : ofUpdates us = .error e) :
    e.IsInvalid :=
  applyAll_error h

end Delta

/-! ## What is applied -/

/-- Updates are refused as invalid by tables in memory. -/
theorem FileStore.applyAll_error {s : FileStore} {us : List Update} {e : StoreError}
    (h : s.applyAll us = .error e) : e.IsInvalid := by
  unfold applyAll at h
  split at h
  · unfold applyDelta at h
    split at h
    · exact absurd h (by simp)
    · next e' hadd =>
      obtain rfl : e' = e := Except.error.inj h
      obtain ⟨key, total, delta, he⟩ := Table.addAll_error hadd
      exact ⟨_, he⟩
  · next e' hfold =>
    obtain rfl : e' = e := Except.error.inj h
    exact Delta.ofUpdates_error hfold

/-- Only values that are not finite are refused, and as invalid. -/
theorem SqlStore.checkGauges_error {rows : List (String × Binary64)} {e : StoreError}
    (h : checkGauges rows = .error e) :
    ∃ row ∈ rows, row.2.isFinite = false ∧ e = .validation (.notFinite row.2) := by
  induction rows with
  | nil => exact absurd h (by simp [checkGauges])
  | cons row rows ih =>
    rw [checkGauges] at h
    split at h
    · next e' hx =>
      obtain rfl : e' = e := Except.error.inj h
      obtain ⟨he, hfinite⟩ := checkGauge_error hx
      exact ⟨row, List.mem_cons_self, hfinite, he⟩
    · obtain ⟨row', hmem, hrow⟩ := ih h
      exact ⟨row', List.mem_cons_of_mem _ hmem, hrow⟩

end Meterbank
