/-
  Meterbank.Metric.Batch — many metrics written as one.

  A batch is accepted only if each of its entries is; the refusal names
  the first entry that is not.  The order of the entries is kept.

  Main results:
    * `validate_cons` — a batch is accepted entry by entry, from the left.
    * `length_validate` — an accepted batch has one update per entry.
-/
import Meterbank.Metric.Basic

namespace Meterbank

/-- An ordered list of metrics. -/
structure Batch where
  metrics : List Metric
  deriving DecidableEq, Inhabited, Repr

namespace Batch

/-- The refusal of an entry, with the place of the entry. -/
def atEntry (index : Nat) : StoreError → StoreError
  | .validation cause => .validation (.entry index cause)
  | e => e

/-- Accepts metrics from the left, counting entries from `index`. -/
def validateFrom (index : Nat) : List Metric → Except StoreError (List Update)
  | [] => .ok []
  | m :: ms =>
    match m.validate with
    | .error e => .error (atEntry index e)
    | .ok u =>
      match validateFrom (index + 1) ms with
      | .error e => .error e
      | .ok us => .ok (u :: us)

/-- The updates a batch asks for. -/
def validate (b : Batch) : Except StoreError (List Update) :=
  validateFrom 0 b.metrics

/-- **Entries are accepted one by one, and the first refusal counts.** -/
theorem validate_cons (index : Nat) (m : Metric) (ms : List Metric) (us : List Update) :
    validateFrom index (m :: ms) = .ok us ↔
      ∃ u rest, m.validate = .ok u ∧ validateFrom (index + 1) ms = .ok rest ∧ us = u :: rest := by
  rw [validateFrom]
  constructor
  · intro h
    split at h
    · exact absurd h (by simp)
    · next u hu =>
      split at h
      · exact absurd h (by simp)
      · next rest hr =>
        simp only [Except.ok.injEq] at h
        exact ⟨u, rest, hu, hr, h.symm⟩
  · rintro ⟨u, rest, hu, hr, rfl⟩
    simp [hu, hr]

/-- An accepted batch has one update per entry. -/
theorem length_validate (index : Nat) (ms : List Metric) (us : List Update)
    (h : validateFrom index ms = .ok us) : us.length = ms.length := by
  induction ms generalizing index us with
  | nil =>
    simp only [validateFrom, Except.ok.injEq] at h
    rw [← h]; rfl
  | cons m ms ih =>
    obtain ⟨u, rest, _, hr, rfl⟩ := (validate_cons index m ms us).1 h
    simp [ih (index + 1) rest hr]

end Batch

end Meterbank
