/-
  Meterbank.Proofs.Store.Reordering — batches in another order.

  Every store folds a batch before it writes anything, and then writes
  what the batch comes to.  So two orders of the same entries do the same
  to any store in any state if both are folded, and nothing at all if both
  are refused.  Where the order of the updates is not free, one order is
  written and another one is refused.

  Main results:
    * `Batch.Reordered.updates` — the updates of reordered entries.
    * `Store.WritesFold.alike` — stores that write what a batch folds to.
    * `order_matters_iff` — when the order of a batch matters.
    * `gain_first_refused` — it does matter near the limits.
-/
import Mathlib.Data.List.Perm.Basic
import Meterbank.Proofs.Metric.Accepting
import Meterbank.Proofs.Refusals
import Meterbank.Proofs.Reordering
import Meterbank.Store.Coalesced

namespace Meterbank

open Meterbank.Number
open Meterbank.Update (Foldable OrderFree deltas)

/-! ## Entries and their updates -/

/-- The value that a metric gives a gauge, if it is accepted as one of this
gauge. -/
def Metric.sets? (m : Metric) (k : String) : Option Binary64 :=
  match m.validate with
  | .ok u => u.sets? k
  | .error _ => none

namespace Batch

/-- The same entries in another order, in which those of one gauge keep
theirs. -/
structure Reordered (b b' : Batch) : Prop where
  perm : b.metrics.Perm b'.metrics
  values : ∀ k, b.metrics.filterMap (fun m => m.sets? k) = b'.metrics.filterMap fun m => m.sets? k

variable {b b' : Batch} {us vs : List Update}

theorem Reordered.symm (h : b.Reordered b') : b'.Reordered b :=
  ⟨h.perm.symm, fun k => (h.values k).symm⟩

/-- The values of a gauge are those that the entries give it. -/
theorem values_of_validate (h : b.validate = .ok us) (k : String) :
    Update.values us k = b.metrics.filterMap fun m => m.sets? k := by
  have hall := validate_iff.1 h
  clear h
  generalize b.metrics = entries at hall ⊢
  induction hall with
  | nil => rfl
  | @cons m u ms us hm _ ih =>
    have hsets : m.sets? k = u.sets? k := by rw [Metric.sets?, hm]
    unfold Update.values at ih ⊢
    rw [List.filterMap_cons, List.filterMap_cons, ih, hsets]

/-- **Reordered entries have reordered updates.** -/
theorem Reordered.updates (h : b.Reordered b') (hb : b.validate = .ok us) :
    ∃ vs, b'.validate = .ok vs ∧ Update.Reordered us vs := by
  obtain ⟨vs, hvs, hperm⟩ := List.perm_comp_forall₂ h.perm.symm (validate_iff.1 hb)
  have hb' : b'.validate = .ok vs := validate_iff.2 hvs
  refine ⟨vs, hb', hperm.symm, fun k => ?_⟩
  rw [values_of_validate hb, values_of_validate hb', h.values]

/-- Reordered updates are those of reordered entries. -/
theorem exists_reordered (hb : b.validate = .ok us) (h : Update.Reordered us vs) :
    ∃ b', b.Reordered b' ∧ b'.validate = .ok vs := by
  obtain ⟨ms, hforall, hperm⟩ := List.perm_comp_forall₂ h.perm.symm (validate_iff.1 hb).flip
  have hvs : (⟨ms⟩ : Batch).validate = .ok vs := validate_iff.2 hforall.flip
  refine ⟨⟨ms⟩, ⟨hperm.symm, fun k => ?_⟩, hvs⟩
  rw [← values_of_validate hb, ← values_of_validate hvs, h.values]

end Batch

/-! ## Writing what a batch folds to -/

namespace Store

variable {σ : Type}

/-- Whether a batch is refused as invalid, and changes nothing. -/
def Refuses (S : Store σ) (b : Batch) (s : σ) : Prop :=
  ∃ e, S.writeBatch b s = (.error e, s) ∧ e.IsInvalid

/-- Whether two batches have the same answer and leave the same state, or
are both refused. -/
def WritesAlike (S : Store σ) (b b' : Batch) (s : σ) : Prop :=
  S.writeBatch b s = S.writeBatch b' s ∨ (S.Refuses b s ∧ S.Refuses b' s)

/-- Whether a store writes what batches fold to, and nothing else. -/
structure WritesFold (S : Store σ) : Prop where
  refused : ∀ {b e} (s), b.validate = .error e → S.writeBatch b s = (.error e, s)
  unfolded : ∀ {b us e} (s), b.validate = .ok us → Delta.ofUpdates us = .error e →
    S.writeBatch b s = (.error e, s)
  folded : ∀ {b b' us vs d} (s), b.validate = .ok us → b'.validate = .ok vs →
    (us = [] ↔ vs = []) → Delta.ofUpdates us = .ok d → Delta.ofUpdates vs = .ok d →
    S.writeBatch b s = S.writeBatch b' s

namespace WritesFold

variable {S : Store σ} {b b' : Batch} {us : List Update} {e : StoreError}

/-- A batch that is not accepted is accepted in no order. -/
theorem refused_alike (hS : S.WritesFold) (h : b.Reordered b') (hb : b.validate = .error e)
    (s : σ) : S.WritesAlike b b' s := by
  cases hb' : b'.validate with
  | error e' =>
    exact .inr ⟨⟨e, hS.refused s hb, Batch.validate_error hb⟩,
      ⟨e', hS.refused s hb', Batch.validate_error hb'⟩⟩
  | ok vs =>
    obtain ⟨us, hus, -⟩ := h.symm.updates hb'
    rw [hb] at hus
    exact absurd hus (by simp)

/-- **A batch whose order is free is written alike in every order.** -/
theorem alike (hS : S.WritesFold) (h : b.Reordered b') (hb : b.validate = .ok us)
    (hfree : OrderFree us) (s : σ) : S.WritesAlike b b' s := by
  obtain ⟨vs, hb', hreordered⟩ := h.updates hb
  have hagree := (Update.orderFree_iff us).1 hfree vs hreordered
  cases hus : Delta.ofUpdates us with
  | ok d =>
    obtain ⟨d', hvs⟩ := hagree.1 ⟨d, hus⟩
    obtain rfl : d = d' := hreordered.fold_eq hus hvs
    have hempty : us = [] ↔ vs = [] := by
      rw [← List.length_eq_zero_iff, ← List.length_eq_zero_iff, hreordered.perm.length_eq]
    exact .inl (hS.folded s hb hb' hempty hus hvs)
  | error e =>
    cases hvs : Delta.ofUpdates vs with
    | ok d =>
      obtain ⟨d', hd'⟩ := hagree.2 ⟨d, hvs⟩
      rw [hus] at hd'
      exact absurd hd' (by simp)
    | error e' =>
      exact .inr ⟨⟨e, hS.unfolded s hb hus, Delta.ofUpdates_error hus⟩,
        ⟨e', hS.unfolded s hb' hvs, Delta.ofUpdates_error hvs⟩⟩

end WritesFold

end Store

theorem FileStore.writesFold : FileStore.operations.WritesFold where
  refused s hb := by simp [operations, writeBatch, hb]
  unfolded s hb hus := by simp [operations, writeBatch, applyAll, hb, hus]
  folded s hb hb' _ hus hvs := by simp [operations, writeBatch, applyAll, hb, hb', hus, hvs]

theorem SqlStore.writesFold : SqlStore.operations.WritesFold where
  refused s hb := by simp [operations, writeBatch, hb]
  unfolded s hb hus := by simp [operations, writeBatch, hb, hus]
  folded s hb hb' _ hus hvs := by simp [operations, writeBatch, hb, hb', hus, hvs]

theorem CoalescedStore.writesFold : CoalescedStore.operations.WritesFold where
  refused s hb := by simp [operations, writeBatch, hb]
  unfolded {b us e} s hb hus := by
    -- No updates at all are folded, so there is something to submit.
    have hne : us.isEmpty = false := by
      cases us with
      | nil => exact absurd hus (by simp [Delta.ofUpdates, Delta.applyAll])
      | cons u us => rfl
    simp [operations, writeBatch, submit, hb, hus, hne]
  folded {b b' us vs d} s hb hb' hempty hus hvs := by
    have hsame : us.isEmpty = vs.isEmpty := by
      rw [Bool.eq_iff_iff, List.isEmpty_iff, List.isEmpty_iff, hempty]
    simp [operations, writeBatch, submit, hb, hb', hus, hvs, hsame]

/-! ## All stores -/

/-- Whether every store in every state writes two batches alike. -/
structure Batch.WrittenAlike (b b' : Batch) : Prop where
  file : ∀ p, FileStore.operations.WritesAlike b b' p
  sql : ∀ s, SqlStore.operations.WritesAlike b b' s
  coalesced : ∀ s, CoalescedStore.operations.WritesAlike b b' s

/-- A new store accepts a batch exactly if it is folded. -/
theorem FileStore.writeBatch_create (path : String) (sync : Bool) (fs : Files) {b : Batch}
    {us : List Update} (hb : b.validate = .ok us) :
    (FileStore.operations.writeBatch b (create path sync, fs)).1.isOk = true ↔ Foldable us := by
  show (writeBatch b (create path sync, fs)).1.isOk = true ↔ _
  unfold writeBatch applyAll applyDelta Update.Foldable
  simp only [hb]
  cases hus : Delta.ofUpdates us with
  | error e => simp [Except.isOk, Except.toBool]
  | ok d =>
    -- Nothing is stored yet, so no total can leave the range.
    have hadd : (create path sync).counters.addAll d.counters = .ok d.counters := by
      rw [Table.addAll_eq_ok_iff]
      intro k
      rw [show (create path sync).counters = ∅ from rfl, Table.count?_empty, Table.none_joined]
    simp [hadd, Except.isOk, Except.toBool]

/-- Batches that are written alike are both folded, or neither is. -/
theorem Batch.WrittenAlike.foldable_iff {b b' : Batch} {us vs : List Update}
    (h : b.WrittenAlike b') (hb : b.validate = .ok us) (hb' : b'.validate = .ok vs) :
    Foldable us ↔ Foldable vs := by
  rw [← FileStore.writeBatch_create "" false .empty hb,
    ← FileStore.writeBatch_create "" false .empty hb']
  rcases h.file (FileStore.create "" false, .empty) with heq | ⟨⟨e, he, -⟩, ⟨e', he', -⟩⟩
  · rw [heq]
  · rw [he, he']
    simp [Except.isOk, Except.toBool]

/-- **When the order of updates matters.**  Orders that are folded fold to
one delta.  All orders are folded, or all are refused, exactly if the order
is free, and exactly then every store writes the batches alike.  A batch
that is not accepted is written alike in every order, too. -/
theorem order_matters_iff (us : List Update) (b : Batch) :
    (∀ vs d e, Update.Reordered us vs → Delta.ofUpdates us = .ok d →
      Delta.ofUpdates vs = .ok e → d = e) ∧
    (OrderFree us ↔ ∀ vs, Update.Reordered us vs → (Foldable us ↔ Foldable vs)) ∧
    (b.validate = .ok us → (OrderFree us ↔ ∀ b', b.Reordered b' → b.WrittenAlike b')) ∧
    ∀ e, b.validate = .error e → ∀ b', b.Reordered b' → b.WrittenAlike b' := by
  refine ⟨fun vs d e h hd he => h.fold_eq hd he, Update.orderFree_iff us, ?_, ?_⟩
  · intro hb
    constructor
    · intro hfree b' h
      exact ⟨FileStore.writesFold.alike h hb hfree, SqlStore.writesFold.alike h hb hfree,
        CoalescedStore.writesFold.alike h hb hfree⟩
    · intro hall
      rw [Update.orderFree_iff]
      intro vs hvs
      obtain ⟨b', hreordered, hb'⟩ := Batch.exists_reordered hb hvs
      exact (hall b' hreordered).foldable_iff hb hb'
  · intro e hb b' h
    exact ⟨FileStore.writesFold.refused_alike h hb, SqlStore.writesFold.refused_alike h hb,
      CoalescedStore.writesFold.refused_alike h hb⟩

/-! ## Near the limits -/

/-- A counter that is brought back before it gets its largest total. -/
def lossFirst : List Update :=
  [⟨"c", .counter 1⟩, ⟨"c", .counter (-1)⟩, ⟨"c", .counter Int64.maxValue⟩]

/-- The same updates, from the largest total on. -/
def gainFirst : List Update :=
  [⟨"c", .counter Int64.maxValue⟩, ⟨"c", .counter 1⟩, ⟨"c", .counter (-1)⟩]

/-- **Accepted in one order, refused in another**: the same updates of one
counter, each of them valid, and the sum of all in the range. -/
theorem gain_first_refused :
    (∀ u ∈ gainFirst, u.toMetric.validate = .ok u) ∧ Update.Reordered lossFirst gainFirst ∧
      Foldable lossFirst ∧ ¬ Foldable gainFirst := by
  have hother : ∀ k, "c" ≠ k → deltas lossFirst k = [] := fun k hk => by
    simp [lossFirst, deltas, Update.adds?, hk]
  refine ⟨by decide, ⟨by decide, fun k => rfl⟩, ?_, ?_⟩
  · rw [Update.foldable_iff]
    intro k
    by_cases hk : "c" = k
    · subst hk
      show StaysInRange 0 [1, -1, Int64.maxValue.toInt]
      iterate 3 rw [StaysInRange.cons_iff (by decide)]
      exact StaysInRange.nil_iff.2 (by decide)
    · rw [hother k hk]
      exact StaysInRange.nil_iff.2 (by decide)
  · rw [Update.foldable_iff]
    intro hall
    have hover := hall "c" [Int64.maxValue.toInt, 1] ⟨[-1], rfl⟩
    exact absurd hover (by decide)

end Meterbank
