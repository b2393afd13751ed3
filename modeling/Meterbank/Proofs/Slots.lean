/-
  Meterbank.Proofs.Slots — a fold is exact.

  Whatever update is folded in place, a refusal leaves the delta as it was,
  without so much as a counter that stands at zero.  So what has been
  folded at the end, over any number of refusals, is what the accepted
  updates come to: each counter that one of them names has the integer sum
  of its deltas, zero or not, each gauge its last value, and there is
  nothing else.

  Main results:
    * `keepsRefused` — what an update in place is answered, and leaves.
    * `size_of_ofUpdates` — one entry for each name of a kind.
    * `fold_is_exact` — both, and what the updates come to.
-/
import Mathlib.Data.List.Dedup
import Meterbank.Proofs.Reordering
import Meterbank.Slots

namespace Meterbank

open Meterbank.Number
open Meterbank.Update (deltas values Foldable)

/-! ## One update -/

namespace Delta

/-- What an update that is folded in place is answered, and what it leaves. -/
structure KeepsRefused (d : Delta) (u : Update) : Prop where
  /-- What is accepted is folded, -/
  accepted : ∀ e, d.fold u = (.ok (), e) ↔ d.apply u = .ok e
  /-- and only a total that would leave the range is refused. -/
  refused : ∀ e, (d.fold u).1 = .error e ↔ ∃ delta, u.sample = .counter delta ∧
    inRange64 ((d.counters.total u.id).toInt + delta.toInt) = false ∧
      e = .validation (.overflow u.id (d.counters.total u.id) delta)
  /-- A refusal leaves the delta as it was, -/
  unchanged : ∀ e, (d.fold u).1 = .error e → (d.fold u).2 = d
  /-- and a counter that is new is not refused. -/
  new : d.counters.get? u.id = none → (d.fold u).1 = .ok ()

theorem keepsRefused (d : Delta) (u : Update) : d.KeepsRefused u := by
  have hfold := d.fold_eq u
  have hrefused : ∀ e, (d.fold u).1 = .error e ↔ d.apply u = .error e := by
    intro e
    rw [hfold]
    cases d.apply u <;> simp
  refine ⟨?_, fun e => (hrefused e).trans (d.apply_eq_error_iff u e), ?_, ?_⟩
  · intro e
    rw [hfold]
    cases d.apply u <;> simp
  · intro e he
    rw [hfold, (hrefused e).1 he]
  · intro hnew
    cases he : (d.fold u).1 with
    | ok answer => rfl
    | error e =>
      -- What is added to nothing is in the range.
      obtain ⟨delta, -, hrange, -⟩ := (d.apply_eq_error_iff u e).1 ((hrefused e).1 he)
      rw [Table.total, hnew, Option.getD_none, Int64.toInt_zero, Int.zero_add,
        inRange64_toInt] at hrange
      exact absurd hrange (by simp)

/-! ## Names -/

/-- The kinds and names that a delta has an entry for. -/
def keys (d : Delta) : List (Kind × String) :=
  d.gauges.keys.map (Kind.gauge, ·) ++ d.counters.keys.map (Kind.counter, ·)

theorem length_keys (d : Delta) : d.keys.length = d.size := by
  unfold keys size
  rw [List.length_append, List.length_map, List.length_map, Std.ExtTreeMap.length_keys,
    Std.ExtTreeMap.length_keys]

theorem nodup_keys (d : Delta) : d.keys.Nodup := by
  unfold keys
  refine List.Nodup.append ?_ ?_ ?_
  · exact Std.ExtTreeMap.nodup_keys.map fun _ _ h => (Prod.mk.inj h).2
  · exact Std.ExtTreeMap.nodup_keys.map fun _ _ h => (Prod.mk.inj h).2
  · intro key hgauge hcounter
    obtain ⟨k, -, rfl⟩ := List.mem_map.1 hgauge
    obtain ⟨k', -, h⟩ := List.mem_map.1 hcounter
    exact absurd (Prod.mk.inj h).1 (by decide)

theorem mem_keys_gauge (d : Delta) (k : String) :
    (Kind.gauge, k) ∈ d.keys ↔ (d.gauges.get? k).isSome = true := by
  unfold keys Table.get?
  rw [← Std.ExtTreeMap.mem_iff_isSome_getElem?]
  simp

theorem mem_keys_counter (d : Delta) (k : String) :
    (Kind.counter, k) ∈ d.keys ↔ (d.counters.count? k).isSome = true := by
  unfold keys Table.count? Table.get?
  rw [Option.isSome_map, ← Std.ExtTreeMap.mem_iff_isSome_getElem?]
  simp

end Delta

namespace Update

/-- The kind and the name of an update. -/
def key (u : Update) : Kind × String := (u.kind, u.id)

theorem sets?_eq_none_iff (u : Update) (k : String) : u.sets? k = none ↔ u.key ≠ (.gauge, k) := by
  unfold sets? key kind
  cases u.sample <;> simp [Sample.kind]

theorem adds?_eq_none_iff (u : Update) (k : String) :
    u.adds? k = none ↔ u.key ≠ (.counter, k) := by
  unfold adds? key kind
  cases u.sample <;> simp [Sample.kind]

theorem values_eq_nil_iff (us : List Update) (k : String) :
    values us k = [] ↔ (Kind.gauge, k) ∉ us.map key := by
  unfold values
  rw [List.filterMap_eq_nil_iff, List.mem_map]
  simp only [sets?_eq_none_iff, not_exists, not_and, ne_eq]

theorem deltas_eq_nil_iff (us : List Update) (k : String) :
    deltas us k = [] ↔ (Kind.counter, k) ∉ us.map key := by
  unfold deltas
  rw [List.filterMap_eq_nil_iff, List.mem_map]
  simp only [adds?_eq_none_iff, not_exists, not_and, ne_eq]

end Update

namespace Delta

variable {d : Delta} {us : List Update}

/-- A fold has entries for the names of the updates. -/
theorem mem_keys_of_ofUpdates (h : ofUpdates us = .ok d) (key : Kind × String) :
    key ∈ d.keys ↔ key ∈ us.map Update.key := by
  obtain ⟨kind, k⟩ := key
  cases kind with
  | gauge =>
    rw [mem_keys_gauge, ofUpdates_lastSet h, Update.lastSet?_eq, List.getLast?_isSome, Ne,
      Update.values_eq_nil_iff, not_not]
  | counter =>
    rw [mem_keys_counter, ofUpdates_added h, Update.added?_eq]
    by_cases hnil : deltas us k = []
    · rw [if_pos hnil]
      simpa using (Update.deltas_eq_nil_iff us k).1 hnil
    · rw [if_neg hnil]
      rw [Update.deltas_eq_nil_iff, not_not] at hnil
      simpa using hnil

/-- **A fold has one entry for each name of a kind.** -/
theorem size_of_ofUpdates (h : ofUpdates us = .ok d) :
    d.size = (us.map Update.key).dedup.length := by
  have hperm : d.keys.Perm (us.map Update.key).dedup := by
    rw [List.perm_ext_iff_of_nodup d.nodup_keys (List.nodup_dedup _)]
    intro key
    rw [List.mem_dedup, mem_keys_of_ofUpdates h]
  rw [← length_keys, hperm.length_eq]

/-! ## What is folded -/

/-- What updates fold to. -/
structure FoldsTo (us : List Update) (d : Delta) : Prop where
  /-- Each counter that is updated has the sum of its deltas, even zero. -/
  counters : ∀ k, d.counters.count? k = if deltas us k = [] then none else some (deltas us k).sum
  /-- Each gauge that is updated has its last value. -/
  gauges : ∀ k, d.gauges.get? k = (values us k).getLast?
  /-- Every name of a kind counts once. -/
  size : d.size = (us.map Update.key).dedup.length

/-- **A fold is exact.**  What is refused leaves nothing behind; going on
after refusals folds what is accepted; updates are folded exactly if no
running total leaves the range, and then to what they come to. -/
theorem fold_is_exact (us : List Update) :
    (∀ (d : Delta) (u : Update), d.KeepsRefused u) ∧
      (∀ d : Delta, d.applyAll (accepted us (d.foldAll us).1) = .ok (d.foldAll us).2) ∧
        (Foldable us ↔ ∀ k l, l <+: deltas us k → inRange64 l.sum = true) ∧
          ∀ d, ofUpdates us = .ok d → FoldsTo us d := by
  refine ⟨keepsRefused, fun d => d.applyAll_accepted us, ?_, fun d hd => ?_⟩
  · rw [Update.foldable_iff]
    unfold StaysInRange
    simp only [Int.zero_add]
  · refine ⟨fun k => ?_, fun k => ?_, size_of_ofUpdates hd⟩
    · rw [ofUpdates_added hd, Update.added?_eq]
    · rw [ofUpdates_lastSet hd, Update.lastSet?_eq]

/-- A gauge and a counter of one name; the counter comes back to zero. -/
def upAndDown : List Update := [⟨"c", .counter 1⟩, ⟨"c", .gauge ⟨0⟩⟩, ⟨"c", .counter (-1)⟩]

/-- A counter that has no room left. -/
def fullCounter : Delta := ⟨∅, (∅ : Table Int64).set "c" Int64.maxValue⟩

/-- A counter that has come back to zero is there, beside the gauge of its
name.  Where there is no room for the first update, it is left out, and the
others are folded. -/
theorem back_at_zero_is_there :
    (∃ d, ofUpdates upAndDown = .ok d ∧ d.counters.count? "c" = some 0 ∧ d.size = 2) ∧
      (fullCounter.fold ⟨"c", .counter 1⟩).2 = fullCounter ∧
        fullCounter.applyAll upAndDown.tail = .ok (fullCounter.foldAll upAndDown).2 := by
  obtain ⟨hkeeps, hgoesOn, -, hfolds⟩ := fold_is_exact upAndDown
  refine ⟨⟨_, rfl, ?_, ?_⟩, ?_, hgoesOn fullCounter⟩
  · rw [(hfolds _ rfl).counters]
    decide
  · rw [(hfolds _ rfl).size]
    decide
  · exact (hkeeps fullCounter ⟨"c", .counter 1⟩).unchanged _ rfl

end Delta

end Meterbank
