/-
  Meterbank.Proofs.Merging — what merging many deltas comes to.

  Merging is done in two parts, counters and gauges, and other callers may
  merge between the two.  So the result is described for each part alone:
  of a gauge the last merged value remains, and a counter is the integer
  sum of what was merged.  The order of the deltas matters to gauges only.

  Main results:
    * `IsMergeOf.unique` — deltas merge to one delta at most.
    * `mergeCounters_eq_ok_iff` — merging counters joins the exact totals.
    * `IsMergeOf.isEmpty_iff` — only empty deltas merge to nothing.
-/
import Meterbank.Delta
import Meterbank.Proofs.Contents

namespace Meterbank.Delta

open Meterbank.Table (joined joined_none none_joined joined_comm joined_assoc joined_some)

/-! ## The merge of a list -/

/-- The value of a gauge in the last of the deltas that has one. -/
def lastGauge? (ds : List Delta) (k : String) : Option Binary64 :=
  ds.reverse.findSome? fun d => d.gauges.get? k

/-- The integer sum of what the deltas add to a counter, if one of them
touches it. -/
def sumCounter? (ds : List Delta) (k : String) : Option Int :=
  ds.foldr (fun d sum => joined (d.counters.count? k) sum) none

/-- One delta that does what the listed deltas do: each gauge has its last
value, each counter the sum, and nothing else is touched. -/
structure IsMergeOf (whole : Delta) (ds : List Delta) : Prop where
  gauges : ∀ k, whole.gauges.get? k = lastGauge? ds k
  counters : ∀ k, whole.counters.count? k = sumCounter? ds k

/-- **Deltas merge to one delta at most.** -/
theorem IsMergeOf.unique {d e : Delta} {ds : List Delta} (hd : d.IsMergeOf ds)
    (he : e.IsMergeOf ds) : d = e := by
  have hg : d.gauges = e.gauges := Table.ext_get? fun k => by rw [hd.gauges, he.gauges]
  have hc : d.counters = e.counters := Table.ext_count? fun k => by rw [hd.counters, he.counters]
  cases d
  cases e
  simp only at hg hc
  rw [hg, hc]

/-! ## Gauges -/

theorem lastGauge?_append (ds es : List Delta) (k : String) :
    lastGauge? (ds ++ es) k = (lastGauge? es k).or (lastGauge? ds k) := by
  unfold lastGauge?
  rw [List.reverse_append, List.findSome?_append]

theorem lastGauge?_singleton (d : Delta) (k : String) : lastGauge? [d] k = d.gauges.get? k := by
  show List.findSome? _ [d] = _
  rw [List.findSome?_singleton]

theorem lastGauge?_eq_none_iff (ds : List Delta) (k : String) :
    lastGauge? ds k = none ↔ ∀ d ∈ ds, d.gauges.get? k = none := by
  unfold lastGauge?
  simp

/-- Merging the gauges of one more delta lets its values win. -/
theorem get?_mergeGauges (d e : Delta) (k : String) :
    (d.mergeGauges e).gauges.get? k = (e.gauges.get? k).or (d.gauges.get? k) :=
  Table.get?_setAll d.gauges e.gauges k

/-! ## Counters -/

@[simp] theorem sumCounter?_nil (k : String) : sumCounter? [] k = none := rfl

@[simp] theorem sumCounter?_cons (d : Delta) (ds : List Delta) (k : String) :
    sumCounter? (d :: ds) k = joined (d.counters.count? k) (sumCounter? ds k) := rfl

theorem sumCounter?_append (ds es : List Delta) (k : String) :
    sumCounter? (ds ++ es) k = joined (sumCounter? ds k) (sumCounter? es k) := by
  induction ds with
  | nil => simp
  | cons d ds ih =>
    rw [List.cons_append, sumCounter?_cons, sumCounter?_cons, ih, joined_assoc]

theorem sumCounter?_eq_none_iff (ds : List Delta) (k : String) :
    sumCounter? ds k = none ↔ ∀ d ∈ ds, d.counters.count? k = none := by
  induction ds with
  | nil => simp
  | cons d ds ih =>
    rw [sumCounter?_cons, List.forall_mem_cons, ← ih]
    cases d.counters.count? k <;> cases sumCounter? ds k <;> simp

/-- **Merging counters joins the exact totals and leaves the gauges.** -/
theorem mergeCounters_eq_ok_iff (d e d' : Delta) :
    d.mergeCounters e = .ok d' ↔
      d'.gauges = d.gauges ∧
        ∀ k, d'.counters.count? k = joined (d.counters.count? k) (e.counters.count? k) := by
  rw [← Table.addAll_eq_ok_iff]
  unfold mergeCounters
  cases h : d.counters.addAll e.counters with
  | error err => simp
  | ok counters =>
    cases d'
    simp only [Except.ok.injEq, Delta.mk.injEq]
    constructor
    · rintro ⟨hg, hc⟩
      exact ⟨hg.symm, hc⟩
    · rintro ⟨hg, hc⟩
      exact ⟨hg.symm, hc⟩

/-- A merge that is refused is refused as invalid. -/
theorem mergeCounters_error {d e : Delta} {err : StoreError}
    (h : d.mergeCounters e = .error err) :
    ∃ key total delta, err = .validation (.overflow key total delta) := by
  unfold mergeCounters at h
  split at h
  · exact absurd h (by simp)
  · next err' he =>
    injection h with h
    subst h
    exact Table.addAll_error he

/-! ## Nothing to merge -/

theorem isEmpty_iff (d : Delta) :
    d.isEmpty = true ↔ ∀ k, d.gauges.get? k = none ∧ d.counters.count? k = none := by
  unfold isEmpty
  rw [Bool.and_eq_true, Table.isEmpty_iff, Table.isEmpty_iff, ← forall_and]
  simp only [Table.count?, Option.map_eq_none_iff]

/-- **Only empty deltas merge to nothing.** -/
theorem IsMergeOf.isEmpty_iff {whole : Delta} {ds : List Delta} (h : whole.IsMergeOf ds) :
    whole.isEmpty = true ↔ ∀ d ∈ ds, d.isEmpty = true := by
  rw [Delta.isEmpty_iff]
  simp only [h.gauges, h.counters, lastGauge?_eq_none_iff, sumCounter?_eq_none_iff,
    Delta.isEmpty_iff]
  constructor
  · intro hk d hd k
    exact ⟨(hk k).1 d hd, (hk k).2 d hd⟩
  · intro hd k
    exact ⟨fun d hmem => (hd d hmem k).1, fun d hmem => (hd d hmem k).2⟩

end Meterbank.Delta
