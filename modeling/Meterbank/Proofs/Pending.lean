/-
  Meterbank.Proofs.Pending — merging folds is folding all at once.

  A fold adds up updates one after the other, and checks every total on
  the way.  A merge adds up folds, name by name, in whatever order their
  rows lie, and checks the totals after each fold.  They check different
  totals, so the one may be refused where the other is not; but what both
  accept they add up to the same, as each comes to the exact sums and the
  last values.

  Main results:
    * `merge_cases` — what a merge can do, whatever the order of the rows.
    * `run_isMergeOf` — the tables hold what has been merged since the
      last take, at every point of a run.
    * `merge_ofUpdates` — a fold that is merged into a fold is the fold of
      both.
    * `merging_is_folding` — all of it.
-/
import Meterbank.Pending
import Meterbank.Proofs.Merging
import Meterbank.Proofs.Store.Snapshots
import Meterbank.Proofs.Updates

namespace Meterbank

open Meterbank.Number
open Meterbank.Table (joined joined_none none_joined joined_some)

/-! ## Adding rows in any order -/

namespace Table

variable {t d : Table Int64}

/-- Whether adding what a table has for a name to the total of the name
leaves the range. -/
def Overflows (t d : Table Int64) (k : String) (delta : Int64) : Prop :=
  d.get? k = some delta ∧ inRange64 ((t.total k).toInt + delta.toInt) = false

/-- Rows are added, or one of them is too much. -/
theorem Layout.newTotals_cases (t : Table Int64) (l : d.Layout) :
    (∃ totals, t.newTotals l.rows = .ok totals ∧
      ∀ k, (t.setRows totals).count? k = joined (t.count? k) (d.count? k)) ∨
    ∃ k delta, t.Overflows d k delta ∧
      t.newTotals l.rows = .error (.validation (.overflow k (t.total k) delta)) := by
  cases h : t.newTotals l.rows with
  | ok totals =>
    obtain ⟨hrange, rfl⟩ := (newTotals_eq_ok_iff _ _ _).1 h
    refine .inl ⟨_, rfl, fun k => ?_⟩
    rw [count?_setRows_newRow t l.nodup_names hrange, l.lastOf?_rows]
    rfl
  | error e =>
    obtain ⟨⟨k, delta⟩, hrow, hrange, rfl⟩ := newTotals_error h
    exact .inr ⟨k, delta, ⟨(l.mem_rows_iff k delta).1 hrow, hrange⟩, rfl⟩

/-- Where the totals are joined, none of them is too much. -/
theorem not_overflows {t' : Table Int64}
    (h : ∀ k, t'.count? k = joined (t.count? k) (d.count? k)) (k : String) (delta : Int64) :
    ¬ t.Overflows d k delta := by
  rintro ⟨hdelta, hrange⟩
  have htotal := h k
  rw [show d.count? k = some delta.toInt by rw [count?, hdelta]; rfl, joined_some,
    ← toInt_total] at htotal
  rw [inRange64_of_count? htotal] at hrange
  exact absurd hrange (by simp)

end Table

namespace Delta

/-- Merging two deltas lets the gauges of the second win and joins the
totals. -/
structure Joins (p d p' : Delta) : Prop where
  gauges : ∀ k, p'.gauges.get? k = (d.gauges.get? k).or (p.gauges.get? k)
  counters : ∀ k, p'.counters.count? k = joined (p.counters.count? k) (d.counters.count? k)

variable {p d p' e : Delta} {ds : List Delta}

theorem merge_eq_ok_iff : p.merge d = .ok p' ↔ p.Joins d p' := by
  unfold merge
  constructor
  · intro h
    split at h
    · next q hq =>
      obtain ⟨hgauges, hcounters⟩ := (mergeCounters_eq_ok_iff _ _ _).1 hq
      rw [← Except.ok.inj h]
      refine ⟨fun k => ?_, hcounters⟩
      rw [get?_mergeGauges, hgauges]
    · exact absurd h (by simp)
  · intro h
    have hq : p.mergeCounters d = .ok ⟨p.gauges, p'.counters⟩ :=
      (mergeCounters_eq_ok_iff _ _ _).2 ⟨rfl, h.counters⟩
    have hgauges : p.gauges.setAll d.gauges = p'.gauges :=
      Table.ext_get? fun k => by rw [Table.get?_setAll, h.gauges]
    rw [hq]
    simp only [mergeGauges, hgauges]

/-- What is merged once more is a merge of one more. -/
theorem Joins.isMergeOf (h : p.Joins d p') (hp : p.IsMergeOf ds) : p'.IsMergeOf (ds ++ [d]) where
  gauges k := by rw [lastGauge?_append, lastGauge?_singleton, h.gauges, hp.gauges]
  counters k := by
    rw [sumCounter?_append, sumCounter?_cons, sumCounter?_nil, joined_none, h.counters, hp.counters]

theorem isMergeOf_empty : empty.IsMergeOf [] :=
  ⟨fun k => Table.get?_empty k, fun k => Table.count?_empty k⟩

theorem isMergeOf_self (d : Delta) : d.IsMergeOf [d] :=
  ⟨fun k => (lastGauge?_singleton d k).symm, fun k => by simp⟩

/-! ## Folds -/

/-- **A fold that is merged into a fold is the fold of both.** -/
theorem merge_ofUpdates {us vs : List Update} (hp : ofUpdates us = .ok p) (hd : ofUpdates vs = .ok d)
    (he : ofUpdates (us ++ vs) = .ok e) : p.merge d = .ok e := by
  rw [merge_eq_ok_iff]
  constructor
  · intro k
    rw [ofUpdates_lastSet hp, ofUpdates_lastSet hd, ofUpdates_lastSet he, Update.lastSet?_append]
  · intro k
    rw [ofUpdates_added hp, ofUpdates_added hd, ofUpdates_added he, Update.added?_append]

/-- What is folded up to a point is folded on the way. -/
theorem exists_ofUpdates_of_append {us vs : List Update} (h : ofUpdates (us ++ vs) = .ok e) :
    ∃ d, ofUpdates us = .ok d := by
  unfold ofUpdates at h ⊢
  generalize empty = start at h ⊢
  induction us generalizing start with
  | nil => exact ⟨start, rfl⟩
  | cons u us ih =>
    obtain ⟨next, hnext, hrest⟩ := (ofUpdates_cons start e u (us ++ vs)).1 h
    obtain ⟨d, hd⟩ := ih next hrest
    exact ⟨d, (ofUpdates_cons start d u us).2 ⟨next, hnext, hd⟩⟩

end Delta

namespace Pending

variable {p d p' : Delta}

/-! ## What a merge can do -/

/-- **A merge joins the tables, or leaves them as they are because a total
would leave the range.**  The order of the rows decides nothing but which
of several such totals is reported. -/
theorem merge_cases (p : Delta) (l : d.Layout) :
    (∃ p', p.Joins d p' ∧ merge l p = (.ok (), p')) ∨
    ∃ k delta, p.counters.Overflows d.counters k delta ∧
      merge l p = (.error (.validation (.overflow k (p.counters.total k) delta)), p) := by
  rcases l.counters.newTotals_cases p.counters with ⟨totals, htotals, hjoined⟩ | ⟨k, delta, hover, h⟩
  · refine .inl ⟨⟨p.gauges.setRows l.gauges.rows, p.counters.setRows totals⟩, ⟨fun k => ?_, hjoined⟩,
      ?_⟩
    · rw [Table.get?_setRows, l.gauges.lastOf?_rows]
    · simp only [merge, addRows, htotals, setRows]
  · refine .inr ⟨k, delta, hover, ?_⟩
    simp only [merge, addRows, h]

/-- Where the tables can be joined they are. -/
theorem merge_of_joins (h : p.Joins d p') (l : d.Layout) : merge l p = (.ok (), p') := by
  rcases merge_cases p l with ⟨q, hq, hmerge⟩ | ⟨k, delta, hover, -⟩
  · -- Tables are joined in one way.
    have heq := (Delta.merge_eq_ok_iff.2 hq).symm.trans (Delta.merge_eq_ok_iff.2 h)
    rw [hmerge, Except.ok.inj heq]
  · exact absurd hover (Table.not_overflows h.counters k delta)

/-- **A merge is refused if a total would leave the range, and only then.** -/
theorem merge_refused_iff (p : Delta) (l : d.Layout) :
    (∃ e, (merge l p).1 = .error e) ↔ ∃ k delta, p.counters.Overflows d.counters k delta := by
  rcases merge_cases p l with ⟨p', hjoins, hmerge⟩ | ⟨k, delta, hover, hmerge⟩
  · rw [hmerge]
    constructor
    · rintro ⟨e, he⟩
      exact absurd he (by simp)
    · rintro ⟨k, delta, hover⟩
      exact absurd hover (Table.not_overflows hjoins.counters k delta)
  · rw [hmerge]
    exact ⟨fun _ => ⟨k, delta, hover⟩, fun _ => ⟨_, rfl⟩⟩

/-! ## Runs -/

/-- One call keeps it so that the tables hold what has been collected. -/
theorem perform_isMergeOf {ds : List Delta} (h : p.IsMergeOf ds) (call : Call) :
    (perform call p).2.IsMergeOf (collect ds (perform call p).1) := by
  cases call with
  | merge d l =>
    rcases merge_cases p l with ⟨p', hjoins, hmerge⟩ | ⟨k, delta, -, hmerge⟩
    · simp only [perform, hmerge]
      exact hjoins.isMergeOf h
    · simp only [perform, hmerge]
      exact h
  | take => exact Delta.isMergeOf_empty

/-- What is taken is what has been collected. -/
theorem taken_isMergeOf {ds : List Delta} (h : p.IsMergeOf ds) {call : Call} {d : Delta}
    (hd : (perform call p).1 = .taken d) : d.IsMergeOf ds := by
  cases call with
  | merge d' l =>
    rcases merge_cases p l with ⟨p', -, hmerge⟩ | ⟨k, delta, -, hmerge⟩ <;>
      simp only [perform, hmerge, reduceCtorEq] at hd
  | take =>
    rw [← Event.taken.inj hd]
    exact h

/-- **At every point of a run the tables hold what has been merged since
the last take**, and so does what is taken. -/
theorem run_isMergeOf {ds : List Delta} (h : p.IsMergeOf ds) (calls : List Call) :
    (run calls p).2.IsMergeOf (collected ds (run calls p).1) ∧
      ∀ before d after, (run calls p).1 = before ++ .taken d :: after →
        d.IsMergeOf (collected ds before) := by
  induction calls generalizing p ds with
  | nil => exact ⟨h, fun before d after hrun => absurd hrun (by simp [run])⟩
  | cons call calls ih =>
    obtain ⟨hend, htaken⟩ := ih (perform_isMergeOf h call)
    refine ⟨hend, ?_⟩
    -- What is taken is taken by this call, or by one of those that follow it.
    rintro (_ | ⟨event, before⟩) d after hrun
    · exact taken_isMergeOf h (List.cons.inj hrun).1
    · obtain ⟨rfl, hrest⟩ := List.cons.inj hrun
      exact htaken before d after hrest

/-- Folds that are merged into a fold, one after the other, are merged, and
the tables then hold the fold of all updates. -/
theorem run_folds {folds : List (List Update × (d : Delta) × d.Layout)} {us : List Update} {e : Delta}
    (hp : Delta.ofUpdates us = .ok p) (hfolds : ∀ f ∈ folds, Delta.ofUpdates f.1 = .ok f.2.1)
    (he : Delta.ofUpdates (us ++ folds.flatMap Prod.fst) = .ok e) :
    run (folds.map fun f => .merge f.2.1 f.2.2) p = (folds.map fun f => .merged f.2.1, e) := by
  induction folds generalizing p us with
  | nil =>
    rw [List.flatMap_nil, List.append_nil, hp] at he
    rw [Except.ok.inj he]
    rfl
  | cons f folds ih =>
    rw [List.forall_mem_cons] at hfolds
    rw [List.flatMap_cons, ← List.append_assoc] at he
    -- The fold of everything has been through the fold of what is merged so far.
    obtain ⟨q, hq⟩ := Delta.exists_ofUpdates_of_append he
    have hmerge := merge_of_joins (Delta.merge_eq_ok_iff.1 (Delta.merge_ofUpdates hp hfolds.1 hq)) f.2.2
    simp only [List.map_cons, run, perform, hmerge, ih hq hfolds.2 he]

/-- **Merging folds is folding all at once, and a refused merge leaves no
trace.**  Whatever is pending and in whatever order the rows of a delta
lie, a merge that is refused leaves both tables exactly as they were, it
is refused if and only if the total of some counter would leave the range,
and it reports such a counter.  In every run of merges and takes, what is
taken is what was merged since the take before: of each gauge the last
value, of each counter the sum, and no other name.  And folds that are
merged into empty tables are all merged if the fold of all their updates
succeeds, and what is then taken is that fold, bit for bit. -/
theorem merging_is_folding :
    (∀ (p d : Delta) (l : d.Layout),
      (∀ e p', merge l p = (.error e, p') → p' = p ∧ ∃ k delta,
        p.counters.Overflows d.counters k delta ∧
          e = .validation (.overflow k (p.counters.total k) delta)) ∧
      ((∃ e, (merge l p).1 = .error e) ↔
        ∃ k delta, p.counters.Overflows d.counters k delta) ∧
      ∀ p', merge l p = (.ok (), p') ↔ p.merge d = .ok p') ∧
    (∀ (p : Delta) (calls : List Call) (before after : List Event) (d : Delta),
      (run calls p).1 = before ++ .taken d :: after → d.IsMergeOf (collected [p] before)) ∧
    ∀ (folds : List (List Update × (d : Delta) × d.Layout)) (e : Delta),
      (∀ f ∈ folds, Delta.ofUpdates f.1 = .ok f.2.1) →
      Delta.ofUpdates (folds.flatMap Prod.fst) = .ok e →
        run ((folds.map fun f => .merge f.2.1 f.2.2) ++ [.take]) .empty =
          ((folds.map fun f => .merged f.2.1) ++ [.taken e], .empty) := by
  refine ⟨fun p d l => ⟨?_, merge_refused_iff p l, ?_⟩, ?_, ?_⟩
  · intro e p' h
    rcases merge_cases p l with ⟨q, -, hmerge⟩ | ⟨k, delta, hover, hmerge⟩
    · rw [hmerge] at h
      exact absurd (Prod.mk.inj h).1 (by simp)
    · rw [hmerge] at h
      obtain ⟨he, hp⟩ := Prod.mk.inj h
      exact ⟨hp.symm, k, delta, hover, (Except.error.inj he).symm⟩
  · intro p'
    rw [Delta.merge_eq_ok_iff]
    refine ⟨fun h => ?_, fun h => merge_of_joins h l⟩
    rcases merge_cases p l with ⟨q, hjoins, hmerge⟩ | ⟨k, delta, -, hmerge⟩
    · rw [hmerge] at h
      rw [← (Prod.mk.inj h).2]
      exact hjoins
    · rw [hmerge] at h
      exact absurd (Prod.mk.inj h).1 (by simp)
  · intro p calls before after d h
    exact (run_isMergeOf (Delta.isMergeOf_self p) calls).2 before d after h
  · intro folds e hfolds he
    have hempty : Delta.ofUpdates [] = .ok .empty := rfl
    have hmerged := run_folds hempty hfolds he
    rw [run_append, hmerged]
    rfl

/-! ## One counter, full and empty -/

/-- A counter with nothing left above it. -/
def full : Delta := ⟨∅, (∅ : Table Int64).set "c" Int64.maxValue⟩

/-- A gauge, and one more for the counter. -/
def gaugeAndOne : Delta := ⟨(∅ : Table Binary64).set "g" ⟨0⟩, (∅ : Table Int64).set "c" 1⟩

theorem merge_gaugeAndOne_full : merge gaugeAndOne.ordered full =
    (.error (.validation (.overflow "c" Int64.maxValue 1)), full) := by
  have htotal : full.counters.total "c" = Int64.maxValue := by
    simp [full, Table.total, Table.get?_set]
  have hnone : Total.add? Int64.maxValue 1 = none := by decide
  have htotals : full.counters.newTotals [("c", 1)] =
      .error (.validation (.overflow "c" Int64.maxValue 1)) := by
    simp only [Table.newTotals, htotal, checkedTotal, hnone]
  have hrows : gaugeAndOne.ordered.counters.rows = [("c", 1)] := Table.toList_single "c" 1
  simp only [merge, addRows, hrows, htotals]

/-- Two more for the counter. -/
def two : Delta := ⟨∅, (∅ : Table Int64).set "c" 2⟩

/-- The updates of both, with what they fold to. -/
def twoFolds : List (List Update × (d : Delta) × d.Layout) :=
  [([⟨"c", .counter 1⟩, ⟨"g", .gauge ⟨0⟩⟩], ⟨gaugeAndOne, gaugeAndOne.ordered⟩),
    ([⟨"c", .counter 2⟩], ⟨two, two.ordered⟩)]

/-- What they come to. -/
def gaugeAndThree : Delta :=
  ⟨(∅ : Table Binary64).set "g" ⟨0⟩, ((∅ : Table Int64).set "c" 1).set "c" 3⟩

theorem ofUpdates_twoFolds : (∀ f ∈ twoFolds, Delta.ofUpdates f.1 = .ok f.2.1) ∧
    Delta.ofUpdates (twoFolds.flatMap Prod.fst) = .ok gaugeAndThree := by
  have hone : (∅ : Table Int64).add "c" 1 = .ok (1, (∅ : Table Int64).set "c" 1) :=
    (Table.add_ok_iff _ _ _ _ _).2 ⟨by simp [Table.total], rfl⟩
  have hthree : ((∅ : Table Int64).set "c" 1).add "c" 2 =
      .ok (3, ((∅ : Table Int64).set "c" 1).set "c" 3) :=
    (Table.add_ok_iff _ _ _ _ _).2 ⟨by simp [Table.total, Table.get?_set], rfl⟩
  constructor
  · simp only [twoFolds, List.forall_mem_cons]
    refine ⟨?_, Delta.ofUpdates_counter "c" 2, fun f hf => absurd hf (by simp)⟩
    simp only [Delta.ofUpdates, Delta.applyAll, Delta.apply, Delta.empty, hone, gaugeAndOne]
  · show Delta.ofUpdates [⟨"c", .counter 1⟩, ⟨"g", .gauge ⟨0⟩⟩, ⟨"c", .counter 2⟩] = _
    simp only [Delta.ofUpdates, Delta.applyAll, Delta.apply, Delta.empty, hone, hthree,
      gaugeAndThree]

/-- A merge that is too much for the counter leaves the gauge out as well,
and what is taken then is what was there.  Two folds that are merged into
empty tables are taken as one. -/
theorem full_counter_kept :
    merge gaugeAndOne.ordered full = (.error (.validation (.overflow "c" Int64.maxValue 1)), full) ∧
    (run [.merge gaugeAndOne gaugeAndOne.ordered, .take] full).1 =
      [.refused gaugeAndOne (.validation (.overflow "c" Int64.maxValue 1)), .taken full] ∧
    full.IsMergeOf [full] ∧
    (run ((twoFolds.map fun f => .merge f.2.1 f.2.2) ++ [.take]) .empty).1 =
      [.merged gaugeAndOne, .merged two, .taken gaugeAndThree] := by
  have hrefused := merge_gaugeAndOne_full
  have hrun : (run [.merge gaugeAndOne gaugeAndOne.ordered, .take] full).1 =
      [.refused gaugeAndOne (.validation (.overflow "c" Int64.maxValue 1)), .taken full] := by
    simp only [run, perform, hrefused]
    rfl
  obtain ⟨hfolds, hall⟩ := ofUpdates_twoFolds
  refine ⟨?_, hrun, ?_, ?_⟩
  · obtain ⟨hkept, -⟩ := (merging_is_folding.1 full gaugeAndOne gaugeAndOne.ordered).1 _ _ hrefused
    rw [hrefused, hkept]
  · exact merging_is_folding.2.1 full _ [.refused _ _] [] full hrun
  · rw [merging_is_folding.2.2 twoFolds gaugeAndThree hfolds hall]
    rfl

end Pending

end Meterbank
