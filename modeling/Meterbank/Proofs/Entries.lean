/-
  Meterbank.Proofs.Entries — what a batch asks of tables, entry by entry.

  A batch is accepted in three places: its entries are checked, their
  deltas are summed from zero, and the sums are added to the totals that
  are stored.  Taken together these ask for just three things, which can
  be told from the entries.  What is written then can be told from them
  too, and it is what they write one after the other.

  Main results:
    * `Batch.acceptable_iff` — the three places together.
    * `Update.Leads.append`, `Update.Leads.unique` — what updates lead to.
    * `Update.Leads.of_fold` — folded updates lead to the same.
    * `Update.Leads.applied` — what that is for the entries of a batch.
-/
import Meterbank.Proofs.Store.Reordering
import Meterbank.Proofs.Store.Observing

namespace Meterbank

open Meterbank.Number
open Meterbank.Table (joined joined_none none_joined joined_assoc joined_some)

/-! ## Entries -/

/-- What a metric adds to a counter, if it is accepted as one of this
counter. -/
def Metric.adds? (m : Metric) (k : String) : Option Int :=
  match m.validate with
  | .ok u => u.adds? k
  | .error _ => none

namespace Batch

/-- The deltas of a counter, in the order of the entries. -/
def deltas (b : Batch) (k : String) : List Int := b.metrics.filterMap fun m => m.adds? k

/-- The values of a gauge, in the order of the entries. -/
def values (b : Batch) (k : String) : List Binary64 := b.metrics.filterMap fun m => m.sets? k

/-- What a batch needs to be accepted by a store with these counters. -/
structure Acceptable (b : Batch) (c : Table Int64) : Prop where
  /-- Every entry is accepted. -/
  entries : ∀ m ∈ b.metrics, ∃ u, m.validate = .ok u
  /-- Every sum of first deltas of a counter is in the range. -/
  running : ∀ k, StaysInRange 0 (b.deltas k)
  /-- So is the stored total, or zero, with all deltas. -/
  totals : ∀ k, inRange64 ((c.total k).toInt + (b.deltas k).sum) = true

/-- What an accepted batch makes of tables. -/
structure Applied (b : Batch) (g : Table Binary64) (c : Table Int64) (g' : Table Binary64)
    (c' : Table Int64) : Prop where
  /-- A counter of the batch has grown by the sum of its deltas, and others
  are as they were. -/
  counters : ∀ k, c'.count? k =
    if b.deltas k = [] then c.count? k else some ((c.total k).toInt + (b.deltas k).sum)
  /-- A gauge of the batch has its last value there, as a number. -/
  gauges : ∀ k x, (b.values k).getLast? = some x → ∃ y, g'.get? k = some y ∧ y.sameNumber x = true
  /-- Other gauges are as they were. -/
  others : ∀ k, b.values k = [] → g'.get? k = g.get? k

variable {b : Batch} {us : List Update}

theorem deltas_of_validate (h : b.validate = .ok us) (k : String) :
    Update.deltas us k = b.deltas k := by
  have hall := validate_iff.1 h
  clear h
  unfold deltas
  generalize b.metrics = entries at hall ⊢
  induction hall with
  | nil => rfl
  | @cons m u ms us hm _ ih =>
    have hadds : m.adds? k = u.adds? k := by rw [Metric.adds?, hm]
    unfold Update.deltas at ih ⊢
    rw [List.filterMap_cons, List.filterMap_cons, ih, hadds]

end Batch

/-! ## Adding and folding -/

/-- A table can be added if every joined total is in the range. -/
theorem Table.exists_addAll_iff (t d : Table Int64) :
    (∃ t', t.addAll d = .ok t') ↔
      ∀ k, inRange64 ((t.total k).toInt + (d.count? k).getD 0) = true := by
  constructor
  · rintro ⟨t', h⟩ k
    have hk := (addAll_eq_ok_iff _ _ _).1 h k
    rw [toInt_total]
    cases hd : d.count? k with
    | none =>
      -- Nothing is added, and a total is in the range.
      rw [← toInt_total, Option.getD_none, Int.add_zero]
      exact inRange64_toInt _
    | some n =>
      rw [hd, joined_some] at hk
      exact inRange64_of_count? hk
  · intro h
    cases hadd : t.addAll d with
    | ok t' => exact ⟨t', rfl⟩
    | error e =>
      obtain ⟨k, delta, hk, hrange, -⟩ := addAll_refused hadd
      have hin := h k
      rw [show d.count? k = some delta.toInt by rw [count?, hk]; rfl, Option.getD_some, hrange] at hin
      exact absurd hin (by simp)

/-- What is folded for a counter is the sum of its deltas. -/
theorem Delta.count?_ofUpdates {us : List Update} {d : Delta} (h : ofUpdates us = .ok d)
    (k : String) : (d.counters.count? k).getD 0 = (Update.deltas us k).sum := by
  rw [ofUpdates_added h, Update.added?_eq]
  split
  · next hnone =>
    rw [hnone]
    rfl
  · rfl

/-- **The checks of the entries, of their sums and of the totals together
accept what is acceptable.** -/
theorem Batch.acceptable_iff (b : Batch) (c : Table Int64) :
    b.Acceptable c ↔ ∃ us d c', b.validate = .ok us ∧ Delta.ofUpdates us = .ok d ∧
      c.addAll d.counters = .ok c' := by
  constructor
  · intro h
    obtain ⟨us, hus⟩ := (exists_validate_iff b).2 h.entries
    obtain ⟨d, hd⟩ := (Update.foldable_iff us).2 fun k => by
      rw [deltas_of_validate hus]
      exact h.running k
    obtain ⟨c', hc'⟩ := (Table.exists_addAll_iff c d.counters).2 fun k => by
      rw [Delta.count?_ofUpdates hd, deltas_of_validate hus]
      exact h.totals k
    exact ⟨us, d, c', hus, hd, hc'⟩
  · rintro ⟨us, d, c', hus, hd, hc'⟩
    refine ⟨(exists_validate_iff b).1 ⟨us, hus⟩, fun k => ?_, fun k => ?_⟩
    · rw [← deltas_of_validate hus]
      exact (Update.foldable_iff us).1 ⟨d, hd⟩ k
    · rw [← deltas_of_validate hus, ← Delta.count?_ofUpdates hd]
      exact (Table.exists_addAll_iff c d.counters).1 ⟨c', hc'⟩ k

/-- A batch whose entries are accepted is acceptable if what they fold to
can be added. -/
theorem Batch.acceptable_iff_of_validate {b : Batch} {us : List Update} (hus : b.validate = .ok us)
    (c : Table Int64) :
    b.Acceptable c ↔ ∃ d c', Delta.ofUpdates us = .ok d ∧ c.addAll d.counters = .ok c' := by
  rw [acceptable_iff, hus]
  constructor
  · rintro ⟨vs, d, c', hvs, hd, hadd⟩
    obtain rfl : us = vs := Except.ok.inj hvs
    exact ⟨d, c', hd, hadd⟩
  · rintro ⟨d, c', hd, hadd⟩
    exact ⟨us, d, c', rfl, hd, hadd⟩

/-- A batch with an entry that is refused is not acceptable. -/
theorem Batch.not_acceptable_of_validate {b : Batch} {e : StoreError} (h : b.validate = .error e)
    (c : Table Int64) : ¬ b.Acceptable c := by
  rw [acceptable_iff, h]
  rintro ⟨us, d, c', hus, -⟩
  exact absurd hus (by simp)

/-! ## What updates lead to -/

namespace Update

variable {keep : Binary64 → Binary64} {us vs : List Update} {g g₁ g₂ : Table Binary64}
  {c c₁ c₂ : Table Int64}

/-- What updates make of tables that keep gauges in their own way: each
gauge has its last value, each counter has grown by its deltas, and the
others are as they were. -/
structure Leads (keep : Binary64 → Binary64) (us : List Update) (g : Table Binary64)
    (c : Table Int64) (g₁ : Table Binary64) (c₁ : Table Int64) : Prop where
  gauges : ∀ k, g₁.get? k = ((lastSet? us k).map keep).or (g.get? k)
  counters : ∀ k, c₁.count? k = joined (c.count? k) (added? us k)

namespace Leads

theorem nil (keep : Binary64 → Binary64) (g : Table Binary64) (c : Table Int64) :
    Leads keep [] g c g c :=
  ⟨fun _ => rfl, fun _ => (joined_none _).symm⟩

/-- Updates that come one after the other lead where all of them lead. -/
theorem append (h : Leads keep us g c g₁ c₁) (h' : Leads keep vs g₁ c₁ g₂ c₂) :
    Leads keep (us ++ vs) g c g₂ c₂ where
  gauges k := by rw [h'.gauges, h.gauges, lastSet?_append, Option.map_or, Option.or_assoc]
  counters k := by rw [h'.counters, h.counters, added?_append, joined_assoc]

/-- **Updates lead to one pair of tables.** -/
theorem unique (h : Leads keep us g c g₁ c₁) (h' : Leads keep us g c g₂ c₂) :
    g₁ = g₂ ∧ c₁ = c₂ :=
  ⟨Table.ext_get? fun k => by rw [h.gauges, h'.gauges],
    Table.ext_count? fun k => by rw [h.counters, h'.counters]⟩

/-- **Updates that are folded and then applied lead where they lead one
after the other.** -/
theorem of_fold {d : Delta} (hd : Delta.ofUpdates us = .ok d) (hadd : c.addAll d.counters = .ok c₁)
    (hg : ∀ k, g₁.get? k = ((d.gauges.get? k).map keep).or (g.get? k)) :
    Leads keep us g c g₁ c₁ where
  gauges k := by rw [hg, Delta.ofUpdates_lastSet hd]
  counters k := by rw [(Table.addAll_eq_ok_iff _ _ _).1 hadd, Delta.ofUpdates_added hd]

/-- A gauge that is set is kept. -/
theorem gauge (keep : Binary64 → Binary64) (id : String) (x : Binary64) (g : Table Binary64)
    (c : Table Int64) : Leads keep [⟨id, .gauge x⟩] g c (g.set id (keep x)) c where
  gauges k := by
    rw [lastSet?_cons, show lastSet? [] k = none from rfl, Option.none_or, sets?, Table.get?_set]
    simp only
    split <;> rfl
  counters k := by
    rw [added?_single]
    exact (joined_none _).symm

/-- A counter that is added to grows. -/
theorem counter (keep : Binary64 → Binary64) {id : String} {delta total : Int64}
    (g : Table Binary64) (hadd : c.add id delta = .ok (total, c₁)) :
    Leads keep [⟨id, .counter delta⟩] g c g c₁ where
  gauges _ := rfl
  counters k := by
    rw [added?_single]
    exact (Table.add_counts hadd).2 k

/-- **What the updates of a batch lead to, told by its entries.** -/
theorem applied {b : Batch} (h : Leads keep us g c g₁ c₁) (hb : b.validate = .ok us)
    (hkeep : ∀ x, x.isFinite = true → (keep x).sameNumber x = true) : b.Applied g c g₁ c₁ where
  counters k := by
    rw [h.counters, added?_eq, Batch.deltas_of_validate hb]
    split
    · exact joined_none _
    · rw [joined_some, ← Table.toInt_total]
  gauges k x hx := by
    have hlast : lastSet? us k = some x := by
      rw [lastSet?_eq, Batch.values_of_validate hb]
      exact hx
    -- What an entry sets has been checked, so it is kept as the number it is.
    have hfinite : x.isFinite = true := by
      obtain ⟨u, hu, hsets⟩ := List.exists_of_findSome?_eq_some hlast
      have hsample := Batch.finite_of_validateFrom hb u (List.mem_reverse.1 hu)
      unfold sets? at hsets
      cases hs : u.sample with
      | counter delta =>
        rw [hs] at hsets
        exact absurd hsets (by simp)
      | gauge y =>
        rw [hs] at hsets
        simp only at hsets
        split at hsets
        · rw [← Option.some.inj hsets]
          exact hsample y hs
        · exact absurd hsets (by simp)
    exact ⟨keep x, by rw [h.gauges, hlast]; rfl, hkeep x hfinite⟩
  others k hk := by
    have hnone : lastSet? us k = none := by
      rw [lastSet?_eq, Batch.values_of_validate hb]
      exact congrArg List.getLast? hk
    rw [h.gauges, hnone]
    rfl

end Leads

end Update

end Meterbank
