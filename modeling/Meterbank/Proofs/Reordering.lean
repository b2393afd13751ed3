/-
  Meterbank.Proofs.Reordering — the same updates in another order.

  A counter is summed one delta at a time, and every total on the way has
  to stay in the 64-bit range.  So the order of updates does not change
  what they fold to, but it may decide whether they are folded at all: a
  large gain before a large loss is too much where the loss before the
  gain is not.  The order does not matter exactly if every counter leaves
  the range in the end, or could not leave it even if all its gains, or
  all its losses, came first.

  Main results:
    * `foldable_iff` — updates are folded if no running total leaves the
      range.
    * `Reordered.fold_eq` — orders that are folded fold to one delta.
    * `exists_foldable` — there is an order that is folded, if the sums
      are in the range.
    * `orderFree_iff` — when all orders are folded or all are refused.
-/
import Mathlib.Algebra.BigOperators.Group.List.Basic
import Mathlib.Algebra.Ring.Int.Defs
import Meterbank.Proofs.Folding
import Meterbank.Proofs.Updates

namespace Meterbank

open Meterbank.Number
open Meterbank.Table (joined_none none_joined joined_some)

/-! ## Running totals -/

/-- Whether a total stays in the range while it is added to, one number
after the other. -/
def StaysInRange (total : Int) (ns : List Int) : Prop :=
  ∀ l, l <+: ns → inRange64 (total + l.sum) = true

namespace StaysInRange

variable {total n : Int} {ns : List Int}

theorem first (h : StaysInRange total ns) : inRange64 total = true := by
  have hnil := h [] (List.nil_prefix)
  rwa [List.sum_nil, Int.add_zero] at hnil

theorem last (h : StaysInRange total ns) : inRange64 (total + ns.sum) = true :=
  h ns (List.prefix_refl ns)

theorem nil_iff : StaysInRange total [] ↔ inRange64 total = true := by
  constructor
  · exact first
  · intro h l hl
    rwa [List.prefix_nil.1 hl, List.sum_nil, Int.add_zero]

/-- A total that has made one step stays in the range from there. -/
theorem cons_iff (ht : inRange64 total = true) :
    StaysInRange total (n :: ns) ↔ StaysInRange (total + n) ns := by
  constructor
  · intro h l hl
    have hlonger := h (n :: l) ((List.prefix_cons_inj n).2 hl)
    rwa [List.sum_cons, ← Int.add_assoc] at hlonger
  · intro h l hl
    rcases List.prefix_cons_iff.1 hl with rfl | ⟨rest, rfl, hrest⟩
    · rwa [List.sum_nil, Int.add_zero]
    · rw [List.sum_cons, ← Int.add_assoc]
      exact h rest hrest

theorem toList_append_iff {step : Option Int} (ht : inRange64 total = true) :
    StaysInRange total (step.toList ++ ns) ↔ StaysInRange (total + step.getD 0) ns := by
  cases step with
  | none => rw [Option.toList_none, List.nil_append, Option.getD_none, Int.add_zero]
  | some n => exact cons_iff ht

end StaysInRange

/-- The sum of what is gained. -/
def gained (ns : List Int) : Int := (ns.filter (0 ≤ ·)).sum

/-- The sum of what is lost. -/
def lost (ns : List Int) : Int := (ns.filter (· < 0)).sum

theorem gained_cons (n : Int) (ns : List Int) : gained (n :: ns) = max n 0 + gained ns := by
  unfold gained
  by_cases hn : 0 ≤ n
  · rw [List.filter_cons, if_pos (decide_eq_true hn), List.sum_cons]
    omega
  · rw [List.filter_cons, if_neg (by simpa using hn)]
    omega

theorem lost_cons (n : Int) (ns : List Int) : lost (n :: ns) = min n 0 + lost ns := by
  unfold lost
  by_cases hn : n < 0
  · rw [List.filter_cons, if_pos (decide_eq_true hn), List.sum_cons]
    omega
  · rw [List.filter_cons, if_neg (by simpa using hn)]
    omega

/-- A sum of some of the numbers lies between the loss and the gain of all. -/
theorem sum_between {l ns : List Int} (h : l.Sublist ns) : lost ns ≤ l.sum ∧ l.sum ≤ gained ns := by
  induction h with
  | slnil => exact ⟨Int.le_refl 0, Int.le_refl 0⟩
  | cons n _ ih =>
    rw [gained_cons, lost_cons]
    omega
  | cons_cons n _ ih =>
    rw [gained_cons, lost_cons, List.sum_cons]
    omega

/-- A total stays in the range whatever the order, if the gain and the
loss alone do. -/
theorem StaysInRange.of_parts {ns : List Int} (hg : inRange64 (gained ns) = true)
    (hl : inRange64 (lost ns) = true) : StaysInRange 0 ns := by
  intro l hprefix
  have hsum := sum_between hprefix.sublist
  simp only [inRange64, decide_eq_true_eq] at hg hl ⊢
  omega

/-- From a total in the range one of the numbers leads to a total in the
range, if all of them together do: one against the sign of the total if
there is one, and any of them otherwise. -/
theorem exists_step {total : Int} {ns : List Int} (hne : ns ≠ [])
    (ht : inRange64 total = true) (hns : ∀ n ∈ ns, inRange64 n = true)
    (hsum : inRange64 (total + ns.sum) = true) : ∃ n ∈ ns, inRange64 (total + n) = true := by
  have hmin : Int64.minValue.toInt < 0 := by decide
  have hmax : 0 < Int64.maxValue.toInt := by decide
  obtain ⟨m, hm⟩ := List.exists_mem_of_ne_nil ns hne
  have hbetween := sum_between (List.singleton_sublist.2 hm)
  rw [List.sum_singleton] at hbetween
  simp only [inRange64, decide_eq_true_eq] at ht hns hsum ⊢
  by_cases hsign : 0 ≤ total
  · by_cases hdown : ∃ n ∈ ns, n < 0
    · obtain ⟨n, hn, hlt⟩ := hdown
      have hrange := hns n hn
      exact ⟨n, hn, by omega, by omega⟩
    · -- It only goes up, so no total on the way is above the last one.
      have hall : gained ns = ns.sum := by
        rw [gained, List.filter_eq_self.2 fun n hn => by simpa using fun h => hdown ⟨n, hn, h⟩]
      have hup : 0 ≤ m := Int.not_lt.1 fun h => hdown ⟨m, hm, h⟩
      exact ⟨m, hm, by omega, by omega⟩
  · by_cases hup : ∃ n ∈ ns, 0 ≤ n
    · obtain ⟨n, hn, hle⟩ := hup
      have hrange := hns n hn
      exact ⟨n, hn, by omega, by omega⟩
    · have hall : lost ns = ns.sum := by
        rw [lost, List.filter_eq_self.2 fun n hn => by simpa using fun h => hup ⟨n, hn, h⟩]
      have hdown : m < 0 := Int.not_le.1 fun h => hup ⟨m, hm, h⟩
      exact ⟨m, hm, by omega, by omega⟩

/-! ## One name -/

namespace Update

/-- What updates add to a counter, one delta after the other. -/
def deltas (us : List Update) (k : String) : List Int := us.filterMap fun u => u.adds? k

/-- What updates set a gauge to, one value after the other. -/
def values (us : List Update) (k : String) : List Binary64 := us.filterMap fun u => u.sets? k

/-- Whether updates can be folded. -/
def Foldable (us : List Update) : Prop := ∃ d, Delta.ofUpdates us = .ok d

theorem deltas_cons (u : Update) (us : List Update) (k : String) :
    deltas (u :: us) k = (u.adds? k).toList ++ deltas us k := by
  unfold deltas
  rw [List.filterMap_cons]
  cases u.adds? k <;> rfl

theorem values_cons (u : Update) (us : List Update) (k : String) :
    values (u :: us) k = (u.sets? k).toList ++ values us k := by
  unfold values
  rw [List.filterMap_cons]
  cases u.sets? k <;> rfl

/-- What is added to a counter is the sum of its deltas, if it has any. -/
theorem added?_eq (us : List Update) (k : String) :
    added? us k = if deltas us k = [] then none else some (deltas us k).sum := by
  induction us with
  | nil => rfl
  | cons u us ih =>
    rw [added?_cons, ih, deltas_cons]
    cases u.adds? k with
    | none => rw [none_joined, Option.toList_none, List.nil_append]
    | some n =>
      by_cases h : deltas us k = []
      · simp [h]
      · simp [h]

/-- The last value of a gauge is the last of its values. -/
theorem lastSet?_eq (us : List Update) (k : String) : lastSet? us k = (values us k).getLast? := by
  unfold lastSet? values
  rw [List.getLast?_eq_head?_reverse, ← List.filterMap_reverse, List.head?_filterMap]

end Update

open Update (deltas values Foldable)

/-! ## What is folded -/

namespace Delta

/-- A folded update moves one total by its delta. -/
theorem total_apply {d e : Delta} {u : Update} (h : d.apply u = .ok e) (k : String) :
    (e.counters.total k).toInt = (d.counters.total k).toInt + (u.adds? k).getD 0 := by
  rw [Table.toInt_total, Table.toInt_total, apply_counts h k]
  cases u.adds? k with
  | none => rw [joined_none, Option.getD_none, Int.add_zero]
  | some n => rw [joined_some, Option.getD_some, Option.getD_some]

/-- An update that keeps all totals in the range is folded. -/
theorem apply_of_inRange {d : Delta} {u : Update}
    (h : ∀ k, inRange64 ((d.counters.total k).toInt + (u.adds? k).getD 0) = true) :
    ∃ e, d.apply u = .ok e := by
  obtain ⟨id, sample⟩ := u
  cases sample with
  | gauge x => exact ⟨_, rfl⟩
  | counter delta =>
    have hrange : inRange64 ((d.counters.total id).toInt + delta.toInt) = true := by
      have hid := h id
      rwa [show Update.adds? ⟨id, .counter delta⟩ id = some delta.toInt from if_pos rfl] at hid
    have hadd := (Table.add_ok_iff d.counters _ id delta _).2 ⟨toInt_ofInt_of_inRange hrange, rfl⟩
    unfold apply
    simp only [hadd, Except.ok.injEq]
    exact ⟨_, rfl⟩

/-- Updates are folded onto a delta as long as every total stays in the
range. -/
theorem applyAll_ok_iff (d : Delta) (us : List Update) :
    (∃ d', d.applyAll us = .ok d') ↔
      ∀ k, StaysInRange (d.counters.total k).toInt (deltas us k) := by
  induction us generalizing d with
  | nil =>
    exact ⟨fun _ k => StaysInRange.nil_iff.2 (inRange64_toInt _), fun _ => ⟨d, rfl⟩⟩
  | cons u us ih =>
    have hstep : ∀ k, StaysInRange (d.counters.total k).toInt (deltas (u :: us) k) ↔
        StaysInRange ((d.counters.total k).toInt + (u.adds? k).getD 0) (deltas us k) := fun k => by
      rw [Update.deltas_cons]
      exact StaysInRange.toList_append_iff (inRange64_toInt _)
    simp only [ofUpdates_cons, hstep]
    constructor
    · rintro ⟨d', e, he, hrest⟩ k
      rw [← total_apply he k]
      exact (ih e).1 ⟨d', hrest⟩ k
    · intro hall
      obtain ⟨e, he⟩ := apply_of_inRange fun k => (hall k).first
      obtain ⟨d', hd'⟩ := (ih e).2 fun k => by
        rw [total_apply he k]
        exact hall k
      exact ⟨d', e, he, hd'⟩

end Delta

/-- **Updates are folded exactly if no running total leaves the range.** -/
theorem Update.foldable_iff (us : List Update) :
    Foldable us ↔ ∀ k, StaysInRange 0 (deltas us k) := by
  have hzero : ∀ k, (Delta.empty.counters.total k).toInt = 0 := fun k => by
    rw [Table.toInt_total, show Delta.empty.counters = ∅ from rfl, Table.count?_empty]
    rfl
  have hall := Delta.applyAll_ok_iff .empty us
  simp only [hzero] at hall
  exact hall

/-! ## Reordering -/

namespace Update

/-- The same updates in another order, in which those of one gauge keep
theirs. -/
structure Reordered (us vs : List Update) : Prop where
  perm : us.Perm vs
  values : ∀ k, values us k = values vs k

/-- Whether the order of updates cannot matter: some counter leaves the
range in the end, or none would leave it even if all its gains, or all its
losses, came first. -/
def OrderFree (us : List Update) : Prop :=
  (∃ k, inRange64 (deltas us k).sum = false) ∨
    ∀ k, inRange64 (gained (deltas us k)) = true ∧ inRange64 (lost (deltas us k)) = true

namespace Reordered

variable {us vs ws : List Update}

theorem refl (us : List Update) : Reordered us us := ⟨List.Perm.refl us, fun _ => rfl⟩

theorem trans (h : Reordered us vs) (h' : Reordered vs ws) : Reordered us ws :=
  ⟨h.perm.trans h'.perm, fun k => (h.values k).trans (h'.values k)⟩

theorem cons (u : Update) (h : Reordered us vs) : Reordered (u :: us) (u :: vs) where
  perm := h.perm.cons u
  values k := by rw [values_cons, values_cons, h.values]

theorem deltas (h : Reordered us vs) (k : String) : (deltas us k).Perm (deltas vs k) :=
  h.perm.filterMap _

/-- **Orders that are folded fold to one delta.** -/
theorem fold_eq {d e : Delta} (h : Reordered us vs) (hd : Delta.ofUpdates us = .ok d)
    (he : Delta.ofUpdates vs = .ok e) : d = e := by
  have hgauges : d.gauges = e.gauges := by
    apply Table.ext_get?
    intro k
    rw [Delta.ofUpdates_lastSet hd, Delta.ofUpdates_lastSet he, lastSet?_eq, lastSet?_eq, h.values]
  have hcounters : d.counters = e.counters := by
    apply Table.ext_count?
    intro k
    have hnil : Update.deltas us k = [] ↔ Update.deltas vs k = [] :=
      ⟨fun hus => (hus ▸ h.deltas k).nil_eq.symm, fun hvs => (hvs ▸ h.deltas k).eq_nil⟩
    rw [Delta.ofUpdates_added hd, Delta.ofUpdates_added he, added?_eq, added?_eq,
      (h.deltas k).sum_eq, if_congr hnil rfl rfl]
  cases d
  cases e
  simp only at hgauges hcounters
  rw [hgauges, hcounters]

end Reordered

/-! ## An order that is folded -/

/-- An update of a counter can be made before all others. -/
theorem Reordered.front {us : List Update} {u : Update} (hu : u ∈ us)
    (hnone : ∀ k, u.sets? k = none) : Reordered us (u :: us.erase u) where
  perm := List.perm_cons_erase hu
  values k := by
    rw [values_cons, hnone, Option.toList_none, List.nil_append]
    induction us with
    | nil => exact absurd hu (by simp)
    | cons v us ih =>
      by_cases hv : v = u
      · rw [hv, List.erase_cons_head, values_cons, hnone]
        rfl
      · have hmem : u ∈ us := by simpa [Ne.symm hv] using hu
        rw [List.erase_cons_tail (by simpa using hv), values_cons, values_cons, ih hmem]

theorem inRange64_of_mem_deltas {us : List Update} {k : String} {n : Int} (h : n ∈ deltas us k) :
    inRange64 n = true := by
  obtain ⟨u, -, hadds⟩ := List.mem_filterMap.1 h
  unfold adds? at hadds
  split at hadds
  · exact absurd hadds (by simp)
  · split at hadds
    · rw [← Option.some.inj hadds]
      exact inRange64_toInt _
    · exact absurd hadds (by simp)

/-- If all sums are in the range, there is a first update that leaves it
so. -/
theorem exists_front {d : Delta} {us : List Update} (hne : us ≠ [])
    (hsum : ∀ k, inRange64 ((d.counters.total k).toInt + (deltas us k).sum) = true) :
    ∃ u vs e, Reordered us (u :: vs) ∧ d.apply u = .ok e := by
  cases us with
  | nil => exact absurd rfl hne
  | cons u us =>
    cases hs : u.sample with
    | gauge x =>
      -- A gauge that comes first stays first.
      refine ⟨u, us, { d with gauges := d.gauges.set u.id x }, .refl _, ?_⟩
      simp only [Delta.apply, hs]
    | counter delta =>
      have hadds : u.adds? u.id = some delta.toInt := by
        simp only [adds?, hs, if_true]
      have hdeltas : deltas (u :: us) u.id ≠ [] := by
        rw [deltas_cons, hadds]
        exact List.cons_ne_nil _ _
      obtain ⟨n, hn, hrange⟩ := exists_step hdeltas (inRange64_toInt _)
        (fun n hn => inRange64_of_mem_deltas hn) (hsum u.id)
      obtain ⟨v, hv, hvn⟩ := List.mem_filterMap.1 hn
      have hcounter : (∀ k, v.sets? k = none) ∧ ∀ k, u.id ≠ k → v.adds? k = none := by
        unfold adds? at hvn
        unfold sets? adds?
        split at hvn
        · exact absurd hvn (by simp)
        · split at hvn
          · next hid =>
            exact ⟨fun k => rfl, fun k hk => if_neg (hid ▸ hk)⟩
          · exact absurd hvn (by simp)
      obtain ⟨e, he⟩ := Delta.apply_of_inRange (d := d) (u := v) fun k => by
        by_cases hk : u.id = k
        · rw [← hk, hvn]
          exact hrange
        · rw [hcounter.2 k hk, Option.getD_none, Int.add_zero]
          exact inRange64_toInt _
      exact ⟨v, _, e, .front hv hcounter.1, he⟩

/-- Updates whose sums are in the range can be folded in some order. -/
theorem exists_applyAll (d : Delta) (us : List Update)
    (hsum : ∀ k, inRange64 ((d.counters.total k).toInt + (deltas us k).sum) = true) :
    ∃ vs e, Reordered us vs ∧ d.applyAll vs = .ok e := by
  -- By induction on how many updates are left, as the first one may be anywhere.
  obtain ⟨n, hn⟩ : ∃ n, us.length = n := ⟨_, rfl⟩
  induction n generalizing d us with
  | zero =>
    rw [List.length_eq_zero_iff.1 hn]
    exact ⟨[], d, .refl _, rfl⟩
  | succ n ih =>
    have hne : us ≠ [] := fun h => by rw [h] at hn; exact absurd hn (by simp)
    obtain ⟨u, vs, e, hfront, he⟩ := exists_front hne hsum
    have hlength : vs.length = n := by
      have hperm := hfront.perm.length_eq
      rw [List.length_cons] at hperm
      omega
    have hrest : ∀ k, inRange64 ((e.counters.total k).toInt + (deltas vs k).sum) = true := by
      intro k
      have hk := hsum k
      rw [(hfront.deltas k).sum_eq, deltas_cons, List.sum_append] at hk
      rw [Delta.total_apply he k, Int.add_assoc]
      cases hu : u.adds? k <;> rw [hu] at hk <;> simpa using hk
    obtain ⟨ws, f, hreordered, hf⟩ := ih e vs hrest hlength
    exact ⟨u :: ws, f, hfront.trans (hreordered.cons u), (Delta.ofUpdates_cons _ _ _ _).2 ⟨e, he, hf⟩⟩

/-- **There is an order that is folded, if all sums are in the range.** -/
theorem exists_foldable {us : List Update}
    (hsum : ∀ k, inRange64 (deltas us k).sum = true) : ∃ vs, Reordered us vs ∧ Foldable vs := by
  obtain ⟨vs, e, hreordered, he⟩ := exists_applyAll .empty us fun k => by
    rw [Table.toInt_total, show Delta.empty.counters = ∅ from rfl, Table.count?_empty,
      Option.getD_none, Int.zero_add]
    exact hsum k
  exact ⟨vs, hreordered, e, he⟩

/-! ## An order that is refused -/

/-- Some updates of counters can be made before all others. -/
theorem Reordered.partition (us : List Update) (p : Update → Bool)
    (hp : ∀ u ∈ us, p u = true → ∀ k, u.sets? k = none) :
    Reordered us (us.filter p ++ us.filter fun u => !p u) where
  perm := (List.filter_append_perm p us).symm
  values k := by
    unfold Update.values
    have hnone : (us.filter p).filterMap (fun u => u.sets? k) = [] := by
      rw [List.filterMap_eq_nil_iff]
      intro u hu
      obtain ⟨hmem, hpu⟩ := List.mem_filter.1 hu
      exact hp u hmem hpu k
    rw [List.filterMap_append, hnone, List.nil_append, List.filterMap_filter]
    apply List.filterMap_congr
    intro u hu
    by_cases h : p u = true
    · simp [h, hp u hu h k]
    · simp [h]

/-- If some of the deltas of a counter leave the range, so does the order
in which they come first. -/
theorem exists_refused {us : List Update} {k : String} (p : Int → Bool)
    (h : inRange64 ((deltas us k).filter p).sum = false) :
    ∃ vs, Reordered us vs ∧ ¬ Foldable vs := by
  let first : Update → Bool := fun u => (u.adds? k).any p
  have hcounter : ∀ u ∈ us, first u = true → ∀ k, u.sets? k = none := by
    intro u _ hu k'
    simp only [first, adds?] at hu
    unfold sets?
    split at hu
    · exact absurd hu (by simp)
    · rfl
  refine ⟨_, .partition us first hcounter, fun hfold => ?_⟩
  have hfront : deltas (us.filter first) k = (deltas us k).filter p := by
    unfold deltas
    rw [List.filterMap_filter, List.filter_filterMap]
    apply List.filterMap_congr
    intro u _
    cases hu : u.adds? k <;> simp [first, hu, Option.filter]
  have hprefix : (deltas us k).filter p <+:
      deltas (us.filter first ++ us.filter fun u => !first u) k := by
    rw [← hfront]
    unfold deltas
    rw [List.filterMap_append]
    exact List.prefix_append _ _
  have hrange := (foldable_iff _).1 hfold k _ hprefix
  rw [Int.zero_add, h] at hrange
  exact absurd hrange (by simp)

/-! ## When the order does not matter -/

theorem Reordered.orderFree {us vs : List Update} (h : Reordered us vs) (hfree : OrderFree us) :
    OrderFree vs := by
  unfold OrderFree at hfree ⊢
  simpa only [gained, lost, (h.deltas _).sum_eq, ((h.deltas _).filter _).sum_eq] using hfree

/-- Updates whose order is free are folded exactly if the sums are in the
range. -/
theorem OrderFree.foldable_iff {us : List Update} (h : OrderFree us) :
    Foldable us ↔ ∀ k, inRange64 (deltas us k).sum = true := by
  rw [Update.foldable_iff]
  constructor
  · intro hstays k
    have hlast := (hstays k).last
    rwa [Int.zero_add] at hlast
  · intro hsum
    rcases h with ⟨k, hk⟩ | hparts
    · rw [hsum k] at hk
      exact absurd hk (by simp)
    · exact fun k => .of_parts (hparts k).1 (hparts k).2

/-- **All orders of updates are folded or all are refused exactly if the
order is free.** -/
theorem orderFree_iff (us : List Update) :
    OrderFree us ↔ ∀ vs, Reordered us vs → (Foldable us ↔ Foldable vs) := by
  constructor
  · intro h vs hvs
    rw [h.foldable_iff, (hvs.orderFree h).foldable_iff]
    simp only [(hvs.deltas _).sum_eq]
  · intro hall
    by_cases hsum : ∃ k, inRange64 (deltas us k).sum = false
    · exact .inl hsum
    · -- One order is folded, so all are, also those with the gains or the losses first.
      have hin : ∀ k, inRange64 (deltas us k).sum = true := fun k =>
        Bool.not_eq_false _ ▸ fun hk => hsum ⟨k, hk⟩
      obtain ⟨vs, hvs, hfold⟩ := exists_foldable hin
      have hus : Foldable us := (hall vs hvs).2 hfold
      have hpart : ∀ (k : String) (p : Int → Bool), inRange64 ((deltas us k).filter p).sum = true := by
        intro k p
        by_contra hp
        obtain ⟨ws, hws, hrefused⟩ := exists_refused p (Bool.eq_false_iff.2 hp)
        exact hrefused ((hall ws hws).1 hus)
      exact .inr fun k => ⟨hpart k _, hpart k _⟩

end Update

end Meterbank
