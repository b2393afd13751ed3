/-
  Meterbank.Proofs.Store.Serial — batches that are written one after another.

  What batches make of the tables of a database depends on their updates
  alone: a gauge has the last value that is written to it, and a counter
  grows by the exact sum of what is added to it.  It makes no difference
  whether the updates are folded batch by batch, or window by window.

  Main results:
    * `Updated.unique` — updates make one thing of the tables.
    * `Applied.updated` — deltas that were folded from updates.
    * `Shows.writeBatches` — batches that are written one after another.
-/
import Meterbank.Proofs.Store.Histories
import Meterbank.Proofs.Updates
import Meterbank.Store.Batching

namespace Meterbank

open Meterbank.Table (joined joined_none joined_assoc)
open Meterbank.Crowd (Applied)

/-! ## Updates of batches -/

namespace Batch

/-- The updates a batch asks for, if it is accepted. -/
def updates (b : Batch) : List Update :=
  match b.validate with
  | .ok us => us
  | .error _ => []

theorem updates_of_validate {b : Batch} {us : List Update} (h : b.validate = .ok us) :
    b.updates = us := by
  rw [updates, h]

/-- Only an empty batch is accepted and asks for nothing. -/
theorem validate_eq_nil_iff (b : Batch) : b.validate = .ok [] ↔ b.metrics = [] := by
  obtain ⟨metrics⟩ := b
  constructor
  · intro h
    exact List.length_eq_zero_iff.1 (length_validate 0 metrics [] h).symm
  · rintro rfl
    rfl

end Batch

/-! ## Tables that were updated -/

/-- What tables have become by updates, each of them made once and in this
order.  A database keeps no sign of a zero. -/
structure Updated (g₀ : Table Binary64) (c₀ : Table Int64) (us : List Update)
    (g : Table Binary64) (c : Table Int64) : Prop where
  gauges : ∀ k, g.get? k = ((Update.lastSet? us k).map Binary64.unsignedZero).or (g₀.get? k)
  counters : ∀ k, c.count? k = joined (c₀.count? k) (Update.added? us k)

namespace Updated

variable {g₀ g g' : Table Binary64} {c₀ c c' : Table Int64} {us vs : List Update}

theorem nothing : Updated g₀ c₀ [] g₀ c₀ where
  gauges _ := rfl
  counters _ := (joined_none _).symm

theorem append (h : Updated g₀ c₀ us g c) (h' : Updated g c vs g' c') :
    Updated g₀ c₀ (us ++ vs) g' c' where
  gauges k := by
    rw [h'.gauges, h.gauges, Update.lastSet?_append, Option.map_or, Option.or_assoc]
  counters k := by
    rw [h'.counters, h.counters, Update.added?_append, joined_assoc]

/-- **Updates make one thing of the tables.** -/
theorem unique (h : Updated g₀ c₀ us g c) (h' : Updated g₀ c₀ us g' c') : g = g' ∧ c = c' :=
  ⟨Table.ext_get? fun k => by rw [h.gauges, h'.gauges],
    Table.ext_count? fun k => by rw [h.counters, h'.counters]⟩

end Updated

/-- **Deltas that were folded from updates do what the updates do.** -/
theorem Crowd.Applied.updated {α : Type} {us : α → List Update} {d : α → Delta} {l : List α}
    {g₀ g : Table Binary64} {c₀ c : Table Int64}
    (h : Applied g₀ c₀ (l.map d) g c) (hd : ∀ x ∈ l, Delta.ofUpdates (us x) = .ok (d x)) :
    Updated g₀ c₀ (l.flatMap us) g c where
  gauges k := by rw [h.gauges, Delta.lastGauge?_map hd]
  counters k := by rw [h.counters, Delta.sumCounter?_map hd]

/-! ## One batch after another -/

namespace SqlStore.Shows

variable {s s' : SqlStore} {g : Table Binary64} {c : Table Int64}

/-- A batch that was written with success has made its updates. -/
theorem writeBatch_updated (h : s.Shows g c) {b : Batch} (hok : s.writeBatch b = (.ok (), s')) :
    ∃ g' c', s'.Shows g' c' ∧ Updated g c b.updates g' c' := by
  rcases h.writeBatch b with ⟨e, he, -⟩ | ⟨us, d, c', hb, hd, -, hadd, hshows⟩
  · rw [hok] at he
    exact absurd he (by simp)
  · rw [hok] at hshows
    -- A delta is the merge of itself.
    have hmerge : d.IsMergeOf [d] :=
      ⟨fun k => (Delta.lastGauge?_singleton d k).symm, fun k => (joined_none _).symm⟩
    have happlied : Applied g c ([us].map fun _ => d) _ c' := Applied.nothing.append hmerge hadd
    have hupdated : Updated g c ([us].flatMap id) _ c' := happlied.updated (by simpa using hd)
    rw [List.flatMap_singleton, id_eq, ← Batch.updates_of_validate hb] at hupdated
    exact ⟨_, c', hshows, hupdated⟩

/-- **Batches that were written one after another, all with success.** -/
theorem writeBatches (h : s.Shows g c) {bs : List Batch}
    (hok : s.writeBatches bs = (.ok (), s')) :
    ∃ g' c', s'.Shows g' c' ∧ Updated g c (bs.flatMap Batch.updates) g' c' := by
  induction bs generalizing s g c with
  | nil =>
    obtain ⟨-, rfl⟩ := Prod.mk.inj hok
    exact ⟨g, c, h, .nothing⟩
  | cons b bs ih =>
    rw [SqlStore.writeBatches] at hok
    cases hw : s.writeBatch b with
    | mk answer after =>
      rw [hw] at hok
      cases answer with
      | error e => exact absurd (Prod.mk.inj hok).1 (by simp)
      | ok u =>
        obtain ⟨g₁, c₁, hshows, hfirst⟩ := h.writeBatch_updated hw
        obtain ⟨g₂, c₂, hafter, hrest⟩ := ih hshows hok
        exact ⟨g₂, c₂, hafter, hfirst.append hrest⟩

end SqlStore.Shows

end Meterbank
