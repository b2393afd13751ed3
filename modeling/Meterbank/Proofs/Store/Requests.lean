/-
  Meterbank.Proofs.Store.Requests — what a client is told, and what the tables hold.

  The updates of a request are applied if it was answered with success,
  and none of them if it was not.  So the tables of a store in memory hold
  what all updates come to that its client was told to be applied; and so
  do those of every store that looks like it.

  Main results:
    * `perform_applied` — an answer tells what was applied.
    * `Tallies.applyAll` — the tables hold what updates come to.
    * `Store.Alike.take` — the same of a facade that looks like a store in
      memory.
-/
import Meterbank.Proofs.Store.Agreement
import Meterbank.Proofs.Store.Snapshots
import Meterbank.Proofs.Updates
import Meterbank.Store.Sessions

namespace Meterbank

open Meterbank.Table (joined joined_none none_joined joined_assoc)

/-! ## Requests -/

/-- The update of an accepted metric has a name. -/
theorem Metric.named_of_validate {m : Metric} {u : Update} (h : m.validate = .ok u) :
    u.id ≠ "" := by
  have hagain := validate_toMetric m u h
  have hid : u.toMetric.id = u.id := by
    unfold Update.toMetric
    split <;> rfl
  rintro hempty
  rw [hempty] at hid
  unfold validate at hagain
  rw [hid, if_pos (by decide)] at hagain
  exact absurd hagain (by simp)

namespace Request

theorem updates_writeData {m : Metric} {u : Update} (h : m.validate = .ok u) :
    (writeData m).updates = [u] := by
  simp only [updates, h]

theorem updates_writeBatch {b : Batch} {us : List Update} (h : b.validate = .ok us) :
    (writeBatch b).updates = us := by
  simp only [updates, h]

/-- What holds of the update of every accepted metric holds of those of a request. -/
theorem forall_updates {P : Update → Prop}
    (hP : ∀ {m : Metric} {u : Update}, m.validate = .ok u → P u) (r : Request) :
    ∀ u ∈ r.updates, P u := by
  cases r with
  | writeData m =>
    cases hm : m.validate with
    | error e => simp [updates, hm]
    | ok u =>
      rw [updates_writeData hm]
      exact List.forall_mem_singleton.2 (hP hm)
  | writeBatch b =>
    cases hb : b.validate with
    | error e => simp [updates, hb]
    | ok us =>
      rw [updates_writeBatch hb]
      exact Batch.forall_of_validateFrom hP hb
  | _ => simp [updates]

/-- A request that is not for the tables asks for no updates. -/
theorem updates_of_not_contract {r : Request} (h : r.call.isContract = false) : r.updates = [] := by
  cases r with
  | dump => rfl
  | ping => rfl
  | _ => exact absurd h (by simp [call, Store.Call.isContract])

end Request

/-! ## Updates that were applied -/

namespace FileStore

variable {f f' : FileStore} {us vs : List Update}

/-- Applied updates are added to the counters, and replace the gauges. -/
theorem applyAll_updates (h : f.applyAll us = .ok f') (k : String) :
    f'.counters.count? k = joined (f.counters.count? k) (Update.added? us k) ∧
      f'.gauges.get? k = (Update.lastSet? us k).or (f.gauges.get? k) := by
  unfold applyAll at h
  split at h
  · next d hd =>
    unfold applyDelta at h
    split at h
    · next counters hadd =>
      rw [← Except.ok.inj h]
      refine ⟨?_, ?_⟩
      · rw [← Delta.ofUpdates_added hd]
        exact (Table.addAll_eq_ok_iff _ _ _).1 hadd k
      · rw [← Delta.ofUpdates_lastSet hd]
        exact Table.get?_setAll f.gauges d.gauges k
    · exact absurd h (by simp)
  · exact absurd h (by simp)

/-- The tables hold what updates come to: each counter the exact sum of what is added to it, each
gauge the last value that it is given, and nothing else. -/
structure Tallies (f : FileStore) (us : List Update) : Prop where
  counters : ∀ k, f.counters.count? k = Update.added? us k
  gauges : ∀ k, f.gauges.get? k = Update.lastSet? us k

theorem create_tallies (path : String) (sync : Bool) : (create path sync).Tallies [] :=
  ⟨Table.count?_empty, Table.get?_empty⟩

/-- **The tables go on to hold what updates come to.** -/
theorem Tallies.applyAll (h : f.Tallies us) (hv : f.applyAll vs = .ok f') :
    f'.Tallies (us ++ vs) where
  counters k := by rw [(applyAll_updates hv k).1, h.counters, Update.added?_append]
  gauges k := by rw [(applyAll_updates hv k).2, h.gauges, Update.lastSet?_append]

/-- **An answer tells what was applied**: the updates of a request that has succeeded, and nothing
if it has failed. -/
theorem perform_applied (r : Request) (p : State) :
    p.1.applyAll (if (operations.perform r.call p).1.isOk then r.updates else []) =
      .ok (operations.perform r.call p).2.1 := by
  cases r with
  | writeData m =>
    show p.1.applyAll (if (Store.wrap .metric (writeData m p)).1.isOk then _ else []) =
      .ok (writeData m p).2.1
    unfold FileStore.writeData
    cases hm : m.validate with
    | error e => exact p.1.applyAll_nil
    | ok u =>
      simp only [apply_eq, Request.updates_writeData hm]
      obtain ⟨applied, happly⟩ : ∃ applied, p.1.applyAll [u] = applied := ⟨_, rfl⟩
      cases applied with
      | error e =>
        simp only [happly]
        exact p.1.applyAll_nil
      | ok f' =>
        simp only [happly]
        exact happly
  | writeBatch b =>
    show p.1.applyAll (if (Store.wrap (fun _ => .nothing) (writeBatch b p)).1.isOk then _ else []) =
      .ok (writeBatch b p).2.1
    unfold FileStore.writeBatch
    cases hb : b.validate with
    | error e => exact p.1.applyAll_nil
    | ok us =>
      rw [Request.updates_writeBatch hb]
      obtain ⟨applied, happly⟩ : ∃ applied, p.1.applyAll us = applied := ⟨_, rfl⟩
      cases applied with
      | error e =>
        simp only [happly]
        exact p.1.applyAll_nil
      | ok f' =>
        simp only [happly]
        exact happly
  | readData q =>
    have hstate : (operations.readData q p).2 = p :=
      Store.readData_keeps (P := (· = p)) rfl (fun _ => rfl) (fun _ => rfl) q
    show p.1.applyAll (if _ then [] else []) = .ok (operations.readData q p).2.1
    rw [ite_self, hstate]
    exact p.1.applyAll_nil
  | dump =>
    show p.1.applyAll (if _ then [] else []) = .ok (operations.dump p).2.1
    rw [ite_self]
    simp only [operations]
    split <;> exact p.1.applyAll_nil
  | _ =>
    show p.1.applyAll (if _ then [] else []) = .ok p.1
    rw [ite_self]
    exact p.1.applyAll_nil

end FileStore

/-! ## Facades that look like a store in memory -/

namespace Store

variable {R : FileStore.State → Facade.State → Prop} {p : FileStore.State} {q : Facade.State}

/-- **A facade that looks like a store in memory tells what it has applied**, as that does. -/
theorem Alike.take (h : Alike FileStore.operations Facade.operations R) (hR : R p q) {r : Request}
    (hr : r.call.isContract = true) :
    R (FileStore.operations.perform r.call p).2 (Facade.take q (.request r)).2 ∧
      p.1.applyAll (Facade.take q (.request r)).1 =
        .ok (FileStore.operations.perform r.call p).2.1 := by
  have happlied := FileStore.perform_applied r p
  have hagree := h.perform hR hr
  unfold Facade.take
  simp only
  rcases hagree.cases with ⟨a, a', s, t, hp, hq, -, hR'⟩ | ⟨e, e', s, t, hp, hq, -, hR'⟩
  · rw [hp] at happlied ⊢
    rw [hq]
    exact ⟨hR', happlied⟩
  · rw [hp] at happlied ⊢
    rw [hq]
    exact ⟨hR', happlied⟩

/-- It shows the tables of the store in memory, gauges being numbers. -/
theorem Alike.tables (h : Alike FileStore.operations Facade.operations R) (hR : R p q) :
    (Facade.operations.readCounters [] q).1 = .ok p.1.counters ∧
      ∃ gauges, (Facade.operations.readGauges [] q).1 = .ok gauges ∧
        gauges.unsigned = p.1.gauges.unsigned := by
  obtain ⟨hcounters, -⟩ := h.readCounters hR []
  obtain ⟨hgauges, -⟩ := h.readGauges hR []
  constructor
  · cases hq : (Facade.operations.readCounters [] q).1 with
    | error e =>
      rw [hq] at hcounters
      exact absurd hcounters (by simp [outline, FileStore.operations, Table.select])
    | ok counters =>
      rw [hq] at hcounters
      exact congrArg Except.ok (Except.ok.inj hcounters).symm
  · cases hq : (Facade.operations.readGauges [] q).1 with
    | error e =>
      rw [hq] at hgauges
      exact absurd hgauges (by simp [outline, FileStore.operations, Table.select])
    | ok gauges =>
      rw [hq] at hgauges
      exact ⟨gauges, rfl, (Except.ok.inj hgauges).symm⟩

end Store

end Meterbank
