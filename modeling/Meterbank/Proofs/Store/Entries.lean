/-
  Meterbank.Proofs.Store.Entries — a batch means the same as its entries.

  A store folds a batch before it writes anything; entries that are
  written one by one are added up in the tables.  Near the limits the one
  may be accepted where the other is not.  But when both are accepted they
  end in the same tables, as each entry has a share in one gauge or one
  counter, whoever adds the shares up.

  A store over a database may fail.  It then says so and keeps its tables;
  everything else that it answers is said of it as of tables in memory.

  Main results:
    * `AppliesUpdates.alone` — what entries lead to one by one.
    * `AppliesUpdates.settlesBatch` — what a batch is answered with, and
      what it leads to.
    * `FileStore.appliesUpdates`, `SqlStore.appliesUpdates` — the stores.
    * `batch_means_entries` — all of it.
-/
import Meterbank.Proofs.Entries
import Meterbank.Proofs.Sql.Failing
import Meterbank.Proofs.Store.Agreement
import Meterbank.Proofs.Store.Showing

namespace Meterbank

open Meterbank.Sql
open Meterbank.Update (Leads)

/-! ## Stores that apply updates -/

section

variable {σ : Type}

/-- What a store does with a batch in a state that holds tables. -/
structure Store.SettlesBatch (S : Store σ) (Holds : σ → Table Binary64 → Table Int64 → Prop) (s : σ)
    (g : Table Binary64) (c : Table Int64) (b : Batch) : Prop where
  accepted : (S.writeBatch b s).1 = .ok () ↔ b.Acceptable c
  /-- What is refused is refused as invalid, and changes nothing. -/
  refused : ∀ e, (S.writeBatch b s).1 = .error e → e.IsInvalid ∧ Holds (S.writeBatch b s).2 g c
  /-- What is accepted is applied, and entries that are all accepted one by
  one end in the same tables. -/
  applied : (S.writeBatch b s).1 = .ok () → ∃ g' c', b.Applied g c g' c' ∧
    Holds (S.writeBatch b s).2 g' c' ∧
      ((∀ answer ∈ (S.performAll (b.metrics.map .writeData) s).1, ∃ payload, answer = .ok payload) →
        Holds (S.performAll (b.metrics.map .writeData) s).2 g' c')

/-- What is known of a store that keeps gauges in its own way and fails
only with some errors. -/
structure Store.AppliesUpdates (S : Store σ) (Holds : σ → Table Binary64 → Table Int64 → Prop)
    (keep : Binary64 → Binary64) (fails : StoreError → Prop) : Prop where
  sameNumber : ∀ x, x.isFinite = true → (keep x).sameNumber x = true
  written : ∀ {s g c m written}, Holds s g c → (S.writeData m s).1 = .ok written →
    ∃ u g' c', m.validate = .ok u ∧ Leads keep [u] g c g' c' ∧ Holds (S.writeData m s).2 g' c'
  batch : ∀ {s g c b}, Holds s g c → (S.writeBatch b s).1 = .ok () →
    b.Acceptable c ∧ ∃ us g' c', b.validate = .ok us ∧ Leads keep us g c g' c' ∧
      Holds (S.writeBatch b s).2 g' c'
  refused : ∀ {s g c b e}, Holds s g c → (S.writeBatch b s).1 = .error e →
    Holds (S.writeBatch b s).2 g c ∧ (fails e ∨ e.IsInvalid ∧ ¬ b.Acceptable c)

namespace Store.AppliesUpdates

variable {S : Store σ} {Holds : σ → Table Binary64 → Table Int64 → Prop}
  {keep : Binary64 → Binary64} {fails : StoreError → Prop} {s : σ} {g : Table Binary64}
  {c : Table Int64}

/-- **Entries that are all accepted one by one lead where their updates
lead.** -/
theorem alone (hS : S.AppliesUpdates Holds keep fails) (h : Holds s g c) {ms : List Metric}
    (hall : ∀ answer ∈ (S.performAll (ms.map .writeData) s).1, ∃ payload, answer = .ok payload) :
    ∃ us g' c', List.Forall₂ (fun m u => m.validate = .ok u) ms us ∧ Leads keep us g c g' c' ∧
      Holds (S.performAll (ms.map .writeData) s).2 g' c' := by
  -- The tables move with the state, and what the entries lead to is appended.
  induction ms generalizing s g c with
  | nil => exact ⟨[], g, c, .nil, .nil keep g c, h⟩
  | cons m ms ih =>
    simp only [List.map_cons, performAll, perform, wrap, List.forall_mem_cons] at hall
    obtain ⟨⟨payload, hpayload⟩, hrest⟩ := hall
    cases hm : (S.writeData m s).1 with
    | error e =>
      rw [hm] at hpayload
      exact absurd hpayload (by simp [Except.map])
    | ok written =>
      obtain ⟨u, g₁, c₁, hu, hlead, hholds⟩ := hS.written h hm
      obtain ⟨us, g', c', hus, hleads, hend⟩ := ih hholds hrest
      exact ⟨u :: us, g', c', .cons hu hus, hlead.append hleads, hend⟩

/-- **A batch is written as its entries say, or the store fails** and keeps
its tables. -/
theorem settlesBatch (hS : S.AppliesUpdates Holds keep fails) (h : Holds s g c) (b : Batch) :
    (∃ e, fails e ∧ (S.writeBatch b s).1 = .error e ∧ Holds (S.writeBatch b s).2 g c) ∨
      S.SettlesBatch Holds s g c b := by
  cases hanswer : (S.writeBatch b s).1 with
  | error e =>
    obtain ⟨hholds, hfails | ⟨hinvalid, hnot⟩⟩ := hS.refused h hanswer
    · exact .inl ⟨e, hfails, rfl, hholds⟩
    · refine .inr ⟨?_, ?_, ?_⟩
      · rw [hanswer]
        exact ⟨fun hok => absurd hok (by simp), fun hok => absurd hok hnot⟩
      · intro e' he'
        rw [hanswer] at he'
        rw [← Except.error.inj he']
        exact ⟨hinvalid, hholds⟩
      · rw [hanswer]
        exact fun hok => absurd hok (by simp)
  | ok _ =>
    obtain ⟨hacceptable, us, g', c', hus, hleads, hholds⟩ := hS.batch h hanswer
    refine .inr ⟨⟨fun _ => hacceptable, fun _ => hanswer⟩, ?_, fun _ => ?_⟩
    · rw [hanswer]
      exact fun e he => absurd he (by simp)
    · refine ⟨g', c', hleads.applied hus hS.sameNumber, hholds, fun hall => ?_⟩
      obtain ⟨vs, g'', c'', hvs, hleads', hend⟩ := hS.alone h hall
      -- The entries have the same updates, and these lead to one pair of tables.
      have hsame : vs = us := by
        have hvs' : b.validate = .ok vs := Batch.validate_iff.2 hvs
        rw [hus] at hvs'
        exact (Except.ok.inj hvs').symm
      rw [hsame] at hleads'
      obtain ⟨rfl, rfl⟩ := hleads.unique hleads'
      exact hend

end Store.AppliesUpdates

end

/-! ## Tables in memory -/

namespace FileStore

/-- Whether a store has these tables. -/
def Has (p : State) (g : Table Binary64) (c : Table Int64) : Prop :=
  p.1.gauges = g ∧ p.1.counters = c

/-- What updates are applied to, they lead to. -/
theorem leads_applyAll {s s' : FileStore} {us : List Update} (h : s.applyAll us = .ok s') :
    Leads id us s.gauges s.counters s'.gauges s'.counters := by
  unfold applyAll at h
  split at h
  · next d hd =>
    unfold applyDelta at h
    split at h
    · next counters hadd =>
      rw [← Except.ok.inj h]
      refine .of_fold hd hadd fun k => ?_
      rw [Table.get?_setAll, Option.map_id_fun, id]
    · exact absurd h (by simp)
  · exact absurd h (by simp)

/-- Updates that are accepted are applied if what they come to is acceptable. -/
theorem exists_applyAll_iff {s : FileStore} {b : Batch} {us : List Update}
    (hb : b.validate = .ok us) : (∃ s', s.applyAll us = .ok s') ↔ b.Acceptable s.counters := by
  rw [Batch.acceptable_iff_of_validate hb]
  unfold applyAll applyDelta
  constructor
  · rintro ⟨s', h⟩
    split at h
    · next d hd =>
      split at h
      · next counters hadd => exact ⟨d, counters, hd, hadd⟩
      · exact absurd h (by simp)
    · exact absurd h (by simp)
  · rintro ⟨d, c', hd, hadd⟩
    rw [hd]
    simp only [hadd]
    exact ⟨_, rfl⟩

/-- **Tables in memory apply updates**, and never fail. -/
theorem appliesUpdates : operations.AppliesUpdates Has id fun _ => False where
  sameNumber x hx := Binary64.sameNumber_of_unsignedZero hx rfl
  written := by
    rintro p g c m written ⟨rfl, rfl⟩ hm
    simp only [operations, writeData] at hm ⊢
    cases hu : m.validate with
    | error e =>
      rw [hu] at hm
      exact absurd hm (by simp)
    | ok u =>
      rw [hu] at hm
      simp only at hm ⊢
      have happly := apply_eq p.1 u
      cases hall : p.1.applyAll [u] with
      | error e =>
        rw [hall] at happly
        rw [happly] at hm
        exact absurd hm (by simp [Except.map])
      | ok s' =>
        rw [hall] at happly
        rw [happly]
        exact ⟨u, s'.gauges, s'.counters, rfl, leads_applyAll hall, rfl, rfl⟩
  batch := by
    rintro p g c b ⟨rfl, rfl⟩ hb
    simp only [operations, writeBatch] at hb ⊢
    cases hus : b.validate with
    | error e =>
      rw [hus] at hb
      exact absurd hb (by simp)
    | ok us =>
      rw [hus] at hb
      simp only at hb ⊢
      cases hall : p.1.applyAll us with
      | error e =>
        rw [hall] at hb
        exact absurd hb (by simp)
      | ok s' =>
        exact ⟨(exists_applyAll_iff hus).1 ⟨s', hall⟩, us, s'.gauges, s'.counters, rfl,
          leads_applyAll hall, rfl, rfl⟩
  refused := by
    rintro p g c b e ⟨rfl, rfl⟩ hb
    simp only [operations, writeBatch] at hb ⊢
    cases hus : b.validate with
    | error e' =>
      rw [hus] at hb
      obtain rfl : e' = e := Except.error.inj hb
      exact ⟨⟨rfl, rfl⟩, .inr ⟨Batch.validate_error hus, Batch.not_acceptable_of_validate hus _⟩⟩
    | ok us =>
      rw [hus] at hb
      simp only at hb ⊢
      cases hall : p.1.applyAll us with
      | ok s' =>
        rw [hall] at hb
        exact absurd hb (by simp)
      | error e' =>
        rw [hall] at hb
        obtain rfl : e' = e := Except.error.inj hb
        refine ⟨⟨rfl, rfl⟩, .inr ⟨applyAll_error hall, fun h => ?_⟩⟩
        obtain ⟨s', hok⟩ := (exists_applyAll_iff hus).2 h
        rw [hall] at hok
        exact absurd hok (by simp)

end FileStore

/-! ## Databases -/

namespace SqlStore

variable {s : SqlStore} {g : Table Binary64} {c : Table Int64}

/-- A store that is open, and whose connection that writes may do so. -/
structure Works (s : SqlStore) : Prop where
  serving : s.session.connection.closed = false
  writes : s.session.connection.writer.access = .readWrite

theorem Works.offer (h : s.Works) : s.session.connection.writer.offer = .readWrite := by
  unfold Link.offer
  rw [h.writes]

namespace Shows

/-- A transaction on folded updates is refused for what the connection may
not do, or because a total would leave the range. -/
theorem writing_refused {d : Delta} {access : Access} {e : StoreError} (h : s.Shows g c)
    (hx : d.Finite)
    (he : (writing [.gauge, .counter] (deltaStatement d) access
      (s.session.guard, s.session.shown)).1 = .error e) :
    (IsFailure e ∧ access ≠ .readWrite) ∨ e.IsInvalid ∧ ∃ e', c.addAll d.counters = .error e' := by
  obtain ⟨answer, guard, db, hall, -, hbecomes, hthere, hfree⟩ :=
    ensureAll_holds h.guard h.tables access [.gauge, .counter]
  unfold writing at he
  rw [hall] at he
  cases answer with
  | error e' =>
    -- A connection that may do anything makes sure of every table.
    obtain rfl : e' = e := Except.error.inj he
    obtain ⟨fault, heq, -⟩ := ensureAll_error (congrArg Prod.fst hall)
    refine .inl ⟨.inr ⟨fault, heq⟩, fun haccess => ?_⟩
    exact absurd (hfree haccess) (by simp)
  | ok later =>
    have hfull : (deltaStatement d .readWrite db).1 = .error e →
        e.IsInvalid ∧ ∃ e', c.addAll d.counters = .error e' := by
      intro hrefused
      rcases Statement.deltaStatement_holds hbecomes.holds (hthere later rfl .gauge (by simp))
          (hthere later rfl .counter (by simp)) hx.rows with
        ⟨c', db', -, hdone, -⟩ | ⟨e', cause, hadd, hfail⟩
      · rw [hdone] at hrefused
        exact absurd hrefused (by simp)
      · rw [hfail] at hrefused
        exact ⟨⟨cause, (Except.error.inj hrefused).symm⟩, e', hadd⟩
    by_cases haccess : access = .readWrite
    · obtain rfl : later = .readWrite := Except.ok.inj (hfree haccess)
      exact .inr (hfull he)
    · -- Where the statement is refused, it is refused on every connection.
      rcases (Statement.deltaStatement_candid d).refused he with hfault | hrefused
      · exact .inl ⟨.inr hfault, haccess⟩
      · exact .inr (hfull hrefused)

/-- What is not written is not written for a failure, which is one of the
connection, or because a total would leave the range. -/
theorem writeDelta_refused {d : Delta} {e : StoreError} (h : s.Shows g c) (hx : d.Finite)
    (he : (s.writeDelta d).1 = .error e) :
    (IsFailure e ∧ ¬ s.Works) ∨ e.IsInvalid ∧ ∃ e', c.addAll d.counters = .error e' := by
  by_cases hempty : d.isEmpty = true
  · rw [writeDelta_empty d s hempty] at he
    exact absurd he (by simp)
  · rw [writeDelta_eq hx (by simpa using hempty)] at he
    have hanswer := (s.session.onWriter_answer (writing _ (deltaStatement d))).symm.trans he
    split at hanswer
    · next hclosed =>
      refine .inl ⟨.inl (Except.error.inj hanswer).symm, fun hw => ?_⟩
      exact absurd hclosed (by simp [hw.serving])
    · exact (h.writing_refused hx hanswer).imp_left fun ⟨hfails, haccess⟩ =>
        ⟨hfails, fun hw => haccess hw.offer⟩

/-- **A batch is not written for a failure, which is one of the connection,
or because it is not acceptable.** -/
theorem writeBatch_refused {b : Batch} {e : StoreError} (h : s.Shows g c)
    (he : (s.writeBatch b).1 = .error e) :
    (IsFailure e ∧ ¬ s.Works) ∨ e.IsInvalid ∧ ¬ b.Acceptable c := by
  unfold SqlStore.writeBatch at he
  cases hus : b.validate with
  | error e' =>
    rw [hus] at he
    obtain rfl : e' = e := Except.error.inj he
    exact .inr ⟨Batch.validate_error hus, Batch.not_acceptable_of_validate hus c⟩
  | ok us =>
    rw [hus] at he
    simp only at he
    rw [Batch.acceptable_iff_of_validate hus]
    cases hd : Delta.ofUpdates us with
    | error e' =>
      rw [hd] at he
      obtain rfl : e' = e := Except.error.inj he
      refine .inr ⟨Delta.ofUpdates_error hd, ?_⟩
      rintro ⟨d, c', hok, -⟩
      exact absurd hok (by simp)
    | ok d =>
      rw [hd] at he
      have hx : d.Finite := Delta.ofUpdates_finite (Batch.finite_of_validateFrom hus) hd
      refine (h.writeDelta_refused hx he).imp_right fun ⟨hinvalid, e', hadd⟩ => ⟨hinvalid, ?_⟩
      rintro ⟨d', c', hd', hok⟩
      obtain rfl : d = d' := Except.ok.inj hd'
      rw [hadd] at hok
      exact absurd hok (by simp)

/-- One metric that is written leads where its update leads. -/
theorem writeData_ok {m written : Metric} (h : s.Shows g c)
    (hok : (s.writeData m).1 = .ok written) :
    ∃ u g' c', m.validate = .ok u ∧ Leads Binary64.unsignedZero [u] g c g' c' ∧
      (s.writeData m).2.Shows g' c' := by
  unfold SqlStore.writeData at hok ⊢
  cases hm : m.validate with
  | error e =>
    rw [hm] at hok
    exact absurd hok (by simp)
  | ok u =>
    rw [hm] at hok
    obtain ⟨id, sample⟩ := u
    cases sample with
    | gauge x =>
      simp only at hok ⊢
      rcases hw : s.writeGauge id x with ⟨answer, s'⟩
      rcases h.writeGauge id x with ⟨e, he, -⟩ | ⟨-, hdone, hshows⟩
      · rw [hw] at hok he
        obtain rfl : answer = .error e := he
        exact absurd hok (by simp)
      · rw [hw] at hdone hshows
        obtain rfl : answer = .ok () := hdone
        exact ⟨_, _, _, rfl, .gauge _ id x g c, hshows⟩
    | counter delta =>
      simp only at hok ⊢
      rcases hw : s.addCounter id delta with ⟨answer, s'⟩
      rcases h.addCounter id delta with ⟨e, he, -⟩ | ⟨total, c', hdone, hadd, hshows⟩
      · rw [hw] at hok he
        obtain rfl : answer = .error e := he
        exact absurd hok (by simp)
      · rw [hw] at hdone hshows
        obtain rfl : answer = .ok total := hdone
        exact ⟨_, _, _, rfl, .counter _ g hadd, hshows⟩

end Shows

/-- **A database applies updates, or fails.** -/
theorem appliesUpdates : operations.AppliesUpdates Shows Binary64.unsignedZero IsFailure where
  sameNumber x hx := Binary64.sameNumber_of_unsignedZero hx (Binary64.unsignedZero_again x)
  written h hm := h.writeData_ok hm
  batch := by
    intro s g c b h hb
    rcases h.writeBatch b with ⟨e, he, -⟩ | ⟨us, d, c', hus, hd, -, hadd, hshows⟩
    · rw [show (operations.writeBatch b s).1 = _ from he] at hb
      exact absurd hb (by simp)
    · refine ⟨(b.acceptable_iff c).2 ⟨us, d, c', hus, hd, hadd⟩, us, _, c', hus, ?_, hshows⟩
      refine .of_fold hd hadd fun k => ?_
      rw [Table.get?_setRows, Relation.storedRows, Table.lastOf?_map, Table.lastOf?_toList]
  refused := by
    intro s g c b e h hb
    refine ⟨?_, (h.writeBatch_refused hb).imp_left And.left⟩
    rcases h.writeBatch b with ⟨e', -, hshows⟩ | ⟨us, d, c', -, -, hok, -, -⟩
    · exact hshows
    · rw [show (operations.writeBatch b s).1 = _ from hok] at hb
      exact absurd hb (by simp)

/-- A database whose connection works settles every batch. -/
theorem Works.settlesBatch (hw : s.Works) (h : s.Shows g c) (b : Batch) :
    operations.SettlesBatch Shows s g c b := by
  rcases appliesUpdates.settlesBatch h b with ⟨e, hfails, he, -⟩ | hsettles
  · rcases h.writeBatch_refused he with ⟨-, hnot⟩ | ⟨hinvalid, -⟩
    · exact absurd hw hnot
    · exact absurd hinvalid hfails.not_isInvalid
  · exact hsettles

end SqlStore

/-! ## Both -/

/-- **A batch means the same as its entries.**  Tables in memory, in every
state, accept a batch exactly if each of its entries is accepted, every
running sum of the deltas of a counter is in the range, and so is its
total with all of them.  Then each counter of the batch has grown by its
deltas, each gauge has its last value, nothing else has changed, and
entries that are also accepted one by one end in the same tables.  A
batch that is refused is refused as invalid and changes nothing.  The
same holds of every database that is open and whose connection may write,
whatever tables it shows.  One whose connection may do anything fails
with an error of its own and keeps its tables, or does just so. -/
theorem batch_means_entries :
    (∀ (p : FileStore.State) (b : Batch),
      FileStore.operations.SettlesBatch FileStore.Has p p.1.gauges p.1.counters b) ∧
    (∀ (s : SqlStore) (g : Table Binary64) (c : Table Int64) (b : Batch), s.Shows g c → s.Works →
      SqlStore.operations.SettlesBatch SqlStore.Shows s g c b) ∧
    ∀ (s : SqlStore) (g : Table Binary64) (c : Table Int64) (b : Batch), s.Shows g c →
      (∃ e, IsFailure e ∧ (s.writeBatch b).1 = .error e ∧ (s.writeBatch b).2.Shows g c) ∨
        SqlStore.operations.SettlesBatch SqlStore.Shows s g c b := by
  refine ⟨fun p b => ?_, fun s g c b h hw => hw.settlesBatch h b,
    fun s g c b h => SqlStore.appliesUpdates.settlesBatch h b⟩
  rcases FileStore.appliesUpdates.settlesBatch (s := p) ⟨rfl, rfl⟩ b with ⟨e, hfails, -⟩ | hsettles
  · exact hfails.elim
  · exact hsettles

/-! ## Near the limits -/

/-- A counter that is given one, and then loses it. -/
def gainAndLoss : Batch := ⟨[.counter "c" 1, .counter "c" (-1)]⟩

/-- A counter that is given one more than its largest total. -/
def oneTooMany : Batch := ⟨[.counter "c" Int64.maxValue, .counter "c" 1]⟩

/-- A store in memory whose counter has its largest total. -/
def fullStore : FileStore := ⟨∅, (∅ : Table Int64).set "c" Int64.maxValue, "m.json", false⟩

/-- As a batch this is acceptable, whatever the total is. -/
theorem gainAndLoss_acceptable (c : Table Int64) : gainAndLoss.Acceptable c := by
  have hvalidate : gainAndLoss.validate = .ok [⟨"c", .counter 1⟩, ⟨"c", .counter (-1)⟩] := by decide
  have hrunning : ∀ k, StaysInRange 0 (gainAndLoss.deltas k) ∧ (gainAndLoss.deltas k).sum = 0 := by
    intro k
    rw [← Batch.deltas_of_validate hvalidate]
    by_cases hk : "c" = k
    · subst hk
      refine ⟨?_, by decide⟩
      show StaysInRange 0 [1, -1]
      iterate 2 rw [StaysInRange.cons_iff (by decide)]
      exact StaysInRange.nil_iff.2 (by decide)
    · have hnone : Update.deltas [⟨"c", .counter 1⟩, ⟨"c", .counter (-1)⟩] k = [] := by
        simp [Update.deltas, Update.adds?, hk]
      rw [hnone]
      exact ⟨StaysInRange.nil_iff.2 (by decide), rfl⟩
  refine ⟨(Batch.exists_validate_iff _).1 ⟨_, hvalidate⟩, fun k => (hrunning k).1, fun k => ?_⟩
  rw [(hrunning k).2, Int.add_zero]
  exact Number.inRange64_toInt _

theorem not_oneTooMany_acceptable (c : Table Int64) : ¬ oneTooMany.Acceptable c := by
  intro h
  have hover := h.running "c" [Int64.maxValue.toInt, 1] ⟨[], by decide⟩
  exact absurd hover (by decide)

/-- A counter with the largest total is given one and loses it as a batch,
though not by one entry after the other.  So it is in a new database,
which refuses what is one too many and keeps its tables. -/
theorem gain_and_loss_accepted :
    (FileStore.operations.writeBatch gainAndLoss (fullStore, .empty)).1 = .ok () ∧
    (¬ ∀ answer ∈ (FileStore.operations.performAll (gainAndLoss.metrics.map .writeData)
      (fullStore, .empty)).1, ∃ payload, answer = .ok payload) ∧
    (SqlStore.inMemory.writeBatch gainAndLoss).1 = .ok () ∧
    (∃ g c, (SqlStore.inMemory.writeBatch gainAndLoss).2.Shows g c ∧ c.count? "c" = some 0) ∧
    (SqlStore.inMemory.writeBatch oneTooMany).2.Shows ∅ ∅ := by
  have hshows : SqlStore.inMemory.Shows ∅ ∅ :=
    SqlStore.create_shows rfl Database.holds_empty
  have hworks : SqlStore.inMemory.Works := ⟨rfl, rfl⟩
  have hsettles := batch_means_entries.2.1 _ _ _ gainAndLoss hshows hworks
  have hok := hsettles.accepted.2 (gainAndLoss_acceptable _)
  refine ⟨?_, ?_, hok, ?_, ?_⟩
  · exact (batch_means_entries.1 (fullStore, .empty) gainAndLoss).accepted.2
      (gainAndLoss_acceptable _)
  · -- The first of the entries is more than the total can take.
    intro hall
    obtain ⟨payload, hpayload⟩ :=
      hall (.error (.validation (.overflow "c" Int64.maxValue 1))) (.head _)
    exact absurd hpayload (by simp)
  · obtain ⟨g, c, happlied, hshows', -⟩ := hsettles.applied hok
    refine ⟨g, c, hshows', ?_⟩
    rw [happlied.counters]
    decide
  · rcases batch_means_entries.2.2 _ _ _ oneTooMany hshows with ⟨e, -, -, hkept⟩ | hsettles'
    · exact hkept
    · cases hanswer : (SqlStore.inMemory.writeBatch oneTooMany).1 with
      | error e => exact (hsettles'.refused e hanswer).2
      | ok _ => exact absurd (hsettles'.accepted.1 hanswer) (not_oneTooMany_acceptable _)

end Meterbank
