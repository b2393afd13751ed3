/-
  Meterbank.Proofs.Store.Counting — no increment is lost, doubled or wrapped.

  Whatever the store, a call adds to the counters in one section: tables in
  memory are added to under their lock, and a database in one statement or
  one transaction.  A section either adds all that its call asks for, and
  then the call succeeds, or it adds nothing, and the call is refused.  So
  the order of these sections accounts for the counters.

  Main results:
    * `Shows.perform_write` — what a write does to a database, whatever
      fails there.
    * `applying_cases` — what a write does to tables in memory.
    * `counters_are_exact_sums` — of every interleaving of calls one order
      accounts for the counters.
-/
import Meterbank.Proofs.Store.Callers
import Meterbank.Proofs.Store.Showing
import Meterbank.Store.Dumping

namespace Meterbank

open Meterbank.Sql Meterbank.Callers
open Meterbank.Table (joined joined_none)

/-! ## What writes add -/

theorem Write.adds?_of_updates {w : Write} {us : List Update} (h : w.updates = .ok us) (k : String) :
    w.adds? k = Update.added? us k := by
  rw [adds?, h]

theorem Write.updates_gauge (key : String) {x : Binary64} (hx : x.isFinite = true) :
    (Write.gauge key x).updates = .ok [⟨key, .gauge x⟩] := by
  rw [updates, (checkGauge_eq_ok_iff x x).2 ⟨hx, rfl⟩]
  rfl

namespace Callers

/-- A write of one gauge adds to no counter. -/
theorem Grows.gauge {w : Write} {key : String} {x : Binary64} (c : Table Int64)
    (h : w.updates = .ok [⟨key, .gauge x⟩]) {r : Store.Payload}
    (hr : ∀ id total, r ≠ .metric (.counter id total)) : Grows c w r c where
  counters k := by
    rw [Write.adds?_of_updates h, Update.added?_single]
    exact (joined_none _).symm
  told id total hid := absurd hid (hr id total)

/-- A write to one counter adds its delta, and may tell the total. -/
theorem Grows.counter {w : Write} {key : String} {delta total : Int64} {c c' : Table Int64}
    (h : w.updates = .ok [⟨key, .counter delta⟩]) (hadd : c.add key delta = .ok (total, c'))
    {r : Store.Payload} (hr : r = .nothing ∨ r = .metric (.counter key total)) : Grows c w r c' where
  counters k := by
    rw [Write.adds?_of_updates h, Update.added?_single]
    exact (Table.add_counts hadd).2 k
  told id total' hid := by
    rcases hr with rfl | rfl
    · exact absurd hid (by simp)
    · have hmetric := Store.Payload.metric.inj hid
      obtain rfl : key = id := congrArg Metric.id hmetric
      obtain rfl : total = total' := Option.some.inj (congrArg Metric.delta hmetric)
      exact (Table.add_counts hadd).1

/-- A batch adds what it folds to. -/
theorem Grows.batch {b : Batch} {us : List Update} {d : Delta} {c c' : Table Int64}
    (h : b.validate = .ok us) (hd : Delta.ofUpdates us = .ok d)
    (hadd : c.addAll d.counters = .ok c') : Grows c (.batch b) .nothing c' where
  counters k := by
    rw [Write.adds?_of_updates (w := .batch b) h, ← Delta.ofUpdates_added hd]
    exact (Table.addAll_eq_ok_iff _ _ _).1 hadd k
  told id total hid := absurd hid (by simp)

end Callers

/-! ## Writes to a database -/

namespace SqlStore

/-- That a write was refused and left the tables, or was applied. -/
def WrittenOr (g : Table Binary64) (c : Table Int64) (w : Write)
    (p : Except StoreError Store.Payload × SqlStore) : Prop :=
  (∃ e, p.1 = .error e ∧ p.2.Shows g c) ∨
    ∃ r g' c', p.1 = .ok r ∧ p.2.Shows g' c' ∧ Grows c w r c'

namespace Shows

variable {s : SqlStore} {g : Table Binary64} {c : Table Int64}

theorem writeGauge_cases (h : s.Shows g c) {w : Write} {key : String} {x : Binary64}
    (hw : x.isFinite = true → w.updates = .ok [⟨key, .gauge x⟩]) :
    WrittenOr g c w (Store.wrap (fun _ => .nothing) (s.writeGauge key x)) := by
  rcases h.writeGauge key x with ⟨e, he, hshows⟩ | ⟨hx, hok, hshows⟩
  · exact .inl ⟨e, congrArg (Except.map _) he, hshows⟩
  · exact .inr ⟨.nothing, _, c, congrArg (Except.map _) hok, hshows,
      .gauge c (hw hx) fun _ _ => by simp⟩

theorem writeCounter_cases (h : s.Shows g c) {w : Write} {key : String} {delta : Int64}
    (hw : w.updates = .ok [⟨key, .counter delta⟩]) :
    WrittenOr g c w (Store.wrap (fun _ => .nothing) (operations.writeCounter key delta s)) := by
  simp only [operations]
  rcases h.addCounter key delta with ⟨e, he, hshows⟩ | ⟨total, c', hok, hadd, hshows⟩
  · rw [show s.addCounter key delta = (.error e, (s.addCounter key delta).2) from Prod.ext he rfl]
    exact .inl ⟨e, rfl, hshows⟩
  · rw [show s.addCounter key delta = (.ok total, (s.addCounter key delta).2) from Prod.ext hok rfl]
    exact .inr ⟨.nothing, g, c', rfl, hshows, .counter hw hadd (.inl rfl)⟩

theorem writeData_cases (h : s.Shows g c) (m : Metric) :
    WrittenOr g c (.data m) (Store.wrap .metric (s.writeData m)) := by
  unfold SqlStore.writeData
  cases hm : m.validate with
  | error e => exact .inl ⟨e, rfl, h⟩
  | ok u =>
    have hw : (Write.data m).updates = .ok [u] := by rw [Write.updates, hm]; rfl
    obtain ⟨id, sample⟩ := u
    cases sample with
    | gauge x =>
      simp only
      rcases h.writeGauge id x with ⟨e, he, hshows⟩ | ⟨-, hok, hshows⟩
      · rw [show s.writeGauge id x = (.error e, (s.writeGauge id x).2) from Prod.ext he rfl]
        exact .inl ⟨e, rfl, hshows⟩
      · rw [show s.writeGauge id x = (.ok (), (s.writeGauge id x).2) from Prod.ext hok rfl]
        refine .inr ⟨.metric (.gauge id x), _, c, rfl, hshows, .gauge c hw fun id' n hid => ?_⟩
        exact Metric.gauge_ne_counter id id' x n (Store.Payload.metric.inj hid)
    | counter delta =>
      simp only
      rcases h.addCounter id delta with ⟨e, he, hshows⟩ | ⟨total, c', hok, hadd, hshows⟩
      · rw [show s.addCounter id delta = (.error e, (s.addCounter id delta).2) from Prod.ext he rfl]
        exact .inl ⟨e, rfl, hshows⟩
      · rw [show s.addCounter id delta = (.ok total, (s.addCounter id delta).2) from
          Prod.ext hok rfl]
        exact .inr ⟨.metric (.counter id total), g, c', rfl, hshows, .counter hw hadd (.inr rfl)⟩

theorem writeBatch_cases (h : s.Shows g c) (b : Batch) :
    WrittenOr g c (.batch b) (Store.wrap (fun _ => .nothing) (s.writeBatch b)) := by
  rcases h.writeBatch b with ⟨e, he, hshows⟩ | ⟨us, d, c', hb, hd, hok, hadd, hshows⟩
  · exact .inl ⟨e, congrArg (Except.map _) he, hshows⟩
  · exact .inr ⟨.nothing, _, c', congrArg (Except.map _) hok, hshows, .batch hb hd hadd⟩

/-- **A write is refused and leaves the tables, or it is applied in full**,
and then a counter's total is told as it is. -/
theorem perform_write (h : s.Shows g c) (w : Write) :
    WrittenOr g c w (operations.perform w.call s) := by
  cases w with
  | data m => exact h.writeData_cases m
  | batch b => exact h.writeBatch_cases b
  | gauge key x => exact h.writeGauge_cases (Write.updates_gauge key)
  | gaugeText key raw =>
    simp only [Write.call, Store.perform, Store.writeGaugeText]
    cases hx : parseGauge raw with
    | error e => exact .inl ⟨e, rfl, h⟩
    | ok x => exact h.writeGauge_cases fun _ => by rw [Write.updates, hx]; rfl
  | counter key delta => exact h.writeCounter_cases rfl
  | counterText key raw =>
    simp only [Write.call, Store.perform, Store.writeCounterText]
    cases hd : parseCounter raw with
    | error e => exact .inl ⟨e, rfl, h⟩
    | ok delta => exact h.writeCounter_cases (by rw [Write.updates, hd]; rfl)

end Shows

/-- What a call has been answered with, if it has been applied. -/
def receipt : Option (Except StoreError Store.Payload) → Option Store.Payload
  | some (.ok r) => some r
  | _ => none

/-- **A database counts**, whatever fails there. -/
theorem protocol_counts : protocol.Counts receipt fun s c => ∃ g, s.Shows g c where
  first _ := rfl
  pending i w point s c ht hshown := by
    obtain ⟨g, hg⟩ := hshown
    cases point with
    | some answer => exact .inl ⟨ht, g, hg⟩
    | none =>
      rcases hg.perform_write w with ⟨e, he, hshows⟩ | ⟨r, g', c', hr, hshows, hgrows⟩
      · refine .inl ⟨?_, g, hshows⟩
        show receipt (some (operations.perform w.call s).1) = none
        rw [he]
        rfl
      · refine .inr ⟨r, c', ?_, ⟨g', hshows⟩, hgrows⟩
        show receipt (some (operations.perform w.call s).1) = some r
        rw [hr]
        rfl
  applied i w point s c r ht hshown := by
    cases point with
    | some answer => exact ⟨ht, hshown⟩
    | none => exact absurd ht (by simp [receipt])
  dumps i point s c hshown := by
    cases point with
    | some answer => exact hshown
    | none => exact hshown
  succeeds point r ht := by
    have h : point = some (.ok r) := ht
    rw [h]
    rfl
  fails point e ht := by
    have h : point = some (.error e) := ht
    rw [h]
    rfl

end SqlStore

/-! ## Writes to tables in memory -/

namespace Dumping

/-- What a write will be answered with, if it has been applied. -/
def receipt : Point → Option Store.Payload
  | .writing => none
  | .settingGauges _ => some .nothing
  | .waiting r | .copyingGauges r | .copyingCounters _ r | .rewriting _ _ r => some r
  | .releasing answer | .answered answer => answer.toOption

theorem receipt_concluded (s : FileStore) (r : Store.Payload) : receipt (concluded s r) = some r := by
  unfold concluded
  split <;> rfl

/-- That a write was refused and left the counters, or was applied. -/
def WrittenOr (c : Table Int64) (w : Write) (p : Point × Shared) : Prop :=
  (receipt p.1 = none ∧ p.2.store.counters = c) ∨
    ∃ r, receipt p.1 = some r ∧ Grows c w r p.2.store.counters

variable {w : Write} {s : Shared}

theorem applyingData_cases (m : Metric) (s : Shared) :
    WrittenOr s.store.counters (.data m) (applyingData m s) := by
  unfold applyingData
  cases hm : m.validate with
  | error e => exact .inl ⟨rfl, rfl⟩
  | ok u =>
    have hw : (Write.data m).updates = .ok [u] := by rw [Write.updates, hm]; rfl
    obtain ⟨id, sample⟩ := u
    cases sample with
    | gauge x =>
      refine .inr ⟨.metric (.gauge id x), receipt_concluded _ _, .gauge _ hw fun id' n hid => ?_⟩
      exact Metric.gauge_ne_counter id id' x n (Store.Payload.metric.inj hid)
    | counter delta =>
      simp only [FileStore.apply]
      cases hadd : s.store.counters.add id delta with
      | error e => exact .inl ⟨rfl, rfl⟩
      | ok p =>
        obtain ⟨total, counters⟩ := p
        exact .inr ⟨.metric (.counter id total), receipt_concluded _ _,
          .counter hw hadd (.inr rfl)⟩

theorem applyingBatch_cases (b : Batch) (s : Shared) :
    WrittenOr s.store.counters (.batch b) (applyingBatch b s) := by
  unfold applyingBatch
  cases hb : b.validate with
  | error e => exact .inl ⟨rfl, rfl⟩
  | ok us =>
    simp only
    cases hd : Delta.ofUpdates us with
    | error e => exact .inl ⟨rfl, rfl⟩
    | ok d =>
      simp only
      cases hadd : s.store.counters.addAll d.counters with
      | error e => exact .inl ⟨rfl, rfl⟩
      | ok counters => exact .inr ⟨.nothing, rfl, .batch hb hd hadd⟩

theorem writeGauge_cases {key : String} {x : Binary64}
    (hw : x.isFinite = true → w.updates = .ok [⟨key, .gauge x⟩]) :
    WrittenOr s.store.counters w (s.answeredBy
      (Store.wrap (fun _ => .nothing)
        (FileStore.operations.writeGauge key x (s.store, s.files)))) := by
  simp only [FileStore.operations]
  cases ht : s.store.gauges.writeGauge key x with
  | error e => exact .inl ⟨rfl, rfl⟩
  | ok gauges =>
    obtain ⟨hx, -⟩ := (Table.writeGauge_ok_iff _ _ _ _).1 ht
    exact .inr ⟨.nothing, rfl, .gauge _ (hw hx) fun _ _ => by simp⟩

theorem writeCounter_cases {key : String} {delta : Int64}
    (hw : w.updates = .ok [⟨key, .counter delta⟩]) :
    WrittenOr s.store.counters w (s.answeredBy
      (Store.wrap (fun _ => .nothing)
        (FileStore.operations.writeCounter key delta (s.store, s.files)))) := by
  simp only [FileStore.operations, Table.writeCounter]
  cases hadd : s.store.counters.add key delta with
  | error e => exact .inl ⟨rfl, rfl⟩
  | ok p =>
    obtain ⟨total, counters⟩ := p
    exact .inr ⟨.nothing, rfl, .counter hw hadd (.inl rfl)⟩

/-- **The first section of a write applies it to the counters, or refuses
it** and leaves them. -/
theorem applying_cases (w : Write) (s : Shared) :
    WrittenOr s.store.counters w (applying w s) := by
  cases w with
  | data m => exact applyingData_cases m s
  | batch b => exact applyingBatch_cases b s
  | gauge key x => exact writeGauge_cases (Write.updates_gauge key)
  | gaugeText key raw =>
    simp only [applying, Write.call, Store.perform, Store.writeGaugeText]
    cases hx : parseGauge raw with
    | error e => exact .inl ⟨rfl, rfl⟩
    | ok x => exact writeGauge_cases fun _ => by rw [Write.updates, hx]; rfl
  | counter key delta => exact writeCounter_cases rfl
  | counterText key raw =>
    simp only [applying, Write.call, Store.perform, Store.writeCounterText]
    cases hd : parseCounter raw with
    | error e => exact .inl ⟨rfl, rfl⟩
    | ok delta => exact writeCounter_cases (by rw [Write.updates, hd]; rfl)

/-- After its first section a write leaves the counters, and what it is to
be answered with. -/
theorem next_settled {i : Nat} {point : Point} (h : point ≠ .writing) (w : Write) (s : Shared) :
    receipt (next i (.write w) point s).1 = receipt point ∧
      (next i (.write w) point s).2.store.counters = s.store.counters := by
  cases point with
  | writing => exact absurd rfl h
  | settingGauges gauges => exact ⟨receipt_concluded _ _, rfl⟩
  | waiting r =>
    simp only [next]
    split <;> exact ⟨rfl, rfl⟩
  | copyingGauges r | copyingCounters gauges r | releasing answer | answered answer =>
    exact ⟨rfl, rfl⟩
  | rewriting gauges counters r =>
    -- The write stands, whatever has become of the dump.
    simp only [next]
    split <;> exact ⟨rfl, rfl⟩

/-- A dump leaves the counters. -/
theorem dump_counters (i : Nat) (point : Point) (s : Shared) :
    (next i .dump point s).2.store.counters = s.store.counters := by
  cases point with
  | waiting r | rewriting gauges counters r =>
    simp only [next]
    split <;> rfl
  | _ => rfl

/-- **Tables in memory count.** -/
theorem protocol_counts : protocol.Counts receipt fun s c => s.store.counters = c where
  first _ := rfl
  pending i w point s c ht hshown := by
    subst hshown
    by_cases hfirst : point = .writing
    · subst hfirst
      rcases applying_cases w s with hrefused | ⟨r, hr, hgrows⟩
      · exact .inl hrefused
      · exact .inr ⟨r, _, hr, rfl, hgrows⟩
    · obtain ⟨hreceipt, hcounters⟩ := next_settled (i := i) hfirst w s
      exact .inl ⟨hreceipt.trans ht, hcounters⟩
  applied i w point s c r ht hshown := by
    have hlater : point ≠ .writing := by
      rintro rfl
      exact absurd ht (by simp [receipt])
    obtain ⟨hreceipt, hcounters⟩ := next_settled (i := i) hlater w s
    exact ⟨hreceipt.trans ht, hcounters.trans hshown⟩
  dumps i point s c hshown := (dump_counters i point s).trans hshown
  succeeds point r ht := by
    cases point with
    | answered answer =>
      obtain rfl : answer = .ok r := Option.some.inj ht
      rfl
    | _ => exact absurd ht (by simp [protocol])
  fails point e ht := by
    cases point with
    | answered answer =>
      obtain rfl : answer = .error e := Option.some.inj ht
      rfl
    | _ => exact absurd ht (by simp [protocol])

end Dumping

/-! ## Both stores -/

/-- **No increment is lost, doubled or wrapped.**  However the writes and
dumps of a store with tables in memory, or of one over a database, are
interleaved, one order of them accounts for the counters at every point and for every
total that was told.  The store is empty at first; that its files cannot
be written, or that its database fails, makes no difference. -/
theorem counters_are_exact_sums (path : String) (sync : Bool) (files : Files) {sql : SqlStore}
    (hsql : sql.Shows ∅ ∅) (events : List (Event Chore)) :
    (∃ order, Accounts Dumping.protocol (fun s c => s.store.counters = c)
      (Dumping.share (FileStore.create path sync) files) events order) ∧
    ∃ order, Accounts SqlStore.protocol (fun s c => ∃ g, s.Shows g c) sql events order :=
  ⟨Dumping.protocol_counts.accounts rfl events, SqlStore.protocol_counts.accounts ⟨∅, hsql⟩ events⟩

/-- Two callers add to one counter, and the one that came last adds first. -/
def twoAdders : List (Event Chore) :=
  [.call (.write (.counter "c" 1)), .call (.write (.data (.counter "c" 2))), .advance 1, .advance 0]

/-- Both are accounted for, in either store. -/
theorem two_adders_counted :
    SqlStore.inMemory.Shows ∅ ∅ ∧
      (∃ order, Accounts Dumping.protocol (fun s c => s.store.counters = c)
        (Dumping.share (FileStore.create "metrics.json" true) .empty) twoAdders order) ∧
      ∃ order, Accounts SqlStore.protocol (fun s c => ∃ g, s.Shows g c) .inMemory twoAdders order :=
  have hshows : SqlStore.inMemory.Shows ∅ ∅ := SqlStore.create_shows rfl Database.holds_empty
  ⟨hshows, counters_are_exact_sums "metrics.json" true .empty hshows twoAdders⟩

end Meterbank
