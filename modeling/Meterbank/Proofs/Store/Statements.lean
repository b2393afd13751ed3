/-
  Meterbank.Proofs.Store.Statements — what a store asks of its database.

  However a store over a database is written to, it refuses what it is
  given before it touches the database, or it runs one of three
  statements, and values that are not finite never get to one of them.
  So whatever holds of refusals and of the three statements holds of all
  writes.

  Main results:
    * `Rule.writeDelta`, `Rule.writeBatch` — folded updates.
    * `Rule.writeGauge`, `Rule.addCounter`, `Rule.writeData` — single
      writes.
-/
import Meterbank.Proofs.Folding
import Meterbank.Proofs.Refusals
import Meterbank.Proofs.Sql.Undoing

namespace Meterbank.SqlStore

open Meterbank.Sql

/-- **Exactly finite values pass the check.** -/
theorem checkGauges_eq_ok_iff (rows : List (String × Binary64)) :
    checkGauges rows = .ok () ↔ ∀ row ∈ rows, row.2.isFinite = true := by
  induction rows with
  | nil => simp [checkGauges]
  | cons row rows ih =>
    obtain ⟨key, x⟩ := row
    rw [List.forall_mem_cons, checkGauges]
    split
    · next hx => simp [(checkGauge_error hx).2]
    · next y hy =>
      have hfinite := ((checkGauge_eq_ok_iff x y).1 hy).1
      rw [ih]
      simp [hfinite]

theorem finite_of_checkGauges {d : Delta} (h : checkGauges d.gauges.toList = .ok ()) : d.Finite :=
  fun k x hx => (checkGauges_eq_ok_iff _).1 h (k, x) ((d.gauges.mem_toList_iff k x).2 hx)

/-- What holds of a refusal, and of every statement that a store runs to
write, whatever is made of the answer. -/
structure Rule (Q : {α : Type} → Except StoreError α × SqlStore → Prop) (s : SqlStore) : Prop where
  refused : ∀ {α : Type} {e : StoreError}, e.IsInvalid → Q ((.error e : Except StoreError α), s)
  nothing : Q ((.ok () : Except StoreError Unit), s)
  upsert : ∀ (key : String) {x : Binary64}, x.isFinite = true →
    Q (s.write [.gauge] fun access => Statement.upsert access key x)
  accumulate : ∀ (key : String) (delta : Int64),
    Q (s.write [.counter] fun access => Statement.accumulate access key delta)
  delta : ∀ {d : Delta}, d.Finite → Q (s.write [.gauge, .counter] (deltaStatement d))
  mapped : ∀ {α β : Type} {p : Except StoreError α × SqlStore} (f : α → β), Q p → Q (p.1.map f, p.2)

namespace Rule

variable {Q : {α : Type} → Except StoreError α × SqlStore → Prop} {s : SqlStore}

theorem writeDelta (h : Rule Q s) (d : Delta) : Q (s.writeDelta d) := by
  unfold SqlStore.writeDelta
  split
  · exact h.nothing
  · split
    · next hcheck =>
      obtain ⟨row, -, -, rfl⟩ := checkGauges_error hcheck
      exact h.refused ⟨_, rfl⟩
    · next hcheck => exact h.delta (finite_of_checkGauges hcheck)

theorem writeGauge (h : Rule Q s) (key : String) (x : Binary64) : Q (s.writeGauge key x) := by
  unfold SqlStore.writeGauge
  split
  · next hx => exact h.refused ⟨_, (checkGauge_error hx).1⟩
  · next y hy =>
    obtain ⟨hfinite, rfl⟩ := (checkGauge_eq_ok_iff x y).1 hy
    exact h.upsert key hfinite

theorem addCounter (h : Rule Q s) (key : String) (delta : Int64) : Q (s.addCounter key delta) :=
  h.accumulate key delta

theorem writeCounter (h : Rule Q s) (key : String) (delta : Int64) :
    Q (operations.writeCounter key delta s) := by
  have hmapped := h.mapped (fun _ => ()) (h.addCounter key delta)
  simp only [operations]
  split <;> next hs => rw [hs] at hmapped; exact hmapped

theorem writeData (h : Rule Q s) (m : Metric) : Q (s.writeData m) := by
  unfold SqlStore.writeData
  split
  · next hm => exact h.refused (Metric.validate_error hm)
  · next u _ =>
    split
    · next x _ =>
      have hmapped := h.mapped (fun _ => Metric.gauge u.id x) (h.writeGauge u.id x)
      split <;> next hs => rw [hs] at hmapped; exact hmapped
    · next delta _ =>
      have hmapped := h.mapped (fun total => Metric.counter u.id total) (h.addCounter u.id delta)
      split <;> next hs => rw [hs] at hmapped; exact hmapped

theorem writeBatch (h : Rule Q s) (b : Batch) : Q (s.writeBatch b) := by
  unfold SqlStore.writeBatch
  split
  · next hb => exact h.refused (Batch.validate_error hb)
  · split
    · next hfold => exact h.refused (Delta.ofUpdates_error hfold)
    · exact h.writeDelta _

end Rule

/-! ## What calls keep -/

/-- What folded updates and calls keep. -/
structure Kept (P : SqlStore → Prop) : Prop where
  delta : ∀ {s : SqlStore}, P s → ∀ d, P (s.writeDelta d).2
  call : ∀ {s : SqlStore}, P s → ∀ call, P (operations.perform call s).2

/-- What any work on the connections keeps. -/
structure Lasting (P : SqlStore → Prop) : Prop where
  onWriter : ∀ {α : Type} {s : SqlStore} (work : Work α), P s →
    P (s.through (Session.onWriter work)).2
  onReader : ∀ {α : Type} {s : SqlStore} (kind : Kind) (row : Row → Except SqlFault α)
    (keys : List String), P s →
    P (s.through (Session.onReader (reading fun access => Statement.select access kind row keys))).2
  knock : ∀ {s : SqlStore}, P s → P (s.through Session.knock).2
  close : ∀ {s : SqlStore}, P s → P s.close.2

/-- What a ping has to do with the connections does not depend on its own
mark. -/
theorem ping_keeps {P : SqlStore → Prop} {s : SqlStore} (h : P s)
    (hknock : P (s.through Session.knock).2) : P (s.pingWhile false).2 := by
  unfold pingWhile
  split
  · exact h
  · split
    · next hs => rw [hs] at hknock; exact hknock
    · next hs => rw [hs] at hknock; exact hknock

namespace Lasting

variable {P : SqlStore → Prop} {s : SqlStore}

theorem rule (hP : Lasting P) (h : P s) : Rule (fun p => P p.2) s where
  refused _ := h
  nothing := h
  upsert _ _ _ := hP.onWriter _ h
  accumulate _ _ := hP.onWriter _ h
  delta _ := hP.onWriter _ h
  mapped _ h := h

theorem readGauges (hP : Lasting P) (h : P s) (keys : List String) : P (s.readGauges keys).2 :=
  demand_keeps (read_keeps h (fun _ => hP.onWriter _) fun _ => hP.onReader _ _ _)

theorem readCounters (hP : Lasting P) (h : P s) (keys : List String) : P (s.readCounters keys).2 :=
  demand_keeps (read_keeps h (fun _ => hP.onWriter _) fun _ => hP.onReader _ _ _)

/-- **What any work on the connections keeps, every call keeps.** -/
theorem kept (hP : Lasting P) : Kept P where
  delta h d := (hP.rule h).writeDelta d
  call h := Store.perform_keeps h (hP.rule h).writeData (hP.rule h).writeBatch (hP.readGauges h)
    (hP.readCounters h) (hP.rule h).writeGauge (hP.rule h).writeCounter h h
    (ping_keeps h (hP.knock h)) (hP.close h)

end Lasting

end Meterbank.SqlStore
