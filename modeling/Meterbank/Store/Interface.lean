/-
  Meterbank.Store.Interface — what every store does.

  A store over a state is a record of its operations.  Each gives an
  answer and the state after it.  Reading one metric and writing text are
  the same for all stores and are defined here from the rest.
-/
import Meterbank.Delta
import Meterbank.Metric.Batch

namespace Meterbank

/-- The operations of a store whose state is a `σ`. -/
structure Store (σ : Type) where
  /-- Applies one metric; of a counter the answer has the new total. -/
  writeData : Metric → σ → Except StoreError Metric × σ
  /-- Applies all metrics of a batch, or none. -/
  writeBatch : Batch → σ → Except StoreError Unit × σ
  /-- The given gauges, all of which must be there; all gauges, if none is given. -/
  readGauges : List String → σ → Except StoreError (Table Binary64) × σ
  /-- The given counters, all of which must be there; all counters, if none is given. -/
  readCounters : List String → σ → Except StoreError (Table Int64) × σ
  /-- Writes a gauge, under any key. -/
  writeGauge : String → Binary64 → σ → Except StoreError Unit × σ
  /-- Adds to a counter, under any key. -/
  writeCounter : String → Int64 → σ → Except StoreError Unit × σ
  /-- Makes everything written so far durable. -/
  dump : σ → Except StoreError Unit × σ
  /-- Applies what was made durable on top of the state. -/
  load : σ → Except StoreError Unit × σ
  /-- Whether the store is alive. -/
  ping : σ → Except StoreError Unit × σ
  /-- Gives the store up. -/
  close : σ → Except StoreError Unit × σ

namespace Store

variable {σ : Type}

/-! ## Operations all stores share -/

/-- Writes a gauge whose value is a text. -/
def writeGaugeText (S : Store σ) (key raw : String) (s : σ) : Except StoreError Unit × σ :=
  match parseGauge raw with
  | .ok x => S.writeGauge key x s
  | .error e => (.error e, s)

/-- Adds a delta that is a text to a counter. -/
def writeCounterText (S : Store σ) (key raw : String) (s : σ) : Except StoreError Unit × σ :=
  match parseCounter raw with
  | .ok delta => S.writeCounter key delta s
  | .error e => (.error e, s)

/-- The number of one metric, from the answer to a read of its table. -/
def pick {α : Type} (kind : Kind) (metric : String → α → Metric) (id : String)
    (p : Except StoreError (Table α) × σ) : Except StoreError Metric × σ :=
  match p with
  | (.error e, s) => (.error e, s)
  | (.ok found, s) =>
    match found.get? id with
    | some x => (.ok (metric id x), s)
    | none => (.error (.notFound kind id), s)

@[simp]
theorem pick_state {α : Type} (kind : Kind) (metric : String → α → Metric) (id : String)
    (p : Except StoreError (Table α) × σ) : (pick kind metric id p).2 = p.2 := by
  obtain ⟨answer, s⟩ := p
  cases answer with
  | error e => rfl
  | ok found =>
    simp only [pick]
    cases found.get? id with
    | some x => rfl
    | none => rfl

/-- The current number of one metric. -/
def readData (S : Store σ) (query : Metric) (s : σ) : Except StoreError Metric × σ :=
  match Kind.parse query.tag with
  | .error e => (.error e, s)
  | .ok .gauge => pick .gauge .gauge query.id (S.readGauges [query.id] s)
  | .ok .counter => pick .counter .counter query.id (S.readCounters [query.id] s)

/-- What the reads of tables keep, a read of one metric keeps. -/
theorem readData_keeps {S : Store σ} {P : σ → Prop} {s : σ} (h : P s)
    (hgauges : ∀ keys, P (S.readGauges keys s).2) (hcounters : ∀ keys, P (S.readCounters keys s).2)
    (query : Metric) : P (S.readData query s).2 := by
  unfold readData
  split
  · exact h
  · rw [pick_state]
    exact hgauges [query.id]
  · rw [pick_state]
    exact hcounters [query.id]

/-! ## Calls as data -/

/-- A call of an operation. -/
inductive Call where
  | writeData (metric : Metric)
  | writeBatch (batch : Batch)
  | readData (query : Metric)
  | readGauges (keys : List String)
  | readCounters (keys : List String)
  | writeGaugeText (key raw : String)
  | writeGauge (key : String) (value : Binary64)
  | writeCounterText (key raw : String)
  | writeCounter (key : String) (delta : Int64)
  | dump
  | load
  | ping
  | close
  deriving DecidableEq, Repr

/-- What an operation answers with when it succeeds. -/
inductive Payload where
  | nothing
  | metric (m : Metric)
  | gauges (t : Table Binary64)
  | counters (t : Table Int64)

/-- Puts a payload around an answer. -/
def wrap {α : Type} (f : α → Payload) (p : Except StoreError α × σ) :
    Except StoreError Payload × σ :=
  (p.1.map f, p.2)

/-- Performs a call. -/
def perform (S : Store σ) (call : Call) (s : σ) : Except StoreError Payload × σ :=
  match call with
  | .writeData m => wrap .metric (S.writeData m s)
  | .writeBatch b => wrap (fun _ => .nothing) (S.writeBatch b s)
  | .readData q => wrap .metric (S.readData q s)
  | .readGauges keys => wrap .gauges (S.readGauges keys s)
  | .readCounters keys => wrap .counters (S.readCounters keys s)
  | .writeGaugeText key raw => wrap (fun _ => .nothing) (S.writeGaugeText key raw s)
  | .writeGauge key x => wrap (fun _ => .nothing) (S.writeGauge key x s)
  | .writeCounterText key raw => wrap (fun _ => .nothing) (S.writeCounterText key raw s)
  | .writeCounter key delta => wrap (fun _ => .nothing) (S.writeCounter key delta s)
  | .dump => wrap (fun _ => .nothing) (S.dump s)
  | .load => wrap (fun _ => .nothing) (S.load s)
  | .ping => wrap (fun _ => .nothing) (S.ping s)
  | .close => wrap (fun _ => .nothing) (S.close s)

/-- **What the operations keep, every call keeps.** -/
theorem perform_keeps {S : Store σ} {P : σ → Prop} {s : σ} (h : P s)
    (hdata : ∀ m, P (S.writeData m s).2) (hbatch : ∀ b, P (S.writeBatch b s).2)
    (hgauges : ∀ keys, P (S.readGauges keys s).2) (hcounters : ∀ keys, P (S.readCounters keys s).2)
    (hgauge : ∀ key x, P (S.writeGauge key x s).2)
    (hcounter : ∀ key delta, P (S.writeCounter key delta s).2) (hdump : P (S.dump s).2)
    (hload : P (S.load s).2) (hping : P (S.ping s).2) (hclose : P (S.close s).2) (call : Call) :
    P (S.perform call s).2 := by
  cases call with
  | writeData m => exact hdata m
  | writeBatch b => exact hbatch b
  | readData q => exact readData_keeps h hgauges hcounters q
  | readGauges keys => exact hgauges keys
  | readCounters keys => exact hcounters keys
  | writeGaugeText key raw =>
    simp only [perform, wrap, writeGaugeText]
    split
    · exact hgauge key _
    · exact h
  | writeGauge key x => exact hgauge key x
  | writeCounterText key raw =>
    simp only [perform, wrap, writeCounterText]
    split
    · exact hcounter key _
    · exact h
  | writeCounter key delta => exact hcounter key delta
  | dump => exact hdump
  | load => exact hload
  | ping => exact hping
  | close => exact hclose

/-- Performs calls one after the other, and gives all answers. -/
def performAll (S : Store σ) : List Call → σ → List (Except StoreError Payload) × σ
  | [], s => ([], s)
  | call :: calls, s =>
    let (answer, s) := S.perform call s
    let (answers, s) := performAll S calls s
    (answer :: answers, s)

end Store

end Meterbank
