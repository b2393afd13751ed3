/-
  Meterbank.Store.Plans — what a request asks of a database.

  Every request to a store over a database is answered at once, or it is
  one piece of work: a statement that writes, after the tables it needs
  were made sure of on the connection that writes; or a statement that
  reads one table, before which that table is made sure of unless it is
  known to be there.  Pinging and closing ask nothing of the tables.

  Main results:
    * `perform_plan` — carrying out the plan of a call is performing it.
    * `perform_flush` — and so with folded updates.
-/
import Meterbank.Store.Sql

namespace Meterbank

open Meterbank.Sql

/-! ## Work whose answer is translated -/

/-- A statement whose answer is translated. -/
def Sql.Statement.map {α β : Type} (f : α → β) (statement : Statement α) : Statement β := fun db =>
  ((statement db).1.map f, (statement db).2)

namespace Sql

variable {α β : Type} (f : α → β)

/-- Work whose answer is translated. -/
def Work.map (work : Work α) : Work β := fun access p =>
  ((work access p).1.map f, (work access p).2)

theorem Link.after_map (l : Link) (answer : Except StoreError α) (db : Database) :
    l.after (answer.map f) db = l.after answer db := by
  unfold after
  cases answer with
  | ok a => cases l.access <;> rfl
  | error e => cases l.access <;> rfl

theorem Link.run_map (work : Work α) (l : Link) (p : Guard × Database) :
    l.run (Work.map f work) p = ((l.run work p).1.map f, (l.run work p).2) := by
  unfold run
  cases l.own with
  | none | some own =>
    simp only [Work.map]
    rw [after_map]

theorem Connection.onWriter_map (work : Work α) (c : Connection) (p : Guard × Database) :
    c.onWriter (Work.map f work) p = ((c.onWriter work p).1.map f, (c.onWriter work p).2) := by
  unfold onWriter
  cases c.closed with
  | true => rfl
  | false =>
    simp only [Bool.false_eq_true, if_false]
    rw [Link.run_map]

theorem Connection.onReader_map (work : Work α) (c : Connection) (p : Guard × Database) :
    c.onReader (Work.map f work) p = ((c.onReader work p).1.map f, (c.onReader work p).2) := by
  unfold onReader
  cases hr : c.readers[c.turn % c.readers.length]? with
  | none =>
    simp only [hr]
    exact c.onWriter_map f work p
  | some reader =>
    simp only [hr]
    by_cases hc : c.closed = true
    · rw [if_pos hc, if_pos hc]
      rfl
    · rw [if_neg hc, if_neg hc, Link.run_map]

theorem Session.onWriter_map (work : Work α) (s : Session) :
    s.onWriter (Work.map f work) = ((s.onWriter work).1.map f, (s.onWriter work).2) := by
  unfold onWriter
  rw [Connection.onWriter_map]

theorem Session.onReader_map (work : Work α) (s : Session) :
    s.onReader (Work.map f work) = ((s.onReader work).1.map f, (s.onReader work).2) := by
  unfold onReader
  rw [Connection.onReader_map]

end Sql

namespace SqlStore

variable {α β : Type} (f : α → β)

/-- Translating the answer of a statement translates that of the write. -/
theorem write_map (kinds : List Kind) (statement : Access → Statement α) (s : SqlStore) :
    s.write kinds (fun access => (statement access).map f) =
      ((s.write kinds statement).1.map f, (s.write kinds statement).2) := by
  have hwork : writing kinds (fun access => (statement access).map f) =
      Work.map f (writing kinds statement) := by
    funext access p
    unfold writing Work.map
    cases hp : ensureAll access kinds p with
    | mk answer p' =>
      cases answer with
      | ok access' | error e =>
        simp only [hp]
        rfl
  unfold write through
  rw [hwork, Session.onWriter_map]

/-- Translating the answer of a statement translates that of the read. -/
theorem read_map (kind : Kind) (statement : Access → Statement α) (s : SqlStore) :
    s.read kind (fun access => (statement access).map f) =
      ((s.read kind statement).1.map f, (s.read kind statement).2) := by
  have hwork : reading (fun access => (statement access).map f) =
      Work.map f (reading statement) := rfl
  unfold read
  cases s.prepareRead kind with
  | mk answer s' =>
    cases answer with
    | error e => rfl
    | ok _ =>
      simp only
      unfold through
      rw [hwork, Session.onReader_map]

end SqlStore

/-! ## Plans -/

/-- What a request asks of a database. -/
inductive Plan where
  /-- Nothing; the answer stands. -/
  | done (answer : Except StoreError Store.Payload)
  /-- To make sure of tables and then to run a statement that writes. -/
  | write (kinds : List Kind) (statement : Access → Statement Store.Payload)
  /-- To read a table, and then to look at what was found. -/
  | read (kind : Kind) (statement : Access → Statement Store.Payload)
      (look : Store.Payload → Except StoreError Store.Payload)
  | ping
  | close

namespace Plan

/-- To write a gauge, and to answer so. -/
def gauge (receipt : Store.Payload) (key : String) (x : Binary64) : Plan :=
  match checkGauge x with
  | .error e => .done (.error e)
  | .ok x => .write [.gauge] fun access => (Statement.upsert access key x).map fun _ => receipt

/-- To add to a counter, and to answer so with the total. -/
def counter (receipt : Int64 → Store.Payload) (key : String) (delta : Int64) : Plan :=
  .write [.counter] fun access => (Statement.accumulate access key delta).map receipt

/-- To write folded updates. -/
def flush (d : Delta) : Plan :=
  if d.isEmpty then .done (.ok .nothing)
  else
    match SqlStore.checkGauges d.gauges.toList with
    | .error e => .done (.error e)
    | .ok _ =>
      .write [.gauge, .counter] fun access =>
        (SqlStore.deltaStatement d access).map fun _ => .nothing

/-- Demands that all keys were found, before looking at what was. -/
def demanding {α : Type} (kind : Kind) (keys : List String)
    (look : Table α → Except StoreError Store.Payload) (found : Table α) :
    Except StoreError Store.Payload :=
  match Table.ensurePresent kind keys found with
  | .error e => .error e
  | .ok _ => look found

/-- How the metrics of a kind are read: what a row says, and how the table
found is passed on so that it can be looked at again. -/
structure Source (α : Type) where
  kind : Kind
  value : Row → Except SqlFault α
  payload : Table α → Store.Payload
  table? : Store.Payload → Option (Table α)
  table?_payload : ∀ found, table? (payload found) = some found

/-- How gauges are read. -/
def Source.gauges : Source Binary64 where
  kind := .gauge
  value := Relation.readGauge
  payload := .gauges
  table?
    | .gauges found => some found
    | _ => none
  table?_payload _ := rfl

/-- How counters are read. -/
def Source.counters : Source Int64 where
  kind := .counter
  value := Relation.readCounter
  payload := .counters
  table?
    | .counters found => some found
    | _ => none
  table?_payload _ := rfl

/-- To read the metrics of a kind. -/
def select {α : Type} (source : Source α) (keys : List String)
    (look : Table α → Except StoreError Store.Payload) : Plan :=
  .read source.kind
    (fun access => (Statement.select access source.kind source.value keys).map source.payload)
    fun payload =>
      match source.table? payload with
      | some found => demanding source.kind keys look found
      | none => .ok payload

/-- To read one metric. -/
def selectOne {α : Type} (source : Source α) (metric : String → α → Metric) (id : String) : Plan :=
  select source [id] fun found =>
    match found.get? id with
    | some x => .ok (.metric (metric id x))
    | none => .error (.notFound source.kind id)

/-- The plan of a call. -/
def ofCall : Store.Call → Plan
  | .writeData m =>
    match m.validate with
    | .error e => .done (.error e)
    | .ok u =>
      match u.sample with
      | .gauge x => gauge (.metric (.gauge u.id x)) u.id x
      | .counter delta => counter (fun total => .metric (.counter u.id total)) u.id delta
  | .writeBatch b =>
    match b.validate with
    | .error e => .done (.error e)
    | .ok us =>
      match Delta.ofUpdates us with
      | .error e => .done (.error e)
      | .ok d => flush d
  | .readData q =>
    match Kind.parse q.tag with
    | .error e => .done (.error e)
    | .ok .gauge => selectOne .gauges .gauge q.id
    | .ok .counter => selectOne .counters .counter q.id
  | .readGauges keys => select .gauges keys fun found => .ok (.gauges found)
  | .readCounters keys => select .counters keys fun found => .ok (.counters found)
  | .writeGaugeText key raw =>
    match parseGauge raw with
    | .error e => .done (.error e)
    | .ok x => gauge .nothing key x
  | .writeGauge key x => gauge .nothing key x
  | .writeCounterText key raw =>
    match parseCounter raw with
    | .error e => .done (.error e)
    | .ok delta => counter (fun _ => .nothing) key delta
  | .writeCounter key delta => counter (fun _ => .nothing) key delta
  | .dump | .load => .done (.ok .nothing)
  | .ping => .ping
  | .close => .close

/-- What a plan answers when its work has been answered. -/
def finish : Plan → Except StoreError Store.Payload → Except StoreError Store.Payload
  | .read _ _ look, answer => answer.bind look
  | _, answer => answer

/-- Carries out a plan at one go. -/
def perform (plan : Plan) (s : SqlStore) : Except StoreError Store.Payload × SqlStore :=
  match plan with
  | .done answer => (answer, s)
  | .write kinds statement => s.write kinds statement
  | .read kind statement look =>
    let (answer, s) := s.read kind statement
    (answer.bind look, s)
  | .ping => Store.wrap (fun _ => .nothing) (s.pingWhile false)
  | .close => Store.wrap (fun _ => .nothing) s.close

/-! ## Plans against operations -/

theorem perform_read (kind : Kind) (statement : Access → Statement Store.Payload)
    (look : Store.Payload → Except StoreError Store.Payload) (s : SqlStore) :
    (read kind statement look).perform s =
      ((s.read kind statement).1.bind look, (s.read kind statement).2) := rfl

theorem perform_gauge (receipt : Store.Payload) (key : String) (x : Binary64) (s : SqlStore) :
    (gauge receipt key x).perform s = Store.wrap (fun _ => receipt) (s.writeGauge key x) := by
  unfold gauge SqlStore.writeGauge
  cases checkGauge x with
  | error e => rfl
  | ok y => exact s.write_map (fun _ => receipt) [.gauge] fun access => Statement.upsert access key y

theorem perform_counter (receipt : Int64 → Store.Payload) (key : String) (delta : Int64)
    (s : SqlStore) :
    (counter receipt key delta).perform s = Store.wrap receipt (s.addCounter key delta) :=
  s.write_map receipt [.counter] fun access => Statement.accumulate access key delta

theorem perform_writeCounter (key : String) (delta : Int64) (s : SqlStore) :
    (counter (fun _ => .nothing) key delta).perform s =
      Store.wrap (fun _ => .nothing) (SqlStore.operations.writeCounter key delta s) := by
  rw [perform_counter]
  simp only [SqlStore.operations]
  cases s.addCounter key delta with
  | mk answer s' => cases answer <;> rfl

/-- **Carrying out the plan of folded updates is writing them.** -/
theorem perform_flush (d : Delta) (s : SqlStore) :
    (flush d).perform s = Store.wrap (fun _ => .nothing) (s.writeDelta d) := by
  unfold flush SqlStore.writeDelta
  split
  · rfl
  · cases SqlStore.checkGauges d.gauges.toList with
    | error e => rfl
    | ok _ =>
      exact s.write_map (fun _ => Store.Payload.nothing) [.gauge, .counter]
        (SqlStore.deltaStatement d)

/-- What a store reads of a kind. -/
def Source.found {α : Type} (source : Source α) (keys : List String) (s : SqlStore) :
    Except StoreError (Table α) × SqlStore :=
  SqlStore.demand source.kind keys
    (s.read source.kind fun access => Statement.select access source.kind source.value keys)

theorem perform_select {α : Type} (source : Source α) (keys : List String)
    (look : Table α → Except StoreError Store.Payload) (s : SqlStore) :
    (select source keys look).perform s =
      ((source.found keys s).1.bind look, (source.found keys s).2) := by
  unfold select Source.found
  rw [perform_read, s.read_map source.payload source.kind fun access =>
    Statement.select access source.kind source.value keys]
  cases s.read source.kind fun access =>
      Statement.select access source.kind source.value keys with
  | mk answer s' =>
    cases answer with
    | error e => rfl
    | ok found =>
      simp only [SqlStore.demand, demanding, Except.map, Except.bind, source.table?_payload]
      cases Table.ensurePresent source.kind keys found with
      | error e => rfl
      | ok _ => rfl

theorem perform_selectOne {α : Type} (source : Source α) (metric : String → α → Metric)
    (id : String) (s : SqlStore) :
    (selectOne source metric id).perform s =
      Store.wrap .metric (Store.pick source.kind metric id (source.found [id] s)) := by
  unfold selectOne
  rw [perform_select]
  cases source.found [id] s with
  | mk answer s' =>
    cases answer with
    | error e => rfl
    | ok found =>
      simp only [Except.bind, Store.pick]
      cases found.get? id with
      | none => rfl
      | some x => rfl

/-- **Carrying out the plan of a call is performing it.** -/
theorem perform_plan (call : Store.Call) (s : SqlStore) :
    (ofCall call).perform s = SqlStore.operations.perform call s := by
  cases call with
  | writeData m =>
    simp only [ofCall, Store.perform, SqlStore.operations, SqlStore.writeData]
    cases m.validate with
    | error e => rfl
    | ok u =>
      obtain ⟨id, sample⟩ := u
      cases sample with
      | gauge x =>
        simp only
        rw [perform_gauge]
        cases s.writeGauge id x with
        | mk answer s' => cases answer <;> rfl
      | counter delta =>
        simp only
        rw [perform_counter]
        cases s.addCounter id delta with
        | mk answer s' => cases answer <;> rfl
  | writeBatch b =>
    simp only [ofCall, Store.perform, SqlStore.operations, SqlStore.writeBatch]
    cases b.validate with
    | error e => rfl
    | ok us =>
      simp only
      cases Delta.ofUpdates us with
      | error e => rfl
      | ok d => exact perform_flush d s
  | readData q =>
    simp only [ofCall, Store.perform, SqlStore.operations, Store.readData]
    cases Kind.parse q.tag with
    | error e => rfl
    | ok kind =>
      cases kind with
      | gauge => exact perform_selectOne .gauges .gauge q.id s
      | counter => exact perform_selectOne .counters .counter q.id s
  | readGauges keys => exact perform_select .gauges keys (fun found => .ok (.gauges found)) s
  | readCounters keys => exact perform_select .counters keys (fun found => .ok (.counters found)) s
  | writeGaugeText key raw =>
    simp only [ofCall, Store.perform, Store.writeGaugeText]
    cases parseGauge raw with
    | error e => rfl
    | ok x => exact perform_gauge .nothing key x s
  | writeGauge key x => exact perform_gauge .nothing key x s
  | writeCounterText key raw =>
    simp only [ofCall, Store.perform, Store.writeCounterText]
    cases parseCounter raw with
    | error e => rfl
    | ok delta =>
      simp only
      exact perform_writeCounter key delta s
  | writeCounter key delta => exact perform_writeCounter key delta s
  | dump | load | ping | close => rfl

end Plan

end Meterbank
