/-
  Meterbank.Store.Dumping — many callers of tables in memory.

  Any number of threads may write to tables in memory and dump them at the
  same time.  Each table has a lock of its own, and so have the dumps:

      writing            a metric or the counters of a batch are applied,
                         under the lock of one table
      settingGauges      the gauges of a batch are set, under their lock
      waiting            the lock of the dumps is taken, once it is free
      copyingGauges      the gauges are copied, under their lock
      copyingCounters    the counters are copied, under theirs
      rewriting          the file is written anew
      releasing          the lock of the dumps is given back

  A call that dumps goes through the last five of them, and so does a
  write of metrics if every write dumps.  Only the tables and the file
  are seen by others, and the file only as a whole.

  Main result:
    * `run_alone` — a caller that nobody disturbs does what the operation
      of the store does.
-/
import Meterbank.Store.Callers
import Meterbank.Store.File

namespace Meterbank.Dumping

open Meterbank.Callers (step course course_succ course_end)

/-! ## Calls -/

/-- What the callers of a store share. -/
structure Shared where
  store : FileStore
  files : Files
  /-- The caller that dumps, if one does. -/
  dumper : Option Nat

/-- How far a call has come. -/
inductive Point where
  /-- Nothing of a write has been applied. -/
  | writing
  /-- The counters of a batch have been added to. -/
  | settingGauges (gauges : Table Binary64)
  /-- About to dump, once nobody else does. -/
  | waiting (receipt : Store.Payload)
  | copyingGauges (receipt : Store.Payload)
  | copyingCounters (gauges : Table Binary64) (receipt : Store.Payload)
  | rewriting (gauges : Table Binary64) (counters : Table Int64) (receipt : Store.Payload)
  /-- The file has been written, or could not be. -/
  | releasing (answer : Except StoreError Store.Payload)
  | answered (answer : Except StoreError Store.Payload)

/-- Where a call begins. -/
def first : Chore → Point
  | .write _ => .writing
  | .dump => .waiting .nothing

/-- What a call answers with after a dump that failed.  A write stands all
the same. -/
def afterFault (chore : Chore) (receipt : Store.Payload) (e : StoreError) :
    Except StoreError Store.Payload :=
  match chore with
  | .write _ => .ok receipt
  | .dump => .error e

/-! ## Sections -/

/-- A write of which all has been applied: it has yet to dump, if every
write of metrics does. -/
def concluded (s : FileStore) (receipt : Store.Payload) : Point :=
  if s.sync then .waiting receipt else .answered (.ok receipt)

/-- The section that applies a metric. -/
def applyingData (m : Metric) (s : Shared) : Point × Shared :=
  match m.validate with
  | .error e => (.answered (.error e), s)
  | .ok u =>
    match s.store.apply u with
    | .error e => (.answered (.error e), s)
    | .ok (written, store) => (concluded store (.metric written), { s with store })

/-- The section that applies the counters of a batch. -/
def applyingBatch (b : Batch) (s : Shared) : Point × Shared :=
  match b.validate with
  | .error e => (.answered (.error e), s)
  | .ok us =>
    match Delta.ofUpdates us with
    | .error e => (.answered (.error e), s)
    | .ok d =>
      match s.store.counters.addAll d.counters with
      | .error e => (.answered (.error e), s)
      | .ok counters => (.settingGauges d.gauges, { s with store := { s.store with counters } })

/-- A write to one of the tables: one section that does all of it, and
dumps nothing. -/
def Shared.answeredBy (s : Shared) (p : Except StoreError Store.Payload × FileStore.State) :
    Point × Shared :=
  (.answered p.1, { s with store := p.2.1, files := p.2.2 })

/-- The first section of a write. -/
def applying (w : Write) (s : Shared) : Point × Shared :=
  match w with
  | .data m => applyingData m s
  | .batch b => applyingBatch b s
  | w => s.answeredBy (FileStore.operations.perform w.call (s.store, s.files))

/-- The next section of the caller of this number. -/
def next (i : Nat) (chore : Chore) (point : Point) (s : Shared) : Point × Shared :=
  match point with
  | .writing =>
    match chore with
    | .write w => applying w s
    | .dump => (.waiting .nothing, s)
  | .settingGauges gauges =>
    (concluded s.store .nothing,
      { s with store := { s.store with gauges := s.store.gauges.setAll gauges } })
  | .waiting receipt =>
    if s.dumper.isSome then (.waiting receipt, s)
    else (.copyingGauges receipt, { s with dumper := some i })
  | .copyingGauges receipt => (.copyingCounters s.store.gauges receipt, s)
  | .copyingCounters gauges receipt => (.rewriting gauges s.store.counters receipt, s)
  | .rewriting gauges counters receipt =>
    match { s.store with gauges, counters }.dump s.files with
    | .ok files => (.releasing (.ok receipt), { s with files })
    | .error e => (.releasing (afterFault chore receipt e), s)
  | .releasing answer => (.answered answer, { s with dumper := none })
  | .answered answer => (.answered answer, s)

/-! ## Callers -/

/-- How calls go through the store. -/
def protocol : Callers.Protocol Chore Shared Point where
  first := first
  next := next
  answer? point :=
    match point with
    | .answered answer => some answer
    | _ => none

@[simp]
theorem protocol_next (i : Nat) (chore : Chore) (point : Point) (s : Shared) :
    protocol.next i chore point s = next i chore point s := rfl

abbrev Caller := Callers.Caller Chore Point

abbrev State := Callers.State Chore Shared Point

abbrev Event := Callers.Event Chore

/-- A store that nobody dumps. -/
def share (store : FileStore) (files : Files) : Shared := ⟨store, files, none⟩

/-- A store that nobody has called yet. -/
def start (store : FileStore) (files : Files) : State := Callers.start (share store files)

/-! ## A caller that nobody disturbs -/

theorem course_answered (i : Nat) (chore : Chore) (n : Nat)
    (answer : Except StoreError Store.Payload) (s : Shared) :
    course protocol i chore n (.answered answer, s) = (.answered answer, s) :=
  course_end protocol rfl n

/-- A dump takes five sections. -/
theorem course_waiting (i : Nat) (chore : Chore) (n : Nat) (r : Store.Payload) (s : Shared)
    (hfree : s.dumper = none) :
    course protocol i chore (n + 5) (.waiting r, s) =
      match s.store.dump s.files with
      | .ok files => (.answered (.ok r), { s with files })
      | .error e => (.answered (afterFault chore r e), s) := by
  obtain ⟨store, files, dumper⟩ := s
  obtain rfl : dumper = none := hfree
  -- The tables have been copied; the file is next, and then the lock.
  show course protocol i chore (n + 1) (match store.dump files with
    | .ok files => (.releasing (.ok r), ⟨store, files, some i⟩)
    | .error e => (.releasing (afterFault chore r e), ⟨store, files, some i⟩)) = _
  cases store.dump files with
  | ok files' => exact course_answered i chore n _ _
  | error e => exact course_answered i chore n _ _

/-- What is left of a write that has been applied: it dumps, if every write
does. -/
theorem course_concluded (i : Nat) (w : Write) (n : Nat) (r : Store.Payload) (s : Shared)
    (hfree : s.dumper = none) :
    course protocol i (.write w) (n + 5) (concluded s.store r, s) =
      (.answered (.ok r), { s with files := s.store.afterWrite s.files }) := by
  unfold concluded FileStore.afterWrite
  split
  · rw [course_waiting i (.write w) n r s hfree]
    cases s.store.dump s.files with
    | ok files => rfl
    | error e => rfl
  · exact course_answered i _ _ _ _

/-- A write that nobody disturbs does what the operation does. -/
theorem course_writing (i : Nat) (w : Write) (s : Shared) (hfree : s.dumper = none) :
    course protocol i (.write w) 7 (.writing, s) =
      s.answeredBy (FileStore.operations.perform w.call (s.store, s.files)) := by
  show course protocol i (.write w) 6 (applying w s) = _
  cases w with
  | data m =>
    simp only [applying, applyingData, Write.call, Store.perform, FileStore.operations,
      FileStore.writeData, Store.wrap]
    cases hm : m.validate with
    | error e => exact course_answered i _ _ _ _
    | ok u =>
      simp only
      cases hu : s.store.apply u with
      | error e => exact course_answered i _ _ _ _
      | ok p => exact course_concluded i _ 1 _ { s with store := p.2 } hfree
  | batch b =>
    simp only [applying, applyingBatch, Write.call, Store.perform, FileStore.operations,
      FileStore.writeBatch, FileStore.applyAll, FileStore.applyDelta, Store.wrap]
    cases hb : b.validate with
    | error e => exact course_answered i _ _ _ _
    | ok us =>
      simp only
      cases hd : Delta.ofUpdates us with
      | error e => exact course_answered i _ _ _ _
      | ok d =>
        simp only
        cases hadd : s.store.counters.addAll d.counters with
        | error e => exact course_answered i _ _ _ _
        | ok counters =>
          rw [course_succ]
          exact course_concluded i _ 0 _
            { s with
              store := { s.store with counters, gauges := s.store.gauges.setAll d.gauges } } hfree
  | gauge key x | gaugeText key raw | counter key delta | counterText key raw =>
    exact course_answered i _ _ _ _

/-- A call that nobody disturbs does what the operation does. -/
theorem course_first (i : Nat) (chore : Chore) (s : Shared) (hfree : s.dumper = none) :
    course protocol i chore 7 (first chore, s) =
      s.answeredBy (FileStore.operations.perform chore.call (s.store, s.files)) := by
  cases chore with
  | write w => exact course_writing i w s hfree
  | dump =>
    show course protocol i .dump (2 + 5) (.waiting .nothing, s) = _
    rw [course_waiting i .dump 2 .nothing s hfree]
    simp only [Chore.call, Store.perform, FileStore.operations, Store.wrap]
    cases s.store.dump s.files with
    | ok files => rfl
    | error e => rfl

/-- **A caller that nobody disturbs does what the operation of the store
does**, and is answered the same. -/
theorem run_alone (chore : Chore) (s : State) (hfree : s.shared.dumper = none) :
    run (step protocol) s (.call chore :: List.replicate 7 (.advance s.callers.length)) =
      ⟨(s.shared.answeredBy
          (FileStore.operations.perform chore.call (s.shared.store, s.shared.files))).2,
        s.callers ++ [⟨chore, .answered
          (FileStore.operations.perform chore.call (s.shared.store, s.shared.files)).1⟩]⟩ :=
  Callers.run_undisturbed protocol (course_first s.callers.length chore s.shared hfree)

end Meterbank.Dumping
