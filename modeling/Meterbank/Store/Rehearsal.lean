/-
  Meterbank.Store.Rehearsal — a window whose every move is called out.

  Writers with names enter a window and wait; flushes happen when they
  are asked for.  What the window hands over goes to a receiver that
  follows cues, one per flush: it passes the delta on, refuses it, or
  dies of it.  A receiver that passes deltas on may have a database
  behind it; without cues it always passes them on.
-/
import Meterbank.Store.Coalesced

namespace Meterbank

open Meterbank.Window

/-! ## The receiver -/

/-- What the receiver of a flush does with it. -/
inductive Cue where
  | pass
  | die
  | refuse (cause : SqlFault)
  deriving DecidableEq, Inhabited, Repr

/-- A receiver of flushes that follows cues. -/
structure Receiver where
  /-- What to do with the next flushes. -/
  cues : List Cue
  /-- The database that deltas are passed on to. -/
  database : Option SqlStore
  deriving DecidableEq, Inhabited, Repr

namespace Receiver

/-- Passes a delta on. -/
def deliver (delta : Delta) (r : Receiver) : Reply × Receiver :=
  match r.database with
  | none => (.done (.ok ()), r)
  | some sql =>
    let (outcome, sql) := sql.writeDelta delta
    (.done outcome, { r with database := some sql })

/-- Receives a flush, as the next cue says. -/
def receive : Sink Receiver := fun delta r =>
  let rest : Receiver := { r with cues := r.cues.tail }
  match r.cues.headD .pass with
  | .pass => deliver delta rest
  | .die => (.panicked, rest)
  | .refuse cause => (.done (.error (.sql cause)), rest)

end Receiver

/-! ## The rehearsal -/

/-- A window, its receiver, and the writers that wait. -/
structure Rehearsal where
  window : Window.State
  receiver : Receiver
  /-- Milliseconds between flushes nobody asks for. -/
  interval : Nat
  /-- The writers that wait, in the order in which they came, each with
  its number as a caller. -/
  waiting : List (String × Nat)

/-- What a writer is told: to wait, or the outcome. -/
inductive Admission where
  | waits
  | returned (outcome : Outcome)

/-- What the writers have been told whose window has ended. -/
abbrev Told := List (String × Outcome)

namespace Rehearsal

/-- A fresh window in front of a receiver, with a database in memory
behind it if asked for.  The interval must not be zero. -/
def start (cues : List Cue) (withDatabase : Bool) (interval : Nat) :
    Except StoreError Rehearsal :=
  let sql := SqlStore.inMemory
  match CoalescedStore.create sql interval with
  | .error e => .error e
  | .ok fresh =>
    .ok ⟨fresh.window, ⟨cues, if withDatabase then some sql else none⟩, interval, []⟩

/-- A writer comes with updates. -/
def enter (name : String) (us : List Update) (r : Rehearsal) : Admission × Rehearsal :=
  match Delta.ofUpdates us with
  | .error e => (.returned (.error e), r)
  | .ok delta =>
    let (id, window) := arrive r.window (.submit delta)
    match window.answer? id with
    | some outcome => (.returned outcome, { r with window })
    | none => (.waits, { r with window, waiting := r.waiting ++ [(name, id)] })

/-- A writer comes with updates and waits for the next flush. -/
def submit (us : List Update) (r : Rehearsal) : Outcome × Rehearsal :=
  match Delta.ofUpdates us with
  | .error e => (.error e, r)
  | .ok delta =>
    let (outcome, window, receiver) := submitAlone Receiver.receive delta (r.window, r.receiver)
    (CoalescedStore.settled outcome, { r with window, receiver })

/-- Lets all writers go on that can, and tells who has returned. -/
def release (r : Rehearsal) : Told × Rehearsal :=
  let window := settleAll r.window
  let told := r.waiting.filterMap fun writer =>
    (window.answer? writer.2).map fun outcome => (writer.1, outcome)
  let waiting := r.waiting.filter fun writer => (window.answer? writer.2).isNone
  (told, { r with window, waiting })

/-- Has the current window flushed. -/
def flush (r : Rehearsal) : Outcome × Told × Rehearsal :=
  let (outcome, window, receiver) := flushAlone Receiver.receive (r.window, r.receiver)
  (CoalescedStore.settled outcome, release { r with window, receiver })

/-- Ends the last window. -/
def shutdown (r : Rehearsal) : Stats × Told × Rehearsal :=
  let (stats, window, receiver) := shutdownAlone Receiver.receive (r.window, r.receiver)
  (stats.getD .zero, release { r with window, receiver })

/-- Runs an operation of the database behind the receiver, if there is one. -/
def onDatabase? {α : Type} (op : SqlStore → Except StoreError α × SqlStore) (r : Rehearsal) :
    Option (Except StoreError α × Rehearsal) :=
  r.receiver.database.map fun sql =>
    let (answer, sql) := op sql
    (answer, { r with receiver := { r.receiver with database := some sql } })

/-- What the receiver has been given, the oldest first. -/
def received (r : Rehearsal) : List Delta := r.window.handed.map Prod.snd

end Rehearsal

end Meterbank
