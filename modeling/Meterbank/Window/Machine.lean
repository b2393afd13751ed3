/-
  Meterbank.Window.Machine — collecting the writes of many callers.

  Callers merge their deltas into two pending tables and wait.  One
  flusher, woken by a timer or by a command, hands what has been merged
  to a sink, once per window.  A gate keeps the two apart: a caller passes
  it and registers, merges, and leaves; the flusher shuts it, waits until
  nobody is registered, takes the tables, calls the sink, publishes the
  outcome for the window's cycle and opens the gate again.  A caller
  waits on the cycle it saw when it passed the gate.

      caller   entering → merging counters → merging gauges → leaving → waiting → returned
      flusher  idle → (draining) → taking gauges → taking counters → calling
                    → completing → reopening → idle or exited

  An event is one section under one lock, or one end of a call of the
  sink; `step` says what it does, and does nothing where it cannot happen.
  A run is any list of events, so it is any interleaving of the sections.
-/
import Meterbank.Delta
import Meterbank.Runs

namespace Meterbank.Window

/-! ## Parts of the state -/

/-- What became of a window. -/
abbrev Outcome := Except StoreError Unit

/-- How a call of the sink can end. -/
inductive Reply where
  | done (outcome : Outcome)
  /-- The sink died of the call. -/
  | panicked

/-- The outcome of a window whose sink call ended so. -/
def Reply.outcome : Reply → Outcome
  | .done outcome => outcome
  | .panicked => .error (.io .sinkPanicked)

/-- What the flusher is told. -/
inductive Command where
  | flush
  | shutdown
  deriving DecidableEq, Repr

/-- The commands that may wait to be read. -/
def queueBound : Nat := 64

/-- What all callers and the flusher share under one lock. -/
structure Gate where
  isOpen : Bool
  /-- Set by the last window; callers are refused from then on. -/
  closed : Bool
  /-- How many callers have passed and not left. -/
  inFlight : Nat
  /-- The number of the current window. -/
  cycle : Nat
  deriving DecidableEq, Repr

/-- What the flusher has counted. -/
structure Stats where
  /-- Windows that ended, empty ones too. -/
  cycles : Nat
  /-- Windows that were handed to the sink. -/
  flushes : Nat
  failures : Nat
  gaugeRows : Nat
  counterRows : Nat
  deriving DecidableEq, Inhabited, Repr

/-- Nothing has been counted. -/
def Stats.zero : Stats := ⟨0, 0, 0, 0, 0⟩

/-- What a caller is there for. -/
inductive Task where
  /-- Merge a delta and wait for its window. -/
  | submit (delta : Delta)
  /-- Have the current window flushed and wait for it. -/
  | flush
  /-- Stop the flusher and wait for its statistics. -/
  | shutdown
  /-- Stop the flusher and wait for nothing. -/
  | abandon

/-- How far a caller has come. -/
inductive Point where
  | entering
  | mergingCounters (cycle : Nat)
  | mergingGauges (cycle : Nat)
  /-- Registered, with nothing left to do but to leave. -/
  | leaving (cycle : Nat) (refusal : Option StoreError)
  /-- About to ask for a flush. -/
  | sending (cycle : Nat)
  | waiting (cycle : Nat)
  | returned (outcome : Outcome)
  /-- About to tell the flusher to stop. -/
  | stopSending
  /-- About to take the right to wait for the flusher. -/
  | stopTaking
  /-- Waiting for the flusher to exit. -/
  | stopJoining
  | stopped (stats : Stats)

/-- A caller. -/
structure Caller where
  task : Task
  point : Point

/-- How far the flusher has come.  `last` marks the last window. -/
inductive Flusher where
  | idle
  /-- The gate is shut, but somebody is still registered. -/
  | draining (last : Bool)
  | takingGauges (last : Bool) (cycle : Nat)
  | takingCounters (last : Bool) (cycle : Nat) (gauges : Table Binary64)
  | calling (last : Bool) (cycle : Nat) (delta : Delta)
  | completing (last : Bool) (cycle : Nat) (outcome : Outcome)
  | reopening (last : Bool)
  | exited

/-- The whole state. -/
structure State where
  gate : Gate
  /-- What has been merged since the tables were last taken. -/
  pending : Delta
  /-- Commands the flusher has not read. -/
  queue : List Command
  /-- All callers that ever came; a caller's number is its index. -/
  callers : List Caller
  flusher : Flusher
  /-- The outcomes that have been published, by cycle. -/
  outcomes : List (Nat × Outcome)
  /-- Whether nobody has taken the right to wait for the flusher. -/
  joinable : Bool
  stats : Stats
  /-- What the sink was given, by cycle, oldest first. -/
  handed : List (Nat × Delta)

/-- The first window is open and empty. -/
def State.init : State where
  gate := ⟨true, false, 0, 1⟩
  pending := Delta.empty
  queue := []
  callers := []
  flusher := .idle
  outcomes := []
  joinable := true
  stats := .zero
  handed := []

/-! ## Callers -/

/-- Whether a caller is registered with the gate. -/
def Point.isRegistered : Point → Bool
  | .mergingCounters _ | .mergingGauges _ | .leaving _ _ => true
  | _ => false

/-- Where a caller starts. -/
def Task.start : Task → Point
  | .submit _ | .flush => .entering
  | .shutdown | .abandon => .stopSending

/-- Whether the flusher no longer reads commands. -/
def State.hasExited (s : State) : Bool :=
  match s.flusher with
  | .exited => true
  | _ => false

/-- The state with a caller at another point. -/
def State.moveTo (s : State) (id : Nat) (c : Caller) (point : Point) : State :=
  { s with callers := s.callers.set id { c with point } }

/-- A caller tries the gate: refused if it is closed, held up if it is
shut, registered if it is open. -/
def State.enter (s : State) (id : Nat) (c : Caller) : State :=
  if s.gate.closed then s.moveTo id c (.returned (.error .closed))
  else if s.gate.isOpen then
    let next : Point :=
      match c.task with
      | .submit _ => .mergingCounters s.gate.cycle
      -- A flush registers to learn the current window, and merges nothing.
      | _ => .leaving s.gate.cycle none
    { s.moveTo id c next with gate := { s.gate with inFlight := s.gate.inFlight + 1 } }
  else s

/-- A registered caller leaves, and goes on to wait, to ask for a flush,
or to return with the refusal of its delta. -/
def State.leave (s : State) (id : Nat) (c : Caller) (cycle : Nat) (refusal : Option StoreError) :
    State :=
  let next : Point :=
    match refusal, c.task with
    | some e, _ => .returned (.error e)
    | none, .flush => .sending cycle
    | none, _ => .waiting cycle
  { s.moveTo id c next with gate := { s.gate with inFlight := s.gate.inFlight - 1 } }

/-- A caller asks for a flush, without waiting for room. -/
def State.send (s : State) (id : Nat) (c : Caller) (cycle : Nat) : State :=
  let s' := s.moveTo id c (.waiting cycle)
  -- If the queue is full, commands that wait in it will flush the window.
  if s.hasExited = false ∧ s.queue.length < queueBound then
    { s' with queue := s.queue ++ [.flush] }
  else s'

/-- A caller tells the flusher to stop, waiting for room if need be. -/
def State.sendStop (s : State) (id : Nat) (c : Caller) : State :=
  let next : Point :=
    match c.task with
    | .abandon => .returned (.ok ())
    | _ => .stopTaking
  if s.hasExited then s.moveTo id c next
  else if s.queue.length < queueBound then
    { s.moveTo id c next with queue := s.queue ++ [.shutdown] }
  else s

/-- The next section of a caller. -/
def State.advance (s : State) (id : Nat) : State :=
  match s.callers[id]? with
  | none => s
  | some c =>
    match c.point, c.task with
    | .entering, _ => s.enter id c
    | .mergingCounters cycle, .submit delta =>
      match s.pending.mergeCounters delta with
      | .ok pending => { s.moveTo id c (.mergingGauges cycle) with pending }
      | .error e => s.moveTo id c (.leaving cycle (some e))
    | .mergingGauges cycle, .submit delta =>
      { s.moveTo id c (.leaving cycle none) with pending := s.pending.mergeGauges delta }
    | .leaving cycle refusal, _ => s.leave id c cycle refusal
    | .sending cycle, _ => s.send id c cycle
    | .waiting cycle, _ =>
      match s.outcomes.lookup cycle with
      | some outcome => s.moveTo id c (.returned outcome)
      | none => s
    | .stopSending, _ => s.sendStop id c
    | .stopTaking, _ =>
      -- Only the first to stop the flusher waits for it; others get zeros.
      if s.joinable then { s.moveTo id c .stopJoining with joinable := false }
      else s.moveTo id c (.stopped .zero)
    | .stopJoining, _ => if s.hasExited then s.moveTo id c (.stopped s.stats) else s
    | _, _ => s

/-! ## The flusher -/

/-- The flusher ends the current cycle, as nobody is registered. -/
def State.swap (s : State) (last : Bool) : State :=
  { s with
    gate := { s.gate with cycle := s.gate.cycle + 1 }
    flusher := .takingGauges last s.gate.cycle }

/-- The flusher shuts the gate, and goes on at once if nobody is registered. -/
def State.shut (s : State) (last : Bool) : State :=
  -- Once the gate is closed for good, no later window opens it again.
  let s := { s with gate := { s.gate with isOpen := false, closed := s.gate.closed || last } }
  if s.gate.inFlight = 0 then s.swap last else { s with flusher := .draining last }

/-- The flusher has taken both tables. -/
def State.taken (s : State) (last : Bool) (cycle : Nat) (delta : Delta) : State :=
  let stats := { s.stats with cycles := s.stats.cycles + 1 }
  -- A window with nothing in it ends well, and the sink is not called.
  if delta.isEmpty then { s with stats, flusher := .completing last cycle (.ok ()) }
  else
    { s with
      stats := { stats with flushes := stats.flushes + 1 }
      handed := s.handed ++ [(cycle, delta)]
      flusher := .calling last cycle delta }

/-- The next section of the flusher, unless it is idle or in a call. -/
def State.proceed (s : State) : State :=
  match s.flusher with
  | .draining last => if s.gate.inFlight = 0 then s.swap last else s
  -- The two tables have a lock each, so they are taken one after the other.
  | .takingGauges last cycle =>
    { s with
      pending := { s.pending with gauges := ∅ }
      flusher := .takingCounters last cycle s.pending.gauges }
  | .takingCounters last cycle gauges =>
    { s with pending := { s.pending with counters := ∅ } }.taken last cycle
      ⟨gauges, s.pending.counters⟩
  | .completing last cycle outcome =>
    { s with outcomes := (cycle, outcome) :: s.outcomes, flusher := .reopening last }
  | .reopening last =>
    { s with
      gate := if s.gate.closed then s.gate else { s.gate with isOpen := true }
      flusher := if last then .exited else .idle }
  | _ => s

/-- The sink's call ends. -/
def State.replied (s : State) (reply : Reply) : State :=
  match s.flusher with
  | .calling last cycle delta =>
    let stats :=
      match reply.outcome with
      | .ok _ =>
        { s.stats with
          gaugeRows := s.stats.gaugeRows + delta.gauges.size
          counterRows := s.stats.counterRows + delta.counters.size }
      | .error _ => { s.stats with failures := s.stats.failures + 1 }
    { s with stats, flusher := .completing last cycle reply.outcome }
  | _ => s

/-! ## Events -/

/-- One section of a caller or of the flusher. -/
inductive Event where
  /-- A caller comes. -/
  | call (task : Task)
  /-- The next section of a caller. -/
  | advance (id : Nat)
  /-- The timer wakes the idle flusher. -/
  | tick
  /-- The idle flusher reads a command. -/
  | receive
  /-- The next section of the busy flusher. -/
  | proceed
  /-- The sink's call ends. -/
  | reply (reply : Reply)

/-- What an event does. -/
def step (s : State) : Event → State
  | .call task => { s with callers := s.callers ++ [⟨task, task.start⟩] }
  | .advance id => s.advance id
  | .tick =>
    match s.flusher with
    | .idle => s.shut false
    | _ => s
  | .receive =>
    match s.flusher, s.queue with
    | .idle, command :: queue => { s with queue }.shut (decide (command = Command.shutdown))
    | _, _ => s
  | .proceed => s.proceed
  | .reply reply => s.replied reply

end Meterbank.Window
