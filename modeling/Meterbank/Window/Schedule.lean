/-
  Meterbank.Window.Schedule — callers that come one at a time.

  A caller that is alone runs until it has to wait; then the flusher runs
  a window from its start to its end, calling the sink if there is
  anything to flush; then the caller goes on.  Each such schedule is one
  of the runs of the machine.
-/
import Meterbank.Window.Machine

namespace Meterbank.Window

/-! ## One caller -/

/-- The most sections a caller takes before it has to wait. -/
def callerSections : Nat := 6

/-- Lets a caller run until it has to wait. -/
def settle (s : State) (id : Nat) : State :=
  run step s (List.replicate callerSections (.advance id))

/-- A caller comes and runs until it has to wait.  Gives its number. -/
def arrive (s : State) (task : Task) : Nat × State :=
  let id := s.callers.length
  (id, settle (step s (.call task)) id)

/-- What a caller has been told, once it has returned. -/
def State.answer? (s : State) (id : Nat) : Option Outcome :=
  match s.callers[id]? with
  | some ⟨_, .returned outcome⟩ => some outcome
  | _ => none

/-- The statistics a caller has been given, once it has stopped the flusher. -/
def State.stats? (s : State) (id : Nat) : Option Stats :=
  match s.callers[id]? with
  | some ⟨_, .stopped stats⟩ => some stats
  | _ => none

/-! ## One window -/

/-- A sink: it takes a delta, replies, and changes with it. -/
abbrev Sink (σ : Type) := Delta → σ → Reply × σ

/-- The most sections the flusher takes for a window. -/
def flusherSections : Nat := 6

/-- Lets the busy flusher run, calling the sink when it comes to that. -/
def runFlusher {σ : Type} (sink : Sink σ) : Nat → State × σ → State × σ
  | 0, p => p
  | n + 1, (s, sinkState) =>
    match s.flusher with
    | .calling _ _ delta =>
      let (reply, sinkState) := sink delta sinkState
      runFlusher sink n (step s (.reply reply), sinkState)
    | .idle => (s, sinkState)
    | .exited => (s, sinkState)
    | _ => runFlusher sink n (step s .proceed, sinkState)

/-- Runs a window that the given event starts. -/
def window {σ : Type} (sink : Sink σ) (start : Event) (p : State × σ) : State × σ :=
  runFlusher sink flusherSections (step p.1 start, p.2)

/-- Runs a window for each command that is queued. -/
def obey {σ : Type} (sink : Sink σ) (p : State × σ) : State × σ :=
  p.1.queue.foldl (fun p _ => window sink .receive p) p

/-! ## Whole calls -/

/-- Submits a delta and waits for its window, which the timer ends. -/
def submitAlone {σ : Type} (sink : Sink σ) (delta : Delta) (p : State × σ) :
    Option Outcome × State × σ :=
  let (id, s) := arrive p.1 (.submit delta)
  match s.answer? id with
  | some outcome => (some outcome, s, p.2)
  -- It has merged and waits; nobody but the timer will end its window.
  | none =>
    let (s, sinkState) := window sink .tick (s, p.2)
    let s := settle s id
    (s.answer? id, s, sinkState)

/-- Has the current window flushed and waits for it. -/
def flushAlone {σ : Type} (sink : Sink σ) (p : State × σ) : Option Outcome × State × σ :=
  let (id, s) := arrive p.1 .flush
  let (s, sinkState) := obey sink (s, p.2)
  let s := settle s id
  (s.answer? id, s, sinkState)

/-- Stops the flusher after a last window. -/
def shutdownAlone {σ : Type} (sink : Sink σ) (p : State × σ) : Option Stats × State × σ :=
  let (id, s) := arrive p.1 .shutdown
  let (s, sinkState) := obey sink (s, p.2)
  let s := settle s id
  (s.stats? id, s, sinkState)

/-- Lets every caller run until it has to wait, in the order in which
they came. -/
def settleAll (s : State) : State :=
  (List.range s.callers.length).foldl settle s

end Meterbank.Window
