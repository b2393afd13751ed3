/-
  Meterbank.Store.Crowd — many clients of a window in front of a database.

  Clients come at the same time.  A client whose request has something to
  do at the window has a caller there.  The flusher, when it is to write a
  window, looks whether the database is open, and then runs its
  transaction.  Between looking and doing others may go on, and the
  database may be closed.

      flusher  (its course in the window) → looking → writing → …

  What clients ask for, how far one of them can have come, what its own
  sections do, and how the sink may fail of its own is told by a protocol.

  An event is one section of a client or of the flusher, and does nothing
  where it cannot happen, so a list of events is any interleaving.

  Main results:
    * `run_window` — what goes on at the window is a run of the window.
    * `unchecked_open` — on a database that is open looking makes no
      difference.
-/
import Meterbank.Store.Coalesced

namespace Meterbank

open Meterbank.Sql Meterbank.Window

/-! ## Past the check -/

namespace SqlStore

/-- A store that is closed or not. -/
def withClosed (s : SqlStore) (closed : Bool) : SqlStore :=
  { s with session := { s.session with connection := { s.session.connection with closed } } }

/-- Runs an operation for somebody who has found the database open.  That
it may have been closed since does not stop it. -/
def unchecked {α : Type} (op : SqlStore → Except StoreError α × SqlStore) (s : SqlStore) :
    Except StoreError α × SqlStore :=
  let (answer, after) := op (s.withClosed false)
  -- Whoever closed the database in the meantime has closed it all the same.
  (answer, after.withClosed s.isClosed)

/-- On a database that is open and stays so, looking makes no difference. -/
theorem unchecked_open {α : Type} (op : SqlStore → Except StoreError α × SqlStore) (s : SqlStore)
    (h : s.isClosed = false) (hop : (op s).2.isClosed = false) : s.unchecked op = op s := by
  have hsame : ∀ t : SqlStore, t.isClosed = false → t.withClosed false = t := by
    intro t ht
    unfold withClosed
    rw [← ht]
    rfl
  unfold unchecked
  simp only [hsame s h]
  rw [h, hsame _ hop]

/-- What keeps folded updates from getting to the database. -/
def refusal? (d : Delta) (s : SqlStore) : Option StoreError :=
  match checkGauges d.gauges.toList with
  | .error e => some e
  | .ok _ => if s.isClosed then some .closed else none

end SqlStore

namespace Crowd

/-! ## States -/

/-- A client. -/
structure Client (ρ τ : Type) where
  request : ρ
  /-- The number of its caller at the window, if it needs one. -/
  caller : Option Nat
  /-- How far it has come. -/
  stage : τ

/-- The whole state. -/
structure State (ρ τ : Type) where
  window : Window.State
  sql : SqlStore
  /-- Whether the flusher has found the database open, and is about to
  write the window. -/
  passed : Bool
  /-- All clients that ever came; a client's number is its index. -/
  clients : List (Client ρ τ)

/-- What a section does: at the window, if it does anything there, and to
the rest of the state. -/
structure Effect (ρ τ : Type) where
  window : Option Window.Event
  sql : SqlStore
  passed : Bool
  clients : List (Client ρ τ)

variable {ρ τ φ : Type}

/-- A window in front of a database, and no clients. -/
def start (sql : SqlStore) : State ρ τ := ⟨.init, sql, false, []⟩

namespace State

/-- Nothing happens. -/
def still (s : State ρ τ) : Effect ρ τ := ⟨none, s.sql, s.passed, s.clients⟩

/-- Something happens at the window only. -/
def atWindow (s : State ρ τ) (e : Window.Event) : Effect ρ τ := { s.still with window := some e }

/-- A client comes to another stage. -/
def moveTo (s : State ρ τ) (i : Nat) (client : Client ρ τ) (stage : τ) : Effect ρ τ :=
  { s.still with clients := s.clients.set i { client with stage } }

end State

/-- The state after an effect. -/
def Effect.on (f : Effect ρ τ) (s : State ρ τ) : State ρ τ :=
  ⟨run Window.step s.window f.window.toList, f.sql, f.passed, f.clients⟩

/-! ## Protocols -/

/-- How the sink may fail of its own.  Nothing of the window is written. -/
inductive Fault where
  | fails (e : StoreError)
  /-- It dies of the call. -/
  | dies

/-- How its call ends then. -/
def Fault.reply : Fault → Window.Reply
  | .fails e => .done (.error e)
  | .dies => .panicked

/-- How clients go through a store. -/
structure Protocol (ρ τ φ : Type) where
  /-- What a request has to do at the window.  A request that is refused
  does not get there, and some have nothing to do there. -/
  task? : ρ → Except StoreError (Option Task)
  /-- Where its client begins. -/
  first : ρ → τ
  /-- The next section of the client of this number. -/
  advance : State ρ τ → Nat → Client ρ τ → Effect ρ τ
  /-- How the sink may fail of its own. -/
  fault : φ → Fault

/-- What a request has to do at the window, if it gets there. -/
def Protocol.joins? (P : Protocol ρ τ φ) (request : ρ) : Option Task :=
  match P.task? request with
  | .ok task => task
  | .error _ => none

/-! ## Sections -/

/-- One section. -/
inductive Event (ρ φ : Type) where
  /-- A client comes. -/
  | call (request : ρ)
  /-- The next section of a client, or of its caller at the window. -/
  | advance (client : Nat)
  /-- The timer wakes the flusher. -/
  | tick
  /-- The flusher reads a command. -/
  | receive
  /-- The next section of the flusher, unless it is to write a window. -/
  | proceed
  /-- The flusher looks whether the database is open. -/
  | look
  /-- The transaction of the flusher. -/
  | commit
  /-- The sink fails of its own. -/
  | fail (fault : φ)

namespace State

/-- A client comes, and its caller if it needs one. -/
def come (s : State ρ τ) (P : Protocol ρ τ φ) (request : ρ) : Effect ρ τ :=
  match P.joins? request with
  | some task =>
    { s.atWindow (.call task) with
      clients := s.clients ++ [⟨request, some s.window.callers.length, P.first request⟩] }
  -- It is refused, or there is nothing to do.
  | none => { s.still with clients := s.clients ++ [⟨request, none, P.first request⟩] }

/-- The flusher looks whether it may write its window. -/
def look (s : State ρ τ) : Effect ρ τ :=
  match s.window.flusher, s.passed with
  | .calling _ _ delta, false =>
    match s.sql.refusal? delta with
    -- What is refused here is refused for the whole window.
    | some e => s.atWindow (.reply (.done (.error e)))
    | none => { s.still with passed := true }
  | _, _ => s.still

/-- The flusher writes its window. -/
def commit (s : State ρ τ) : Effect ρ τ :=
  match s.window.flusher, s.passed with
  | .calling _ _ delta, true =>
    let (outcome, sql) := s.sql.unchecked (·.writeDelta delta)
    { s.atWindow (.reply (.done outcome)) with sql, passed := false }
  | _, _ => s.still

/-- What an event does. -/
def effect (s : State ρ τ) (P : Protocol ρ τ φ) : Event ρ φ → Effect ρ τ
  | .call request => s.come P request
  | .advance i =>
    match s.clients[i]? with
    | some client => P.advance s i client
    | none => s.still
  | .tick => s.atWindow .tick
  | .receive => s.atWindow .receive
  | .proceed => s.atWindow .proceed
  | .look => s.look
  | .commit => s.commit
  | .fail fault => { s.atWindow (.reply (P.fault fault).reply) with passed := false }

theorem effect_advance (P : Protocol ρ τ φ) {s : State ρ τ} {i : Nat} {client : Client ρ τ}
    (h : s.clients[i]? = some client) : s.effect P (.advance i) = P.advance s i client := by
  simp only [effect, h]

/-- A client that never came has no sections. -/
theorem effect_absent (P : Protocol ρ τ φ) {s : State ρ τ} {i : Nat} (h : s.clients[i]? = none) :
    s.effect P (.advance i) = s.still := by
  simp only [effect, h]

end State

/-- What an event does to the state. -/
def step (P : Protocol ρ τ φ) (s : State ρ τ) (e : Event ρ φ) : State ρ τ := (s.effect P e).on s

/-! ## At the window -/

/-- What happens at the window in a run. -/
def trace (P : Protocol ρ τ φ) (s : State ρ τ) (events : List (Event ρ φ)) : List Window.Event :=
  record (fun s e => (s.effect P e).window.toList) (step P) s events

/-- **What goes on at the window is a run of the window.** -/
theorem run_window (P : Protocol ρ τ φ) (s : State ρ τ) (events : List (Event ρ φ)) :
    (run (step P) s events).window = run Window.step s.window (trace P s events) := by
  have hstep : ∀ s e, (step P s e).window =
      run Window.step s.window (s.effect P e).window.toList := fun _ _ => rfl
  exact run_view hstep s events

end Crowd

end Meterbank
