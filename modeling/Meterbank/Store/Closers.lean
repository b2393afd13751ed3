/-
  Meterbank.Store.Closers — a facade that many threads may close.

  Closing a facade takes three sections, and between two of them those who
  use it, or want to close it too, go on:

      called     the facade is marked, unless it was: then that is all
      stopping   the worker is stopped after its last dump
      closing    the backend is closed

  All other operations of a facade only hand over to its backend, so each
  of them is one section here.

  Main result:
    * `close_alone` — a thread that closes a facade undisturbed does what
      closing does at one go.
-/
import Meterbank.Runs
import Meterbank.Store.Sessions

namespace Meterbank.Closers

/-- How far a thread has come that closes the facade. -/
inductive Closer where
  | called
  | stopping
  | closing
  | returned (answer : Except StoreError Unit)

/-- Whether it has marked the facade, and has not returned. -/
def Closer.isUnderWay : Closer → Bool
  | .stopping | .closing => true
  | _ => false

/-- The facade with its disk, and all threads that ever closed it. -/
structure State where
  facade : Facade.State
  closers : List Closer

/-- What happens to a facade. -/
inductive Event where
  /-- A call; whoever calls for closing goes on in sections. -/
  | call (c : Store.Call)
  /-- The next section of a thread that closes. -/
  | advance (closer : Nat)
  /-- A timer goes off. -/
  | tick
  /-- Somebody else has made the disk this one. -/
  | disk (d : Disk)

/-- The next section of a thread. -/
def next (closer : Closer) (f : Facade.State) : Closer × Facade.State :=
  match closer with
  | .called =>
    if f.1.closed then (.returned (.ok ()), f)
    else (.stopping, { f.1 with closed := true }, f.2)
  | .stopping => (.closing, Facade.stopWorker f)
  | .closing =>
    let (answer, f) := Facade.onBackend Backend.operations.close f
    (.returned answer, f)
  | .returned answer => (.returned answer, f)

/-- What an event does. -/
def step (s : State) : Event → State
  | .call .close => { s with closers := s.closers ++ [.called] }
  | .call c => { s with facade := (Facade.operations.perform c s.facade).2 }
  | .advance i =>
    match s.closers[i]? with
    | none => s
    | some closer =>
      let (closer, facade) := next closer s.facade
      ⟨facade, s.closers.set i closer⟩
  | .tick => { s with facade := Facade.tick s.facade }
  | .disk d => { s with facade := (s.facade.1, d) }

/-- A call for anything else is made at one go. -/
theorem step_call {c : Store.Call} (h : c ≠ .close) (s : State) :
    step s (.call c) = { s with facade := (Facade.operations.perform c s.facade).2 } := by
  cases c with
  | close => exact absurd rfl h
  | _ => rfl

/-- A section changes the facade, and how far its thread has come. -/
theorem step_advance {s : State} {i : Nat} {closer : Closer} (h : s.closers[i]? = some closer) :
    step s (.advance i) =
      ⟨(next closer s.facade).2, s.closers.set i (next closer s.facade).1⟩ := by
  simp only [step, h]

/-- A thread that does not close has no sections. -/
theorem step_absent {s : State} {i : Nat} (h : s.closers[i]? = none) : step s (.advance i) = s := by
  simp only [step, h]

/-- A facade that nobody closes yet. -/
def start (f : Facade.State) : State := ⟨f, []⟩

/-- **A thread that closes a facade undisturbed does what closing does at
one go**, and is answered the same. -/
theorem close_alone (s : State) :
    run step s (.call .close :: List.replicate 3 (.advance s.closers.length)) =
      ⟨(Facade.close s.facade).2, s.closers ++ [.returned (Facade.close s.facade).1]⟩ := by
  obtain ⟨f, closers⟩ := s
  have hadvance (g : Facade.State) (closer : Closer) :
      step ⟨g, closers ++ [closer]⟩ (.advance closers.length) =
        ⟨(next closer g).2, closers ++ [(next closer g).1]⟩ := by
    rw [@step_advance _ _ closer (by simp)]
    simp
  show step (step (step ⟨f, closers ++ [.called]⟩ (.advance closers.length))
    (.advance closers.length)) (.advance closers.length) = _
  rw [hadvance, hadvance, hadvance]
  unfold Facade.close
  by_cases hclosed : f.1.closed = true
  · simp only [next, hclosed, if_true]
  · simp only [next, hclosed, if_false, Bool.false_eq_true]

end Meterbank.Closers
