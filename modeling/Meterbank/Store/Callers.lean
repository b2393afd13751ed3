/-
  Meterbank.Store.Callers — many callers of one store.

  Any number of threads may use a store at the same time.  A call goes
  through sections, and between two sections of one call those of others
  go on.  Where a call begins, what its next section does to what all of
  them share, and when it has been answered, is told by a protocol.

  An event is the coming of a call or one section of a call, and does
  nothing where no such call came, so a list of events is any
  interleaving.

  Main results:
    * `step_caller`, `step_shared` — what an event changes.
    * `run_undisturbed` — the sections of one call with nothing between them.
-/
import Meterbank.Runs
import Meterbank.Store.Sql

namespace Meterbank

namespace Callers

/-! ## Protocols -/

/-- How calls go through a store.  A `κ` says what a call is for and a `τ`
how far it has come, and a `σ` is what all of them share. -/
structure Protocol (κ σ τ : Type) where
  /-- Where a call begins. -/
  first : κ → τ
  /-- The next section of the caller of this number. -/
  next : Nat → κ → τ → σ → τ × σ
  /-- What a call that has ended is answered with. -/
  answer? : τ → Option (Except StoreError Store.Payload)

/-- A caller. -/
structure Caller (κ τ : Type) where
  task : κ
  point : τ

/-- What is shared, and all callers that ever came. -/
structure State (κ σ τ : Type) where
  shared : σ
  callers : List (Caller κ τ)

/-- One section, or a new call. -/
inductive Event (κ : Type) where
  | call (task : κ)
  | advance (caller : Nat)

variable {κ σ τ : Type} (P : Protocol κ σ τ)

/-- A store that nobody has called yet. -/
def start (shared : σ) : State κ σ τ := ⟨shared, []⟩

/-- What an event does. -/
def step (s : State κ σ τ) : Event κ → State κ σ τ
  | .call task => { s with callers := s.callers ++ [⟨task, P.first task⟩] }
  | .advance i =>
    match s.callers[i]? with
    | none => s
    | some caller =>
      let (point, shared) := P.next i caller.task caller.point s.shared
      ⟨shared, s.callers.set i { caller with point }⟩

/-- A caller that never came has no sections. -/
theorem step_absent {s : State κ σ τ} {i : Nat} (h : s.callers[i]? = none) :
    step P s (.advance i) = s := by
  simp only [step, h]

/-- A section changes what is shared, and the point of its caller. -/
theorem step_advance {s : State κ σ τ} {i : Nat} {c : Caller κ τ} (h : s.callers[i]? = some c) :
    step P s (.advance i) =
      ⟨(P.next i c.task c.point s.shared).2,
        s.callers.set i ⟨c.task, (P.next i c.task c.point s.shared).1⟩⟩ := by
  simp only [step, h]

/-- **What an event means for one caller:** it is somebody else's, or its
own next section, or it has brought the caller. -/
theorem step_caller {s : State κ σ τ} {e : Event κ} {i : Nat} {c' : Caller κ τ}
    (h : (step P s e).callers[i]? = some c') :
    s.callers[i]? = some c' ∧ e ≠ .advance i ∨
    (∃ c, s.callers[i]? = some c ∧ e = .advance i ∧
      c' = ⟨c.task, (P.next i c.task c.point s.shared).1⟩) ∨
    ∃ task, e = .call task ∧ c' = ⟨task, P.first task⟩ := by
  cases e with
  | call task =>
    have hnew : (s.callers ++ [⟨task, P.first task⟩])[i]? = some c' := h
    by_cases hi : i < s.callers.length
    · rw [List.getElem?_append_left hi] at hnew
      exact .inl ⟨hnew, by simp⟩
    · rw [List.getElem?_append_right (by omega)] at hnew
      have hmem := List.mem_of_getElem? hnew
      rw [List.mem_singleton] at hmem
      exact .inr (.inr ⟨task, rfl, hmem⟩)
  | advance j =>
    cases hj : s.callers[j]? with
    | none =>
      rw [step_absent P hj] at h
      refine .inl ⟨h, fun hij => ?_⟩
      rw [Event.advance.inj hij, h] at hj
      exact absurd hj (by simp)
    | some c =>
      rw [step_advance P hj] at h
      simp only at h
      by_cases hij : j = i
      · subst hij
        have hlt := (List.getElem?_eq_some_iff.1 hj).1
        rw [List.getElem?_set_self hlt] at h
        exact .inr (.inl ⟨c, hj, rfl, (Option.some.inj h).symm⟩)
      · rw [List.getElem?_set_ne hij] at h
        exact .inl ⟨h, fun heq => hij (Event.advance.inj heq)⟩

/-- What a caller that goes on makes of what is shared. -/
theorem shared_advance {s : State κ σ τ} {i : Nat} {c : Caller κ τ}
    (h : s.callers[i]? = some c) :
    (step P s (.advance i)).shared = (P.next i c.task c.point s.shared).2 :=
  congrArg State.shared (step_advance P h)

/-- What is shared changes in a section only. -/
theorem step_shared (s : State κ σ τ) (e : Event κ) :
    (step P s e).shared = s.shared ∨ ∃ j c, e = .advance j ∧ s.callers[j]? = some c ∧
      (step P s e).shared = (P.next j c.task c.point s.shared).2 := by
  cases e with
  | call task => exact .inl rfl
  | advance j =>
    cases hj : s.callers[j]? with
    | none => exact .inl (congrArg State.shared (step_absent P hj))
    | some c => exact .inr ⟨j, c, rfl, hj, shared_advance P hj⟩

/-! ## A caller that nobody disturbs -/

/-- One section of a call, as the only thing that happens. -/
def alone (i : Nat) (task : κ) (p : τ × σ) (_ : Unit) : τ × σ := P.next i task p.1 p.2

/-- So many sections of a call, and none of others between them. -/
def course (i : Nat) (task : κ) (n : Nat) (p : τ × σ) : τ × σ :=
  run (alone P i task) p (List.replicate n ())

theorem course_succ (i : Nat) (task : κ) (n : Nat) (p : τ × σ) :
    course P i task (n + 1) p = course P i task n (P.next i task p.1 p.2) := rfl

/-- A call that has come to its end stays there. -/
theorem course_end {i : Nat} {task : κ} {p : τ × σ} (h : P.next i task p.1 p.2 = p) (n : Nat) :
    course P i task n p = p := by
  induction n with
  | zero => rfl
  | succ n ih => rw [course_succ, h, ih]

/-- A section leads where it leads. -/
theorem reaches_next {i : Nat} {task : κ} {p q : τ × σ} (h : P.next i task p.1 p.2 = q) :
    Reaches (alone P i task) p q :=
  ⟨[()], h⟩

/-- Sections of the last caller change that caller only. -/
theorem run_last (n : Nat) (shared : σ) (callers : List (Caller κ τ)) (task : κ) (point : τ) :
    run (step P) ⟨shared, callers ++ [⟨task, point⟩]⟩
        (List.replicate n (.advance callers.length)) =
      ⟨(course P callers.length task n (point, shared)).2,
        callers ++ [⟨task, (course P callers.length task n (point, shared)).1⟩]⟩ := by
  induction n generalizing shared point with
  | zero => rfl
  | succ n ih =>
    have hlast : (callers ++ [(⟨task, point⟩ : Caller κ τ)])[callers.length]? =
        some ⟨task, point⟩ := by simp
    have hset (point' : τ) : (callers ++ [(⟨task, point⟩ : Caller κ τ)]).set callers.length
        ⟨task, point'⟩ = callers ++ [⟨task, point'⟩] := by simp
    rw [List.replicate_succ, run_cons, step_advance P hlast, hset, ih]
    rfl

/-- **A call that nobody disturbs ends as its sections do,** one after the
other. -/
theorem run_undisturbed {s : State κ σ τ} {task : κ} {n : Nat} {point : τ} {shared : σ}
    (h : course P s.callers.length task n (P.first task, s.shared) = (point, shared)) :
    run (step P) s (.call task :: List.replicate n (.advance s.callers.length)) =
      ⟨shared, s.callers ++ [⟨task, point⟩]⟩ := by
  have hcall : step P s (.call task) = ⟨s.shared, s.callers ++ [⟨task, P.first task⟩]⟩ := rfl
  rw [run_cons, hcall, run_last, h]

/-- What is reached is reached after some number of sections. -/
theorem course_of_reaches {i : Nat} {task : κ} {p q : τ × σ} (h : Reaches (alone P i task) p q) :
    ∃ n, course P i task n p = q := by
  obtain ⟨sections, rfl⟩ := h
  refine ⟨sections.length, ?_⟩
  rw [course, ← List.eq_replicate_of_mem (l := sections) fun _ _ => rfl]

end Callers

/-! ## Writes and dumps -/

/-- A call that writes. -/
inductive Write where
  | data (metric : Metric)
  | batch (batch : Batch)
  | gauge (key : String) (value : Binary64)
  | gaugeText (key raw : String)
  | counter (key : String) (delta : Int64)
  | counterText (key raw : String)
  deriving DecidableEq, Repr

namespace Write

/-- The operation it is a call of. -/
def call : Write → Store.Call
  | .data m => .writeData m
  | .batch b => .writeBatch b
  | .gauge key x => .writeGauge key x
  | .gaugeText key raw => .writeGaugeText key raw
  | .counter key delta => .writeCounter key delta
  | .counterText key raw => .writeCounterText key raw

/-- The updates it asks for. -/
def updates : Write → Except StoreError (List Update)
  | .data m => m.validate.map ([·])
  | .batch b => b.validate
  | .gauge key x => (checkGauge x).map fun x => [⟨key, .gauge x⟩]
  | .gaugeText key raw => (parseGauge raw).map fun x => [⟨key, .gauge x⟩]
  | .counter key delta => .ok [⟨key, .counter delta⟩]
  | .counterText key raw => (parseCounter raw).map fun delta => [⟨key, .counter delta⟩]

end Write

/-- What a caller that writes or dumps is about. -/
inductive Chore where
  | write (w : Write)
  | dump
  deriving DecidableEq, Repr

/-- The operation it is a call of. -/
def Chore.call : Chore → Store.Call
  | .write w => w.call
  | .dump => .dump

/-! ## A database -/

namespace SqlStore

/-- How calls go through a store over a database: the connection that
writes is held for the whole of a call, so each has one section. -/
def protocol : Callers.Protocol Chore SqlStore (Option (Except StoreError Store.Payload)) where
  first _ := none
  next _ chore point s :=
    match point with
    | some answer => (some answer, s)
    | none =>
      let (answer, s) := operations.perform chore.call s
      (some answer, s)
  answer? point := point

end SqlStore

end Meterbank
