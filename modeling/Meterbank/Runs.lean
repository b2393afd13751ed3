/-
  Meterbank.Runs — runs of a machine.

  A machine is a step function: it says what an event does to a state.  A
  list of events is a run of it, so whatever can happen in any order is
  some list.

  Main results:
    * `run_append` — runs compose.
    * `run_keeps` — what every event keeps, every run keeps.
    * `run_view` — a run of one machine, seen as a run of another.
    * `Reaches.trans` — what is reached from what is reached.
-/
namespace Meterbank

variable {σ ε τ : Type} {step : σ → ε → σ}

/-! ## Runs -/

/-- What a list of events does to a state. -/
def run (step : σ → ε → σ) (s : σ) (events : List ε) : σ := events.foldl step s

@[simp]
theorem run_nil (step : σ → ε → σ) (s : σ) : run step s [] = s := rfl

@[simp]
theorem run_cons (step : σ → ε → σ) (s : σ) (e : ε) (events : List ε) :
    run step s (e :: events) = run step (step s e) events := rfl

/-- **Runs compose.** -/
theorem run_append (step : σ → ε → σ) (s : σ) (es fs : List ε) :
    run step s (es ++ fs) = run step (run step s es) fs :=
  List.foldl_append

/-- A run of one event more. -/
theorem run_snoc (step : σ → ε → σ) (s : σ) (es : List ε) (e : ε) :
    run step s (es ++ [e]) = step (run step s es) e :=
  run_append step s es [e]

/-- **What every event keeps, every run keeps.** -/
theorem run_keeps {P : σ → Prop} (keeps : ∀ s e, P s → P (step s e)) {s : σ} (h : P s)
    (events : List ε) : P (run step s events) := by
  induction events generalizing s with
  | nil => exact h
  | cons e events ih => exact ih (keeps s e h)

/-! ## What is told of a run -/

/-- What is told of the events of a run, one after the other. -/
def record (tell : σ → ε → List τ) (step : σ → ε → σ) (s : σ) : List ε → List τ
  | [] => []
  | e :: events => tell s e ++ record tell step (step s e) events

/-- What is told of a longer run goes on where the shorter one ends. -/
theorem record_append (tell : σ → ε → List τ) (step : σ → ε → σ) (s : σ) (es fs : List ε) :
    record tell step s (es ++ fs) =
      record tell step s es ++ record tell step (run step s es) fs := by
  induction es generalizing s with
  | nil => rfl
  | cons e es ih =>
    rw [List.cons_append, record, record, ih (step s e), List.append_assoc]
    rfl

/-- What is told of one event more. -/
theorem record_snoc (tell : σ → ε → List τ) (step : σ → ε → σ) (s : σ) (es : List ε) (e : ε) :
    record tell step s (es ++ [e]) = record tell step s es ++ tell (run step s es) e := by
  rw [record_append, record, record, List.append_nil]

/-- **What every event keeps of a state and of what is told, every run
keeps.** -/
theorem run_keeps_record {tell : σ → ε → List τ} {P : σ → List τ → Prop}
    (keeps : ∀ s log e, P s log → P (step s e) (log ++ tell s e)) {s : σ} {log : List τ}
    (h : P s log) (events : List ε) : P (run step s events) (log ++ record tell step s events) := by
  induction events generalizing s log with
  | nil =>
    rw [record, List.append_nil]
    exact h
  | cons e events ih =>
    have hrest := ih (keeps s log e h)
    rwa [List.append_assoc] at hrest

/-- **A run of one machine is a run of another**, if each of its events is
one: the events of the other are what is told. -/
theorem run_view {ρ : Type} {view : σ → ρ} {tell : σ → ε → List τ} {step' : ρ → τ → ρ}
    (hview : ∀ s e, view (step s e) = run step' (view s) (tell s e)) (s : σ) (events : List ε) :
    view (run step s events) = run step' (view s) (record tell step s events) := by
  induction events generalizing s with
  | nil => rfl
  | cons e events ih =>
    rw [record, run_append, ← hview]
    exact ih (step s e)

/-! ## What is reached -/

/-- Whether some run leads from one state to another. -/
def Reaches (step : σ → ε → σ) (s t : σ) : Prop := ∃ events, run step s events = t

theorem Reaches.refl (step : σ → ε → σ) (s : σ) : Reaches step s s := ⟨[], rfl⟩

theorem Reaches.single (step : σ → ε → σ) (s : σ) (e : ε) : Reaches step s (step s e) := ⟨[e], rfl⟩

theorem Reaches.trans {s t u : σ} (h : Reaches step s t) (h' : Reaches step t u) :
    Reaches step s u := by
  obtain ⟨es, rfl⟩ := h
  obtain ⟨fs, rfl⟩ := h'
  exact ⟨es ++ fs, run_append step s es fs⟩

/-! ## Moments -/

/-- How things stand before the event of this number. -/
def moment (step : σ → ε → σ) (s : σ) (events : List ε) (n : Nat) : σ :=
  run step s (events.take n)

/-- **An event leads from a moment to the next one.** -/
theorem moment_succ {s : σ} {events : List ε} {n : Nat} {e : ε} (h : events[n]? = some e) :
    moment step s events (n + 1) = step (moment step s events n) e := by
  unfold moment
  rw [List.take_add_one, h, run_append]
  rfl

/-- After the last event nothing happens. -/
theorem moment_rest {s : σ} {events : List ε} {n : Nat} (h : events[n]? = none) :
    moment step s events (n + 1) = moment step s events n := by
  unfold moment
  rw [List.take_add_one, h]
  simp

/-- Between two moments there is one event, or the run is over. -/
theorem moment_cases (step : σ → ε → σ) (s : σ) (events : List ε) (n : Nat) :
    (events[n]? = none ∧ moment step s events (n + 1) = moment step s events n) ∨
      ∃ e, events[n]? = some e ∧ moment step s events (n + 1) = step (moment step s events n) e := by
  cases h : events[n]? with
  | none => exact .inl ⟨rfl, moment_rest h⟩
  | some e => exact .inr ⟨e, rfl, moment_succ h⟩

/-- **What every event keeps, holds at every moment.** -/
theorem moment_keeps {P : σ → Prop} (keeps : ∀ s e, P s → P (step s e)) {s : σ} (h : P s)
    (events : List ε) (n : Nat) : P (moment step s events n) :=
  run_keeps keeps h (events.take n)

end Meterbank
