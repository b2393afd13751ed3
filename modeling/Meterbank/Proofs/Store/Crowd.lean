/-
  Meterbank.Proofs.Store.Crowd — what holds of clients of any kind.

  Whatever clients ask for and however they go on: what goes on at the
  window is told by its chronicle; each caller there is that of one client
  and has come for what its client asked for; and the database has been
  through the windows that were written, and nothing else has changed its
  tables.  A protocol has to leave three things alone for that: callers
  and replies are not its business, clients keep their callers, and the
  database is only read or closed by clients.

  Main results:
    * `told_run`, `inOrder_run` — the chronicle of every run.
    * `seated_run` — clients and callers belong together in every run.
    * `written_run` — what has landed is what was written, in every run.
-/
import Mathlib.Data.List.Induction
import Mathlib.Data.List.Nodup
import Meterbank.Proofs.Store.Histories
import Meterbank.Proofs.Window.InOrder

namespace Meterbank.Crowd

open Meterbank.Window (Notice Task Told InOrder landed)

variable {ρ τ φ : Type} {P : Protocol ρ τ φ} {s : State ρ τ} {log : List Notice}

/-! ## Chronicles -/

/-- What is noticed at the window of an effect. -/
def Effect.notices (f : Effect ρ τ) (s : State ρ τ) : List Notice :=
  Window.chronicle s.window f.window.toList

theorem notices_of_window {f : Effect ρ τ} {e : Window.Event} (h : f.window = some e)
    (s : State ρ τ) : f.notices s = (Window.notice s.window e).toList := by
  unfold Effect.notices
  rw [h]
  exact List.append_nil _

/-- An effect away from the window is not noticed there. -/
theorem notices_away {f : Effect ρ τ} (h : f.window = none) (s : State ρ τ) : f.notices s = [] := by
  unfold Effect.notices
  rw [h]
  rfl

theorem told_on (t : Told s.window log) (f : Effect ρ τ) :
    Told (f.on s).window (log ++ f.notices s) := by
  unfold Effect.on
  cases hw : f.window with
  | none =>
    rw [notices_away hw, List.append_nil]
    exact t
  | some e =>
    rw [notices_of_window hw]
    exact t.step e

/-- What is noticed at the window in a run, oldest first. -/
def chronicle (P : Protocol ρ τ φ) (s : State ρ τ) (events : List (Event ρ φ)) : List Notice :=
  record (fun s e => (s.effect P e).notices s) (step P) s events

theorem chronicle_append (P : Protocol ρ τ φ) (s : State ρ τ) (es fs : List (Event ρ φ)) :
    chronicle P s (es ++ fs) = chronicle P s es ++ chronicle P (run (step P) s es) fs :=
  record_append _ _ s es fs

theorem chronicle_snoc (P : Protocol ρ τ φ) (s : State ρ τ) (es : List (Event ρ φ))
    (e : Event ρ φ) :
    chronicle P s (es ++ [e]) = chronicle P s es ++
      ((run (step P) s es).effect P e).notices (run (step P) s es) :=
  record_snoc _ _ s es e

/-- It is the chronicle of what goes on at the window. -/
theorem chronicle_eq (P : Protocol ρ τ φ) (s : State ρ τ) (events : List (Event ρ φ)) :
    chronicle P s events = Window.chronicle s.window (trace P s events) := by
  induction events generalizing s with
  | nil => rfl
  | cons e events ih =>
    have htrace : trace P s (e :: events) =
        (s.effect P e).window.toList ++ trace P (step P s e) events := rfl
    rw [htrace, Window.chronicle_append]
    exact congrArg ((s.effect P e).notices s ++ ·) (ih (step P s e))

theorem told_run (P : Protocol ρ τ φ) (sql : SqlStore) (events : List (Event ρ φ)) :
    Told (run (step P) (start sql) events).window (chronicle P (start sql) events) := by
  rw [run_window, chronicle_eq]
  exact Window.told_run _

theorem inOrder_run (P : Protocol ρ τ φ) (sql : SqlStore) (events : List (Event ρ φ)) :
    InOrder (run (step P) (start sql) events).window (chronicle P (start sql) events) := by
  rw [run_window, chronicle_eq]
  exact InOrder.run _

/-- Nothing lands unless a call of the sink ends. -/
theorem landed_same (t : Told s.window log) {f : Effect ρ τ}
    (hf : ∀ reply, f.window ≠ some (.reply reply)) : landed (log ++ f.notices s) = landed log := by
  cases hw : f.window with
  | none => rw [notices_away hw, List.append_nil]
  | some e =>
    rw [notices_of_window hw]
    exact t.landed_same fun reply he => hf reply (by rw [hw, he])

/-! ## Protocols -/

/-- What a client asked for, and its caller. -/
def Client.seat (client : Client ρ τ) : ρ × Option Nat := (client.request, client.caller)

/-- What a protocol has to leave alone. -/
structure Protocol.Lawful (P : Protocol ρ τ φ) : Prop where
  /-- What is submitted is something, and may be stored. -/
  submits : ∀ {request delta}, P.task? request = .ok (some (.submit delta)) →
    delta.isEmpty = false ∧ delta.Finite
  calls : ∀ (s : State ρ τ) i client task, (P.advance s i client).window ≠ some (.call task)
  replies : ∀ (s : State ρ τ) i client reply, (P.advance s i client).window ≠ some (.reply reply)
  /-- Who goes on keeps its caller. -/
  seats : ∀ {s : State ρ τ} {i client}, s.clients[i]? = some client →
    (P.advance s i client).clients.map Client.seat = s.clients.map Client.seat
  /-- Clients read the database and close it; they write nothing. -/
  database : ∀ {start ds} {s : State ρ τ} i client, Written start ds s.sql →
    Written start ds (P.advance s i client).sql

theorem Protocol.joins?_eq_some_iff {request : ρ} {task : Task} :
    P.joins? request = some task ↔ P.task? request = .ok (some task) := by
  unfold joins?
  cases P.task? request with
  | error e => simp
  | ok task => simp

/-- Who goes to another stage keeps its caller. -/
theorem seats_moveTo {i : Nat} {client : Client ρ τ} (h : s.clients[i]? = some client)
    (stage : τ) : (s.moveTo i client stage).clients.map Client.seat = s.clients.map Client.seat :=
  Window.map_set_same h rfl

/-! ## Clients and callers -/

/-- Each caller at the window is that of one client, and has come for what
its client asked for. -/
structure Seated (P : Protocol ρ τ φ) (s : State ρ τ) : Prop where
  callers : s.clients.filterMap Client.caller = List.range s.window.tasks.length
  tasks : ∀ client ∈ s.clients,
    client.caller.bind (fun id => s.window.tasks[id]?) = P.joins? client.request

namespace Seated

/-- Nobody comes. -/
theorem stay (h : Seated P s) {f : Effect ρ τ} (hf : ∀ task, f.window ≠ some (.call task))
    (hseats : f.clients.map Client.seat = s.clients.map Client.seat) : Seated P (f.on s) := by
  have htasks : (f.on s).window.tasks = s.window.tasks := by
    unfold Effect.on
    cases hw : f.window with
    | none => rfl
    | some e => exact Window.step_tasks s.window fun task he => hf task (by rw [hw, he])
  -- Callers are the second parts of seats.
  have hcallers : ∀ l : List (Client ρ τ),
      l.filterMap Client.caller = (l.map Client.seat).filterMap Prod.snd := fun l => by
    rw [List.filterMap_map]
    rfl
  refine ⟨?_, fun client hclient => ?_⟩
  · rw [htasks, ← h.callers, hcallers, hcallers s.clients]
    exact congrArg _ hseats
  · have hseat : client.seat ∈ s.clients.map Client.seat := hseats ▸ List.mem_map_of_mem hclient
    obtain ⟨old, hold, heq⟩ := List.mem_map.1 hseat
    obtain ⟨hrequest, hcaller⟩ := Prod.mk.inj heq
    rw [htasks, ← hrequest, ← hcaller]
    exact h.tasks old hold

/-- A client comes, and its caller if it needs one. -/
theorem come (h : Seated P s) (request : ρ) : Seated P ((s.come P request).on s) := by
  have hlength : s.window.callers.length = s.window.tasks.length := by
    rw [Window.State.tasks, List.length_map]
  unfold State.come
  cases hj : P.joins? request with
  | none =>
    -- No task is added, and the client has no caller.
    refine ⟨?_, fun client hclient => ?_⟩
    · show List.filterMap Client.caller (s.clients ++ [⟨request, none, P.first request⟩]) =
        List.range s.window.tasks.length
      rw [List.filterMap_append, h.callers]
      exact List.append_nil _
    · rcases List.mem_append.1 hclient with hold | hnew
      · exact h.tasks client hold
      · rw [List.mem_singleton.1 hnew, hj]
        rfl
  | some task =>
    have htasks : (Window.step s.window (.call task)).tasks = s.window.tasks ++ [task] :=
      Window.tasks_call s.window task
    refine ⟨?_, fun client hclient => ?_⟩
    · show List.filterMap Client.caller
          (s.clients ++ [⟨request, some s.window.callers.length, P.first request⟩]) =
        List.range (Window.step s.window (.call task)).tasks.length
      rw [htasks, List.filterMap_append, h.callers, List.length_append, List.length_singleton,
        List.range_succ, hlength]
      rfl
    · show client.caller.bind (fun id => (Window.step s.window (.call task)).tasks[id]?) = _
      rw [htasks]
      rcases List.mem_append.1 hclient with hold | hnew
      · rw [← h.tasks client hold]
        cases hc : client.caller with
        | none => rfl
        | some id =>
          -- The callers that have come before keep their numbers.
          have hid : id ∈ s.clients.filterMap Client.caller := List.mem_filterMap.2 ⟨client, hold, hc⟩
          rw [h.callers, List.mem_range] at hid
          exact List.getElem?_append_left hid
      · rw [List.mem_singleton.1 hnew, hj, Option.bind_some, hlength, List.getElem?_concat_length]

/-- Clients and callers belong together after every section. -/
theorem step (h : Seated P s) (hP : P.Lawful) (e : Event ρ φ) : Seated P (Crowd.step P s e) := by
  cases e with
  | call request => exact h.come request
  | advance i =>
    rw [Crowd.step]
    cases hc : s.clients[i]? with
    | none =>
      rw [State.effect_absent P hc]
      exact h.stay (by simp [State.still]) rfl
    | some client =>
      rw [State.effect_advance P hc]
      exact h.stay (hP.calls s i client) (hP.seats hc)
  | look =>
    refine h.stay (fun task => ?_) ?_ <;> simp only [State.effect, State.look]
    · split
      · split <;> simp [State.atWindow, State.still]
      · simp [State.still]
    · split
      · split <;> rfl
      · rfl
  | commit =>
    refine h.stay (fun task => ?_) ?_ <;> simp only [State.effect, State.commit]
    · split <;> simp [State.atWindow, State.still]
    · split <;> rfl
  | _ => exact h.stay (by simp [State.effect, State.atWindow]) rfl

/-- A client with a caller has come for what the caller came for. -/
theorem task_of_caller (h : Seated P s) {client : Client ρ τ} (hc : client ∈ s.clients) {id : Nat}
    (hcaller : client.caller = some id) :
    ∃ task, s.window.tasks[id]? = some task ∧ P.task? client.request = .ok (some task) := by
  have htasks := h.tasks client hc
  have hid : id ∈ s.clients.filterMap Client.caller := List.mem_filterMap.2 ⟨client, hc, hcaller⟩
  rw [h.callers, List.mem_range] at hid
  rw [hcaller, Option.bind_some, List.getElem?_eq_getElem hid] at htasks
  exact ⟨_, List.getElem?_eq_getElem hid, Protocol.joins?_eq_some_iff.1 htasks.symm⟩

/-- A client that has something to do at the window has a caller. -/
theorem caller_of_task (h : Seated P s) {client : Client ρ τ} (hc : client ∈ s.clients)
    {task : Task} (ht : P.task? client.request = .ok (some task)) :
    ∃ id, client.caller = some id ∧ s.window.tasks[id]? = some task := by
  have htasks := h.tasks client hc
  rw [Protocol.joins?_eq_some_iff.2 ht] at htasks
  exact Option.bind_eq_some_iff.1 htasks

/-- **What a caller came for was asked for by a client.** -/
theorem client_of_task (h : Seated P s) {id : Nat} {task : Task}
    (hid : s.window.tasks[id]? = some task) :
    ∃ client ∈ s.clients, client.caller = some id ∧ P.task? client.request = .ok (some task) := by
  have hmem : id ∈ s.clients.filterMap Client.caller := by
    rw [h.callers]
    exact List.mem_range.2 (List.getElem?_eq_some_iff.1 hid).1
  obtain ⟨client, hclient, hcaller⟩ := List.mem_filterMap.1 hmem
  obtain ⟨task', hid', ht⟩ := h.task_of_caller hclient hcaller
  rw [hid] at hid'
  obtain rfl := Option.some.inj hid'
  exact ⟨client, hclient, hcaller, ht⟩

/-- Clients do not share a caller. -/
theorem client_unique (h : Seated P s) {i j id : Nat} {client client' : Client ρ τ}
    (hi : s.clients[i]? = some client) (hj : s.clients[j]? = some client')
    (hc : client.caller = some id) (hc' : client'.caller = some id) : i = j := by
  have hnodup : (s.clients.filterMap Client.caller).Nodup := by
    rw [h.callers]
    exact List.nodup_range
  have happart := List.pairwise_iff_getElem.1 (List.pairwise_filterMap.1 hnodup)
  obtain ⟨hi', rfl⟩ := List.getElem?_eq_some_iff.1 hi
  obtain ⟨hj', rfl⟩ := List.getElem?_eq_some_iff.1 hj
  rcases Nat.lt_trichotomy i j with hlt | heq | hlt
  · exact absurd rfl (happart i j hi' hj' hlt id hc id hc')
  · exact heq
  · exact absurd rfl (happart j i hj' hi' hlt id hc' id hc)

/-- What has landed was asked for by a client. -/
theorem client_of_landed (h : Seated P s) (t : Told s.window log) {id : Nat} {delta : Delta}
    (hland : (id, delta) ∈ landed log) :
    ∃ client ∈ s.clients, client.caller = some id ∧
      P.task? client.request = .ok (some (.submit delta)) := by
  obtain ⟨cycle, -, hmerged⟩ := Window.mem_landed.1 hland
  exact h.client_of_task (Window.getElem?_tasks.2 (t.trails.merged hmerged).1)

/-- What the flusher is about to write is the merge of a window, and may be
stored. -/
theorem calling (h : Seated P s) (hP : P.Lawful) (t : Told s.window log) {last : Bool}
    {cycle : Nat} {delta : Delta} (hf : s.window.flusher = .calling last cycle delta) :
    delta.Finite ∧ delta.IsMergeOf (Window.deltas log cycle) := by
  have hmerge := t.coherent.isMergeOf (t.flushed.calling last cycle delta hf).1
  refine ⟨hmerge.finite fun d hd => ?_, hmerge⟩
  obtain ⟨id, hmerged⟩ := Window.mem_deltas.1 hd
  obtain ⟨client, -, -, ht⟩ :=
    h.client_of_task (Window.getElem?_tasks.2 (t.trails.merged hmerged).1)
  exact (hP.submits ht).2

end Seated

theorem seated_run (hP : P.Lawful) (sql : SqlStore) (events : List (Event ρ φ)) :
    Seated P (run (step P) (start sql) events) :=
  run_keeps (fun _ e h => h.step hP e)
    ⟨rfl, fun client hc => absurd hc (by simp [start])⟩ events

/-! ## The database -/

section

variable {sql : SqlStore}

/-- A window that fails before anything of it is written. -/
theorem written_refused (t : Told s.window log)
    (h : Written sql ((landed log).map Prod.snd) s.sql) {reply : Window.Reply} {e : StoreError}
    (hr : reply.outcome = .error e) {f : Effect ρ τ} (hw : f.window = some (.reply reply))
    (hsql : f.sql = s.sql) : Written sql ((landed (log ++ f.notices s)).map Prod.snd) f.sql := by
  rw [notices_of_window hw, t.landed_refused hr, hsql]
  exact h

theorem written_look (t : Told s.window log) (h : Written sql ((landed log).map Prod.snd) s.sql) :
    Written sql ((landed (log ++ s.look.notices s)).map Prod.snd) s.look.sql := by
  unfold State.look
  split
  · cases s.sql.refusal? _ with
    | some e => exact written_refused t h rfl rfl rfl
    | none =>
      rw [landed_same t (by simp [State.still])]
      exact h
  · rw [landed_same t (by simp [State.still])]
    exact h

/-- The flusher writes its window: all of it lands, or nothing. -/
theorem written_commit (hs : Seated P s) (hP : P.Lawful) (t : Told s.window log)
    (h : Written sql ((landed log).map Prod.snd) s.sql) :
    Written sql ((landed (log ++ s.commit.notices s)).map Prod.snd) s.commit.sql := by
  unfold State.commit
  split
  · next last cycle delta hf _ =>
    obtain ⟨hfinite, hmerge⟩ := hs.calling hP t hf
    cases hw : s.sql.unchecked (·.writeDelta delta) with
    | mk outcome after =>
      have hnotices : Effect.notices
          { s.atWindow (.reply (.done outcome)) with sql := after, passed := false } s = _ :=
        notices_of_window rfl s
      simp only
      rw [hnotices]
      cases outcome with
      | ok u =>
        rw [t.landed_reply hf, List.map_append]
        exact h.window hfinite hmerge hw
      | error e =>
        rw [t.landed_refused rfl]
        exact h.fail hfinite hw
  · rw [landed_same t (by simp [State.still])]
    exact h

/-- **Every section takes the database on**: what lands is what was
written. -/
theorem written_step (hs : Seated P s) (hP : P.Lawful) (t : Told s.window log)
    (h : Written sql ((landed log).map Prod.snd) s.sql) (e : Event ρ φ) :
    Written sql ((landed (log ++ (s.effect P e).notices s)).map Prod.snd) (step P s e).sql := by
  -- Unless a call of the sink ends nothing lands, whoever is at the database.
  have hsame : ∀ {f : Effect ρ τ}, (∀ reply, f.window ≠ some (.reply reply)) →
      Written sql ((landed log).map Prod.snd) f.sql →
        Written sql ((landed (log ++ f.notices s)).map Prod.snd) f.sql := by
    intro f hf hsql
    rw [landed_same t hf]
    exact hsql
  cases e with
  | call request =>
    refine hsame (fun reply => ?_) ?_ <;> simp only [State.effect, State.come]
    · split <;> simp [State.atWindow, State.still]
    · split <;> exact h
  | advance i =>
    rw [step]
    cases hc : s.clients[i]? with
    | none =>
      rw [State.effect_absent P hc]
      exact hsame (by simp [State.still]) h
    | some client =>
      rw [State.effect_advance P hc]
      exact hsame (hP.replies s i client) (hP.database i client h)
  | look => exact written_look t h
  | commit => exact written_commit hs hP t h
  | fail fault =>
    cases hfault : P.fault fault with
    | fails e => exact written_refused t h (e := e) (by rw [hfault]; rfl) rfl rfl
    | dies => exact written_refused t h (by rw [hfault]; rfl) rfl rfl
  | _ => exact hsame (by simp [State.effect, State.atWindow]) h

/-- **In every run the database has been through the windows that have
landed.** -/
theorem written_run (hP : P.Lawful) (sql : SqlStore) (events : List (Event ρ φ)) :
    Written sql ((landed (chronicle P (start sql) events)).map Prod.snd)
      (run (step P) (start sql) events).sql := by
  -- From the end, as what lands last depends on all that came before.
  induction events using List.reverseRecOn with
  | nil => exact .start
  | append_singleton events e ih =>
    rw [run_snoc, chronicle_snoc]
    exact written_step (seated_run hP sql events) hP (told_run P sql events) ih e

end

end Meterbank.Crowd
