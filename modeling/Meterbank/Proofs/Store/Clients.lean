/-
  Meterbank.Proofs.Store.Clients — what many clients can do.

  `Turn s f` lists every way to go on from `s`, with its guard and its
  effect; the invariants are proved from the list.  A client always fits
  what was noticed at the window: as long as it waits it has a caller that
  came for what it asked; once its caller has returned, it is answered
  with the refusal of its window, or goes on to read.

  Main results:
    * `effect_turn` — each event is one of the turns.
    * `lawful` — clients leave alone what they have to.
    * `Sound.step` — every section leaves clients that fit.
-/
import Meterbank.Proofs.Folding
import Meterbank.Proofs.Store.Crowd
import Meterbank.Store.Clients

namespace Meterbank.Clients

open Meterbank.Crowd (Seated Written)
open Meterbank.Window (Notice Task Told)

/-! ## Turns -/

/-- Every way to go on. -/
inductive Turn (s : State) : Effect → Prop where
  | still : Turn s s.still
  -- clients that come
  | refuse {request : Request} {e : StoreError} (ht : request.task? = .error e) :
      Turn s { s.still with clients := s.clients ++ [⟨request, none, .answered (.error e)⟩] }
  | skip {request : Request} (ht : request.task? = .ok none) :
      Turn s { s.still with clients := s.clients ++ [⟨request, none, .answered (.ok .nothing)⟩] }
  | join {request : Request} {task : Task} (ht : request.task? = .ok (some task)) :
      Turn s { s.atWindow (.call task) with
        clients := s.clients ++ [⟨request, some s.window.callers.length, .queued⟩] }
  -- the window on its own
  | window {e : Window.Event} (hc : ∀ task, e ≠ .call task) (hr : ∀ reply, e ≠ .reply reply) :
      Turn s (s.atWindow e)
  -- clients whose callers have returned
  | fail {i id : Nat} {request : Request} {e : StoreError}
      (hc : s.clients[i]? = some ⟨request, some id, .queued⟩) (hr : request ≠ .close)
      (ha : s.window.answer? id = some (.error e)) :
      Turn s (s.moveTo i ⟨request, some id, .queued⟩ (.answered (.error e)))
  | flush {i id : Nat} {request : Request}
      (hc : s.clients[i]? = some ⟨request, some id, .queued⟩) (hr : request ≠ .close)
      (ha : s.window.answer? id = some (.ok ())) :
      Turn s (s.moveTo i ⟨request, some id, .queued⟩ request.flushed)
  | stop {i id : Nat} {told : Window.Stats}
      (hc : s.clients[i]? = some ⟨.close, some id, .queued⟩)
      (ha : s.window.stats? id = some told) :
      Turn s (s.moveTo i ⟨.close, some id, .queued⟩ .closing)
  -- reading back
  | findClosed {i : Nat} {client : Client} {key : String} (hc : s.clients[i]? = some client)
      (hs : client.stage = .looking key) (hclosed : s.sql.isClosed = true) :
      Turn s (s.moveTo i client (.answered (.error .closed)))
  | findOpen {i : Nat} {client : Client} {key : String} (hc : s.clients[i]? = some client)
      (hs : client.stage = .looking key) (hopen : s.sql.isClosed = false) :
      Turn s (s.moveTo i client (.reading key))
  | read {i : Nat} {client : Client} {key : String} {answer : Except StoreError (Table Int64)}
      {sql : SqlStore} (hc : s.clients[i]? = some client) (hs : client.stage = .reading key)
      (hr : s.sql.unchecked (·.readCounters [key]) = (answer, sql)) :
      Turn s { s.moveTo i client (.answered
        (answer.map fun found => .metric (.counter key (found.total key)))) with sql }
  -- closing
  | close {i : Nat} {client : Client} {answer : Except StoreError Unit} {sql : SqlStore}
      (hc : s.clients[i]? = some client) (hs : client.stage = .closing)
      (hr : s.sql.close = (answer, sql)) :
      Turn s { s.moveTo i client (.answered (answer.map fun _ => .nothing)) with sql }
  -- the flusher at the database
  | turnAway {last : Bool} {cycle : Nat} {delta : Delta} {e : StoreError}
      (hf : s.window.flusher = .calling last cycle delta) (hr : s.sql.refusal? delta = some e) :
      Turn s (s.atWindow (.reply (.done (.error e))))
  | pass : Turn s { s.still with passed := true }
  | commit {last : Bool} {cycle : Nat} {delta : Delta} {outcome : Except StoreError Unit}
      {sql : SqlStore} (hf : s.window.flusher = .calling last cycle delta)
      (hr : s.sql.unchecked (·.writeDelta delta) = (outcome, sql)) :
      Turn s { s.atWindow (.reply (.done outcome)) with sql, passed := false }

theorem come_turn (s : State) (request : Request) : Turn s (s.come protocol request) := by
  unfold Crowd.State.come Crowd.Protocol.joins?
  simp only [protocol, Request.first]
  cases ht : request.task? with
  | error e => exact .refuse ht
  | ok task? =>
    cases task? with
    | none => exact .skip ht
    | some task => exact .join ht

theorem advance_turn (s : State) {i : Nat} {client : Client} (hc : s.clients[i]? = some client) :
    Turn s (advance s i client) := by
  obtain ⟨request, caller, stage⟩ := client
  unfold advance
  cases stage with
  | queued =>
    cases caller with
    | none => exact .still
    | some id =>
      cases request with
      | close =>
        simp only
        cases ha : s.window.stats? id with
        | none => exact .window (by simp) (by simp)
        | some stats => exact .stop hc ha
      | _ =>
        simp only
        -- Until its caller has returned, the client is the caller.
        cases ha : s.window.answer? id with
        | none => exact .window (by simp) (by simp)
        | some outcome =>
          cases outcome with
          | error e => exact .fail hc (by simp) ha
          | ok u => exact .flush hc (by simp) ha
  | looking key =>
    simp only
    by_cases hclosed : s.sql.isClosed = true
    · rw [if_pos hclosed]
      exact .findClosed hc rfl hclosed
    · rw [if_neg hclosed]
      exact .findOpen hc rfl (by simpa using hclosed)
  | reading key => exact .read hc rfl rfl
  | closing => exact .close hc rfl rfl
  | answered answer => exact .still

theorem look_turn (s : State) : Turn s s.look := by
  unfold Crowd.State.look
  split
  · next last cycle delta hf _ =>
    cases hr : s.sql.refusal? delta with
    | some e => exact .turnAway hf hr
    | none => exact .pass
  · exact .still

theorem commit_turn (s : State) : Turn s s.commit := by
  unfold Crowd.State.commit
  split
  · next last cycle delta hf _ => exact .commit hf rfl
  · exact .still

/-- **Each event is one of the turns.** -/
theorem effect_turn (s : State) (e : Event) : Turn s (s.effect protocol e) := by
  cases e with
  | call request => exact come_turn s request
  | advance i =>
    cases hc : s.clients[i]? with
    | none =>
      rw [Crowd.State.effect_absent protocol hc]
      exact .still
    | some client =>
      rw [Crowd.State.effect_advance protocol hc]
      exact advance_turn s hc
  | tick | receive | proceed => exact .window (by simp) (by simp)
  | look => exact look_turn s
  | commit => exact commit_turn s
  | fail fault => exact fault.elim

/-! ## Requests -/

namespace Request

variable {request : Request}

/-- Updates that a request asks for may be stored. -/
theorem updates_finite {us : List Update} (h : request.updates = .ok us) :
    ∀ u ∈ us, u.Finite := by
  cases request with
  | writeData m =>
    rw [updates] at h
    cases hu : m.validate with
    | error e =>
      rw [hu] at h
      exact absurd h (by simp [Except.map])
    | ok u =>
      rw [hu] at h
      have hus : [u] = us := Except.ok.inj h
      rw [← hus]
      simpa using Metric.finite_of_validate hu
  | writeBatch b => exact Batch.finite_of_validateFrom h
  | close =>
    have hus : [] = us := Except.ok.inj h
    rw [← hus]
    exact fun u hu => absurd hu (by simp)

/-- A request goes to the window to submit what its updates fold to, or to
stop the flusher. -/
theorem task?_cases {task : Task} (h : request.task? = .ok (some task)) :
    (request = .close ∧ task = .shutdown) ∨
      ∃ us delta, request ≠ .close ∧ request.updates = .ok us ∧ us ≠ [] ∧
        Delta.ofUpdates us = .ok delta ∧ task = .submit delta := by
  unfold task? at h
  split at h
  · exact .inl ⟨rfl, (Option.some.inj (Except.ok.inj h)).symm⟩
  · next hclose =>
    split at h
    · exact absurd h (by simp)
    · next us hus =>
      split at h
      · exact absurd h (by simp)
      · next hne =>
        split at h
        · exact absurd h (by simp)
        · next delta hd =>
          have htask : Task.submit delta = task := Option.some.inj (Except.ok.inj h)
          exact .inr ⟨us, delta, hclose, hus, by simpa using hne, hd, htask.symm⟩

/-- What is submitted is something, and may be stored. -/
theorem submit_spec {delta : Delta} (h : request.task? = .ok (some (.submit delta))) :
    request ≠ .close ∧ delta.isEmpty = false ∧ delta.Finite := by
  rcases task?_cases h with ⟨-, htask⟩ | ⟨us, d, hclose, hus, hne, hd, htask⟩
  · exact absurd htask (by simp)
  · rw [Task.submit.inj htask]
    exact ⟨hclose, Delta.ofUpdates_isEmpty hd hne, Delta.ofUpdates_finite (updates_finite hus) hd⟩

/-- A counter that is to be read back is in what is submitted. -/
theorem counter?_spec {key : String} {delta : Delta} (hk : request.counter? = some key)
    (h : request.task? = .ok (some (.submit delta))) : (delta.counters.get? key).isSome = true := by
  rcases task?_cases h with ⟨-, htask⟩ | ⟨us, d, -, hus, -, hd, htask⟩
  · exact absurd htask (by simp)
  · cases request with
    | writeData m =>
      rw [counter?] at hk
      split at hk
      · next id amount hu =>
        -- What is submitted is the fold of one update, of that counter.
        have hid : id = key := Option.some.inj hk
        subst hid
        rw [updates, hu] at hus
        have hsingle : [⟨id, .counter amount⟩] = us := Except.ok.inj hus
        rw [← hsingle, Delta.ofUpdates_counter] at hd
        rw [Task.submit.inj htask, ← Except.ok.inj hd, Table.get?_set, if_pos rfl]
        rfl
      · exact absurd hk (by simp)
    | _ => exact absurd hk (by simp [counter?])

end Request

/-! ## What clients leave alone -/

/-- What a client does at the window is what its caller does. -/
theorem advance_window (s : State) (i : Nat) (client : Client) :
    (advance s i client).window = none ∨ ∃ id, (advance s i client).window = some (.advance id) := by
  unfold advance
  split
  · split
    · split <;> simp [Crowd.State.moveTo, Crowd.State.still, Crowd.State.atWindow]
    · split <;> simp [Crowd.State.moveTo, Crowd.State.still, Crowd.State.atWindow]
  · split <;> simp [Crowd.State.moveTo, Crowd.State.still]
  · simp [Crowd.State.moveTo, Crowd.State.still]
  · simp [Crowd.State.moveTo, Crowd.State.still]
  · simp [Crowd.State.still]

/-- A client that goes on comes to another stage, or stays where it is. -/
theorem advance_clients (s : State) (i : Nat) (client : Client) :
    (advance s i client).clients = s.clients ∨
      ∃ stage, (advance s i client).clients = (s.moveTo i client stage).clients := by
  unfold advance
  split
  · split
    · split
      · exact .inr ⟨_, rfl⟩
      · exact .inl rfl
    · split
      · exact .inr ⟨_, rfl⟩
      · exact .inr ⟨_, rfl⟩
      · exact .inl rfl
  · split <;> exact .inr ⟨_, rfl⟩
  · exact .inr ⟨_, rfl⟩
  · exact .inr ⟨_, rfl⟩
  · exact .inl rfl

/-- A client reads the database, or closes it. -/
theorem advance_written {start : SqlStore} {ds : List Delta} {s : State} (i : Nat)
    (client : Client) (h : Written start ds s.sql) : Written start ds (advance s i client).sql := by
  unfold advance
  split
  · split
    · split <;> exact h
    · split <;> exact h
  · split <;> exact h
  · next key _ => exact h.read [key]
  · exact h.close
  · exact h

/-- **Clients leave alone what they have to.** -/
theorem lawful : protocol.Lawful where
  submits ht := (Request.submit_spec ht).2
  calls s i client task := by
    rcases advance_window s i client with hw | ⟨id, hw⟩ <;> simp [protocol, hw]
  replies s i client reply := by
    rcases advance_window s i client with hw | ⟨id, hw⟩ <;> simp [protocol, hw]
  seats {s i client} hc := by
    rcases advance_clients s i client with hsame | ⟨stage, hmove⟩
    · exact congrArg _ hsame
    · exact (congrArg _ hmove).trans (Crowd.seats_moveTo hc stage)
  database i client h := advance_written i client h

/-! ## Clients that fit -/

/-- How far a client can be once its window was flushed.  Reading back can
fail because the database has been closed, or with the errors that
`unread` tells. -/
inductive AfterFlush (closed : Bool) (unread : StoreError → Prop) (request : Request) :
    Stage → Prop where
  | done (h : request.counter? = none) :
      AfterFlush closed unread request (.answered (.ok request.receipt))
  | looking {key : String} (h : request.counter? = some key) :
      AfterFlush closed unread request (.looking key)
  | reading {key : String} (h : request.counter? = some key) :
      AfterFlush closed unread request (.reading key)
  | shut {key : String} (h : request.counter? = some key) (hclosed : closed = true) :
      AfterFlush closed unread request (.answered (.error .closed))
  | unread {key : String} {e : StoreError} (h : request.counter? = some key) (he : unread e) :
      AfterFlush closed unread request (.answered (.error e))
  | read {key : String} {payload : Store.Payload} (h : request.counter? = some key) :
      AfterFlush closed unread request (.answered (.ok payload))

/-- Whether a client fits what was noticed at the window. -/
inductive Fits (tasks : List Task) (log : List Notice) (closed : Bool)
    (unread : StoreError → Prop) : Client → Prop where
  | refused {request : Request} {e : StoreError} (ht : request.task? = .error e) :
      Fits tasks log closed unread ⟨request, none, .answered (.error e)⟩
  | skipped {request : Request} (ht : request.task? = .ok none) :
      Fits tasks log closed unread ⟨request, none, .answered (.ok .nothing)⟩
  | queued {request : Request} {id : Nat} {task : Task} (ht : request.task? = .ok (some task))
      (hid : tasks[id]? = some task) : Fits tasks log closed unread ⟨request, some id, .queued⟩
  | failed {request : Request} {id : Nat} {delta : Delta} {e : StoreError}
      (ht : request.task? = .ok (some (.submit delta))) (hid : tasks[id]? = some (.submit delta))
      (hr : .returned id (.error e) ∈ log) :
      Fits tasks log closed unread ⟨request, some id, .answered (.error e)⟩
  | flushed {request : Request} {id : Nat} {delta : Delta} {stage : Stage}
      (ht : request.task? = .ok (some (.submit delta))) (hid : tasks[id]? = some (.submit delta))
      (hr : .returned id (.ok ()) ∈ log) (hs : AfterFlush closed unread request stage) :
      Fits tasks log closed unread ⟨request, some id, stage⟩
  | closing {id : Nat} {stage : Stage} (hid : tasks[id]? = some .shutdown)
      (hs : stage = .closing ∨ ∃ answer, stage = .answered answer) :
      Fits tasks log closed unread ⟨.close, some id, stage⟩

theorem AfterFlush.mono {closed closed' : Bool} {unread : StoreError → Prop} {request : Request}
    {stage : Stage} (h : AfterFlush closed unread request stage)
    (hclosed : closed = true → closed' = true) : AfterFlush closed' unread request stage := by
  cases h with
  | done h => exact .done h
  | looking h => exact .looking h
  | reading h => exact .reading h
  | shut h hc => exact .shut h (hclosed hc)
  | unread h he => exact .unread h he
  | read h => exact .read h

/-- A client goes on fitting when more is noticed. -/
theorem Fits.mono {tasks more : List Task} {log : List Notice} {closed closed' : Bool}
    {unread : StoreError → Prop} {client : Client} (h : Fits tasks log closed unread client)
    (hclosed : closed = true → closed' = true) (notices : List Notice) :
    Fits (tasks ++ more) (log ++ notices) closed' unread client := by
  -- Tasks are only added at the end, so a caller keeps its number.
  have hold : ∀ {id : Nat} {task : Task}, tasks[id]? = some task →
      (tasks ++ more)[id]? = some task := by
    intro id task hid
    rw [List.getElem?_append_left (List.getElem?_eq_some_iff.1 hid).1, hid]
  cases h with
  | refused ht => exact .refused ht
  | skipped ht => exact .skipped ht
  | queued ht hid => exact .queued ht (hold hid)
  | failed ht hid hr => exact .failed ht (hold hid) (List.mem_append_left _ hr)
  | flushed ht hid hr hs =>
    exact .flushed ht (hold hid) (List.mem_append_left _ hr) (hs.mono hclosed)
  | closing hid hs => exact .closing (hold hid) hs

/-- A client that is about to read its counter back goes on. -/
theorem Fits.goOn {tasks : List Task} {log : List Notice} {closed closed' : Bool}
    {unread : StoreError → Prop} {client : Client} {key : String} {next : Stage}
    (h : Fits tasks log closed unread client)
    (hs : client.stage = .looking key ∨ client.stage = .reading key)
    (hnext : client.request.counter? = some key → AfterFlush closed' unread client.request next) :
    Fits tasks log closed' unread { client with stage := next } := by
  cases h with
  | refused ht | skipped ht | queued ht hid | failed ht hid hr => exact absurd hs (by simp)
  | closing hid hend =>
    rcases hs with rfl | rfl <;> exact absurd hend (by simp)
  | flushed ht hid hr hafter =>
    -- It reads because it has written a counter.
    refine .flushed ht hid hr (hnext ?_)
    rcases hs with rfl | rfl
    · cases hafter with
      | looking hk => exact hk
    · cases hafter with
      | reading hk => exact hk

/-- All clients fit. -/
def AllFit (unread : StoreError → Prop) (s : State) (log : List Notice) : Prop :=
  ∀ client ∈ s.clients, Fits s.window.tasks log s.sql.isClosed unread client

namespace AllFit

variable {unread : StoreError → Prop} {s : State} {log : List Notice}

/-- An effect after which all clients fit. -/
theorem on (h : AllFit unread s log) (f : Effect) {more : List Task}
    (htasks : (f.on s).window.tasks = s.window.tasks ++ more)
    (hclosed : s.sql.isClosed = true → f.sql.isClosed = true)
    (hfits : ∀ client ∈ f.clients, client ∈ s.clients ∨
      Fits (s.window.tasks ++ more) (log ++ f.notices s) f.sql.isClosed unread client) :
    AllFit unread (f.on s) (log ++ f.notices s) := by
  intro client hclient
  rw [htasks]
  rcases hfits client hclient with hold | hfit
  · exact (h client hold).mono hclosed _
  · exact hfit

/-- Something happens at the window, and no client moves. -/
theorem atWindow (h : AllFit unread s log) {e : Window.Event} (he : ∀ task, e ≠ .call task)
    {f : Effect} (hf : f.window = some e) (hclosed : s.sql.isClosed = true → f.sql.isClosed = true)
    (hclients : f.clients = s.clients) : AllFit unread (f.on s) (log ++ f.notices s) := by
  have htasks : (f.on s).window.tasks = s.window.tasks ++ [] := by
    rw [Crowd.Effect.on, hf, List.append_nil]
    exact Window.step_tasks s.window he
  refine h.on f htasks hclosed fun client hclient => .inl ?_
  rwa [hclients] at hclient

/-- Something happens away from the window, and clients that are new or
have moved fit. -/
theorem away (h : AllFit unread s log) {f : Effect} (hw : f.window = none)
    (hclosed : s.sql.isClosed = true → f.sql.isClosed = true)
    (hfits : ∀ client ∈ f.clients, client ∈ s.clients ∨
      Fits s.window.tasks log f.sql.isClosed unread client) :
    AllFit unread (f.on s) (log ++ f.notices s) := by
  have htasks : (f.on s).window.tasks = s.window.tasks ++ [] := by
    rw [Crowd.Effect.on, hw, List.append_nil]
    rfl
  refine h.on f htasks hclosed ?_
  rw [Crowd.notices_away hw, List.append_nil, List.append_nil]
  exact hfits

/-- One client moves, away from the window. -/
theorem move (h : AllFit unread s log) {i : Nat} {client : Client} {stage : Stage} {f : Effect}
    (hw : f.window = none) (hclients : f.clients = s.clients.set i { client with stage })
    (hclosed : s.sql.isClosed = true → f.sql.isClosed = true)
    (hfit : Fits s.window.tasks log f.sql.isClosed unread { client with stage }) :
    AllFit unread (f.on s) (log ++ f.notices s) := by
  refine h.away hw hclosed fun x hx => ?_
  rw [hclients] at hx
  rcases List.mem_or_eq_of_mem_set hx with hold | rfl
  · exact .inl hold
  · exact .inr hfit

/-- A client comes that needs no caller. -/
theorem come (h : AllFit unread s log) {client : Client} {f : Effect} (hw : f.window = none)
    (hclients : f.clients = s.clients ++ [client]) (hsql : f.sql = s.sql)
    (hfit : Fits s.window.tasks log s.sql.isClosed unread client) :
    AllFit unread (f.on s) (log ++ f.notices s) := by
  rw [← hsql] at hfit
  refine h.away hw (by rw [hsql]; exact id) fun x hx => ?_
  rw [hclients] at hx
  rcases List.mem_append.1 hx with hold | hnew
  · exact .inl hold
  · rw [List.mem_singleton.1 hnew]
    exact .inr hfit

/-- A client comes, and so does its caller. -/
theorem join (h : AllFit unread s log) {request : Request} {task : Task} {f : Effect}
    (ht : request.task? = .ok (some task)) (hw : f.window = some (.call task))
    (hclients : f.clients = s.clients ++ [⟨request, some s.window.callers.length, .queued⟩])
    (hsql : f.sql = s.sql) : AllFit unread (f.on s) (log ++ f.notices s) := by
  have htasks : (f.on s).window.tasks = s.window.tasks ++ [task] := by
    rw [Crowd.Effect.on, hw]
    exact Window.tasks_call s.window task
  have hlength : s.window.callers.length = s.window.tasks.length := by
    rw [Window.State.tasks, List.length_map]
  refine h.on f htasks (by rw [hsql]; exact id) fun x hx => ?_
  rw [hclients] at hx
  rcases List.mem_append.1 hx with hold | hnew
  · exact .inl hold
  · rw [List.mem_singleton.1 hnew]
    refine .inr (.queued ht ?_)
    rw [hlength, List.getElem?_concat_length]

end AllFit

/-- Clients and callers belong together, and all clients fit. -/
structure Sound (unread : StoreError → Prop) (s : State) (log : List Notice) : Prop where
  told : Told s.window log
  seated : Seated protocol s
  fits : AllFit unread s log

namespace Sound

variable {unread : StoreError → Prop} {s : State} {log : List Notice}

/-- A client with a caller that does not close has come to submit. -/
theorem submit_of_caller (h : Sound unread s log) {client : Client} (hc : client ∈ s.clients)
    {id : Nat} (hcaller : client.caller = some id) (hr : client.request ≠ .close) :
    ∃ delta, client.request.task? = .ok (some (.submit delta)) ∧
      s.window.tasks[id]? = some (.submit delta) := by
  obtain ⟨task, hid, ht⟩ := h.seated.task_of_caller hc hcaller
  rcases Request.task?_cases ht with ⟨hclose, -⟩ | ⟨us, delta, -, -, -, -, rfl⟩
  · exact absurd hclose hr
  · exact ⟨delta, ht, hid⟩

/-- Every turn leaves clients that fit, if `unread` tells the errors with
which reading back may fail. -/
theorem turn_fits (h : Sound unread s log) {f : Effect} (turn : Turn s f)
    (hread : ∀ client ∈ s.clients, ∀ key e, client.stage = .reading key →
      (s.sql.unchecked (·.readCounters [key])).1 = .error e → unread e) :
    AllFit unread (f.on s) (log ++ f.notices s) := by
  cases turn with
  | still => exact h.fits.away rfl id fun client hclient => .inl hclient
  | refuse ht => exact h.fits.come rfl rfl rfl (.refused ht)
  | skip ht => exact h.fits.come rfl rfl rfl (.skipped ht)
  | join ht => exact h.fits.join ht rfl rfl rfl
  | window hc _ => exact h.fits.atWindow hc rfl id rfl
  | fail hc hr ha =>
    obtain ⟨delta, ht, hid⟩ := h.submit_of_caller (List.mem_of_getElem? hc) rfl hr
    exact h.fits.move rfl rfl id (.failed ht hid (h.told.returned hid (by simp) ha))
  | @flush i id request hc hr ha =>
    obtain ⟨delta, ht, hid⟩ := h.submit_of_caller (List.mem_of_getElem? hc) rfl hr
    refine h.fits.move rfl rfl (fun hclosed => hclosed)
      (.flushed ht hid (h.told.returned hid (by simp) ha) ?_)
    unfold Request.flushed
    cases hk : request.counter? with
    | none => exact .done hk
    | some key => exact .looking hk
  | stop hc _ =>
    refine h.fits.move rfl rfl id ?_
    have hfit := h.fits _ (List.mem_of_getElem? hc)
    -- It has come to stop the flusher, as it is one that closes.
    cases hfit with
    | queued ht hid =>
      rw [← Option.some.inj (Except.ok.inj ht)] at hid
      exact .closing hid (.inl rfl)
    | flushed ht _ _ _ => exact absurd ht (by simp [Request.task?])
    | closing hid _ => exact .closing hid (.inl rfl)
  | findClosed hc hs hclosed =>
    exact h.fits.move rfl rfl id
      ((h.fits _ (List.mem_of_getElem? hc)).goOn (.inl hs) fun hk => .shut hk hclosed)
  | findOpen hc hs _ =>
    exact h.fits.move rfl rfl id
      ((h.fits _ (List.mem_of_getElem? hc)).goOn (.inl hs) fun hk => .reading hk)
  | @read i client key answer sql hc hs hr =>
    have hmem := List.mem_of_getElem? hc
    -- Reading without looking neither opens nor closes the database.
    have hkept : sql.isClosed = s.sql.isClosed := by
      have hsql : (s.sql.unchecked (·.readCounters [key])).2 = sql := by rw [hr]
      rw [← hsql]
      rfl
    refine h.fits.move rfl rfl (by rw [hkept]; exact id)
      ((h.fits _ hmem).goOn (.inr hs) fun hk => ?_)
    cases answer with
    | ok found => exact .read hk
    | error e => exact .unread hk (hread client hmem key e hs (by rw [hr]))
  | @close i client answer sql hc hs hr =>
    have hclosed : sql.isClosed = true := by
      have hsql : s.sql.close.2 = sql := by rw [hr]
      rw [← hsql]
      exact s.sql.close_isClosed
    refine h.fits.move rfl rfl (fun _ => hclosed) ?_
    have hfit := h.fits _ (List.mem_of_getElem? hc)
    obtain ⟨request, caller, stage⟩ := client
    cases hfit with
    | closing hid _ => exact .closing hid (.inr ⟨_, rfl⟩)
    | flushed ht hid hlog hafter =>
      rw [show stage = .closing from hs] at hafter
      cases hafter
    | _ => exact absurd hs (by simp)
  | turnAway hf hr => exact h.fits.atWindow (by simp) rfl id rfl
  | pass => exact h.fits.away rfl id fun client hclient => .inl hclient
  | @commit last cycle delta outcome sql hf hr =>
    have hkept : sql.isClosed = s.sql.isClosed := by
      have hsql : (s.sql.unchecked (·.writeDelta delta)).2 = sql := by rw [hr]
      rw [← hsql]
      rfl
    exact h.fits.atWindow (by simp) rfl (by rw [hkept]; exact id) rfl

/-- **Every section leaves clients that fit**, if `unread` tells the errors
with which reading back may fail. -/
theorem step (h : Sound unread s log) (e : Event)
    (hread : ∀ client ∈ s.clients, ∀ key e, client.stage = .reading key →
      (s.sql.unchecked (·.readCounters [key])).1 = .error e → unread e) :
    Sound unread (Clients.step s e) (log ++ (s.effect protocol e).notices s) where
  told := Crowd.told_on h.told _
  seated := h.seated.step lawful e
  fits := h.turn_fits (effect_turn s e) hread

end Sound

end Meterbank.Clients
