/-
  Meterbank.Proofs.Store.Batching — coalesced batches are serial batches.

  However many clients write batches and dump at the same time, and
  whichever windows fail: once all of them have been answered, the tables
  of the database are what the batches that were answered well make of
  them, one after another in the order in which they were merged.

  A batch is known by its caller at the window, and the callers are those
  of the clients; so what has landed there can be read as batches.  That
  it landed is what its client has been told.

  Main results:
    * `landed_call`, `landed_iff` — what has landed are the batches that
      were answered well.
    * `run_matches_serial` — the tables of every run in which all clients
      have been answered.
-/
import Mathlib.Data.List.Nodup
import Meterbank.Proofs.Store.Clients
import Meterbank.Proofs.Store.Serial

namespace Meterbank.Batching

open Meterbank.Crowd (Applied Seated chronicle inOrder_run seated_run told_run written_run)
open Meterbank.Window (Notice Task Told InOrder landed merging)

/-! ## Requests -/

namespace Request

/-- Who submits has a batch that folds to what is submitted. -/
theorem submit_spec {request : Request} {delta : Delta}
    (h : request.task? = .ok (some (.submit delta))) :
    ∃ b, request = .writeBatch b ∧ Delta.ofUpdates b.updates = .ok delta ∧ b.metrics ≠ [] ∧
      delta.isEmpty = false ∧ delta.Finite := by
  cases request with
  | dump => exact absurd (Option.some.inj (Except.ok.inj h)) (by simp)
  | writeBatch b =>
    have htask : (Clients.Request.writeBatch b).task? = .ok (some (.submit delta)) := h
    obtain ⟨-, hne, hfinite⟩ := Clients.Request.submit_spec htask
    rcases Clients.Request.task?_cases htask with ⟨hclose, -⟩ | ⟨us, d, -, hus, hsome, hd, htask⟩
    · exact absurd hclose (by simp)
    · obtain rfl : delta = d := Task.submit.inj htask
      have hb : b.validate = .ok us := hus
      refine ⟨b, rfl, by rwa [Batch.updates_of_validate hb], fun hempty => hsome ?_, hne, hfinite⟩
      rw [(Batch.validate_eq_nil_iff b).2 hempty] at hb
      exact (Except.ok.inj hb).symm

/-- A batch is refused, submitted, or empty. -/
theorem writeBatch_cases {b : Batch} {task : Option Task}
    (h : (Request.writeBatch b).task? = .ok task) :
    task = none ∧ b.metrics = [] ∨ ∃ delta, task = some (.submit delta) := by
  cases task with
  | some task =>
    have htask : (Clients.Request.writeBatch b).task? = .ok (some task) := h
    rcases Clients.Request.task?_cases htask with ⟨hclose, -⟩ | ⟨us, d, -, -, -, -, rfl⟩
    · exact absurd hclose (by simp)
    · exact .inr ⟨d, rfl⟩
  | none =>
    refine .inl ⟨rfl, (Batch.validate_eq_nil_iff b).1 ?_⟩
    simp only [task?, Clients.Request.task?, Clients.Request.updates] at h
    cases hb : b.validate with
    | error e =>
      rw [hb] at h
      exact absurd h (by simp)
    | ok us =>
      rw [hb] at h
      cases us with
      | nil => rfl
      | cons u us =>
        simp only [List.isEmpty_cons, Bool.false_eq_true, if_false] at h
        cases hd : Delta.ofUpdates (u :: us) <;> rw [hd] at h <;> exact absurd h (by simp)

end Request

/-- Clients leave alone what they have to: they do nothing but what their
callers do. -/
theorem lawful : protocol.Lawful where
  submits {request delta} ht := by
    obtain ⟨b, -, -, -, hne, hfinite⟩ := Request.submit_spec ht
    exact ⟨hne, hfinite⟩
  calls s i client task := by
    simp only [protocol, advance]
    split <;> simp [Crowd.State.atWindow, Crowd.State.still]
  replies s i client reply := by
    simp only [protocol, advance]
    split <;> simp [Crowd.State.atWindow, Crowd.State.still]
  seats hc := by
    simp only [protocol, advance]
    split <;> rfl
  database i client h := by
    simp only [protocol, advance]
    split <;> exact h

/-! ## What was answered well -/

/-- Whether a client that came for something has been answered so. -/
def Answered (s : State) (i : Nat) (request : Request) (answer : Except StoreError Unit) : Prop :=
  ∃ client, s.clients[i]? = some client ∧ client.request = request ∧ answer? s client = some answer

/-- The caller of a client. -/
def caller? (s : State) (i : Nat) : Option Nat := s.clients[i]?.bind Crowd.Client.caller

section

variable {s : State} {log : List Notice}

/-- What has landed is the batch of a client. -/
theorem landed_call (h : Seated protocol s) (t : Told s.window log) {id : Nat} {delta : Delta}
    (hland : (id, delta) ∈ landed log) :
    ∃ (i : Nat) (b : Batch), s.clients[i]? = some ⟨.writeBatch b, some id, ()⟩ ∧
      (Request.writeBatch b).task? = .ok (some (.submit delta)) ∧
        Delta.ofUpdates b.updates = .ok delta := by
  obtain ⟨⟨request, caller, stage⟩, hmem, hcaller, ht⟩ := h.client_of_landed t hland
  obtain ⟨i, hi⟩ := List.getElem?_of_mem hmem
  obtain ⟨b, hb, hd, -⟩ := Request.submit_spec ht
  obtain rfl : request = .writeBatch b := hb
  obtain rfl : caller = some id := hcaller
  exact ⟨i, b, hi, ht, hd⟩

/-- A batch that gets to the window is answered what its caller is told. -/
theorem answer?_of_task {client : Client} {id : Nat} {task : Task}
    (ht : client.request.task? = .ok (some task)) (hcaller : client.caller = some id) :
    answer? s client = s.window.answer? id := by
  unfold answer?
  rw [ht]
  simp only [hcaller]
  rfl

/-- **A batch has landed if and only if it was answered well**, once it has
been answered. -/
theorem landed_iff (h : Seated protocol s) (t : Told s.window log) {client : Client}
    (hc : client ∈ s.clients) {id : Nat} {delta : Delta}
    (ht : client.request.task? = .ok (some (.submit delta))) (hcaller : client.caller = some id)
    {answer : Except StoreError Unit} (ha : answer? s client = some answer) :
    (id, delta) ∈ landed log ↔ answer = .ok () := by
  obtain ⟨task, hid, htask⟩ := h.task_of_caller hc hcaller
  obtain rfl : Task.submit delta = task := Option.some.inj (Except.ok.inj (ht.symm.trans htask))
  obtain ⟨b, -, -, -, hne, -⟩ := Request.submit_spec ht
  rw [answer?_of_task ht hcaller] at ha
  have hreturned := t.returned hid (by simp) ha
  cases answer with
  | ok u =>
    obtain ⟨c, hfound, hsubmit⟩ := Window.getElem?_tasks.1 hid
    exact ⟨fun _ => rfl, fun _ => t.landed_of_ok hfound hsubmit hne hreturned⟩
  | error e =>
    exact ⟨fun hland => absurd hland (t.not_landed_of_error hne hreturned), by simp⟩

end

/-! ## Batches with nothing in them -/

/-- The batch of a client that has nothing to write. -/
def idle? (s : State) (i : Nat) : Option Batch :=
  match s.clients[i]? with
  | some ⟨.writeBatch b, _, _⟩ => if b.metrics.isEmpty then some b else none
  | _ => none

/-- The clients that have nothing to write. -/
def idle (s : State) : List (Nat × Batch) :=
  (List.range s.clients.length).filterMap fun i => (idle? s i).map (i, ·)

section

variable {s : State}

theorem mem_idle {i : Nat} {b : Batch} :
    (i, b) ∈ idle s ↔ (∃ caller, s.clients[i]? = some ⟨.writeBatch b, caller, ()⟩) ∧ b.metrics = [] := by
  have hidle : idle? s i = some b ↔
      (∃ caller, s.clients[i]? = some ⟨.writeBatch b, caller, ()⟩) ∧ b.metrics = [] := by
    unfold idle?
    split
    · next b' caller stage hi =>
      rw [hi]
      by_cases hempty : b'.metrics.isEmpty = true
      · rw [if_pos hempty]
        rw [List.isEmpty_iff] at hempty
        constructor
        · intro hb
          obtain rfl := Option.some.inj hb
          exact ⟨⟨caller, rfl⟩, hempty⟩
        · rintro ⟨⟨caller', hb⟩, -⟩
          rw [(Request.writeBatch.inj (Crowd.Client.mk.inj (Option.some.inj hb)).1)]
      · rw [if_neg hempty]
        constructor
        · exact fun hb => absurd hb (by simp)
        · rintro ⟨⟨caller', hb⟩, hnil⟩
          obtain rfl := Request.writeBatch.inj (Crowd.Client.mk.inj (Option.some.inj hb)).1
          exact absurd (List.isEmpty_iff.2 hnil) hempty
    · next hother =>
      constructor
      · exact fun hb => absurd hb (by simp)
      · rintro ⟨⟨caller, hb⟩, -⟩
        exact absurd hb (hother b caller ())
  rw [← hidle]
  unfold idle
  rw [List.mem_filterMap]
  constructor
  · rintro ⟨j, -, hj⟩
    obtain ⟨b', hb', heq⟩ := Option.map_eq_some_iff.1 hj
    obtain ⟨rfl, rfl⟩ := Prod.mk.inj heq
    exact hb'
  · intro hb
    obtain ⟨⟨caller, hi⟩, -⟩ := hidle.1 hb
    refine ⟨i, List.mem_range.2 (List.getElem?_eq_some_iff.1 hi).1, ?_⟩
    rw [hb]
    rfl

theorem nodup_idle : ((idle s).map Prod.fst).Nodup := by
  have hfirst : (idle s).map Prod.fst =
      (List.range s.clients.length).filterMap fun i => (idle? s i).map fun _ => i := by
    unfold idle
    rw [List.map_filterMap]
    simp only [Option.map_map]
    rfl
  rw [hfirst]
  refine List.Nodup.filterMap (fun i j k hi hj => ?_) List.nodup_range
  obtain ⟨-, -, rfl⟩ := Option.map_eq_some_iff.1 (Option.mem_def.1 hi)
  obtain ⟨-, -, rfl⟩ := Option.map_eq_some_iff.1 (Option.mem_def.1 hj)
  rfl

/-- Such a client is answered well, has no caller, and asks for nothing. -/
theorem idle_spec (h : Seated protocol s) {i : Nat} {b : Batch} (hi : (i, b) ∈ idle s) :
    Answered s i (.writeBatch b) (.ok ()) ∧ caller? s i = none ∧ b.updates = [] := by
  obtain ⟨⟨caller, hclient⟩, hempty⟩ := mem_idle.1 hi
  have hvalid : b.validate = .ok [] := (Batch.validate_eq_nil_iff b).2 hempty
  have htask : (Request.writeBatch b).task? = .ok none := by
    simp [Request.task?, Clients.Request.task?, Clients.Request.updates, hvalid]
  refine ⟨⟨_, hclient, rfl, ?_⟩, ?_, Batch.updates_of_validate hvalid⟩
  · unfold answer?
    rw [htask]
  · cases caller with
    | none =>
      unfold caller?
      rw [hclient]
      rfl
    | some id =>
      obtain ⟨task, -, ht⟩ := h.task_of_caller (List.mem_of_getElem? hclient) rfl
      have hnone : some task = none := Except.ok.inj (ht.symm.trans htask)
      exact absurd hnone (by simp)

end

/-! ## Batches that have landed -/

/-- That `call` tells the client and the batch of each submit that has
landed. -/
structure Calls (s : State) (log : List Notice) (call : Nat × Delta → Nat × Batch) : Prop where
  client : ∀ x ∈ landed log, s.clients[(call x).1]? = some ⟨.writeBatch (call x).2, some x.1, ()⟩
  task : ∀ x ∈ landed log, (Request.writeBatch (call x).2).task? = .ok (some (.submit x.2))
  folds : ∀ x ∈ landed log, Delta.ofUpdates (call x).2.updates = .ok x.2

section

variable {s : State} {log : List Notice}

theorem exists_calls (h : Seated protocol s) (t : Told s.window log) : ∃ call, Calls s log call := by
  have hcall : ∀ x : Nat × Delta, ∃ y : Nat × Batch, x ∈ landed log →
      s.clients[y.1]? = some ⟨.writeBatch y.2, some x.1, ()⟩ ∧
        (Request.writeBatch y.2).task? = .ok (some (.submit x.2)) ∧
          Delta.ofUpdates y.2.updates = .ok x.2 := by
    intro x
    by_cases hx : x ∈ landed log
    · obtain ⟨i, b, hi, ht, hd⟩ := landed_call h t hx
      exact ⟨(i, b), fun _ => ⟨hi, ht, hd⟩⟩
    · exact ⟨(0, ⟨[]⟩), fun hx' => absurd hx' hx⟩
  choose call hspec using hcall
  exact ⟨call, fun x hx => (hspec x hx).1, fun x hx => (hspec x hx).2.1,
    fun x hx => (hspec x hx).2.2⟩

namespace Calls

variable {call : Nat × Delta → Nat × Batch}

/-- No client has landed twice. -/
theorem nodup (hcall : Calls s log call) (t : Told s.window log) :
    (((landed log).map call).map Prod.fst).Nodup := by
  rw [List.map_map]
  refine List.Nodup.map_on (fun x hx y hy heq => ?_) t.nodup_landed.of_map
  -- Two submits of one client would have one caller.
  have hxy : s.clients[(call x).1]? = s.clients[(call y).1]? := congrArg (s.clients[·]?) heq
  rw [hcall.client x hx, hcall.client y hy] at hxy
  have hid : x.1 = y.1 := Option.some.inj (Crowd.Client.mk.inj (Option.some.inj hxy)).2.1
  exact List.inj_on_of_nodup_map t.nodup_landed hx hy hid

/-- The callers of what has landed. -/
theorem callers (hcall : Calls s log call) :
    ((landed log).map call).filterMap (fun p => caller? s p.1) = (landed log).map Prod.fst := by
  rw [List.filterMap_map, ← List.filterMap_eq_map]
  refine List.filterMap_congr fun x hx => ?_
  show s.clients[(call x).1]?.bind Crowd.Client.caller = some x.1
  rw [hcall.client x hx]
  rfl

/-- **What has landed are the batches that were answered well**, but for
those with nothing in them. -/
theorem mem_iff (hcall : Calls s log call) (h : Seated protocol s) (t : Told s.window log)
    (hall : ∀ client ∈ s.clients, (answer? s client).isSome = true) {i : Nat} {b : Batch} :
    (i, b) ∈ (landed log).map call ↔
      Answered s i (.writeBatch b) (.ok ()) ∧ b.metrics ≠ [] := by
  constructor
  · intro hmem
    obtain ⟨⟨id, delta⟩, hland, heq⟩ := List.mem_map.1 hmem
    have hclient := hcall.client _ hland
    have ht := hcall.task _ hland
    rw [heq] at hclient ht
    obtain ⟨answer, ha⟩ := Option.isSome_iff_exists.1 (hall _ (List.mem_of_getElem? hclient))
    have hok := (landed_iff h t (List.mem_of_getElem? hclient) ht rfl ha).1 hland
    obtain ⟨b', hb', -, hne, -⟩ := Request.submit_spec ht
    obtain rfl := Request.writeBatch.inj hb'
    exact ⟨⟨_, hclient, rfl, by rw [ha, hok]⟩, hne⟩
  · rintro ⟨⟨⟨request, caller⟩, hi, rfl, ha⟩, hne⟩
    -- It was neither refused nor empty, so it got to the window.
    have hc := List.mem_of_getElem? hi
    cases ht : (Request.writeBatch b).task? with
    | error e =>
      unfold answer? at ha
      rw [ht] at ha
      exact absurd (Option.some.inj ha) (by simp)
    | ok task =>
      rcases Request.writeBatch_cases ht with ⟨-, hempty⟩ | ⟨delta, rfl⟩
      · exact absurd hempty hne
      · obtain ⟨id, hcaller, -⟩ := h.caller_of_task hc ht
        obtain rfl : caller = some id := hcaller
        have hland := (landed_iff h t hc ht rfl ha).2 rfl
        have hclient := hcall.client _ hland
        have hsame : (call (id, delta)).1 = i := h.client_unique hclient hi rfl rfl
        refine List.mem_map.2 ⟨(id, delta), hland, Prod.ext hsame ?_⟩
        rw [hsame, hi] at hclient
        exact (Request.writeBatch.inj (Crowd.Client.mk.inj (Option.some.inj hclient)).1).symm

end Calls

end

/-! ## The order -/

/-- That the tables are what batches make of them one after another, in
this order: it has every batch that was answered well, once, and no other;
those that were merged stand in it in the order in which their gauges were
merged, and the others have nothing in them. -/
structure MatchesSerial (g₀ : Table Binary64) (c₀ : Table Int64) (s : State) (log : List Notice)
    (order : List (Nat × Batch)) : Prop where
  once : (order.map Prod.fst).Nodup
  succeeded : ∀ i b, (i, b) ∈ order ↔ Answered s i (.writeBatch b) (.ok ())
  merged : (order.filterMap fun call => caller? s call.1).Sublist ((merging log).map Prod.fst)
  others : ∀ i b, (i, b) ∈ order → caller? s i = none → b.metrics = []
  tables : ∃ g c, s.sql.Shows g c ∧ Updated g₀ c₀ (order.flatMap fun call => call.2.updates) g c ∧
    ∀ other after : SqlStore, other.Shows g₀ c₀ →
      other.writeBatches (order.map Prod.snd) = (.ok (), after) → after.Shows g c

/-- **Coalesced batches end in the tables of serial batches.**  Whatever
the tables were, however the clients and the flusher are interleaved, and
whichever windows fail: once all clients have been answered, the tables are
what the batches that were answered well make of them, one after another in
the order in which they were merged. -/
theorem run_matches_serial {sql : SqlStore} {g₀ : Table Binary64} {c₀ : Table Int64}
    (hsql : sql.Shows g₀ c₀) (events : List Event)
    (hall : ∀ client ∈ (run step (start sql) events).clients,
      (answer? (run step (start sql) events) client).isSome = true) :
    ∃ order, MatchesSerial g₀ c₀ (run step (start sql) events)
      (chronicle protocol (start sql) events) order := by
  have h := seated_run lawful sql events
  have t := told_run protocol sql events
  have o := inOrder_run protocol sql events
  obtain ⟨g, c, hshows, happlied⟩ := (written_run lawful sql events).shows hsql
  generalize run step (start sql) events = s at *
  generalize chronicle protocol (start sql) events = log at *
  obtain ⟨call, hcall⟩ := exists_calls h t
  -- Batches with nothing in them come last; they could come anywhere.
  refine ⟨(landed log).map call ++ idle s, ?once, ?succeeded, ?merged, ?others, ?tables⟩
  case once =>
    rw [List.map_append]
    refine List.nodup_append.2 ⟨hcall.nodup t, nodup_idle, ?_⟩
    rintro i hi i' hi' rfl
    obtain ⟨⟨i, b⟩, hb, rfl⟩ := List.mem_map.1 hi
    obtain ⟨⟨i', b'⟩, hb', hsame⟩ := List.mem_map.1 hi'
    obtain rfl : i' = i := hsame
    obtain ⟨⟨client, hclient, hrequest, -⟩, hne⟩ := (hcall.mem_iff h t hall).1 hb
    obtain ⟨⟨caller, hidle⟩, hempty⟩ := mem_idle.1 hb'
    rw [hclient] at hidle
    obtain rfl := Option.some.inj hidle
    obtain rfl := Request.writeBatch.inj hrequest
    exact hne hempty
  case succeeded =>
    intro i b
    rw [List.mem_append, hcall.mem_iff h t hall]
    constructor
    · rintro (⟨hok, -⟩ | hidle)
      · exact hok
      · exact (idle_spec h hidle).1
    · intro hok
      by_cases hempty : b.metrics = []
      · obtain ⟨⟨request, caller⟩, hi, rfl, -⟩ := hok
        exact .inr (mem_idle.2 ⟨⟨caller, hi⟩, hempty⟩)
      · exact .inl ⟨hok, hempty⟩
  case merged =>
    have hidle : (idle s).filterMap (fun p => caller? s p.1) = [] :=
      List.filterMap_eq_nil_iff.2 fun p hp => (idle_spec h hp).2.1
    rw [List.filterMap_append, hcall.callers, hidle, List.append_nil]
    exact o.landed_sublist_merging.map Prod.fst
  case others =>
    intro i b hmem hnone
    rcases List.mem_append.1 hmem with hland | hidle
    · obtain ⟨x, hx, heq⟩ := List.mem_map.1 hland
      have hclient := hcall.client x hx
      rw [heq] at hclient
      unfold caller? at hnone
      rw [hclient] at hnone
      exact absurd hnone (by simp)
    · exact (mem_idle.1 hidle).2
  case tables =>
    have hidle : (idle s).flatMap (fun p => p.2.updates) = [] :=
      List.flatMap_eq_nil_iff.2 fun p hp => (idle_spec h hp).2.2
    have hupdated : Updated g₀ c₀
        (((landed log).map call ++ idle s).flatMap fun p => p.2.updates) g c := by
      rw [List.flatMap_append, hidle, List.append_nil, List.flatMap_map]
      exact happlied.updated hcall.folds
    refine ⟨g, c, hshows, hupdated, fun other after hother hok => ?_⟩
    obtain ⟨g', c', hafter, hserial⟩ := hother.writeBatches hok
    rw [List.flatMap_map] at hserial
    obtain ⟨rfl, rfl⟩ := hserial.unique hupdated
    exact hafter

/-- Three clients: the sink dies of the window of the first, and that of
the second is written when the third dumps. -/
def oneFails : List Event :=
  [.call (.writeBatch ⟨[.counter "c" 1, .gauge "g" (.ofParts true 0)]⟩),
    .call (.writeBatch ⟨[.counter "c" 2, .gauge "h" .zero]⟩), .call .dump,
    .advance 0, .advance 0, .advance 0, .advance 0,
    .tick, .proceed, .proceed, .fail .dies, .proceed, .proceed, .advance 0,
    .advance 1, .advance 1, .advance 1, .advance 1, .advance 2, .advance 2, .advance 2,
    .receive, .proceed, .proceed, .look, .commit, .proceed, .proceed, .advance 1, .advance 2]

/-- All three are answered, and the database has the second batch only. -/
theorem one_fails_matches_serial :
    SqlStore.inMemory.Shows ∅ ∅ ∧
      (∀ client ∈ (run step (start .inMemory) oneFails).clients,
        (answer? (run step (start .inMemory) oneFails) client).isSome = true) ∧
      (run step (start .inMemory) oneFails).sql.session.database.content =
        ([⟨.text "h", .real .zero⟩], [⟨.text "c", .integer 2⟩]) ∧
      ∃ order, MatchesSerial ∅ ∅ (run step (start .inMemory) oneFails)
        (chronicle protocol (start .inMemory) oneFails)
        order := by
  have hshows : SqlStore.inMemory.Shows ∅ ∅ :=
    SqlStore.create_shows rfl Sql.Database.holds_empty
  have hall : ∀ client ∈ (run step (start .inMemory) oneFails).clients,
      (answer? (run step (start .inMemory) oneFails) client).isSome = true := by decide +kernel
  have hcontent : (run step (start .inMemory) oneFails).sql.session.database.content =
      ([⟨.text "h", .real .zero⟩], [⟨.text "c", .integer 2⟩]) := by decide +kernel
  exact ⟨hshows, hall, hcontent, run_matches_serial hshows oneFails hall⟩

end Meterbank.Batching
