/-
  Meterbank.Proofs.Store.Answers — what the answers tell of the tables.

  However many clients write, and whenever one of them closes the store:
  the tables have taken in, whole and once, the submits that have landed,
  and nothing else.  A client that is answered well has landed.  One that
  is answered with an error has not, and will not.

  There is one exception.  A client that wrote a counter reads the total
  back once its window was written.  If the database has been closed in
  between, or cannot be read, it is answered with an error although its
  delta was added; and then who sends it again counts it twice.

  Main results:
    * `course_run` — the invariant of every run.
    * `answers_tell_landed` — what the answers tell, with the exception.
    * `added_but_denied` — the exception does happen.
-/
import Mathlib.Data.List.Induction
import Meterbank.Proofs.Store.Clients

namespace Meterbank.Clients

open Meterbank.Crowd (Applied Written chronicle seated_run written_run)
open Meterbank.Sql
open Meterbank.Window (Notice Told landed)

/-! ## The database in a run -/

/-- An error with which reading back can fail, if the connections to the
database do not all work. -/
def Unread (sql : SqlStore) (e : StoreError) : Prop :=
  (∀ g c, ¬ sql.Keeps g c) ∧ ∃ events key,
    ((run step (start sql) events).sql.unchecked (·.readCounters [key])).1 = .error e

/-- What holds of every run and its chronicle. -/
structure Course (sql : SqlStore) (s : State) (log : List Notice) : Prop where
  sound : Sound (Unread sql) s log
  written : Written sql ((landed log).map Prod.snd) s.sql

/-! ## All runs -/

theorem Sound.start (unread : StoreError → Prop) (sql : SqlStore) :
    Sound unread (start sql) [] where
  told := Window.told_run []
  seated := seated_run lawful sql []
  fits client hc := absurd hc (by simp [Crowd.start])

/-- What a client may be told when it reads back. -/
theorem Course.read_error {sql : SqlStore} {events : List Event} {log : List Notice}
    (h : Course sql (run step (start sql) events) log) {client : Client}
    (hc : client ∈ (run step (start sql) events).clients) {key : String}
    (hs : client.stage = .reading key) {e : StoreError}
    (he : ((run step (start sql) events).sql.unchecked (·.readCounters [key])).1 = .error e) :
    Unread sql e := by
  refine ⟨fun g c hkeeps => ?_, events, key, he⟩
  -- The delta of the client has landed, so its counter is there.
  have hfit := h.sound.fits client hc
  cases hfit with
  | @flushed request id delta stage ht hid hr hafter =>
    rw [show stage = .reading key from hs] at hafter
    cases hafter with
    | reading hk =>
      obtain ⟨c, hcaller, htask⟩ := Window.getElem?_tasks.1 hid
      have hland := h.sound.told.landed_of_ok hcaller htask (Request.submit_spec ht).2.1 hr
      obtain ⟨found, hfound⟩ := h.written.read_succeeds hkeeps
        (List.mem_map.2 ⟨(id, delta), hland, rfl⟩) (Request.counter?_spec hk ht)
      rw [hfound] at he
      exact absurd he (by simp)
  | closing _ hend =>
    rcases hend with rfl | ⟨answer, rfl⟩ <;> exact absurd hs (by simp)
  | _ => exact absurd hs (by simp)

/-- **The invariant of every run.** -/
theorem course_run (sql : SqlStore) (events : List Event) :
    Course sql (run step (start sql) events) (chronicle protocol (start sql) events) := by
  -- From the end, as what is noticed last depends on all that came before.
  induction events using List.reverseRecOn with
  | nil => exact ⟨.start _ sql, .start⟩
  | append_singleton events e ih =>
    refine ⟨?_, written_run lawful sql (events ++ [e])⟩
    rw [Crowd.chronicle_snoc, run_snoc]
    exact ih.sound.step e fun client hc key err hs he => ih.read_error hc hs he

/-! ## Answers -/

/-- Whether what a client submitted has landed. -/
def Landed (client : Client) (log : List Notice) : Prop :=
  ∃ id delta, client.caller = some id ∧ (id, delta) ∈ landed log

/-- Whether a client was denied what it was given: its window was written,
but it had a counter to read back, and found the database closed, or could
not read. -/
def Denied (client : Client) (sql : SqlStore) (s : State) (log : List Notice)
    (e : StoreError) : Prop :=
  ∃ id key, client.caller = some id ∧ .returned id (.ok ()) ∈ log ∧
    client.request.counter? = some key ∧ (e = .closed ∧ s.sql.isClosed = true ∨ Unread sql e)

/-- What the answers of a run tell of the tables. -/
structure TellsLanded (sql : SqlStore) (s : State) (log : List Notice) : Prop where
  /-- The tables have taken in what has landed, and nothing else. -/
  tables : ∀ g₀ c₀, sql.Shows g₀ c₀ →
    ∃ g c, s.sql.Shows g c ∧ Applied g₀ c₀ ((landed log).map Prod.snd) g c
  /-- Nothing lands twice. -/
  once : ((landed log).map Prod.fst).Nodup
  /-- Clients do not share a caller. -/
  apart : (s.clients.filterMap Crowd.Client.caller).Nodup
  /-- What has landed is what a client asked for. -/
  asked : ∀ id delta, (id, delta) ∈ landed log →
    ∃ client ∈ s.clients, client.caller = some id ∧
      client.request.task? = .ok (some (.submit delta))
  /-- A client that is answered well has landed. -/
  ok : ∀ client ∈ s.clients, ∀ payload delta, client.stage = .answered (.ok payload) →
    client.request.task? = .ok (some (.submit delta)) →
    ∃ id, client.caller = some id ∧ (id, delta) ∈ landed log
  /-- A client that is answered with an error has not landed and never
  will, unless it was denied what it was given. -/
  error : ∀ client ∈ s.clients, client.request ≠ .close → ∀ e,
    client.stage = .answered (.error e) →
    (Denied client sql s log e → Landed client log) ∧
      (¬ Denied client sql s log e → ∀ more, ¬ Landed client (log ++ chronicle protocol s more))

namespace Course

variable {sql : SqlStore} {s : State} {log : List Notice}

/-- A client whose caller has returned well has landed. -/
theorem landed_of_returned (h : Course sql s log) {client : Client} (hc : client ∈ s.clients)
    (hr : client.request ≠ .close) {id : Nat} (hcaller : client.caller = some id)
    (hok : .returned id (.ok ()) ∈ log) :
    ∃ delta, client.request.task? = .ok (some (.submit delta)) ∧ (id, delta) ∈ landed log := by
  obtain ⟨delta, ht, hid⟩ := h.sound.submit_of_caller hc hcaller hr
  obtain ⟨c, hfound, htask⟩ := Window.getElem?_tasks.1 hid
  exact ⟨delta, ht,
    h.sound.told.landed_of_ok hfound htask (Request.submit_spec ht).2.1 hok⟩

/-- A caller that was refused does not land, then or later. -/
theorem not_landed_of_returned (h : Course sql s log) {id : Nat} {e : StoreError}
    (hr : .returned id (.error e) ∈ log) (delta : Delta) : (id, delta) ∉ landed log := by
  intro hland
  obtain ⟨client, -, -, ht⟩ := h.sound.seated.client_of_landed h.sound.told hland
  exact h.sound.told.not_landed_of_error (Request.submit_spec ht).2.1 hr hland

/-- A client that is answered well has landed, unless it had nothing to
submit. -/
theorem landed_of_ok (h : Course sql s log) {client : Client} (hc : client ∈ s.clients)
    {payload : Store.Payload} {delta : Delta} (hs : client.stage = .answered (.ok payload))
    (ht : client.request.task? = .ok (some (.submit delta))) :
    ∃ id, client.caller = some id ∧ (id, delta) ∈ landed log := by
  have hfit := h.sound.fits client hc
  cases hfit with
  | @flushed request id delta' stage ht' _ hr _ =>
    -- Its window was written, with or without a total to read back.
    obtain ⟨d, htask, hland⟩ := h.landed_of_returned hc (Request.submit_spec ht).1 rfl hr
    rw [show request.task? = _ from ht] at htask
    have hd : delta = d := Window.Task.submit.inj (Option.some.inj (Except.ok.inj htask))
    rw [← hd] at hland
    exact ⟨id, rfl, hland⟩
  | skipped htask =>
    rw [show Request.task? _ = _ from ht] at htask
    exact absurd (Except.ok.inj htask) (by simp)
  | closing _ _ => exact absurd rfl (Request.submit_spec ht).1
  | _ => exact absurd hs (by simp)

/-- Why a client is answered with an error: it never got to the window, it
was refused there, or it was denied what it was given. -/
theorem error_cases (h : Course sql s log) {client : Client} (hc : client ∈ s.clients)
    (hr : client.request ≠ .close) {e : StoreError} (hs : client.stage = .answered (.error e)) :
    client.caller = none ∨ (∃ id, client.caller = some id ∧ .returned id (.error e) ∈ log) ∨
      Denied client sql s log e := by
  have hfit := h.sound.fits client hc
  cases hfit with
  | refused _ => exact .inl rfl
  | skipped _ => exact .inl rfl
  | queued _ _ => exact absurd hs (by simp)
  | @failed request id delta e' ht hid hret =>
    have he : e' = e := by simpa using hs
    rw [he] at hret
    exact .inr (.inl ⟨id, rfl, hret⟩)
  | @flushed request id delta stage ht hid hret hafter =>
    rw [show stage = .answered (.error e) from hs] at hafter
    cases hafter with
    | shut hk hclosed => exact .inr (.inr ⟨id, _, rfl, hret, hk, .inl ⟨rfl, hclosed⟩⟩)
    | unread hk he => exact .inr (.inr ⟨id, _, rfl, hret, hk, .inr he⟩)
  | closing _ _ => exact absurd rfl hr

end Course

/-- **What the answers tell of the tables**, in every run of any number of
clients on any database. -/
theorem answers_tell_landed (sql : SqlStore) (events : List Event) :
    TellsLanded sql (run step (start sql) events) (chronicle protocol (start sql) events) where
  tables g₀ c₀ hs := (course_run sql events).written.shows hs
  once := (course_run sql events).sound.told.nodup_landed
  apart := by
    rw [(course_run sql events).sound.seated.callers]
    exact List.nodup_range
  asked id delta hland := by
    have h := course_run sql events
    exact h.sound.seated.client_of_landed h.sound.told hland
  ok client hc payload delta hs ht := (course_run sql events).landed_of_ok hc hs ht
  error client hc hr e hs := by
    have h := course_run sql events
    refine ⟨?_, fun hdenied more => ?_⟩
    · rintro ⟨id, key, hcaller, hret, -, -⟩
      obtain ⟨delta, -, hland⟩ := h.landed_of_returned hc hr hcaller hret
      exact ⟨id, delta, hcaller, hland⟩
    · rintro ⟨id, delta, hcaller, hland⟩
      -- What was noticed stays noticed, so the longer run decides as this one.
      have hlater := course_run sql (events ++ more)
      rw [Crowd.chronicle_append] at hlater
      rcases h.error_cases hc hr hs with hnone | ⟨id', hcaller', hret⟩ | hyes
      · rw [hnone] at hcaller
        exact absurd hcaller (by simp)
      · rw [hcaller] at hcaller'
        rw [← Option.some.inj hcaller'] at hret
        exact hlater.not_landed_of_returned (List.mem_append_left _ hret) delta hland
      · exact hdenied hyes

/-! ## The exception -/

/-- Two clients: one writes a counter, the other closes the store after
the flusher has written the window, and before the first reads back. -/
def overtaken : List Event :=
  [.call (.writeData (.counter "c" 1)), .advance 0, .advance 0, .advance 0, .advance 0,
    .call .close, .advance 1, .advance 1, .receive, .proceed, .proceed, .look, .commit, .proceed,
    .proceed, .advance 0, .advance 1, .advance 1, .advance 1, .advance 0, .advance 0]

/-- **A counter can have grown although its client was told that it has
not**: the window was written, and the store was closed before the total
was read back. -/
theorem added_but_denied :
    (run step (start .inMemory) overtaken).clients.head?.map Crowd.Client.stage =
        some (.answered (.error .closed)) ∧
      (run step (start .inMemory) overtaken).sql.session.database.content =
        ([], [⟨.text "c", .integer 1⟩]) := by
  exact ⟨rfl, rfl⟩

end Meterbank.Clients
