/-
  Meterbank.Proofs.Store.Closing — the store is closed after its last window.

  A client that closes the store stops the flusher, waits until it has
  written its last window, and then closes the database.  So no window is
  refused because the database is closed.  That holds as long as those who
  close wait for the flusher.  One of them has the right to wait; another
  that comes meanwhile is let go at once, and closes the database while the
  last window has yet to be written.

  Main results:
    * `writeDelta_ne_closed` — a database that is open does not answer that
      it is closed.
    * `closes_last_or_overtakes` — every run closes the database last, or
      one client that closes has overtaken another; and whoever overtakes
      closes too early.
    * `closed_too_early` — a run in which a client loses its delta so.
-/
import Mathlib.Data.List.Induction
import Meterbank.Proofs.Sql.Failing
import Meterbank.Proofs.Store.Answers
import Meterbank.Proofs.Store.Statements
import Meterbank.Proofs.Window.Stopping

namespace Meterbank

open Meterbank.Sql

/-! ## Databases that are open -/

namespace SqlStore

/-- An open store does not answer that it is closed, whatever it writes. -/
theorem openRule {s : SqlStore} (hopen : s.isClosed = false) :
    Rule (fun p => p.1 ≠ .error .closed) s where
  refused hinvalid heq := by
    obtain ⟨cause, rfl⟩ := hinvalid
    exact absurd heq (by simp)
  nothing := by simp
  upsert key _ hx := Session.onWriter_ne_closed (writing_gives _ (Statement.upsert_gives key hx)) hopen
  accumulate key delta :=
    Session.onWriter_ne_closed (writing_gives _ (Statement.accumulate_gives key delta)) hopen
  delta hd := Session.onWriter_ne_closed (writing_gives _ (Statement.deltaStatement_gives hd)) hopen
  mapped {_ _ p} f h := by
    intro heq
    cases ha : p.1 with
    | ok a =>
      rw [ha] at heq
      exact absurd heq (by simp [Except.map])
    | error e =>
      rw [ha] at heq
      exact h (ha.trans (congrArg Except.error (Except.error.inj heq)))

/-- **A database that is open does not answer that it is closed.** -/
theorem writeDelta_ne_closed (d : Delta) {s : SqlStore} (hopen : s.isClosed = false) :
    (s.writeDelta d).1 ≠ .error .closed :=
  (openRule hopen).writeDelta d

theorem unchecked_writeDelta_ne_closed (d : Delta) (s : SqlStore) :
    (s.unchecked (·.writeDelta d)).1 ≠ .error .closed :=
  writeDelta_ne_closed (s := s.withClosed false) d rfl

/-- Who is refused at an open database is not told that it is closed. -/
theorem refusal?_ne_closed (d : Delta) {s : SqlStore} (hopen : s.isClosed = false) :
    s.refusal? d ≠ some .closed := by
  unfold refusal?
  split
  · next e hcheck =>
    obtain ⟨row, -, -, rfl⟩ := checkGauges_error hcheck
    simp
  · simp [hopen]

end SqlStore

namespace Clients

open Meterbank.Window (Notice Task Stats Stopping Patient Unrefused)

variable {unread : StoreError → Prop} {s : State} {log : List Notice}

/-! ## Clients that close -/

theorem stats?_eq_some_iff {w : Window.State} {id : Nat} {told : Stats} :
    w.stats? id = some told ↔ ∃ c, w.callers[id]? = some c ∧ c.point = .stopped told := by
  unfold Window.State.stats?
  split
  · next task told' hc =>
    simp [hc]
  · next hno =>
    constructor
    · intro h
      exact absurd h (by simp)
    · rintro ⟨⟨task, point⟩, hc, rfl⟩
      exact absurd hc (hno task told)

/-- Who has been let go at the window stays so. -/
theorem stats?_step {w : Window.State} {id : Nat} {told : Stats} (h : w.stats? id = some told)
    (e : Window.Event) : (Window.step w e).stats? id = some told := by
  obtain ⟨c, hc, hp⟩ := stats?_eq_some_iff.1 h
  obtain ⟨mid, h₁, h₂⟩ := Window.step_sections w e
  have hmid := (Window.section_halting h₁).stopped hc hp
  exact stats?_eq_some_iff.2 ⟨c, (Window.section_halting h₂).stopped hmid hp, hp⟩

theorem stats?_on {id : Nat} {told : Stats} (h : s.window.stats? id = some told) (f : Effect) :
    (f.on s).window.stats? id = some told := by
  unfold Crowd.Effect.on
  cases f.window with
  | none => exact h
  | some e => exact stats?_step h e

/-- Who closes goes on once it has been let go at the window, and nobody else closes the
database. -/
structure Doors (s : State) : Prop where
  past : ∀ client ∈ s.clients, client.request = .close → client.stage ≠ .queued →
    ∃ id told, client.caller = some id ∧ s.window.stats? id = some told
  shut : s.sql.isClosed = true →
    ∃ client ∈ s.clients, client.request = .close ∧ client.stage ≠ .queued

namespace Doors

/-- Nobody has come to close yet. -/
theorem start {sql : SqlStore} (hopen : sql.isClosed = false) : Doors (start sql) where
  past client hclient := absurd hclient (by simp [Crowd.start])
  shut h := absurd (h.symm.trans hopen) (by simp)

/-- No client moves. -/
theorem same (h : Doors s) {f : Effect} (hclients : f.clients = s.clients)
    (hclosed : f.sql.isClosed = s.sql.isClosed) : Doors (f.on s) where
  past client hclient hr hs := by
    rw [show (f.on s).clients = s.clients from hclients] at hclient
    obtain ⟨id, told, hcaller, hstats⟩ := h.past client hclient hr hs
    exact ⟨id, told, hcaller, stats?_on hstats f⟩
  shut hshut := by
    rw [show (f.on s).sql.isClosed = s.sql.isClosed from hclosed] at hshut
    rw [show (f.on s).clients = s.clients from hclients]
    exact h.shut hshut

/-- A client comes; one that closes has to wait. -/
theorem come (h : Doors s) {f : Effect} {client : Client}
    (hclients : f.clients = s.clients ++ [client]) (hsql : f.sql = s.sql)
    (hnew : client.request = .close → client.stage = .queued) : Doors (f.on s) where
  past x hx hr hs := by
    rw [show (f.on s).clients = s.clients ++ [client] from hclients, List.mem_append,
      List.mem_singleton] at hx
    rcases hx with hx | rfl
    · obtain ⟨id, told, hcaller, hstats⟩ := h.past x hx hr hs
      exact ⟨id, told, hcaller, stats?_on hstats f⟩
    · exact absurd (hnew hr) hs
  shut hshut := by
    rw [show (f.on s).sql = s.sql from hsql] at hshut
    obtain ⟨x, hx, hclose⟩ := h.shut hshut
    refine ⟨x, ?_, hclose⟩
    rw [show (f.on s).clients = s.clients ++ [client] from hclients]
    exact List.mem_append_left _ hx

/-- A client goes on; one that closes has been let go. -/
theorem move (h : Doors s) {f : Effect} {i : Nat} {client : Client} {stage : Stage}
    (hc : s.clients[i]? = some client) (hclients : f.clients = s.clients.set i { client with stage })
    (hstage : stage ≠ .queued)
    (hpast : client.request = .close →
      ∃ id told, client.caller = some id ∧ s.window.stats? id = some told)
    (hclosed : f.sql.isClosed = true → s.sql.isClosed = true ∨ client.request = .close) :
    Doors (f.on s) where
  past x hx hr hs := by
    rw [show (f.on s).clients = s.clients.set i { client with stage } from hclients] at hx
    have hold : ∃ id told, x.caller = some id ∧ s.window.stats? id = some told := by
      rcases List.mem_or_eq_of_mem_set hx with hx | rfl
      · exact h.past x hx hr hs
      · exact hpast hr
    obtain ⟨id, told, hcaller, hstats⟩ := hold
    exact ⟨id, told, hcaller, stats?_on hstats f⟩
  shut hshut := by
    have hlength := (List.getElem?_eq_some_iff.1 hc).1
    have hself : { client with stage } ∈ (f.on s).clients := by
      rw [show (f.on s).clients = s.clients.set i { client with stage } from hclients]
      exact List.mem_set hlength _
    rcases hclosed hshut with hold | hclose
    · obtain ⟨x, hx, hr, hs⟩ := h.shut hold
      obtain ⟨j, hj⟩ := List.mem_iff_getElem?.1 hx
      by_cases hij : i = j
      · subst hij
        rw [hc] at hj
        obtain rfl := Option.some.inj hj
        exact ⟨_, hself, hr, hstage⟩
      · refine ⟨x, ?_, hr, hs⟩
        rw [show (f.on s).clients = s.clients.set i { client with stage } from hclients]
        exact List.mem_of_getElem? (by rw [List.getElem?_set_ne hij, hj])
    · exact ⟨_, hself, hclose, hstage⟩

/-- **Every turn leaves the doors so.** -/
theorem turn_keeps (h : Doors s) (sound : Sound unread s log) {f : Effect} (turn : Turn s f) :
    Doors (f.on s) := by
  -- A client that is past its window has been let go, if it closes.
  have hpast : ∀ {i : Nat} {client : Client}, s.clients[i]? = some client →
      client.stage ≠ .queued → client.request = .close →
        ∃ id told, client.caller = some id ∧ s.window.stats? id = some told :=
    fun hc hs hr => h.past _ (List.mem_of_getElem? hc) hr hs
  have hclose : Request.close.task? = .ok (some .shutdown) := rfl
  cases turn with
  | still | window | turnAway | pass => exact h.same rfl rfl
  | refuse ht | skip ht =>
    refine h.come rfl rfl ?_
    rintro rfl
    exact absurd (ht.symm.trans hclose) (by simp)
  | join => exact h.come rfl rfl fun _ => rfl
  | fail hc hr =>
    exact h.move hc rfl (by simp) (fun hclose => absurd hclose hr) .inl
  | @flush i id request hc hr =>
    refine h.move hc rfl ?_ (fun hclose => absurd hclose hr) .inl
    unfold Request.flushed
    split <;> simp
  | stop hc ha => exact h.move hc rfl (by simp) (fun _ => ⟨_, _, rfl, ha⟩) .inl
  | findClosed hc hs => exact h.move hc rfl (by simp) (hpast hc (by simp [hs])) .inl
  | findOpen hc hs => exact h.move hc rfl (by simp) (hpast hc (by simp [hs])) .inl
  | @read i client key answer sql hc hs hr =>
    have hkept : sql.isClosed = s.sql.isClosed := by
      have hsql : (s.sql.unchecked (·.readCounters [key])).2 = sql := by rw [hr]
      rw [← hsql]
      rfl
    refine h.move hc rfl (by simp) (hpast hc (by simp [hs])) fun hshut => .inl ?_
    rw [← hkept]
    exact hshut
  | @close i client answer sql hc hs hr =>
    refine h.move hc rfl (by simp) (hpast hc (by simp [hs])) fun _ => .inr ?_
    have hfit := sound.fits client (List.mem_of_getElem? hc)
    cases hfit with
    | closing => rfl
    | @flushed request id delta stage _ _ _ hafter =>
      rw [show stage = .closing from hs] at hafter
      cases hafter
    | _ => exact absurd hs (by simp)
  | @commit last cycle delta outcome sql hf hr =>
    refine h.same rfl ?_
    have hsql : (s.sql.unchecked (·.writeDelta delta)).2 = sql := by rw [hr]
    show sql.isClosed = s.sql.isClosed
    rw [← hsql]
    rfl

end Doors

/-! ## Closing last -/

/-- Whether the store is closed after its last window. -/
structure ClosesLast (s : State) : Prop where
  /-- The database is not closed before the flusher has exited. -/
  database : s.sql.isClosed = true → s.window.hasExited = true
  /-- Nobody who closes goes on before, let alone returns. -/
  closers : ∀ client ∈ s.clients, client.request = .close → client.stage ≠ .queued →
    s.window.hasExited = true
  /-- The database is open whenever it is given a window. -/
  windows : ∀ last cycle delta, s.window.flusher = .calling last cycle delta →
    s.sql.isClosed = false
  /-- So no window has failed because it was closed. -/
  outcomes : ∀ cycle, (cycle, .error .closed) ∉ s.window.outcomes

/-- Whether one client that closes has been let go, while another one waits for the flusher. -/
def Overtaking (s : State) : Prop :=
  s.window.hasExited = false ∧
    (∃ client ∈ s.clients, client.request = .close ∧ client.stage = .queued ∧
      ∃ id c, client.caller = some id ∧ s.window.callers[id]? = some c ∧ c.point = .stopJoining) ∧
    ∃ client ∈ s.clients, client.request = .close ∧ client.stage = .queued ∧
      ∃ id, client.caller = some id ∧ s.window.stats? id = some .zero

/-- What a run keeps as long as nobody overtakes. -/
structure Orderly (s : State) : Prop where
  stopping : Stopping s.window
  patient : Patient s.window
  doors : Doors s
  unrefused : Unrefused s.window

namespace Orderly

theorem exited_of_past (h : Orderly s) {client : Client} (hc : client ∈ s.clients)
    (hr : client.request = .close) (hs : client.stage ≠ .queued) : s.window.hasExited = true := by
  obtain ⟨id, told, -, hstats⟩ := h.doors.past client hc hr hs
  obtain ⟨c, hfound, hp⟩ := stats?_eq_some_iff.1 hstats
  exact h.patient c (List.mem_of_getElem? hfound) told hp

theorem exited_of_closed (h : Orderly s) (hclosed : s.sql.isClosed = true) :
    s.window.hasExited = true := by
  obtain ⟨client, hc, hr, hs⟩ := h.doors.shut hclosed
  exact h.exited_of_past hc hr hs

theorem open_of_calling (h : Orderly s) {last : Bool} {cycle : Nat} {delta : Delta}
    (hf : s.window.flusher = .calling last cycle delta) : s.sql.isClosed = false := by
  rw [← Bool.not_eq_true]
  intro hclosed
  have hexited := h.exited_of_closed hclosed
  rw [Window.State.hasExited_iff, hf] at hexited
  exact absurd hexited (by simp)

/-- An orderly run closes the store last. -/
theorem closesLast (h : Orderly s) : ClosesLast s where
  database := h.exited_of_closed
  closers _ hc hr hs := h.exited_of_past hc hr hs
  windows _ _ _ hf := h.open_of_calling hf
  outcomes := h.unrefused.1

theorem start {sql : SqlStore} (hopen : sql.isClosed = false) : Orderly (start sql) where
  stopping := .init
  patient c hc := absurd hc (by simp [Crowd.start, Window.State.init])
  doors := .start hopen
  unrefused := ⟨fun cycle => by simp [Crowd.start, Window.State.init],
    fun last cycle => by simp [Crowd.start, Window.State.init]⟩

/-- What happens at the window keeps a run orderly, unless somebody is let go past another one. -/
theorem window_step (h : Orderly s) {f : Effect} (hdoors : Doors (f.on s))
    (hw : f.window ≠ some (.reply (.done (.error .closed)))) :
    Orderly (f.on s) ∨ Window.Overtaken (f.on s).window := by
  cases hwindow : f.window with
  | none =>
    have hsame : (f.on s).window = s.window := by simp [Crowd.Effect.on, hwindow]
    exact .inl ⟨hsame ▸ h.stopping, hsame ▸ h.patient, hdoors, hsame ▸ h.unrefused⟩
  | some e =>
    have hstep : (f.on s).window = Window.step s.window e := by simp [Crowd.Effect.on, hwindow]
    have hunrefused := h.unrefused.step (e := e) (by
      rintro rfl
      exact hw hwindow)
    rw [hstep]
    refine (Window.step_patient h.stopping h.patient e).imp_left fun hpatient => ?_
    exact ⟨hstep ▸ h.stopping.step e, hstep ▸ hpatient, hdoors, hstep ▸ hunrefused⟩

/-- **A turn keeps a run orderly**, unless one client that closes overtakes another. -/
theorem turn_keeps (h : Orderly s) (sound : Sound unread s log) {f : Effect} (turn : Turn s f) :
    Orderly (f.on s) ∨ Window.Overtaken (f.on s).window := by
  refine h.window_step (h.doors.turn_keeps sound turn) ?_
  cases turn with
  | window _ hr => exact fun heq => hr _ (Option.some.inj heq)
  | @turnAway last cycle delta e hf hr =>
    -- The flusher is at a window, so the database is open.
    intro heq
    have he : e = .closed := by simpa [Crowd.State.atWindow] using heq
    rw [he] at hr
    exact SqlStore.refusal?_ne_closed delta (h.open_of_calling hf) hr
  | @commit last cycle delta outcome sql hf hr =>
    intro heq
    have houtcome : outcome = .error .closed := by simpa [Crowd.State.atWindow] using heq
    have hanswer := SqlStore.unchecked_writeDelta_ne_closed delta s.sql
    rw [hr] at hanswer
    exact hanswer houtcome
  | _ => simp [Crowd.State.still, Crowd.State.moveTo, Crowd.State.atWindow]

end Orderly

/-- A caller that stops the flusher belongs to a client that closes. -/
theorem Sound.closer (sound : Sound unread s log) (hstopping : Stopping s.window) {id : Nat}
    {c : Window.Caller} (hc : s.window.callers[id]? = some c) (hp : c.point.isStop = true) :
    ∃ client ∈ s.clients, client.request = .close ∧ client.caller = some id := by
  obtain ⟨client, hclient, hcaller, htask⟩ :=
    sound.seated.client_of_task (Window.getElem?_tasks.2 ⟨c, hc, rfl⟩)
  refine ⟨client, hclient, ?_, hcaller⟩
  rcases Request.task?_cases htask with ⟨hclose, -⟩ | ⟨us, delta, -, -, -, -, hsubmit⟩
  · exact hclose
  · rcases hstopping.tasks c (List.mem_of_getElem? hc) hp with hstop | hstop <;>
      exact absurd (hsubmit.symm.trans hstop) (by simp)

/-- While something happens at the window, nobody who closes goes on. -/
theorem Turn.closers {f : Effect} (turn : Turn s f) (hw : f.window ≠ none) :
    ∀ client ∈ f.clients, client.request = .close → client.stage ≠ .queued →
      client ∈ s.clients := by
  cases turn with
  | join =>
    intro client hclient _ hs
    rcases List.mem_append.1 hclient with hold | hnew
    · exact hold
    · exact absurd (congrArg Crowd.Client.stage (List.mem_singleton.1 hnew)) hs
  | window | turnAway | commit => exact fun client hclient _ _ => hclient
  | _ => exact absurd rfl hw

/-- Whoever is let go past one who waits belongs to a client that overtakes. -/
theorem Orderly.overtaking (h : Orderly s) (sound : Sound unread s log) {f : Effect}
    (turn : Turn s f) (sound' : Sound unread (f.on s) (log ++ f.notices s))
    (hovertaken : Window.Overtaken (f.on s).window) : Overtaking (f.on s) := by
  have hdoors := h.doors.turn_keeps sound turn
  obtain ⟨hexited, ⟨a, ca, hca, hpa⟩, b, cb, hcb, hpb⟩ := hovertaken
  -- Nobody had been let go before, as the flusher has not exited yet.
  have hbefore : s.window.hasExited = false := by
    rw [← Bool.not_eq_true]
    intro hx
    have hstill : (f.on s).window.hasExited = true := by
      unfold Crowd.Effect.on
      cases f.window with
      | none => exact hx
      | some e => exact Window.step_exited s.window e hx
    rw [hexited] at hstill
    exact absurd hstill (by simp)
  have hwindow : f.window ≠ none := by
    intro hnone
    have hsame : (f.on s).window = s.window := by simp [Crowd.Effect.on, hnone]
    rw [hsame] at hcb
    have hx := h.patient cb (List.mem_of_getElem? hcb) _ hpb
    rw [hbefore] at hx
    exact absurd hx (by simp)
  have hstopping : Stopping (f.on s).window := by
    unfold Crowd.Effect.on
    cases f.window with
    | none => exact h.stopping
    | some e => exact h.stopping.step e
  obtain ⟨waiting, hwaiting, hrw, hcw⟩ := sound'.closer hstopping hca (by simp [hpa, Window.Point.isStop])
  obtain ⟨gone, hgone, hrg, hcg⟩ := sound'.closer hstopping hcb (by simp [hpb, Window.Point.isStop])
  refine ⟨hexited, ⟨waiting, hwaiting, hrw, ?_, a, ca, hcw, hca, hpa⟩,
    ⟨gone, hgone, hrg, ?_, b, hcg, stats?_eq_some_iff.2 ⟨cb, hcb, hpb⟩⟩⟩
  · by_contra hs
    obtain ⟨id, told, hcaller, hstats⟩ := hdoors.past waiting hwaiting hrw hs
    rw [hcw] at hcaller
    obtain rfl := Option.some.inj hcaller
    obtain ⟨c, hc, hp⟩ := stats?_eq_some_iff.1 hstats
    rw [hca] at hc
    rw [← Option.some.inj hc, hpa] at hp
    exact absurd hp (by simp)
  · by_contra hs
    have hx := h.exited_of_past (turn.closers hwindow gone hgone hrg hs) hrg hs
    rw [hbefore] at hx
    exact absurd hx (by simp)

/-- Every run is orderly, or has come to a point where one client overtakes another. -/
theorem orderly_or_overtaking {sql : SqlStore} (hopen : sql.isClosed = false)
    (events : List Event) :
    Orderly (run step (start sql) events) ∨
      ∃ before after, events = before ++ after ∧ Overtaking (run step (start sql) before) := by
  induction events using List.reverseRecOn with
  | nil => exact .inl (.start hopen)
  | append_singleton events e ih =>
    rcases ih with horderly | ⟨before, after, rfl, hover⟩
    · have turn := effect_turn (run step (start sql) events) e
      have sound := (course_run sql events).sound
      have sound' := (course_run sql (events ++ [e])).sound
      rw [run_snoc, Crowd.chronicle_snoc] at sound'
      rw [run_snoc]
      refine (horderly.turn_keeps sound turn).imp_right fun hover => ?_
      refine ⟨events ++ [e], [], by simp, ?_⟩
      rw [run_snoc]
      exact horderly.overtaking sound turn sound' hover
    · exact .inr ⟨before, after ++ [e], by simp, hover⟩

/-- Whoever overtakes goes on to close the database, and the flusher has not exited. -/
theorem Overtaking.closes (h : Overtaking s) :
    ∃ i, (run step s [.advance i, .advance i]).sql.isClosed = true ∧
      (run step s [.advance i, .advance i]).window.hasExited = false := by
  obtain ⟨hexited, -, ⟨request, caller, stage⟩, hmem, rfl, rfl, id, rfl, hstats⟩ := h
  obtain ⟨i, hi⟩ := List.mem_iff_getElem?.1 hmem
  have hfirst : step s (.advance i) =
      { s with clients := s.clients.set i ⟨.close, some id, .closing⟩ } := by
    simp only [Crowd.step, Crowd.State.effect, hi, protocol, advance, hstats, Crowd.State.moveTo,
      Crowd.State.still, Crowd.Effect.on]
    rfl
  have hnext : (s.clients.set i ⟨.close, some id, .closing⟩)[i]? =
      some ⟨.close, some id, .closing⟩ :=
    List.getElem?_set_self (List.getElem?_eq_some_iff.1 hi).1
  have hrun : run step s [.advance i, .advance i] = step (step s (.advance i)) (.advance i) := rfl
  refine ⟨i, ?_, ?_⟩ <;> rw [hrun, hfirst] <;>
    simp only [Crowd.step, Crowd.State.effect, hnext, protocol, advance, Crowd.State.moveTo,
      Crowd.State.still, Crowd.Effect.on]
  · exact s.sql.close_isClosed
  · exact hexited

/-- **The store is closed after its last window, unless one client that closes overtakes
another one.**  Every run of any number of clients that write and close, on a database that
nobody else closes, either closes last, or two of them were closing it at the same time, and one
was let go while the other waited for the last window.  Whoever is let go so closes the database
with its next two sections, before the flusher has exited. -/
theorem closes_last_or_overtakes {sql : SqlStore} (hopen : sql.isClosed = false)
    (events : List Event) :
    (ClosesLast (run step (start sql) events) ∨
      ∃ before after, events = before ++ after ∧ Overtaking (run step (start sql) before)) ∧
    (Overtaking (run step (start sql) events) →
      ∃ i, ¬ ClosesLast (run step (start sql) (events ++ [.advance i, .advance i]))) := by
  refine ⟨(orderly_or_overtaking hopen events).imp_left Orderly.closesLast, fun hover => ?_⟩
  obtain ⟨i, hclosed, hexited⟩ := hover.closes
  refine ⟨i, fun hlast => ?_⟩
  rw [run_append] at hlast
  have hx := hlast.database hclosed
  rw [hexited] at hx
  exact absurd hx (by simp)

/-- Whether a client waits at the window. -/
def Stage.isQueued : Stage → Bool
  | .queued => true
  | _ => false

/-- The clients that have come to close the store and still wait to be let go. -/
def closers (s : State) : List Client :=
  s.clients.filter fun client => client.request == .close && client.stage.isQueued

/-- **The store is closed last if its clients close it one at a time.** -/
theorem closes_last_one_by_one {sql : SqlStore} (hopen : sql.isClosed = false)
    {events : List Event}
    (halone : ∀ before after, events = before ++ after →
      (closers (run step (start sql) before)).length ≤ 1) :
    ClosesLast (run step (start sql) events) := by
  refine ((orderly_or_overtaking hopen events).resolve_right ?_).closesLast
  rintro ⟨before, after, heq, -, ⟨waiting, hw, hrw, hsw, a, ca, hca, hfound, hp⟩,
    gone, hg, hrg, hsg, b, hcb, hstats⟩
  have hmem : ∀ client ∈ (run step (start sql) before).clients, client.request = .close →
      client.stage = .queued → client ∈ closers (run step (start sql) before) := by
    intro client hclient hr hs
    exact List.mem_filter.2 ⟨hclient, by simp [hr, hs, Stage.isQueued]⟩
  have hsame : waiting = gone := by
    have hlength := halone before after heq
    have hwaiting := hmem _ hw hrw hsw
    have hgone := hmem _ hg hrg hsg
    match hclosers : closers (run step (start sql) before) with
    | [] => simp [hclosers] at hwaiting
    | [x] =>
      rw [hclosers, List.mem_singleton] at hwaiting hgone
      rw [hwaiting, hgone]
    | x :: y :: rest =>
      rw [hclosers, List.length_cons, List.length_cons] at hlength
      omega
  -- One waits and the other has been let go, so they are two.
  rw [hsame, hcb] at hca
  obtain rfl := Option.some.inj hca
  obtain ⟨c, hc, hp'⟩ := stats?_eq_some_iff.1 hstats
  rw [hfound] at hc
  rw [← Option.some.inj hc, hp] at hp'
  exact absurd hp' (by simp)

/-- Two clients close the store, while a third waits for its window. -/
def twoClosers : List Event :=
  [.call (.writeData (.counter "c" 1)), .advance 0, .advance 0, .advance 0, .advance 0,
    .call .close, .call .close, .advance 1, .advance 1, .advance 2, .advance 2]

theorem twoClosers_overtake :
    SqlStore.inMemory.isClosed = false ∧ Overtaking (run step (start .inMemory) twoClosers) ∧
      ∃ i, ¬ ClosesLast (run step (start .inMemory) (twoClosers ++ [.advance i, .advance i])) := by
  have hover : Overtaking (run step (start .inMemory) twoClosers) :=
    ⟨rfl,
      ⟨⟨.close, some 1, .queued⟩, List.mem_of_getElem? (i := 1) rfl, rfl, rfl, 1,
        ⟨.shutdown, .stopJoining⟩, rfl, rfl, rfl⟩,
      ⟨.close, some 2, .queued⟩, List.mem_of_getElem? (i := 2) rfl, rfl, rfl, 2, rfl, rfl⟩
  exact ⟨rfl, hover, (closes_last_or_overtakes rfl twoClosers).2 hover⟩

/-- **A client can lose its delta to one that overtakes another one**: the database is closed and
one call to close it has returned before the last window is written, and the client whose delta is
in that window is told that the store is closed. -/
theorem closed_too_early :
    let s := run step (start .inMemory) (twoClosers ++ [.advance 2, .advance 2])
    let t := run step s [.receive, .proceed, .proceed, .look, .proceed, .advance 0, .advance 0]
    s.clients.map Crowd.Client.stage = [.queued, .queued, .answered (.ok .nothing)] ∧
      s.sql.isClosed = true ∧ s.window.hasExited = false ∧
      t.window.outcomes = [(1, .error .closed)] ∧
      t.clients.head?.map Crowd.Client.stage = some (.answered (.error .closed)) ∧
      t.sql.session.database = .empty := by
  exact ⟨rfl, rfl, rfl, rfl, rfl, rfl⟩

end Clients

end Meterbank
