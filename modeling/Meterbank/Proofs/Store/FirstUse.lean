/-
  Meterbank.Proofs.Store.FirstUse — no table is missed.

  A thread makes sure of its table before it runs its statement, so it
  finds the table there if its connection sees the database that is
  written.  A name that stands for a new database each time it is opened
  gives connections that do not, and those miss what the guard knows.  If
  a first use has failed, the guard does not know the table, and the next
  thread that can write creates it.

  Main results:
    * `run_together` — connections that see one database go on seeing it.
    * `perform_ready` — who can write makes sure of all tables of a plan.
    * `guard_tells_truth` — what the guard knows is there, only who sees
      another database misses a table, and after a failed first use the
      table is still created.
    * `missing_although_ready` — who sees another database does miss it.
-/
import Meterbank.Disk.Sharing
import Meterbank.Proofs.Store.Guarding

namespace Meterbank.Threads

open Meterbank.Sql

/-! ## Connections to one database -/

/-- Whether all connections see the database that is written. -/
structure Together (c : Connection) : Prop where
  writer : c.writer.own = none
  readers : ∀ link ∈ c.readers, link.own = none

theorem Together.publish {s : Session} (h : Together s.connection) (db : Database) :
    Together (s.publish db).connection := by
  unfold Session.publish
  rw [h.writer]
  exact h

theorem Together.giveAccess {c : Connection} (h : Together c) (reader : Option Nat)
    (access : Access) : Together (giveAccess c reader access) := by
  cases reader with
  | none => exact ⟨h.writer, h.readers⟩
  | some r =>
    refine ⟨h.writer, fun link hlink => ?_⟩
    obtain ⟨j, hj⟩ := List.getElem?_of_mem hlink
    rw [show (Threads.giveAccess c (some r) access).readers =
      c.readers.modify r fun link => { link with access } from rfl, List.getElem?_modify] at hj
    cases hc : c.readers[j]? with
    | none => exact absurd hj (by simp [hc])
    | some l =>
      have hown := h.readers l (List.mem_of_getElem? hc)
      rw [hc] at hj
      by_cases hr : r = j
      · rw [← Option.some.inj hj]
        simpa [hr] using hown
      · rw [← Option.some.inj hj]
        simpa [hr] using hown

theorem Together.readOn {reader : Nat} {plan : Plan} {s : Shared}
    (h : Together s.session.connection) :
    Together (readOn plan reader s).2.session.connection := by
  cases hr : s.session.connection.readers[reader]? with
  | none =>
    unfold Threads.readOn
    cases plan <;> simp only [hr] <;> exact h
  | some link =>
    have hown := h.readers link (List.mem_of_getElem? hr)
    cases plan with
    | read kind statement look =>
      simp only [Threads.readOn, hr]
      refine ⟨h.writer, fun l hl => ?_⟩
      rcases List.mem_or_eq_of_mem_set hl with hmem | rfl
      · exact h.readers l hmem
      · -- The connection that has read is where it was.
        show (link.run _ _).2.1.own = none
        unfold Link.run
        rw [hown]
        exact (link.after_access _ _).2.trans hown
    | done answer | write kinds statement | ping | close => exact h

/-- No section leads a connection to another database. -/
theorem Together.next {i : Nat} {plan : Plan} {point : Point} {s : Shared}
    (h : Together s.session.connection) :
    Together (next i plan point s).2.session.connection := by
  cases point with
  | start =>
    cases plan with
    | ping =>
      obtain ⟨⟨⟨⟨file, writer, readers, turn, unsettled, closed⟩, guard, database⟩, stuck⟩, holder⟩ := s
      cases stuck <;> cases closed <;> exact ⟨h.writer, h.readers⟩
    | close =>
      simp only [Threads.next, begin]
      split <;> exact ⟨h.writer, h.readers⟩
    | done answer | write kinds statement | read kind statement look => exact h
  | ensuring errand access kinds =>
    cases kinds with
    | nil | cons kind kinds =>
      simp only [Threads.next]
      split <;> exact h
  | queued errand =>
    simp only [Threads.next]
    split <;> exact h
  | declaring errand access kind kinds =>
    simp only [Threads.next]
    split <;> exact h.publish _
  | publishing errand answer draft => exact h.publish draft
  | releasing errand answer =>
    exact ⟨(s.session.connection.writer.after_access answer s.session.written).2.trans h.writer,
      h.readers⟩
  | prepared =>
    simp only [Threads.next, takeTurn]
    split
    · exact h
    · split
      · exact h
      · exact ⟨h.writer, h.readers⟩
  | reading reader => exact h.readOn
  | checkpointing =>
    simp only [Threads.next, checkpoint]
    split
    · exact h
    · split
      · exact h
      · split <;> exact h
  | looking | marking errand access kind kinds | answered answer => exact h

/-- **Connections that see one database go on seeing it.** -/
theorem run_together {s : State} (h : Together s.shared.session.connection) (events : List Event) :
    Together (run step s events).shared.session.connection := by
  refine run_keeps (P := fun s : State => Together s.shared.session.connection) (fun s e h => ?_) h events
  cases e with
  | call request => exact h
  | advance i =>
    rcases Callers.step_shared protocol s (.advance i) with hsame | ⟨j, t, -, -, hshared⟩
    · rw [step, hsame]
      exact h
    · rw [step, hshared]
      exact h.next
  | outside db =>
    show Together (s.outside db).shared.session.connection
    unfold State.outside
    split <;> exact h
  | access reader access => exact h.giveAccess reader access
  | unsettle fault => exact ⟨h.writer, h.readers⟩
  | stall stuck => exact h

/-! ## First uses -/

/-- On a connection that may write a table is made sure of. -/
theorem ensure_readWrite (kind : Kind) (p : Guard × Database) :
    (Guard.ensure .readWrite kind p).1 = .ok () ∧
      ∀ k, p.1.isReady k = true → (Guard.ensure .readWrite kind p).2.1.isReady k = true := by
  unfold Guard.ensure
  split
  · exact ⟨rfl, fun k hk => hk⟩
  · unfold Statement.create Statement.declare
    cases p.2.table? kind with
    | some r => exact ⟨rfl, fun k hk => isReady_mark_of_isReady hk⟩
    | none => exact ⟨rfl, fun k hk => isReady_mark_of_isReady hk⟩

/-- So are all tables. -/
theorem ensureAll_ready (kinds : List Kind) (p : Guard × Database) :
    (SqlStore.ensureAll .readWrite kinds p).1 = .ok .readWrite ∧
      ∀ kind, kind ∈ kinds ∨ p.1.isReady kind = true →
        (SqlStore.ensureAll .readWrite kinds p).2.1.isReady kind = true := by
  induction kinds generalizing p with
  | nil => exact ⟨rfl, fun kind hk => hk.resolve_left (by simp)⟩
  | cons kind kinds ih =>
    have hensure := ensure_readWrite kind p
    have hready := Guard.ensure_ready .readWrite kind p hensure.1
    -- A connection that may write still may after a statement.
    have hlater : (if p.1.isReady kind then Access.readWrite else Access.readWrite.later 1) =
        .readWrite := by split <;> rfl
    unfold SqlStore.ensureAll
    simp only [hlater]
    cases he : Guard.ensure .readWrite kind p with
    | mk answer q =>
      rw [he] at hensure hready
      obtain rfl : answer = .ok () := hensure.1
      refine ⟨(ih q).1, fun k hk => (ih q).2 k ?_⟩
      rcases hk with hmem | hbefore
      · rcases List.mem_cons.1 hmem with rfl | hmem
        · exact .inr hready
        · exact .inl hmem
      · exact .inr (hensure.2 k hbefore)

/-- What the guard knows after work on the connection that writes. -/
theorem guard_onWriter {α : Type} (work : Work α) (s : Session)
    (hopen : s.connection.closed = false) :
    (s.onWriter work).2.guard =
      (work s.connection.writer.offer (s.guard, s.written)).2.1 := by
  unfold Session.onWriter Connection.onWriter Link.run Session.written
  rw [hopen]
  cases s.connection.writer.own <;> rfl

/-- Reading tells the guard nothing. -/
theorem guard_onReader {α : Type} (statement : Access → Statement α) (s : Session) :
    (s.onReader (SqlStore.reading statement)).2.guard = s.guard := by
  have hrun (l : Link) (p : Guard × Database) :
      (l.run (SqlStore.reading statement) p).2.2.1 = p.1 := by
    unfold Link.run
    cases l.own <;> rfl
  unfold Session.onReader Connection.onReader
  cases hr : s.connection.readers[s.connection.turn % s.connection.readers.length]? with
  | none =>
    simp only [hr, Connection.onWriter]
    by_cases hclosed : s.connection.closed = true
    · rw [if_pos hclosed]
    · rw [if_neg hclosed]
      exact hrun _ _
  | some reader =>
    simp only [hr]
    by_cases hclosed : s.connection.closed = true
    · rw [if_pos hclosed]
    · rw [if_neg hclosed]
      exact hrun _ _

/-- **Who can write makes sure of all tables of a plan,** whatever the
answer of its statement. -/
theorem perform_ready {plan : Plan} {kind : Kind} {s : SqlStore} (hkind : kind ∈ plan.tables)
    (hopen : s.isClosed = false) (hwrites : s.session.connection.writer.access = .readWrite) :
    (plan.perform s).2.session.guard.isReady kind = true := by
  have hoffer : s.session.connection.writer.offer = .readWrite := by
    unfold Link.offer
    rw [hwrites]
  cases plan with
  | write kinds statement =>
    obtain ⟨hanswer, hready⟩ := ensureAll_ready kinds (s.session.guard, s.session.written)
    show (s.session.onWriter (SqlStore.writing kinds statement)).2.guard.isReady kind = true
    rw [guard_onWriter _ _ hopen, hoffer]
    unfold SqlStore.writing
    cases he : SqlStore.ensureAll .readWrite kinds (s.session.guard, s.session.written) with
    | mk answer p =>
      rw [he] at hanswer hready
      obtain rfl : answer = .ok .readWrite := hanswer
      exact hready kind (.inl hkind)
  | read k statement look =>
    obtain rfl : kind = k := List.mem_singleton.1 hkind
    -- Either the guard knew the table, or it is made sure of now.
    have hprepare : (s.prepareRead kind).2.session.guard.isReady kind = true := by
      unfold SqlStore.prepareRead
      split
      · next hready => exact hready
      · show (s.session.onWriter fun access => Guard.ensure access kind).2.guard.isReady kind = true
        rw [guard_onWriter _ _ hopen, hoffer]
        exact Guard.ensure_ready .readWrite kind _ (ensure_readWrite kind _).1
    rw [Plan.perform_read]
    unfold SqlStore.read
    cases hp : s.prepareRead kind with
    | mk answer s' =>
      rw [hp] at hprepare
      cases answer with
      | error e => exact hprepare
      | ok u =>
        show (s'.session.onReader (SqlStore.reading statement)).2.guard.isReady kind = true
        rw [guard_onReader]
        exact hprepare
  | done answer | ping | close => exact absurd hkind (by simp [Plan.tables])

/-! ## Missing tables -/

/-- The tables that the statement of a thread is about, and the connection
it is run on, if that is the next section of the thread. -/
def State.query? (s : State) (i : Nat) : Option (List Kind × Link) :=
  match s.callers[i]? with
  | none => none
  | some t =>
    match t.point with
    | .ensuring errand _ [] =>
      (t.task.statement? errand).map fun _ => (t.task.tables, s.shared.session.connection.writer)
    | .reading reader =>
      s.shared.session.connection.readers[reader]?.map fun link => (t.task.tables, link)
    | _ => none

/-- Who runs a statement is on the connection that writes or on one that
reads, and the guard knows its tables. -/
theorem Guarded.query {s : State} (h : Guarded s) {i : Nat} {kinds : List Kind} {link : Link}
    (hq : s.query? i = some (kinds, link)) :
    (link = s.shared.session.connection.writer ∨ link ∈ s.shared.session.connection.readers) ∧
      ∀ kind ∈ kinds, s.shared.session.guard.isReady kind = true := by
  unfold State.query? at hq
  cases ht : s.callers[i]? with
  | none =>
    rw [ht] at hq
    exact absurd hq (by simp)
  | some t =>
    have hstands := h.stands i t ht
    simp only [ht] at hq
    split at hq
    · next errand access hpoint =>
      rw [hpoint] at hstands
      obtain ⟨statement, -, hpair⟩ := Option.map_eq_some_iff.1 hq
      obtain ⟨rfl, rfl⟩ := Prod.mk.inj hpair
      exact ⟨.inl rfl, fun kind hk => (hstands kind hk).resolve_left (by simp)⟩
    · next reader hpoint =>
      rw [hpoint] at hstands
      obtain ⟨l, hl, hpair⟩ := Option.map_eq_some_iff.1 hq
      obtain ⟨rfl, rfl⟩ := Prod.mk.inj hpair
      exact ⟨.inr (List.mem_of_getElem? hl), fun kind hk => (hstands kind hk).resolve_left (by simp)⟩
    · exact absurd hq (by simp)

/-- **A table that is missed is on a connection that sees another database.** -/
theorem Guarded.missing {s : State} (h : Guarded s) {i : Nat} {kinds : List Kind} {link : Link}
    (hq : s.query? i = some (kinds, link)) {kind : Kind} (hk : kind ∈ kinds)
    (hmissing : (link.view s.shared.session.database).table? kind = none) :
    link ∈ s.shared.session.connection.readers ∧
      link.own ≠ s.shared.session.connection.writer.own := by
  obtain ⟨hlink, hready⟩ := h.query hq
  have hthere := h.truthful kind (hready kind hk)
  have hother : link.own ≠ s.shared.session.connection.writer.own := by
    intro hown
    have hsame : link.view s.shared.session.database = s.shared.session.written := by
      unfold Link.view Session.written
      rw [hown]
    rw [← hsame, hmissing] at hthere
    exact absurd hthere (by simp)
  exact ⟨hlink.resolve_left fun hw => hother (by rw [hw]), hother⟩

/-- **What the guard knows is there.**  A thread that runs a statement has
tables that the guard knows; it misses one only on a connection that sees
another database than the one that is written, and there is none if all saw
one database at first.  And whatever has failed so far, a thread that can
write makes sure of its tables, and is answered. -/
theorem guard_tells_truth (connection : Connection) (db : Database) (events : List Event) :
    let s := run step (start (.create (.start connection db))) events
    let session := s.shared.session
    (∀ kind, session.guard.isReady kind = true → (session.written.table? kind).isSome = true) ∧
    (∀ i kinds link, s.query? i = some (kinds, link) → ∀ kind ∈ kinds,
      session.guard.isReady kind = true ∧
        ((link.view session.database).table? kind = none →
          link ∈ session.connection.readers ∧ link.own ≠ session.connection.writer.own ∧
            ¬ Together connection)) ∧
    ∀ (request : Request), ∀ kind ∈ request.plan.tables, s.shared.holder = none →
      s.shared.store.isClosed = false → session.connection.writer.access = .readWrite →
        ∃ n, let after := run step s (.call request :: List.replicate n (.advance s.callers.length))
          after.shared.session.guard.isReady kind = true ∧
            (after.shared.session.written.table? kind).isSome = true ∧
            after.callers = s.callers ++
              [⟨request.plan, .answered (request.plan.perform s.shared.store).1⟩] := by
  intro s session
  have hguarded : Guarded s := run_guarded (.started connection db) events
  refine ⟨hguarded.truthful, ?_, ?_⟩
  · intro i kinds link hq kind hk
    refine ⟨(hguarded.query hq).2 kind hk, fun hmissing => ?_⟩
    obtain ⟨hreader, hother⟩ := hguarded.missing hq hk hmissing
    refine ⟨hreader, hother, fun htogether => hother ?_⟩
    -- Connections that saw one database at first still do.
    have hlast : Together session.connection :=
      run_together (s := start (.create (.start connection db))) htogether events
    rw [hlast.readers link hreader, hlast.writer]
  · intro request kind hk hfree hopen hwrites
    obtain ⟨n, hn⟩ := run_alone request s hfree
    have hready : (run step s (.call request :: List.replicate n
        (.advance s.callers.length))).shared.session.guard.isReady kind = true := by
      rw [hn]
      exact perform_ready hk hopen hwrites
    have hafter : Guarded (run step s (.call request :: List.replicate n (.advance s.callers.length))) :=
      run_guarded hguarded _
    exact ⟨n, hready, hafter.truthful kind hready, by rw [hn]⟩

/-- The connections to a name that stands for a new database each time it
is opened: the one that reads sees an empty database of its own. -/
def separate : Connection :=
  ⟨some "file::memory:", ⟨.readWrite, none, false, some []⟩,
    [⟨.readOnly .readOnly none, some .empty, false, none⟩], 0, none, false⟩

/-- The sections of a first read up to the one in which it reads. -/
def firstRead : List Event := .call (.call (.readCounters [])) :: List.replicate 9 (.advance 0)

/-- Sections in which a first read fails, as the connection that writes
does not get to the database; then it does again. -/
def failedUse : List Event :=
  .access none (.blocked .cannotReach) :: .call (.call (.readCounters [])) ::
    List.replicate 6 (.advance 0) ++ [.access none .readWrite]

/-- **A table that the guard knows can be missed**: the first read of a
database that is opened by such a name makes sure of the table on one
connection, and then reads on another. -/
theorem missing_although_ready :
    (match Disk.openDatabase "file::memory:" 1 .empty with
      | (.ok opened, d) => some (d.session opened)
      | (.error _, _) => none) = some (.start separate .empty) ∧
    let s := run step (start (.create (.start separate .empty))) firstRead
    s.shared.session.guard.isReady .counter = true ∧
      (∃ link, s.query? 0 = some ([.counter], link) ∧
        (link.view s.shared.session.database).table? .counter = none) ∧
      (step s (.advance 0)).callers.map (·.point) =
        [.answered (.error (.sql (.noSuchTable "counters")))] := by
  refine ⟨by decide +kernel, rfl, ⟨_, rfl, rfl⟩, rfl⟩

/-- A first use that failed leaves the guard without the table, and the next
write creates it; the table that a read misses is on its own connection. -/
theorem created_after_failed_use :
    (let s := run step (start (.create (.start separate .empty))) failedUse
     s.callers.map (·.point) = [.answered (.error (.sql .cannotReach))] ∧
      s.shared.session.guard.isReady .counter = false ∧
      (s.shared.holder = none ∧ s.shared.store.isClosed = false ∧
        s.shared.session.connection.writer.access = .readWrite) ∧
        ∃ n, let after := run step s (.call (.call (.writeCounter "c" 1)) ::
            List.replicate n (.advance s.callers.length))
          after.shared.session.guard.isReady .counter = true ∧
            (after.shared.session.written.table? .counter).isSome = true) ∧
    let s := run step (start (.create (.start separate .empty))) firstRead
    ∃ link, s.query? 0 = some ([.counter], link) ∧
      (link.view s.shared.session.database).table? .counter = none ∧
        link ∈ s.shared.session.connection.readers ∧
          link.own ≠ s.shared.session.connection.writer.own ∧ ¬ Together separate := by
  constructor
  · obtain ⟨n, hready, hthere, -⟩ := (guard_tells_truth separate .empty failedUse).2.2
      (.call (.writeCounter "c" 1)) .counter (by decide) rfl rfl rfl
    exact ⟨rfl, rfl, ⟨rfl, rfl, rfl⟩, n, hready, hthere⟩
  · have hquery := (guard_tells_truth separate .empty firstRead).2.1 0 _ _ rfl .counter
      (List.mem_singleton.2 rfl)
    exact ⟨_, rfl, rfl, hquery.2 rfl⟩

end Meterbank.Threads
