/-
  Meterbank.Proofs.Store.Threads — a thread that nobody disturbs.

  The sections of a request, one after the other, are what the operations
  of the store do at one go: making sure of tables and running a statement
  is one piece of work on the connection that writes, and a read is that
  for its table and then a piece of work on a connection that reads.

  Main results:
    * `reaches_work` — the sections between taking and giving back the
      connection that writes are one piece of work on it.
    * `run_alone` — a thread that nobody disturbs carries out its plan.
-/
import Meterbank.Store.Threads

namespace Meterbank.Threads

open Meterbank.Sql

variable {i : Nat} {plan : Plan}

/-- The next section of a thread, as the only thing that happens. -/
abbrev alone (i : Nat) (plan : Plan) : Point × Shared → Unit → Point × Shared :=
  Callers.alone protocol i plan

/-- A section leads where it leads. -/
theorem reaches_next {p q : Point × Shared} (h : next i plan p.1 p.2 = q) :
    Reaches (alone i plan) p q :=
  Callers.reaches_next protocol h

/-! ## The connection that writes -/

/-- The state with what work has left on the connection that writes. -/
def Shared.put (s : Shared) (p : Guard × Database) : Shared :=
  s.withSession { s.session.publish p.2 with guard := p.1 }

/-- A session whose connection that writes sees what it sees. -/
theorem publish_written (s : Session) : s.publish s.written = s := by
  unfold Session.publish Session.written
  cases h : s.connection.writer.own with
  | none => rfl
  | some own =>
    show { s with connection := { s.connection with
      writer := { s.connection.writer with own := some own } } } = s
    rw [← h]

/-- What is committed last is there, whatever the guard was told. -/
theorem publish_publish (s : Session) (g : Guard) (db db' : Database) :
    ({ s.publish db with guard := g } : Session).publish db' = { s.publish db' with guard := g } := by
  unfold Session.publish
  cases h : s.connection.writer.own with
  | none => simp only [h]
  | some own => simp only

/-- Putting back what is there changes nothing. -/
theorem put_self (s : Shared) : s.put (s.session.guard, s.session.written) = s := by
  unfold Shared.put
  rw [publish_written]
  rfl

/-- What is put last is there. -/
theorem put_put (s : Shared) (p p' : Guard × Database) : (s.put p).put p' = s.put p' := by
  have hlast := publish_publish s.session p.1 p.2 p'.2
  show s.withSession { ({ s.session.publish p.2 with guard := p.1 } : Session).publish p'.2 with
    guard := p'.1 } = s.put p'
  rw [hlast]
  rfl

@[simp] theorem written_put (s : Shared) (p : Guard × Database) :
    (s.put p).session.written = p.2 :=
  Session.written_publish s.session p.2

@[simp] theorem guard_put (s : Shared) (p : Guard × Database) : (s.put p).session.guard = p.1 := rfl

/-- Committing something leaves the guard. -/
theorem publish_eq_put (s : Shared) (db : Database) :
    s.withSession (s.session.publish db) = s.put (s.session.guard, db) := by
  unfold Shared.put
  simp only
  rw [← Session.guard_publish s.session db]

/-- Telling the guard something leaves the database. -/
theorem guard_eq_put (s : Shared) (g : Guard) :
    s.withSession { s.session with guard := g } = s.put (g, s.session.written) := by
  unfold Shared.put
  rw [publish_written]

/-- The sections that make sure of tables do what is done at one go. -/
theorem reaches_ensureAll (errand : Errand) (access : Access) (kinds : List Kind) (s : Shared) :
    match SqlStore.ensureAll access kinds (s.session.guard, s.session.written) with
    | (.ok access', p) =>
      Reaches (alone i plan) (.ensuring errand access kinds, s) (.ensuring errand access' [], s.put p)
    | (.error e, p) =>
      Reaches (alone i plan) (.ensuring errand access kinds, s)
        (.releasing errand (.error e), s.put p) := by
  induction kinds generalizing access s with
  | nil =>
    show Reaches (alone i plan) _ (_, s.put (s.session.guard, s.session.written))
    rw [put_self]
    exact .refl _ _
  | cons kind kinds ih =>
    unfold SqlStore.ensureAll Guard.ensure
    simp only
    by_cases hready : s.session.guard.isReady kind = true
    · -- The guard knows the table already.
      have hskip : Reaches (alone i plan) (.ensuring errand access (kind :: kinds), s)
          (.ensuring errand access kinds, s) := reaches_next (by simp only [next, hready, if_true])
      have hrest := ih access s
      simp only [hready, if_true]
      split at hrest
      · exact hskip.trans hrest
      · exact hskip.trans hrest
    · have hask : Reaches (alone i plan) (.ensuring errand access (kind :: kinds), s)
          (.declaring errand access kind kinds, s) :=
        reaches_next (by simp only [next, hready, if_false, Bool.false_eq_true])
      simp only [hready, Bool.false_eq_true, if_false]
      cases hcreate : Statement.create access kind s.session.written with
      | mk answer db =>
        cases answer with
        | error e =>
          refine hask.trans (reaches_next ?_)
          simp only [next, hcreate, publish_eq_put]
        | ok _ =>
          -- The table is there; the guard is told, and the others follow.
          have hdeclare : Reaches (alone i plan) (.declaring errand access kind kinds, s)
              (.marking errand (access.later 1) kind kinds, s.put (s.session.guard, db)) :=
            reaches_next (by simp only [next, hcreate, publish_eq_put])
          have hmark : Reaches (alone i plan)
              (.marking errand (access.later 1) kind kinds, s.put (s.session.guard, db))
              (.ensuring errand (access.later 1) kinds, s.put (s.session.guard.mark kind, db)) :=
            reaches_next (by simp only [next, guard_eq_put, guard_put, written_put, put_put])
          have hrest := ih (access.later 1) (s.put (s.session.guard.mark kind, db))
          rw [guard_put, written_put] at hrest
          have hthere := (hask.trans hdeclare).trans hmark
          simp only
          split at hrest
          · next access' p hp =>
            rw [hp]
            rw [put_put] at hrest
            exact hthere.trans hrest
          · next e p hp =>
            rw [hp]
            rw [put_put] at hrest
            exact hthere.trans hrest

/-- The state that work on the connection that writes leaves, when it is
answered so. -/
def Shared.left (s : Shared) (answer : Except StoreError Store.Payload) (p : Guard × Database) :
    Shared :=
  (s.put p).withSession ((s.put p).session.leave answer)

/-- **From taking the connection that writes to giving it back.** -/
theorem reaches_errand (errand : Errand) (s : Shared) (hfree : s.holder = none) :
    match SqlStore.ensureAll s.session.connection.writer.offer (plan.ensures errand)
      (s.session.guard, s.session.written) with
    | (.error e, p) =>
      Reaches (alone i plan) (.queued errand, s) (resume plan errand (.error e), s.left (.error e) p)
    | (.ok access, p) =>
      match plan.statement? errand with
      | none =>
        Reaches (alone i plan) (.queued errand, s)
          (resume plan errand (.ok .nothing), s.left (.ok .nothing) p)
      | some statement =>
        Reaches (alone i plan) (.queued errand, s)
          (resume plan errand (statement access p.2).1,
            s.left (statement access p.2).1 (p.1, (statement access p.2).2)) := by
  obtain ⟨store, holder⟩ := s
  obtain rfl : holder = none := hfree
  have htake : Reaches (alone i plan) (.queued errand, ⟨store, none⟩)
      (.ensuring errand store.session.connection.writer.offer (plan.ensures errand),
        ⟨store, some i⟩) := reaches_next rfl
  have hgive (answer : Except StoreError Store.Payload) (p : Guard × Database) :
      Reaches (alone i plan) (.releasing errand answer, Shared.put ⟨store, some i⟩ p)
        (resume plan errand answer, Shared.left ⟨store, none⟩ answer p) := reaches_next rfl
  have hensure := @reaches_ensureAll i plan errand
    store.session.connection.writer.offer (plan.ensures errand) ⟨store, some i⟩
  simp only [Shared.session] at hensure ⊢
  split at hensure
  · next access p hp =>
    rw [hp]
    simp only
    cases hst : plan.statement? errand with
    | none =>
      refine (htake.trans hensure).trans (.trans (reaches_next ?_) (hgive (.ok .nothing) p))
      simp only [next, hst]
    | some statement =>
      have hrun : Reaches (alone i plan) (.ensuring errand access [], Shared.put ⟨store, some i⟩ p)
          (.publishing errand (statement access p.2).1 (statement access p.2).2,
            Shared.put ⟨store, some i⟩ p) := reaches_next (by simp only [next, hst, written_put])
      have hcommit : Reaches (alone i plan)
          (.publishing errand (statement access p.2).1 (statement access p.2).2,
            Shared.put ⟨store, some i⟩ p)
          (.releasing errand (statement access p.2).1,
            Shared.put ⟨store, some i⟩ (p.1, (statement access p.2).2)) :=
        reaches_next (by simp only [next, publish_eq_put, guard_put, put_put])
      exact ((htake.trans hensure).trans (hrun.trans hcommit)).trans (hgive _ _)
  · next e p hp =>
    rw [hp]
    exact (htake.trans hensure).trans (hgive (.error e) p)

/-- A connection that has done work still has its database. -/
theorem after_own {α : Type} (l : Link) (own : Option Database) (answer : Except StoreError α)
    (db : Database) :
    ({ l with own } : Link).after answer db = { l.after answer db with own } := by
  unfold Link.after
  cases l.access with
  | readOnly refusal known => cases answer <;> rfl
  | readWrite | blocked fault | faltering faults => rfl

/-- Work on the connection that writes, at one go. -/
theorem onWriter_left (work : Work Store.Payload) (s : Shared) (hopen : s.store.isClosed = false) :
    let (answer, p) := work s.session.connection.writer.offer (s.session.guard, s.session.written)
    s.store.session.onWriter work = (answer, (s.left answer p).session) := by
  obtain ⟨⟨⟨⟨file, ⟨access, own, used, known⟩, readers, turn, unsettled, closed⟩, guard, database⟩,
    stuck⟩, holder⟩ := s
  obtain rfl : closed = false := hopen
  cases own with
  | none => rfl
  | some own =>
    show _ = (_, Session.mk ⟨file, Link.after { access, own := some _, used, known } _ _, readers, turn,
      unsettled, false⟩ _ _)
    rw [after_own ⟨access, some own, used, known⟩]
    rfl

/-! ## Whole requests -/

/-- A piece of work on the connection that writes, as the store does it. -/
theorem through_left (work : Work Store.Payload) (s : Shared) (hopen : s.store.isClosed = false)
    (hfree : s.holder = none) :
    let (answer, p) := work s.session.connection.writer.offer (s.session.guard, s.session.written)
    (s.store.through (Session.onWriter work)).1 = answer ∧
      s.left answer p = ⟨(s.store.through (Session.onWriter work)).2, none⟩ := by
  have hwork := onWriter_left work s hopen
  obtain ⟨store, holder⟩ := s
  obtain rfl : holder = none := hfree
  unfold SqlStore.through
  rw [hwork]
  exact ⟨rfl, rfl⟩

/-- The statement of a plan on the connection that writes, after the tables
it needs. -/
theorem reaches_work {errand : Errand} {statement : Access → Statement Store.Payload}
    (hst : plan.statement? errand = some statement) (s : SqlStore) (hopen : s.isClosed = false) :
    Reaches (alone i plan) (.queued errand, ⟨s, none⟩)
      (resume plan errand (s.write (plan.ensures errand) statement).1,
        ⟨(s.write (plan.ensures errand) statement).2, none⟩) := by
  have herrand := @reaches_errand i plan errand ⟨s, none⟩ rfl
  obtain ⟨hanswer, hleft⟩ :=
    through_left (SqlStore.writing (plan.ensures errand) statement) ⟨s, none⟩ hopen rfl
  unfold SqlStore.write
  rw [hanswer, ← hleft]
  simp only [hst] at herrand ⊢
  split at herrand
  · next e p hp =>
    simp only [hp]
    exact herrand
  · next access p hp =>
    simp only [hp]
    exact herrand

/-- A write that nobody disturbs. -/
theorem reaches_write (kinds : List Kind) (statement : Access → Statement Store.Payload) (s : SqlStore) :
    Reaches (alone i (.write kinds statement)) (.start, ⟨s, none⟩)
      (.answered (s.write kinds statement).1, ⟨(s.write kinds statement).2, none⟩) := by
  by_cases hclosed : s.isClosed = true
  · rw [SqlStore.write_closed kinds statement s hclosed]
    exact reaches_next (by simp only [next, begin, Shared.letIn, hclosed, if_true])
  · have hopen : s.isClosed = false := by simpa using hclosed
    have hlet : Reaches (alone i (.write kinds statement)) (.start, ⟨s, none⟩)
        (.queued .working, ⟨s, none⟩) :=
      reaches_next (by simp only [next, begin, Shared.letIn, hopen, Bool.false_eq_true, if_false])
    exact hlet.trans (reaches_work rfl s hopen)

/-- The table of a read is made sure of on the connection that writes. -/
theorem reaches_ensure (kind : Kind) (statement : Access → Statement Store.Payload)
    (look : Store.Payload → Except StoreError Store.Payload) (s : SqlStore)
    (hopen : s.isClosed = false) :
    match s.through (Session.onWriter fun access => Guard.ensure access kind) with
    | (.ok _, s') =>
      Reaches (alone i (.read kind statement look)) (.queued .preparing, ⟨s, none⟩)
        (.prepared, ⟨s', none⟩)
    | (.error e, s') =>
      Reaches (alone i (.read kind statement look)) (.queued .preparing, ⟨s, none⟩)
        (.answered (.error e), ⟨s', none⟩) := by
  have herrand := @reaches_errand i (.read kind statement look) .preparing ⟨s, none⟩ rfl
  obtain ⟨hanswer, hleft⟩ := through_left
    (Work.map (fun _ => Store.Payload.nothing) fun access => Guard.ensure access kind) ⟨s, none⟩
    hopen rfl
  have hmap : s.through (Session.onWriter
        (Work.map (fun _ => Store.Payload.nothing) fun access => Guard.ensure access kind)) =
      ((s.through (Session.onWriter fun access => Guard.ensure access kind)).1.map
          fun _ => Store.Payload.nothing,
        (s.through (Session.onWriter fun access => Guard.ensure access kind)).2) := by
    unfold SqlStore.through
    rw [Session.onWriter_map]
  simp only [hmap] at hanswer hleft
  simp only [Plan.ensures, Plan.statement?, SqlStore.ensureAll] at herrand
  generalize s.through (Session.onWriter fun access => Guard.ensure access kind) = whole
    at hanswer hleft ⊢
  obtain ⟨answer, after⟩ := whole
  cases hensure : Guard.ensure (Shared.session ⟨s, none⟩).connection.writer.offer kind
      ((Shared.session ⟨s, none⟩).guard, (Shared.session ⟨s, none⟩).written) with
  | mk answer' p =>
    rw [hensure] at herrand hanswer hleft
    cases answer' with
    | ok u =>
      cases answer with
      | ok u' =>
        simp only [Except.map] at herrand hleft ⊢
        rw [← hleft]
        exact herrand
      | error e => exact absurd hanswer (by simp [Except.map])
    | error e =>
      cases answer with
      | ok u' => exact absurd hanswer (by simp [Except.map])
      | error e' =>
        obtain rfl : e' = e := Except.error.inj hanswer
        simp only [Except.map] at herrand hleft ⊢
        rw [← hleft]
        exact herrand

/-- A read that makes sure of its table, undisturbed. -/
theorem reaches_prepare (kind : Kind) (statement : Access → Statement Store.Payload)
    (look : Store.Payload → Except StoreError Store.Payload) (s : SqlStore) :
    match s.prepareRead kind with
    | (.ok _, s') =>
      Reaches (alone i (.read kind statement look)) (.start, ⟨s, none⟩) (.prepared, ⟨s', none⟩)
    | (.error e, s') =>
      Reaches (alone i (.read kind statement look)) (.start, ⟨s, none⟩)
        (.answered (.error e), ⟨s', none⟩) := by
  unfold SqlStore.prepareRead
  by_cases hready : s.session.guard.isReady kind = true
  · rw [if_pos hready]
    exact reaches_next (by simp only [next, begin, Shared.session, hready, if_true])
  · rw [if_neg hready]
    have hask : Reaches (alone i (.read kind statement look)) (.start, ⟨s, none⟩) (.looking, ⟨s, none⟩) :=
      reaches_next (by simp only [next, begin, Shared.session, hready, Bool.false_eq_true, if_false])
    by_cases hclosed : s.isClosed = true
    · have hrefused : s.through (Session.onWriter fun access => Guard.ensure access kind) =
          (.error .closed, s) := by
        unfold SqlStore.through
        rw [Session.onWriter_closed _ _ hclosed]
      rw [hrefused]
      refine hask.trans (reaches_next ?_)
      simp only [next, Shared.letIn, hclosed, if_true]
    · have hopen : s.isClosed = false := by simpa using hclosed
      have hlet : Reaches (alone i (.read kind statement look)) (.looking, ⟨s, none⟩)
          (.queued .preparing, ⟨s, none⟩) :=
        reaches_next (by simp only [next, Shared.letIn, hopen, Bool.false_eq_true, if_false])
      have hensure := reaches_ensure (i := i) kind statement look s hopen
      split at hensure
      · next u s' hs =>
        exact (hask.trans hlet).trans hensure
      · next e s' hs =>
        exact (hask.trans hlet).trans hensure

/-- A read whose table is known, undisturbed. -/
theorem reaches_read (kind : Kind) (statement : Access → Statement Store.Payload)
    (look : Store.Payload → Except StoreError Store.Payload) (s : SqlStore) :
    Reaches (alone i (.read kind statement look)) (.prepared, ⟨s, none⟩)
      (.answered ((s.through (Session.onReader (SqlStore.reading statement))).1.bind look),
        ⟨(s.through (Session.onReader (SqlStore.reading statement))).2, none⟩) := by
  by_cases hclosed : s.isClosed = true
  · have hrefused : s.through (Session.onReader (SqlStore.reading statement)) =
        (.error .closed, s) := by
      unfold SqlStore.through
      rw [Session.onReader_closed _ _ hclosed]
    rw [hrefused]
    exact reaches_next (by simp only [next, takeTurn, hclosed, if_true]; rfl)
  · have hopen : s.isClosed = false := by simpa using hclosed
    cases hr : s.session.connection.readers[s.session.connection.turn %
        s.session.connection.readers.length]? with
    | none =>
      -- Nobody else reads, so the connection that writes does.
      have hqueue : Reaches (alone i (.read kind statement look)) (.prepared, ⟨s, none⟩)
          (.queued .working, ⟨s, none⟩) :=
        reaches_next
          (by simp only [next, takeTurn, Shared.session, hopen, hr, Bool.false_eq_true, if_false])
      have hwork := @reaches_work i (.read kind statement look) .working statement rfl
        s hopen
      have hsame : s.through (Session.onReader (SqlStore.reading statement)) =
          s.write [] statement := by
        unfold SqlStore.write SqlStore.through Session.onReader Session.onWriter Connection.onReader
        simp only [hr]
        rfl
      rw [hsame]
      exact hqueue.trans hwork
    | some reader =>
      -- The turn is taken in one section, and the reading is the next one.
      have hturn : Reaches (alone i (.read kind statement look)) (.prepared, ⟨s, none⟩)
          (.reading (s.session.connection.turn % s.session.connection.readers.length),
            Shared.withSession ⟨s, none⟩ { s.session with connection :=
              { s.session.connection with turn := s.session.connection.turn + 1 } }) :=
        reaches_next
          (by simp only [next, takeTurn, Shared.session, hopen, hr, Bool.false_eq_true, if_false])
      refine hturn.trans (reaches_next ?_)
      have hnot : s.session.connection.closed = false := hopen
      simp only [next, readOn, Shared.session, Shared.withSession, hr, SqlStore.through,
        Session.onReader, Connection.onReader, hnot, Bool.false_eq_true, if_false]

/-- Closing, undisturbed. -/
theorem reaches_close (s : SqlStore) :
    Reaches (alone i .close) (.start, ⟨s, none⟩)
      (.answered (Store.wrap (fun _ => .nothing) s.close).1, ⟨s.close.2, none⟩) := by
  obtain ⟨⟨⟨file, writer, readers, turn, unsettled, closed⟩, guard, database⟩, stuck⟩ := s
  cases closed with
  | true => exact reaches_next rfl
  | false =>
    refine .trans (reaches_next rfl) (reaches_next ?_)
    cases file with
    | none => rfl
    | some name => cases unsettled <;> rfl

/-- **A thread that nobody disturbs carries out its plan.** -/
theorem reaches_answer (plan : Plan) (s : SqlStore) :
    Reaches (alone i plan) (.start, ⟨s, none⟩)
      (.answered (plan.perform s).1, ⟨(plan.perform s).2, none⟩) := by
  cases plan with
  | done answer => exact reaches_next rfl
  | write kinds statement => exact reaches_write kinds statement s
  | read kind statement look =>
    have hprepare := reaches_prepare (i := i) kind statement look s
    rw [Plan.perform_read]
    unfold SqlStore.read
    split at hprepare
    · next u s' hs =>
      rw [hs]
      exact hprepare.trans (reaches_read kind statement look s')
    · next e s' hs =>
      rw [hs]
      exact hprepare
  | ping => exact reaches_next rfl
  | close => exact reaches_close s

/-- Sections of one thread are those of a caller. -/
theorem run_advances (n : Nat) (i : Nat) (s : State) :
    run step s (List.replicate n (.advance i)) =
      run (Callers.step protocol) s (List.replicate n (.advance i)) := by
  induction n generalizing s with
  | zero => rfl
  | succ n ih => exact ih _

/-- **A thread that nobody disturbs does what the store does at one go**,
and is answered the same. -/
theorem run_alone (request : Request) (s : State) (hfree : s.shared.holder = none) :
    ∃ n, run step s (.call request :: List.replicate n (.advance s.callers.length)) =
      ⟨⟨(request.plan.perform s.shared.store).2, none⟩,
        s.callers ++ [⟨request.plan, .answered (request.plan.perform s.shared.store).1⟩]⟩ := by
  obtain ⟨⟨store, holder⟩, threads⟩ := s
  obtain rfl : holder = none := hfree
  obtain ⟨n, hn⟩ := Callers.course_of_reaches protocol
    (reaches_answer (i := threads.length) request.plan store)
  refine ⟨n, ?_⟩
  rw [run_cons, run_advances]
  exact Callers.run_undisturbed protocol hn

end Meterbank.Threads
