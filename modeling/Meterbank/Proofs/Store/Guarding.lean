/-
  Meterbank.Proofs.Store.Guarding — the guard tells the truth.

  The guard is told of a table only after the statement that creates it,
  outside any transaction, on the connection that writes; and nothing
  that a store runs drops a table.  So whatever the guard knows is there,
  however many threads go through their sections in between, and whatever
  failed before.

  Main results:
    * `next_passes` — what one section keeps, one case a section.
    * `run_guarded` — and so every run of any number of threads.
-/
import Meterbank.Proofs.Sql.Lasting
import Meterbank.Proofs.Store.Keeping
import Meterbank.Proofs.Store.Threads

namespace Meterbank

open Meterbank.Sql

/-! ## Plans -/

namespace Plan

/-- Whether what is to write drops no table, and what is to read changes
nothing. -/
def Sound : Plan → Prop
  | .write _ statement => Statement.KeepsTables statement
  | .read _ statement _ => ∀ (access : Access) (db : Database), (statement access db).2 = db
  | _ => True

theorem gauge_sound (receipt : Store.Payload) (key : String) (x : Binary64) :
    (gauge receipt key x).Sound := by
  unfold gauge
  cases checkGauge x with
  | error e => trivial
  | ok x => exact (Statement.upsert_keeps key x).map fun _ => receipt

theorem counter_sound (receipt : Int64 → Store.Payload) (key : String) (delta : Int64) :
    (counter receipt key delta).Sound :=
  (Statement.accumulate_keeps key delta).map receipt

theorem flush_sound (d : Delta) : (flush d).Sound := by
  unfold flush
  split
  · trivial
  · cases SqlStore.checkGauges d.gauges.toList with
    | error e => trivial
    | ok _ => exact (Statement.deltaStatement_keeps d).map fun _ => Store.Payload.nothing

theorem select_sound {α : Type} (source : Source α) (keys : List String)
    (look : Table α → Except StoreError Store.Payload) : (select source keys look).Sound :=
  fun access db => select_database access source.kind source.value keys db

/-- **No call drops a table.** -/
theorem ofCall_sound (call : Store.Call) : (ofCall call).Sound := by
  cases call with
  | writeData m =>
    simp only [ofCall]
    cases m.validate with
    | error e => trivial
    | ok u =>
      obtain ⟨id, sample⟩ := u
      cases sample with
      | gauge x => exact gauge_sound _ id x
      | counter delta => exact counter_sound _ id delta
  | writeBatch b =>
    simp only [ofCall]
    cases b.validate with
    | error e => trivial
    | ok us =>
      simp only
      cases Delta.ofUpdates us with
      | error e => trivial
      | ok d => exact flush_sound d
  | readData q =>
    simp only [ofCall]
    cases Kind.parse q.tag with
    | error e => trivial
    | ok kind =>
      cases kind with
      | gauge => exact select_sound .gauges _ _
      | counter => exact select_sound .counters _ _
  | readGauges keys => exact select_sound .gauges keys _
  | readCounters keys => exact select_sound .counters keys _
  | writeGaugeText key raw =>
    simp only [ofCall]
    cases parseGauge raw with
    | error e => trivial
    | ok x => exact gauge_sound _ key x
  | writeGauge key x => exact gauge_sound _ key x
  | writeCounterText key raw =>
    simp only [ofCall]
    cases parseCounter raw with
    | error e => trivial
    | ok delta => exact counter_sound _ key delta
  | writeCounter key delta => exact counter_sound _ key delta
  | dump | load | ping | close => trivial

/-- What a sound plan runs on the connection that writes drops no table. -/
theorem Sound.statement {plan : Plan} (h : plan.Sound) {errand : Threads.Errand}
    {statement : Access → Statement Store.Payload} (hs : plan.statement? errand = some statement) :
    Statement.KeepsTables statement := by
  cases plan with
  | write kinds st =>
    cases errand with
    | preparing => exact absurd hs (by simp [statement?])
    | working =>
      obtain rfl : st = statement := Option.some.inj hs
      exact h
  | read kind st look =>
    cases errand with
    | preparing => exact absurd hs (by simp [statement?])
    | working =>
      obtain rfl : st = statement := Option.some.inj hs
      intro access db
      rw [h access db]
      exact .refl db
  | done answer | ping | close => exact absurd hs (by simp [statement?])

end Plan

namespace Threads

theorem Request.plan_sound (request : Request) : request.plan.Sound := by
  cases request with
  | call c => exact Plan.ofCall_sound c
  | flush d => exact Plan.flush_sound d

/-! ## What is known at a point -/

/-- Whether the guard knows the tables of a plan, apart from some. -/
def Covered (plan : Plan) (guard : Guard) (kinds : List Kind) : Prop :=
  ∀ kind ∈ plan.tables, kind ∈ kinds ∨ guard.isReady kind = true

/-- Whether a thread has the connection that writes. -/
def Point.Holds : Point → Prop
  | .ensuring _ _ _ | .declaring _ _ _ _ | .marking _ _ _ _ | .publishing _ _ _
  | .releasing _ _ => True
  | _ => False

/-- What a thread relies on: a table of its plan that it will not make sure
of any more is known, one that it will tell the guard of is there, and what
it is about to commit has the tables that are there. -/
def Stands (plan : Plan) (s : Session) : Point → Prop
  | .looking => Covered plan s.guard (plan.ensures .preparing)
  | .queued errand => Covered plan s.guard (plan.ensures errand)
  | .ensuring _ _ kinds => Covered plan s.guard kinds
  | .declaring _ _ kind kinds => Covered plan s.guard (kind :: kinds)
  | .marking _ _ kind kinds =>
    Covered plan s.guard (kind :: kinds) ∧ (s.written.table? kind).isSome = true
  | .publishing _ _ draft => Covered plan s.guard [] ∧ s.written.Keeps draft
  | .releasing _ (.ok _) => Covered plan s.guard []
  | .prepared | .reading _ => Covered plan s.guard []
  | _ => True

theorem Covered.mono {plan : Plan} {guard guard' : Guard} {kinds kinds' : List Kind}
    (h : Covered plan guard kinds)
    (hguard : ∀ kind, guard.isReady kind = true → guard'.isReady kind = true)
    (hkinds : ∀ kind ∈ kinds, kind ∈ kinds' ∨ guard'.isReady kind = true) :
    Covered plan guard' kinds' := by
  intro kind hkind
  rcases h kind hkind with hmem | hready
  · exact hkinds kind hmem
  · exact .inr (hguard kind hready)

/-- Nothing of it is lost while the guard is told of tables and none is
dropped, as long as nobody else commits while something is not committed. -/
theorem Stands.mono {plan : Plan} {s s' : Session} {point : Point} (h : Stands plan s point)
    (hguard : ∀ kind, s.guard.isReady kind = true → s'.guard.isReady kind = true)
    (htables : s.written.Keeps s'.written) (hdraft : point.drafts = true → s'.written = s.written) :
    Stands plan s' point := by
  have hcovered {kinds : List Kind} (hc : Covered plan s.guard kinds) : Covered plan s'.guard kinds :=
    hc.mono hguard fun kind hk => .inl hk
  cases point with
  | looking | queued errand | ensuring errand access kinds | declaring errand access kind kinds
  | prepared | reading reader =>
    exact hcovered h
  | marking errand access kind kinds => exact ⟨hcovered h.1, htables kind h.2⟩
  | publishing errand answer draft =>
    refine ⟨hcovered h.1, ?_⟩
    rw [hdraft rfl]
    exact h.2
  | releasing errand answer =>
    cases answer with
    | ok payload => exact hcovered h
    | error e => trivial
  | start | checkpointing | answered answer => trivial

/-! ## One section -/

/-- What a section of a thread has kept, and what it has made sure of. -/
structure Passes (i : Nat) (plan : Plan) (s : Shared) (p : Point × Shared) : Prop where
  guard : ∀ kind, s.session.guard.isReady kind = true → p.2.session.guard.isReady kind = true
  tables : s.session.written.Keeps p.2.session.written
  truthful : p.2.session.guard.Truthful p.2.session.written
  stands : Stands plan p.2.session p.1
  holds : p.1.Holds → p.2.holder = some i
  others : ∀ j, j ≠ i → s.holder = some j →
    p.2.holder = some j ∧ p.2.session.written = s.session.written

section

variable {i : Nat} {plan : Plan} {s : Shared}

/-- A section that neither tells the guard anything nor commits. -/
theorem Passes.quiet {p : Point × Shared} (htruth : s.session.guard.Truthful s.session.written)
    (hguard : p.2.session.guard = s.session.guard)
    (hwritten : p.2.session.written = s.session.written) (hholder : p.2.holder = s.holder)
    (hstands : Stands plan p.2.session p.1) (hholds : p.1.Holds → s.holder = some i) :
    Passes i plan s p where
  guard kind hk := by rw [hguard]; exact hk
  tables := by rw [hwritten]; exact .refl _
  truthful := by rw [hguard, hwritten]; exact htruth
  stands := hstands
  holds h := by rw [hholder]; exact hholds h
  others _ _ hj := ⟨hholder.trans hj, hwritten⟩

/-- A section of the thread that has the connection that writes. -/
theorem Passes.holding {p : Point × Shared} (hmine : s.holder = some i)
    (hguard : ∀ kind, s.session.guard.isReady kind = true → p.2.session.guard.isReady kind = true)
    (htables : s.session.written.Keeps p.2.session.written)
    (htruth : p.2.session.guard.Truthful p.2.session.written)
    (hstands : Stands plan p.2.session p.1) (hholds : p.1.Holds → p.2.holder = some i) :
    Passes i plan s p where
  guard := hguard
  tables := htables
  truthful := htruth
  stands := hstands
  holds := hholds
  others _ hj hother := absurd (Option.some.inj (hmine.symm.trans hother)).symm hj

/-- What more tables are there, the guard knows no less truly. -/
theorem truthful_mono {guard : Guard} {db db' : Database} (h : guard.Truthful db)
    (hkeeps : db.Keeps db') : guard.Truthful db' := fun kind hk => hkeeps kind (h kind hk)

/-- The guard may be told of a table that is there. -/
theorem truthful_mark {guard : Guard} {db : Database} {kind : Kind} (h : guard.Truthful db)
    (hkind : (db.table? kind).isSome = true) : (guard.mark kind).Truthful db := by
  intro k hk
  by_cases heq : k = kind
  · rw [heq]
    exact hkind
  · refine h k ?_
    cases k <;> cases kind <;> first | exact absurd rfl heq | exact hk

/-- Being told of a table, the guard forgets none. -/
theorem isReady_mark_of_isReady {guard : Guard} {kind k : Kind} (h : guard.isReady k = true) :
    (guard.mark kind).isReady k = true := by
  cases k <;> cases kind <;> first | exact h | rfl

/-- A section that commits something in which no table is missing. -/
theorem Passes.committing {point : Point} {db : Database} (hmine : s.holder = some i)
    (htruth : s.session.guard.Truthful s.session.written) (hkeeps : s.session.written.Keeps db)
    (hstands : Stands plan (s.session.publish db) point) :
    Passes i plan s (point, s.withSession (s.session.publish db)) := by
  have hguard : (s.session.publish db).guard = s.session.guard := Session.guard_publish _ _
  have hwritten : (s.session.publish db).written = db := Session.written_publish _ _
  refine .holding hmine ?_ ?_ ?_ hstands fun _ => hmine
  · intro k hk
    show (s.session.publish db).guard.isReady k = true
    rw [hguard]
    exact hk
  · show s.session.written.Keeps (s.session.publish db).written
    rw [hwritten]
    exact hkeeps
  · show (s.session.publish db).guard.Truthful (s.session.publish db).written
    rw [hguard, hwritten]
    exact truthful_mono htruth hkeeps

theorem written_leave {α : Type} (s : Session) (answer : Except StoreError α) :
    (s.leave answer).written = s.written :=
  Link.view_after s.connection.writer answer s.written s.database

theorem letIn_passes {point : Point} (htruth : s.session.guard.Truthful s.session.written)
    (hstands : Stands plan s.session point) (hfree : ¬ point.Holds) :
    Passes i plan s (s.letIn point, s) := by
  unfold Shared.letIn
  split
  · exact .quiet htruth rfl rfl rfl trivial fun h => h.elim
  · exact .quiet htruth rfl rfl rfl hstands fun h => absurd h hfree

theorem begin_passes (htruth : s.session.guard.Truthful s.session.written) :
    Passes i plan s (begin plan s) := by
  cases plan with
  | done answer => exact .quiet htruth rfl rfl rfl trivial fun h => h.elim
  | write kinds statement =>
    -- All tables of a write are made sure of.
    exact letIn_passes htruth (fun kind hk => .inl hk) fun h => h
  | read kind statement look =>
    simp only [begin]
    by_cases hready : s.session.guard.isReady kind = true
    · rw [if_pos hready]
      refine .quiet htruth rfl rfl rfl (fun k hk => .inr ?_) fun h => h.elim
      rw [List.mem_singleton.1 hk]
      exact hready
    · rw [if_neg hready]
      exact .quiet htruth rfl rfl rfl (fun k hk => .inl hk) fun h => h.elim
  | ping =>
    obtain ⟨⟨⟨⟨file, writer, readers, turn, unsettled, closed⟩, guard, database⟩, stuck⟩, holder⟩ := s
    cases stuck <;> cases closed <;> exact .quiet htruth rfl rfl rfl trivial fun h => h.elim
  | close =>
    simp only [begin]
    split
    · exact .quiet htruth rfl rfl rfl trivial fun h => h.elim
    · exact .quiet htruth rfl rfl rfl trivial fun h => h.elim

theorem declaring_passes {errand : Errand} {access : Access} {kind : Kind} {kinds : List Kind}
    (htruth : s.session.guard.Truthful s.session.written)
    (hstands : Stands plan s.session (.declaring errand access kind kinds))
    (hmine : s.holder = some i) :
    Passes i plan s (next i plan (.declaring errand access kind kinds) s) := by
  have hkeeps : s.session.written.Keeps (Statement.create access kind s.session.written).2 :=
    Statement.declare_keeps kind none access s.session.written
  simp only [next]
  cases hc : Statement.create access kind s.session.written with
  | mk answer db =>
    rw [hc] at hkeeps
    cases answer with
    | error e => exact .committing hmine htruth hkeeps trivial
    | ok u =>
      have hthere := Statement.create_ok (congrArg Prod.fst hc)
      rw [hc] at hthere
      refine .committing hmine htruth hkeeps ⟨?_, ?_⟩
      · rw [Session.guard_publish]
        exact hstands
      · rw [Session.written_publish]
        exact hthere

theorem ensuring_passes {errand : Errand} {access : Access} {kinds : List Kind}
    (hsound : plan.Sound) (htruth : s.session.guard.Truthful s.session.written)
    (hstands : Stands plan s.session (.ensuring errand access kinds)) (hmine : s.holder = some i) :
    Passes i plan s (next i plan (.ensuring errand access kinds) s) := by
  cases kinds with
  | cons kind kinds =>
    simp only [next]
    by_cases hready : s.session.guard.isReady kind = true
    · rw [if_pos hready]
      refine .quiet htruth rfl rfl rfl ?_ fun _ => hmine
      refine Covered.mono hstands (fun _ h => h) fun k hk => ?_
      rcases List.mem_cons.1 hk with rfl | hk
      · exact .inr hready
      · exact .inl hk
    · rw [if_neg hready]
      exact .quiet htruth rfl rfl rfl hstands fun _ => hmine
  | nil =>
    simp only [next]
    cases hst : plan.statement? errand with
    | none => exact .quiet htruth rfl rfl rfl hstands fun _ => hmine
    | some statement =>
      -- What the statement has done is not committed yet.
      exact .quiet htruth rfl rfl rfl
        ⟨hstands, hsound.statement hst access s.session.written⟩ fun _ => hmine

theorem takeTurn_passes (htruth : s.session.guard.Truthful s.session.written)
    (hstands : Stands plan s.session .prepared) : Passes i plan s (takeTurn s) := by
  simp only [takeTurn]
  split
  · exact .quiet htruth rfl rfl rfl trivial fun h => h.elim
  · split
    · exact .quiet htruth rfl rfl rfl (Covered.mono hstands (fun _ h => h) (by simp)) fun h => h.elim
    · exact .quiet htruth rfl rfl rfl hstands fun h => h.elim

theorem readOn_passes {reader : Nat} (hsound : plan.Sound)
    (htruth : s.session.guard.Truthful s.session.written)
    (hstands : Stands plan s.session (.reading reader)) : Passes i plan s (readOn plan reader s) := by
  cases hr : s.session.connection.readers[reader]? with
  | none =>
    have hsame : readOn plan reader s = (.reading reader, s) := by
      unfold readOn
      cases plan <;> simp only [hr]
    rw [hsame]
    exact .quiet htruth rfl rfl rfl hstands fun h => h.elim
  | some link =>
    cases plan with
    | read kind statement look =>
      have hrun : (link.run (SqlStore.reading statement) (s.session.guard, s.session.database)).2.2 =
          (s.session.guard, s.session.database) := by
        unfold Link.run
        cases link.own with
        | none => exact Prod.ext rfl (hsound link.offer s.session.database)
        | some own => rfl
      simp only [readOn, hr]
      refine .quiet htruth (congrArg Prod.fst hrun) ?_ rfl trivial fun h => h.elim
      show s.session.connection.writer.own.getD (link.run (SqlStore.reading statement)
        (s.session.guard, s.session.database)).2.2.2 = s.session.written
      rw [hrun]
      rfl
    | done answer | write kinds statement | ping | close =>
      exact .quiet htruth rfl rfl rfl hstands fun h => h.elim

theorem checkpoint_passes (htruth : s.session.guard.Truthful s.session.written) :
    Passes i plan s (checkpoint s) := by
  unfold checkpoint
  split
  · exact .quiet htruth rfl rfl rfl trivial fun h => h.elim
  · split
    · exact .quiet htruth rfl rfl rfl trivial fun h => h.elim
    · split
      · exact .quiet htruth rfl rfl rfl trivial fun h => h.elim
      · exact .quiet htruth rfl rfl rfl trivial fun h => h.elim

/-- **What one section keeps.**  The connection that writes is taken before
a table is declared, and given back after everything is committed. -/
theorem next_passes {point : Point} (hsound : plan.Sound)
    (htruth : s.session.guard.Truthful s.session.written) (hstands : Stands plan s.session point)
    (hholds : point.Holds → s.holder = some i) : Passes i plan s (next i plan point s) := by
  cases point with
  | start => exact begin_passes htruth
  | looking => exact letIn_passes htruth hstands fun h => h
  | queued errand =>
    simp only [next]
    by_cases hheld : s.holder.isSome = true
    · rw [if_pos hheld]
      exact .quiet htruth rfl rfl rfl hstands fun h => h.elim
    · rw [if_neg hheld]
      have hfree : s.holder = none := by simpa using hheld
      exact {
        guard := fun _ h => h
        tables := .refl _
        truthful := htruth
        stands := hstands
        holds := fun _ => rfl
        others := fun j _ hj => absurd (hfree.symm.trans hj) (by simp) }
  | ensuring errand access kinds => exact ensuring_passes hsound htruth hstands (hholds trivial)
  | declaring errand access kind kinds => exact declaring_passes htruth hstands (hholds trivial)
  | marking errand access kind kinds =>
    refine .holding (hholds trivial) (fun k hk => isReady_mark_of_isReady hk) (.refl _)
      (truthful_mark htruth hstands.2) ?_ fun _ => hholds trivial
    refine hstands.1.mono (fun k hk => isReady_mark_of_isReady hk) fun k hk => ?_
    rcases List.mem_cons.1 hk with rfl | hk
    · exact .inr (Guard.isReady_mark _ _)
    · exact .inl hk
  | publishing errand answer draft =>
    -- Nobody else has committed since the statement was run.
    refine .committing (hholds trivial) htruth hstands.2 ?_
    cases answer with
    | ok payload =>
      show Covered plan (s.session.publish draft).guard []
      rw [Session.guard_publish]
      exact hstands.1
    | error e => trivial
  | releasing errand answer =>
    have hwritten : ((next i plan (.releasing errand answer) s).2).session.written =
        s.session.written := written_leave s.session answer
    refine .holding (hholds trivial) (fun _ h => h) ?_ ?_ ?_ ?_
    · rw [hwritten]
      exact .refl _
    · rw [hwritten]
      exact htruth
    · cases errand with
      | working => trivial
      | preparing =>
        cases answer with
        | ok payload => exact hstands
        | error e => trivial
    · cases errand with
      | working => exact fun h => h.elim
      | preparing => cases answer <;> exact fun h => h.elim
  | prepared => exact takeTurn_passes htruth hstands
  | reading reader => exact readOn_passes hsound htruth hstands
  | checkpointing => exact checkpoint_passes htruth
  | answered answer => exact .quiet htruth rfl rfl rfl trivial fun h => h.elim

end

/-! ## Runs -/

/-- A state in which the guard tells the truth and every thread finds what
it relies on. -/
structure Guarded (s : State) : Prop where
  truthful : s.shared.session.guard.Truthful s.shared.session.written
  sound : ∀ (i : Nat) (t : Thread), s.callers[i]? = some t → t.task.Sound
  stands : ∀ (i : Nat) (t : Thread), s.callers[i]? = some t →
    Stands t.task s.shared.session t.point
  holds : ∀ (i : Nat) (t : Thread), s.callers[i]? = some t → t.point.Holds → s.shared.holder = some i

theorem keepsTables_iff (db db' : Database) : keepsTables db db' = true ↔ db.Keeps db' := by
  unfold keepsTables Database.Keeps Database.kinds
  rw [List.all_eq_true]
  constructor
  · intro h kind hk
    refine h kind (List.mem_filter.2 ⟨?_, hk⟩)
    cases kind <;> simp
  · intro h kind hk
    exact h kind (List.mem_filter.1 hk).2

/-- Who drafts something has the connection that writes. -/
theorem Point.holds_of_drafts {point : Point} (h : point.drafts = true) : point.Holds := by
  cases point <;> trivial

namespace Guarded

variable {s : State}

/-- Something that happens between the sections of all threads. -/
theorem outside (h : Guarded s) {shared : Shared} (hguard : shared.session.guard = s.shared.session.guard)
    (htables : s.shared.session.written.Keeps shared.session.written)
    (hdraft : ∀ t ∈ s.callers, t.point.drafts = true →
      shared.session.written = s.shared.session.written)
    (hholder : shared.holder = s.shared.holder) : Guarded ⟨shared, s.callers⟩ where
  truthful := by
    rw [hguard]
    exact truthful_mono h.truthful htables
  sound := h.sound
  stands i t ht := (h.stands i t ht).mono (fun kind hk => by rw [hguard]; exact hk) htables
    (hdraft t (List.mem_of_getElem? ht))
  holds i t ht hp := hholder.trans (h.holds i t ht hp)

/-- **A section of any thread.** -/
theorem advance (h : Guarded s) (i : Nat) : Guarded (step s (.advance i)) := by
  show Guarded (Callers.step protocol s (.advance i))
  cases ht : s.callers[i]? with
  | none =>
    rw [Callers.step_absent protocol ht]
    exact h
  | some t =>
    have hpasses := next_passes (h.sound i t ht) h.truthful (h.stands i t ht) (h.holds i t ht)
    have hshared : (Callers.step protocol s (.advance i)).shared =
        (next i t.task t.point s.shared).2 := by
      rw [Callers.step_advance protocol ht]
      rfl
    -- The thread itself has passed its section, and the others lose nothing by it.
    have hthreads (j : Nat) (u : Thread)
        (hu : (Callers.step protocol s (.advance i)).callers[j]? = some u) :
        (j = i ∧ u = ⟨t.task, (next i t.task t.point s.shared).1⟩) ∨
          (j ≠ i ∧ s.callers[j]? = some u) := by
      rcases Callers.step_caller protocol hu with ⟨hu, hj⟩ | ⟨c, hc, hj, rfl⟩ | ⟨task, hcall, -⟩
      · exact .inr ⟨fun hij => hj (by rw [hij]), hu⟩
      · obtain rfl := Callers.Event.advance.inj hj
        obtain rfl := Option.some.inj (ht.symm.trans hc)
        exact .inl ⟨rfl, rfl⟩
      · exact absurd hcall (by simp)
    refine ⟨?_, ?_, ?_, ?_⟩
    · rw [hshared]
      exact hpasses.truthful
    · intro j u hu
      rcases hthreads j u hu with ⟨-, rfl⟩ | ⟨-, hu⟩
      · exact h.sound i t ht
      · exact h.sound j u hu
    · intro j u hu
      rw [hshared]
      rcases hthreads j u hu with ⟨-, rfl⟩ | ⟨hj, hu⟩
      · exact hpasses.stands
      · exact (h.stands j u hu).mono hpasses.guard hpasses.tables fun hd =>
          (hpasses.others j hj (h.holds j u hu (Point.holds_of_drafts hd))).2
    · intro j u hu hp
      rw [hshared]
      rcases hthreads j u hu with ⟨rfl, rfl⟩ | ⟨hj, hu⟩
      · exact hpasses.holds hp
      · exact (hpasses.others j hj (h.holds j u hu hp)).1

/-- A thread that comes has done nothing yet. -/
theorem call (h : Guarded s) (request : Request) : Guarded (step s (.call request)) := by
  have hthreads (i : Nat) (t : Thread)
      (ht : (Callers.step protocol s (.call request.plan)).callers[i]? = some t) :
      s.callers[i]? = some t ∨ t = ⟨request.plan, .start⟩ := by
    rcases Callers.step_caller protocol ht with ⟨ht, -⟩ | ⟨c, -, hcall, -⟩ | ⟨task, hcall, rfl⟩
    · exact .inl ht
    · exact absurd hcall (by simp)
    · obtain rfl := Callers.Event.call.inj hcall
      exact .inr rfl
  refine ⟨h.truthful, ?_, ?_, ?_⟩
  · intro i t ht
    rcases hthreads i t ht with ht | rfl
    · exact h.sound i t ht
    · exact request.plan_sound
  · intro i t ht
    rcases hthreads i t ht with ht | rfl
    · exact h.stands i t ht
    · trivial
  · intro i t ht hp
    rcases hthreads i t ht with ht | rfl
    · exact h.holds i t ht hp
    · exact hp.elim

/-- **What any event keeps.** -/
theorem step (h : Guarded s) (e : Event) : Guarded (step s e) := by
  cases e with
  | call request => exact h.call request
  | advance i => exact h.advance i
  | outside db =>
    show Guarded (s.outside db)
    unfold State.outside
    split
    · next hallowed =>
      have hkeeps := (keepsTables_iff _ _).1 hallowed.1
      have hdrafts := List.all_eq_true.1 hallowed.2
      refine h.outside rfl ?_ ?_ rfl
      · -- A connection with a database of its own does not see the change.
        show (s.shared.session.connection.writer.own.getD _).Keeps
          (s.shared.session.connection.writer.own.getD db)
        cases s.shared.session.connection.writer.own with
        | none => exact hkeeps
        | some own => exact .refl own
      · intro t ht hd
        exact absurd (hdrafts t ht) (by simp [hd])
    · exact h
  | access reader access =>
    have hwritten : (s.shared.withSession { s.shared.session with
        connection := giveAccess s.shared.session.connection reader access }).session.written =
          s.shared.session.written := by cases reader <;> rfl
    refine h.outside rfl ?_ (fun _ _ _ => hwritten) rfl
    rw [hwritten]
    exact .refl _
  | unsettle fault => exact h.outside rfl (.refl _) (fun _ _ _ => rfl) rfl
  | stall stuck => exact h.outside rfl (.refl _) (fun _ _ _ => rfl) rfl

/-- A store without threads. -/
theorem started (connection : Connection) (db : Database) :
    Guarded (start (.create (.start connection db))) where
  truthful kind hk := by
    cases kind <;> exact absurd hk (by
      simp [start, Callers.start, SqlStore.create, Session.start, Shared.session,
        Guard.fresh, Guard.isReady])
  sound i t ht := absurd ht (by simp [start, Callers.start])
  stands i t ht := absurd ht (by simp [start, Callers.start])
  holds i t ht := absurd ht (by simp [start, Callers.start])

end Guarded

/-- **In every run the guard tells the truth.** -/
theorem run_guarded {s : State} (h : Guarded s) (events : List Event) :
    Guarded (run step s events) :=
  run_keeps (fun _ e hs => hs.step e) h events

end Threads

end Meterbank
