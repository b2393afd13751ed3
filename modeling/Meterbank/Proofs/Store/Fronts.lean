/-
  Meterbank.Proofs.Store.Fronts — databases in files that mirror a store in memory.

  A database may be used as it is, or behind a window.  Either way a store
  in memory can stand for what is in it: whatever is asked of the store
  over the database is answered as the store in memory would answer, and
  leaves the same tables.  They are on the disk at any time, and stay there
  when the store is closed.

  Main results:
    * `Front.sql_lawful`, `Front.coalesced_lawful` — both kinds mirror.
    * `Front.Serves.run` — an operation is run on a store that mirrors.
    * `Front.Lawful.facade_alike` — so a facade looks like a store in memory.
    * `Front.Serves.opened`, `Front.Serves.closed` — what is on the disk
      before and after.
-/
import Meterbank.Proofs.Store.Publishing
import Meterbank.Store.Sessions

namespace Meterbank

open Meterbank.Sql Meterbank.Window Meterbank.Disk

/-! ## Two kinds of stores -/

/-- A kind of store over a database, and what it is to mirror a store in memory. -/
structure Front (σ : Type) where
  wrap : Gates → σ → Backend
  sqlOf : σ → SqlStore
  withSql : σ → SqlStore → σ
  operations : Store σ
  Mirrors : FileStore → σ → Prop

namespace Front

/-- A database as it is. -/
def sql : Front SqlStore where
  wrap := .sql
  sqlOf := id
  withSql _ sql := sql
  operations := SqlStore.operations
  Mirrors := FileStore.Mirrors

/-- A database behind a window. -/
def coalesced : Front CoalescedStore where
  wrap := .coalesced
  sqlOf := CoalescedStore.sql
  withSql s sql := { s with sql }
  operations := CoalescedStore.operations
  Mirrors := FileStore.MirrorsBehind

variable {σ : Type}

/-- The calls that are for the store itself, and leave the tables. -/
def isQuiet : Store.Call → Bool
  | .dump | .load | .ping => true
  | _ => false

/-- What is relied on of a kind of store. -/
structure Lawful (F : Front σ) : Prop where
  runs : ∀ {α : Type} (op : {τ : Type} → Store τ → τ → Except StoreError α × τ) gates s d,
    Backend.operation op (F.wrap gates s, d) =
      let r := Backend.shared gates F.sqlOf F.withSql (op F.operations) s d
      (r.1, F.wrap gates r.2.1, r.2.2)
  kind : ∀ gates s, (F.wrap gates s).kind ≠ .file
  drops : ∀ gates s d, (F.wrap gates s).drop d = release gates d
  /-- A timer does nothing, or something that leaves the database. -/
  ticks : ∀ gates s d,
    Facade.tick (⟨F.wrap gates s, none, false⟩, d) = (⟨F.wrap gates s, none, false⟩, d) ∨
      ∃ tick : σ → σ,
        (∀ f s, F.Mirrors f s → F.Mirrors f (tick s) ∧ F.sqlOf (tick s) = F.sqlOf s) ∧
        Facade.tick (⟨F.wrap gates s, none, false⟩, d) =
          let r := Backend.shared gates F.sqlOf F.withSql (fun s => (.ok (), tick s)) s d
          (⟨F.wrap gates r.2.1, none, false⟩, r.2.2)
  sqlOf_withSql : ∀ s sql, F.sqlOf (F.withSql s sql) = sql
  mirrors : ∀ {f s}, F.Mirrors f s → f.Mirrors (F.sqlOf s)
  putSql : ∀ {f s sql}, F.Mirrors f s → f.Mirrors sql → F.Mirrors f (F.withSql s sql)
  alike : Store.Alike FileStore.operations F.operations fun p s => F.Mirrors p.1 s
  keeps : ∀ {f s P}, F.Mirrors f s → SqlStore.Kept P → P (F.sqlOf s) → ∀ call,
    P (F.sqlOf (F.operations.perform call s).2)
  quiet : ∀ {f s call}, F.Mirrors f s → isQuiet call = true →
    F.Mirrors f (F.operations.perform call s).2
  closes : ∀ {f s}, F.Mirrors f s →
    (F.sqlOf (F.operations.perform .close s).2).session.database = (F.sqlOf s).session.database

/-- A store that is pinged keeps its tables. -/
theorem ping_mirrors {f : FileStore} {s : SqlStore} (h : f.Mirrors s) :
    f.Mirrors (s.pingWhile false).2 := by
  refine SqlStore.ping_keeps (P := f.Mirrors) h ?_
  simp only [SqlStore.through, Session.knock, Connection.knock]
  split
  · exact h
  · exact ⟨⟨h.faithful.serving, h.faithful.writes, h.faithful.writer, h.faithful.readers⟩,
      h.guard, h.tables⟩

theorem sql_lawful : sql.Lawful where
  runs _ _ _ _ := rfl
  kind _ _ := by simp [sql, Backend.kind]
  drops _ _ _ := rfl
  ticks _ _ _ := .inl rfl
  sqlOf_withSql _ _ := rfl
  mirrors h := h
  putSql _ h := h
  alike := file_sql_alike
  keeps _ hP h call := hP.call h call
  quiet {f s call} h hq := by
    cases call with
    | dump => exact h
    | load => exact h
    | ping => exact ping_mirrors h
    | _ => exact absurd hq (by simp [isQuiet])
  closes _ := rfl

theorem coalesced_lawful : coalesced.Lawful where
  runs _ _ _ _ := rfl
  kind _ _ := by simp [coalesced, Backend.kind]
  drops _ _ _ := rfl
  ticks gates s d := .inr ⟨CoalescedStore.tick, fun f s h => by
    obtain ⟨hrest, hserving, hsql⟩ := tick_rests CoalescedStore.sink h.resting h.serving s.sql
    have hsame : s.tick.sql = s.sql := hsql
    exact ⟨⟨hsame ▸ h.sql, hrest, hserving⟩, hsame⟩, rfl⟩
  sqlOf_withSql _ _ := rfl
  mirrors h := h.sql
  putSql h hsql := ⟨hsql, h.resting, h.serving⟩
  alike := file_coalesced_alike
  keeps h hP hs call := CoalescedStore.perform_keeps hP h.resting hs call
  quiet {f s call} h hq := by
    cases call with
    | dump =>
      obtain ⟨hrest, hserving, hsql, -⟩ := CoalescedStore.dump_rests h.resting
      simp only [coalesced, CoalescedStore.perform_dump]
      exact ⟨hsql ▸ h.sql, hrest, hserving h.serving⟩
    | load => exact h
    | ping => exact ⟨ping_mirrors h.sql, h.resting, h.serving⟩
    | _ => exact absurd hq (by simp [isQuiet])
  closes {f s} h := by
    simp only [coalesced, CoalescedStore.perform_close, (CoalescedStore.close_rests h.resting).2.1]
    rfl

variable {F : Front σ} {f : FileStore} {n : Nat} {place : Place} {k : Keeping} {path : List UInt8}
  {q : Facade.State}

/-! ## One operation -/

/-- An operation is run on a store that mirrors, and the disk follows. -/
theorem Lawful.shared {α : Type} (hF : F.Lawful) {gates : Gates} {s : σ} {d : Disk}
    (hm : F.Mirrors f s) (hc : Connected n place k gates d (F.sqlOf s).session.database)
    (op : σ → Except StoreError α × σ)
    (hop : ∀ {P s}, F.Mirrors f s → SqlStore.Kept P → P (F.sqlOf s) → P (F.sqlOf (op s).2)) :
    ∃ s₁ d', F.Mirrors f s₁ ∧
      Backend.shared gates F.sqlOf F.withSql op s d = ((op s₁).1, (op s₁).2, d') ∧
      Follows n place k d (F.sqlOf (op s₁).2).session.database d' := by
  obtain ⟨hkeeps, hdatabase⟩ := hc.attach (hF.mirrors hm)
  have hm₁ : F.Mirrors f (F.withSql s (Backend.attach gates (F.sqlOf s) d)) := hF.putSql hm hkeeps
  have htraced := hop hm₁ (SqlStore.traced_lasting _).kept (by
    rw [hF.sqlOf_withSql]
    exact hkeeps.traced)
  rw [hdatabase] at htraced
  exact ⟨_, _, hm₁, rfl, hc.publish _ htraced⟩

/-- A facade over a database in a file that mirrors a store in memory. -/
def Serves (F : Front σ) (n : Nat) (place : Place) (k : Keeping) (path : List UInt8)
    (f : FileStore) (q : Facade.State) : Prop :=
  ∃ gates s, q.1 = ⟨F.wrap gates s, none, false⟩ ∧ F.Mirrors f s ∧
    Connected n place k gates q.2 (F.sqlOf s).session.database ∧ q.2.Leads path place

/-- **An operation of a facade is run on a store that mirrors**, and if that goes on to mirror a
store in memory, so does the facade. -/
theorem Serves.run {α : Type} (h : F.Serves n place k path f q) (hF : F.Lawful)
    (op : {τ : Type} → Store τ → τ → Except StoreError α × τ) (call : Store.Call)
    (hcall : ∀ s, (op F.operations s).2 = (F.operations.perform call s).2) :
    ∃ s₁, F.Mirrors f s₁ ∧
      (Facade.onBackend (Backend.operation op) q).1 = (op F.operations s₁).1 ∧
      ∀ f', F.Mirrors f' (op F.operations s₁).2 →
        F.Serves n place k path f' (Facade.onBackend (Backend.operation op) q).2 := by
  obtain ⟨gates, s, hq, hm, hc, hleads⟩ := h
  obtain ⟨facade, d⟩ := q
  simp only at hq hc hleads
  subst hq
  obtain ⟨s₁, d', hm₁, hshared, hfollows⟩ := hF.shared hm hc (op F.operations) fun hm hP hs => by
    rw [hcall]
    exact hF.keeps hm hP hs call
  unfold Facade.onBackend
  simp only [hF.runs, hshared]
  exact ⟨s₁, hm₁, rfl, fun f' hm' =>
    ⟨gates, _, rfl, hm', hc.follow hfollows, hleads.elsewhere hfollows.elsewhere⟩⟩

/-- What the stores in memory and behind the facade agree on, the facade agrees on. -/
theorem Serves.agree {α β : Type} {p : FileStore.State} (h : F.Serves n place k path p.1 q)
    (hF : F.Lawful) {shown : α → β} (op : {τ : Type} → Store τ → τ → Except StoreError α × τ)
    (call : Store.Call) (hcall : ∀ s, (op F.operations s).2 = (F.operations.perform call s).2)
    (halike : ∀ s, F.Mirrors p.1 s → Store.Agree (fun p s => F.Mirrors p.1 s) shown
      (op FileStore.operations p) (op F.operations s)) :
    Store.Agree (fun p q => F.Serves n place k path p.1 q) shown (op FileStore.operations p)
      (Facade.onBackend (Backend.operation op) q) := by
  obtain ⟨s₁, hm, hanswer, hserves⟩ := h.run hF op call hcall
  obtain ⟨hsame, hm'⟩ := halike s₁ hm
  exact ⟨by rw [hsame, hanswer], hserves _ hm'⟩

/-- **A facade over a database looks like a store in memory.** -/
theorem Lawful.facade_alike (hF : F.Lawful) (n : Nat) (place : Place) (k : Keeping)
    (path : List UInt8) :
    Store.Alike FileStore.operations Facade.operations fun p q =>
      F.Serves n place k path p.1 q where
  writeData h m := h.agree hF (fun S => S.writeData m) (.writeData m) (fun _ => rfl)
    fun _ hm => hF.alike.writeData hm m
  writeBatch h b := h.agree hF (fun S => S.writeBatch b) (.writeBatch b) (fun _ => rfl)
    fun _ hm => hF.alike.writeBatch hm b
  readGauges h keys := h.agree hF (fun S => S.readGauges keys) (.readGauges keys) (fun _ => rfl)
    fun _ hm => hF.alike.readGauges hm keys
  readCounters h keys := h.agree hF (fun S => S.readCounters keys) (.readCounters keys)
    (fun _ => rfl) fun _ hm => hF.alike.readCounters hm keys
  writeGauge h key x := h.agree hF (fun S => S.writeGauge key x) (.writeGauge key x) (fun _ => rfl)
    fun _ hm => hF.alike.writeGauge hm key x
  writeCounter h key delta := h.agree hF (fun S => S.writeCounter key delta)
    (.writeCounter key delta) (fun _ => rfl) fun _ hm => hF.alike.writeCounter hm key delta

/-- A call that is for the store itself leaves the tables. -/
theorem Serves.quiet {α : Type} (h : F.Serves n place k path f q) (hF : F.Lawful)
    (op : {τ : Type} → Store τ → τ → Except StoreError α × τ) (call : Store.Call)
    (hq : isQuiet call = true)
    (hcall : ∀ s, (op F.operations s).2 = (F.operations.perform call s).2) :
    F.Serves n place k path f (Facade.onBackend (Backend.operation op) q).2 := by
  obtain ⟨s₁, hm, -, hserves⟩ := h.run hF op call hcall
  refine hserves f ?_
  rw [hcall]
  exact hF.quiet hm hq

/-- A timer leaves the tables. -/
theorem Serves.tick (h : F.Serves n place k path f q) (hF : F.Lawful) :
    F.Serves n place k path f (Facade.tick q) := by
  obtain ⟨gates, s, hq, hm, hc, hleads⟩ := h
  obtain ⟨facade, d⟩ := q
  simp only at hq hc hleads
  subst hq
  rcases hF.ticks gates s d with hnothing | ⟨tick, hquiet, hrun⟩
  · rw [hnothing]
    exact ⟨gates, s, rfl, hm, hc, hleads⟩
  · obtain ⟨s₁, d', hm₁, hshared, hfollows⟩ :=
      hF.shared hm hc (fun s => ((.ok () : Except StoreError Unit), tick s)) fun hm _ hs => by
        rw [(hquiet f _ hm).2]
        exact hs
    rw [hrun]
    simp only [hshared]
    exact ⟨gates, tick s₁, rfl, (hquiet f s₁ hm₁).1, hc.follow hfollows,
      hleads.elsewhere hfollows.elsewhere⟩

/-! ## From one session to the next -/

/-- What is on the disk between the sessions of a store that mirrors `f`. -/
def Rests (place : Place) (k : Keeping) (path : List UInt8) (f : FileStore) (d : Disk) : Prop :=
  ∃ db, d.Stands place k db ∧ db.Holds f.gauges.unsigned f.counters ∧ d.Leads path place

/-- **Opening leads to a store that mirrors**, if its backend does. -/
theorem Serves.opened {c : Config} {d d' : Disk} {backend : Backend} (hF : F.Lawful)
    (hvalid : c.validate = .ok ()) (hopen : Facade.openBackend c d = (.ok backend, d'))
    (h : F.Serves n place k path f (⟨backend, none, false⟩, d')) :
    ∃ facade d'', Facade.openStore c d = (.ok facade, d'') ∧
      F.Serves n place k path f (facade, d'') := by
  have hrestored : F.Serves n place k path f
      (⟨(Facade.restore c (backend, d')).1, none, false⟩, (Facade.restore c (backend, d')).2) := by
    unfold Facade.restore
    split
    · exact h.quiet hF (fun S => S.load) .load rfl fun _ => rfl
    · exact h
  have hworker : Facade.workerFor c (Facade.restore c (backend, d')).1 = none := by
    obtain ⟨gates, s, hq, -⟩ := hrestored
    have hbackend : (Facade.restore c (backend, d')).1 = F.wrap gates s :=
      congrArg Facade.backend hq
    unfold Facade.workerFor
    rw [hbackend, if_neg fun hfile => hF.kind gates s hfile.1]
  refine ⟨_, _, ?_, hrestored⟩
  unfold Facade.openStore
  rw [hvalid]
  simp only [hopen, hworker]

/-- **Closing leaves the tables on the disk**, whether or not the store is dropped. -/
theorem Serves.closed (h : F.Serves n place k path f q) (hF : F.Lawful) (dropped : Bool) :
    Rests place k path f (Facade.finish dropped q) := by
  obtain ⟨gates, s, hq, hm, hc, hleads⟩ := h
  obtain ⟨facade, d⟩ := q
  simp only at hq hc hleads
  subst hq
  obtain ⟨s₁, d', hm₁, hshared, hfollows⟩ :=
    hF.shared hm hc (fun s => F.operations.close s) fun hm hP hs => hF.keeps hm hP hs .close
  have hdatabase : (F.sqlOf (F.operations.close s₁).2).session.database =
    (F.sqlOf s₁).session.database := hF.closes hm₁
  rw [hdatabase] at hfollows
  have hclosed := hc.follow hfollows
  have hclose : Facade.close (⟨F.wrap gates s, none, false⟩, d) =
      ((F.operations.close s₁).1, ⟨F.wrap gates (F.operations.close s₁).2, none, true⟩, d') := by
    have hrun := hF.runs (fun S => S.close) gates s d
    simp only [hshared] at hrun
    unfold Facade.close Facade.onBackend
    simp only [Facade.stopWorker, Backend.operations, hrun]
    rfl
  refine ⟨_, ?_, (hF.mirrors hm₁).tables, ?_⟩
  all_goals
    unfold Facade.finish
    rw [hclose]
    simp only [Holding.drop, Facade.stopWorker, hF.drops]
    have hrelease := hclosed.houses.release hclosed.admits
    rw [hclosed.current] at hrelease
  · split
    · exact (hclosed.follow hrelease).stands
    · exact hclosed.stands
  · have hleads' := hleads.elsewhere hfollows.elsewhere
    split
    · exact hleads'.elsewhere hrelease.elsewhere
    · exact hleads'

variable {name : String} {a b : Address} {d : Disk}

/-- Opening a database finds what is on the disk. -/
theorem sql_opens (h : Rests place a.route a.name f d) (hname : Address.OfFile name a b)
    (hshort : pathLength place ≤ maxDatabasePath) (readers : Nat) :
    ∃ n backend d', Backend.openSql name readers d = (.ok backend, d') ∧
      sql.Serves n place a.route a.name f (⟨backend, none, false⟩, d') := by
  obtain ⟨db, hstands, hdb, hleads⟩ := h
  obtain ⟨n, gates, d', hopen, hc, helsewhere⟩ := hstands.openDatabase hname hleads hshort readers
  obtain ⟨hkeeps, hdatabase⟩ := hc.session (.toFile name readers) rfl hdb
  refine ⟨n, _, d', ?_, gates, _, rfl, hkeeps, ?_, hleads.elsewhere helsewhere⟩
  · unfold Backend.openSql
    rw [hopen]
    rfl
  · show Connected n place a.route gates d' (d'.session (.toFile name readers, gates)).database
    rw [hdatabase]
    exact hc

/-- So does opening a database behind a window. -/
theorem coalesced_opens (h : Rests place a.route a.name f d) (hname : Address.OfFile name a b)
    (hshort : pathLength place ≤ maxDatabasePath) (readers : Nat) {interval : Nat}
    (hi : interval ≠ 0) :
    ∃ n backend d', Backend.openCoalesced name readers interval d = (.ok backend, d') ∧
      coalesced.Serves n place a.route a.name f (⟨backend, none, false⟩, d') := by
  obtain ⟨db, hstands, hdb, hleads⟩ := h
  obtain ⟨n, gates, d', hopen, hc, helsewhere⟩ := hstands.openDatabase hname hleads hshort readers
  obtain ⟨hkeeps, hdatabase⟩ := hc.session (.toFile name readers) rfl hdb
  refine ⟨n, _, d', ?_, gates, ⟨_, .init, interval⟩, rfl, ⟨hkeeps, init_resting, init_serving⟩, ?_,
    hleads.elsewhere helsewhere⟩
  · unfold Backend.openCoalesced CoalescedStore.create
    simp only [hopen, if_neg hi]
    rfl
  · show Connected n place a.route gates d' (d'.session (.toFile name readers, gates)).database
    rw [hdatabase]
    exact hc

end Front

end Meterbank
