/-
  Meterbank.Proofs.Store.Reopening — stores that can be restarted.

  A store in memory stands for what is kept: by a store that is open, and
  on the disk between two sessions.  Opening leads from the one to the
  other, steps apply what they are acknowledged to do, and closing leads
  back.  Then any number of sessions leave what was acknowledged in them.

  A snapshot is in the file at the end of each session, and after each
  write if there is no worker.  A database is on the disk at any time.

  Main results:
    * `Restartable.holdAll` — what sessions leave behind.
    * `Front.restartable`, `FileStore.restartable` — databases in files and
      snapshots in files can be restarted.
-/
import Meterbank.Proofs.Store.Durability
import Meterbank.Proofs.Store.Fronts
import Meterbank.Proofs.Store.Requests

namespace Meterbank

open Meterbank.Sql Meterbank.Text

/-! ## Stores that can be restarted -/

/-- A store that can be opened, used and closed, as seen from a store in memory: `Rest` relates
that to what is on the disk, `Open` to a facade. -/
structure Restartable (c : Config) (Rest : FileStore → Disk → Prop)
    (Open : FileStore → Facade.State → Prop) : Prop where
  opens : ∀ {f d}, Rest f d →
    ∃ facade d', Facade.openStore c d = (.ok facade, d') ∧ Open f (facade, d')
  takes : ∀ {f q}, Open f q → ∀ step,
    ∃ f', f.applyAll (Facade.take q step).1 = .ok f' ∧ Open f' (Facade.take q step).2
  closes : ∀ {f q}, Open f q → ∀ dropped, Rest f (Facade.finish dropped q)
  shows : ∀ {f q}, Open f q →
    (Facade.operations.readCounters [] q).1 = .ok f.counters ∧
      ∃ gauges, (Facade.operations.readGauges [] q).1 = .ok gauges ∧
        gauges.unsigned = f.gauges.unsigned

namespace Restartable

variable {c : Config} {Rest : FileStore → Disk → Prop} {Open : FileStore → Facade.State → Prop}
  {f : FileStore} {us : List Update}

/-- Steps leave what they were acknowledged to do. -/
theorem takeAll (h : Restartable c Rest Open) {q : Facade.State} (hq : Open f q)
    (hf : f.Tallies us) (steps : List Facade.Step) :
    ∃ f', Open f' (Facade.takeAll steps q).2 ∧ f'.Tallies (us ++ (Facade.takeAll steps q).1) := by
  induction steps generalizing f q us with
  | nil => exact ⟨f, hq, (List.append_nil us).symm ▸ hf⟩
  | cons step steps ih =>
    obtain ⟨f₁, happly, hq₁⟩ := h.takes hq step
    obtain ⟨f₂, hq₂, hf₂⟩ := ih hq₁ (hf.applyAll happly)
    refine ⟨f₂, hq₂, ?_⟩
    show f₂.Tallies (us ++ ((Facade.take q step).1 ++ _))
    rw [← List.append_assoc]
    exact hf₂

/-- So does a session. -/
theorem hold (h : Restartable c Rest Open) {d : Disk} (hd : Rest f d) (hf : f.Tallies us)
    (s : Facade.Session) :
    ∃ f', Rest f' (Facade.hold c s d).2 ∧ f'.Tallies (us ++ (Facade.hold c s d).1) := by
  obtain ⟨facade, d', hopen, hq⟩ := h.opens hd
  obtain ⟨f', hq', hf'⟩ := h.takeAll hq hf s.steps
  have hhold : Facade.hold c s d =
      ((Facade.takeAll s.steps (facade, d')).1,
        Facade.finish s.dropped (Facade.takeAll s.steps (facade, d')).2) := by
    unfold Facade.hold
    rw [hopen]
  rw [hhold]
  exact ⟨f', h.closes hq' s.dropped, hf'⟩

/-- **Sessions leave what they were acknowledged to do**, all of them together. -/
theorem holdAll (h : Restartable c Rest Open) {d : Disk} (hd : Rest f d) (hf : f.Tallies us)
    (sessions : List Facade.Session) :
    ∃ f', Rest f' (Facade.holdAll c sessions d).2 ∧
      f'.Tallies (us ++ (Facade.holdAll c sessions d).1) := by
  induction sessions generalizing f d us with
  | nil => exact ⟨f, hd, (List.append_nil us).symm ▸ hf⟩
  | cons s sessions ih =>
    obtain ⟨f₁, hd₁, hf₁⟩ := h.hold hd hf s
    obtain ⟨f₂, hd₂, hf₂⟩ := ih hd₁ hf₁
    refine ⟨f₂, hd₂, ?_⟩
    show f₂.Tallies (us ++ ((Facade.hold c s d).1 ++ _))
    rw [← List.append_assoc]
    exact hf₂

end Restartable

/-! ## Databases -/

namespace Front

variable {σ : Type} {F : Front σ} {place : Place} {k : Keeping} {path : List UInt8} {c : Config}

/-- **A database in a file can be restarted**, as it is or behind a window. -/
theorem restartable (hF : F.Lawful) (hvalid : c.validate = .ok ())
    (hopens : ∀ {f d}, Rests place k path f d → ∃ n backend d',
      Facade.openBackend c d = (.ok backend, d') ∧
        F.Serves n place k path f (⟨backend, none, false⟩, d')) :
    Restartable c (Rests place k path) fun f q => ∃ n, F.Serves n place k path f q where
  opens hd := by
    obtain ⟨n, backend, d', hopen, hserves⟩ := hopens hd
    obtain ⟨facade, d'', hstore, hserves'⟩ := hserves.opened hF hvalid hopen
    exact ⟨facade, d'', hstore, n, hserves'⟩
  takes {f q} hq step := by
    obtain ⟨n, hserves⟩ := hq
    cases step with
    | tick => exact ⟨f, f.applyAll_nil, n, hserves.tick hF⟩
    | request r =>
      by_cases hr : r.call.isContract = true
      · -- The store in memory that is mirrored has no file of its own.
        obtain ⟨hserves', happly⟩ := (hF.facade_alike n place k path).take
          (p := (f, Files.empty)) hserves hr
        exact ⟨_, happly, n, hserves'⟩
      · have hnone : (Facade.take q (.request r)).1 = [] := by
          show (if _ then r.updates else []) = []
          rw [Request.updates_of_not_contract (Bool.eq_false_iff.2 hr), ite_self]
        refine ⟨f, by rw [hnone]; exact f.applyAll_nil, n, ?_⟩
        cases r with
        | dump => exact hserves.quiet hF (fun S => S.dump) .dump rfl fun _ => rfl
        | ping => exact hserves.quiet hF (fun S => S.ping) .ping rfl fun _ => rfl
        | _ => exact absurd rfl hr
  closes hq dropped := hq.choose_spec.closed hF dropped
  shows {f q} hq := by
    obtain ⟨n, hserves⟩ := hq
    exact (hF.facade_alike n place k path).tables (p := (f, Files.empty)) hserves

end Front

/-! ## Files -/

namespace FileStore

variable {path : String} {sync : Bool} {p : State} {q : Facade.State}

/-- The file holds the snapshot of a store; or nothing can be read there, and the store is new. -/
def Lies (path : String) (f : FileStore) (fs : Files) : Prop :=
  fs.read path = .ok f.snapshotBytes ∨
    (∀ content, fs.read path ≠ .ok content) ∧ f = create path f.sync

/-- A store whose file can be written, and can be loaded once it is.  If it dumps after every
write, the file holds its tables. -/
structure Kept (path : String) (sync : Bool) (p : State) : Prop where
  sound : p.1.Sound path
  dumping : p.1.sync = sync
  named : ¬ p.1.HasEmptyId
  writable : p.2.Writable path
  lies : sync = true → Lies path p.1 p.2

/-- Updates with names name no metric that has none. -/
theorem applyAll_named {f f' : FileStore} {us : List Update} (h : f.applyAll us = .ok f')
    (hf : ¬ f.HasEmptyId) (hus : ∀ u ∈ us, u.id ≠ "") : ¬ f'.HasEmptyId := by
  have hnone : Update.added? us "" = none ∧ Update.lastSet? us "" = none := by
    clear h
    induction us with
    | nil => exact ⟨rfl, rfl⟩
    | cons u us ih =>
      rw [List.forall_mem_cons] at hus
      obtain ⟨hadded, hset⟩ := ih hus.2
      rw [Update.added?_cons, Update.lastSet?_cons, hadded, hset]
      unfold Update.adds? Update.sets?
      cases u.sample <;> simp [hus.1]
  obtain ⟨hcounters, hgauges⟩ := applyAll_updates h ""
  rw [hnone.1, Table.joined_none] at hcounters
  rw [hnone.2, Option.none_or] at hgauges
  simp only [HasEmptyId, ne_eq, not_or, not_not] at hf ⊢
  refine ⟨hgauges.trans hf.1, ?_⟩
  have hcount : f.counters.count? "" = none := by rw [Table.count?, hf.2]; rfl
  rw [hcount] at hcounters
  simpa [Table.count?] using hcounters

/-- A request that does not dump, or has failed, leaves the tables. -/
theorem perform_still {r : Request}
    (h : (dumps r.call && (operations.perform r.call p).1.isOk) = false) :
    (operations.perform r.call p).2.1 = p.1 := by
  have happly := perform_applied r p
  have hnone : (if (operations.perform r.call p).1.isOk then r.updates else []) = [] := by
    rw [Bool.and_eq_false_iff] at h
    rcases h with hquiet | hfailed
    · cases r <;> first | exact ite_self _ | exact absurd hquiet (by simp [dumps, Request.call])
    · rw [hfailed, if_neg (by simp)]
  rw [hnone, applyAll_nil] at happly
  exact (Except.ok.inj happly).symm

theorem Kept.perform (h : Kept path sync p) (r : Request) :
    Kept path sync (operations.perform r.call p).2 where
  sound := h.sound.perform r.call
  dumping := (perform_alike r.call p).2.trans h.dumping
  named := by
    refine applyAll_named (perform_applied r p) h.named ?_
    split
    · exact r.forall_updates Metric.named_of_validate
    · simp
  writable := perform_writable h.sound h.writable r.call
  lies hsync := by
    by_cases hdumps : (dumps r.call && (operations.perform r.call p).1.isOk) = true
    · obtain ⟨hdumps, hok⟩ := Bool.and_eq_true_iff.1 hdumps
      have hattended : Attended path p := ⟨h.sound, h.dumping.trans hsync, h.writable⟩
      exact .inl (hattended.dumped r.call hdumps hok)
    · have hquiet := Bool.eq_false_iff.2 hdumps
      rw [perform_still hquiet, perform_quiet hquiet]
      exact h.lies hsync

/-- A dump leaves the tables. -/
theorem perform_dump (p : State) : (operations.perform .dump p).2.1 = p.1 := by
  show (operations.dump p).2.1 = p.1
  simp only [operations]
  split <;> rfl

theorem Kept.dump (h : Kept path sync p) :
    Kept path sync (p.1, (operations.perform .dump p).2.2) := by
  have hkept := h.perform .dump
  have hsame : (operations.perform .dump p).2 = (p.1, (operations.perform .dump p).2.2) :=
    Prod.ext (perform_dump p) rfl
  rw [← hsame]
  exact hkept

/-- A dump leaves the tables in the file. -/
theorem Kept.dumped (h : Kept path sync p) : Lies path p.1 (operations.perform .dump p).2.2 := by
  have hw := h.writable
  rw [← h.sound.path] at hw
  obtain ⟨fs, hdump, hread, -⟩ := dump_writable hw
  have hfiles : (operations.perform .dump p).2.2 = fs := by
    show (operations.dump p).2.2 = fs
    simp only [operations, hdump]
  rw [hfiles]
  exact .inl (h.sound.path ▸ hread)

/-- Loading gives the tables that lie in the file. -/
theorem Lies.load {f : FileStore} {fs : Files} (h : Lies path f fs) (hsound : f.Sound path)
    (hnamed : ¬ f.HasEmptyId) :
    (operations.perform .load (create path f.sync, fs)).2 = (f, fs) := by
  rcases h with hread | ⟨hread, hnew⟩
  · rw [load_snapshot hsound.finite hread, if_neg hnamed, ← hsound.path]
  · -- Nothing is loaded, so the store stays new.
    cases hfault : fs.read path with
    | ok content => exact absurd hfault (hread content)
    | error e =>
      show (replace (create path f.sync, fs) ((create path f.sync).loadFrom fs)).2 = (f, fs)
      unfold loadFrom
      rw [show (create path f.sync).path = path from rfl, hfault]
      exact Prod.ext hnew.symm rfl

/-! ## Files behind a facade -/

/-- A facade over a store in memory.  It has a worker unless the store dumps after every write. -/
def Behind (sync : Bool) (p : State) (q : Facade.State) : Prop :=
  ∃ (worker : Option Worker) (d : Disk),
    q = (⟨.file p.1, worker, false⟩, { d with files := p.2 }) ∧
    (sync = false → worker.isSome = true)

/-- **A facade over a store in memory looks like the store.** -/
theorem facade_alike (sync : Bool) :
    Store.Alike FileStore.operations Facade.operations (Behind sync) where
  writeData := by
    rintro p _ ⟨worker, d, rfl, hworker⟩ m
    exact ⟨rfl, worker, d, rfl, hworker⟩
  writeBatch := by
    rintro p _ ⟨worker, d, rfl, hworker⟩ b
    exact ⟨rfl, worker, d, rfl, hworker⟩
  readGauges := by
    rintro p _ ⟨worker, d, rfl, hworker⟩ keys
    exact ⟨rfl, worker, d, rfl, hworker⟩
  readCounters := by
    rintro p _ ⟨worker, d, rfl, hworker⟩ keys
    exact ⟨rfl, worker, d, rfl, hworker⟩
  writeGauge := by
    rintro p _ ⟨worker, d, rfl, hworker⟩ key x
    exact ⟨rfl, worker, d, rfl, hworker⟩
  writeCounter := by
    rintro p _ ⟨worker, d, rfl, hworker⟩ key delta
    exact ⟨rfl, worker, d, rfl, hworker⟩

/-- A request is answered as the store answers it. -/
theorem Behind.take (h : Behind sync p q) (r : Request) :
    Behind sync (operations.perform r.call p).2 (Facade.take q (.request r)).2 ∧
      p.1.applyAll (Facade.take q (.request r)).1 = .ok (operations.perform r.call p).2.1 := by
  by_cases hr : r.call.isContract = true
  · exact (facade_alike sync).take h hr
  · obtain ⟨worker, d, rfl, hworker⟩ := h
    cases r with
    | dump => exact ⟨⟨worker, d, rfl, hworker⟩, perform_applied .dump p⟩
    | ping => exact ⟨⟨worker, d, rfl, hworker⟩, perform_applied .ping p⟩
    | _ => exact absurd rfl hr

/-- A timer dumps the store, if it has a worker. -/
theorem Behind.tick (h : Behind sync p q) :
    Behind sync p (Facade.tick q) ∨
      Behind sync (p.1, (operations.perform .dump p).2.2) (Facade.tick q) := by
  obtain ⟨worker, d, rfl, hworker⟩ := h
  cases worker with
  | none => exact .inl ⟨none, d, rfl, hworker⟩
  | some worker =>
    refine .inr ⟨some { worker with dumps := worker.dumps + 1 }, d, ?_, fun _ => rfl⟩
    show ((⟨.file (operations.perform .dump p).2.1, some { worker with dumps := worker.dumps + 1 },
      false⟩, { d with files := (operations.perform .dump p).2.2 }) : Facade.State) = _
    rw [perform_dump]

/-- Closing dumps a store with a worker once more. -/
theorem Behind.finish (h : Behind sync p q) (dropped : Bool) :
    (Facade.finish dropped q).files = (operations.perform .dump p).2.2 ∨
      sync = true ∧ (Facade.finish dropped q).files = p.2 := by
  obtain ⟨worker, d, rfl, hworker⟩ := h
  cases worker with
  | none =>
    refine .inr ⟨?_, by cases dropped <;> rfl⟩
    cases sync with
    | true => rfl
    | false => exact absurd (hworker rfl) (by simp)
  | some worker => exact .inl (by cases dropped <;> rfl)

/-- What is on the disk between the sessions of a store. -/
def Rests (path : String) (sync : Bool) (f : FileStore) (d : Disk) : Prop :=
  Kept path sync (f, d.files) ∧ Lies path f d.files

/-- A facade over a store that is kept in a file. -/
def Serves (path : String) (sync : Bool) (f : FileStore) (q : Facade.State) : Prop :=
  ∃ fs, Kept path sync (f, fs) ∧ Behind sync (f, fs) q

variable {c : Config}

/-- Opening leads to the tables that are in the file. -/
theorem Rests.opens {f : FileStore} {d : Disk}
    (h : Rests c.effectiveStoreFile (c.effectiveStoreInterval == 0) f d)
    (hvalid : c.validate = .ok ()) (hrestore : c.effectiveRestore = true)
    (hdatabase : c.effectiveDatabase = none) :
    ∃ facade d', Facade.openStore c d = (.ok facade, d') ∧
      Serves c.effectiveStoreFile (c.effectiveStoreInterval == 0) f (facade, d') := by
  obtain ⟨hkept, hlies⟩ := h
  have hload := hlies.load hkept.sound hkept.named
  rw [show f.sync = (c.effectiveStoreInterval == 0) from hkept.dumping] at hload
  have hrestored : Facade.restore c
      (.openFile c.effectiveStoreFile (c.effectiveStoreInterval == 0), d) = (.file f, d) := by
    unfold Facade.restore
    rw [if_pos hrestore]
    exact congrArg (fun p : State => ((.file p.1, { d with files := p.2 }) : Backend.State)) hload
  refine ⟨⟨.file f, Facade.workerFor c (.file f), false⟩, d, ?_, d.files, hkept, _, d, rfl, ?_⟩
  · unfold Facade.openStore Facade.openBackend
    rw [hvalid, hdatabase]
    simp only [hrestored]
  · intro hinterval
    have hne : c.effectiveStoreInterval ≠ 0 := by simpa using hinterval
    rw [Facade.workerFor, if_pos ⟨rfl, hne⟩]
    rfl

/-- **A store in memory that is kept in a file can be restarted.** -/
theorem restartable (hvalid : c.validate = .ok ()) (hrestore : c.effectiveRestore = true)
    (hdatabase : c.effectiveDatabase = none) :
    Restartable c (Rests c.effectiveStoreFile (c.effectiveStoreInterval == 0))
      (Serves c.effectiveStoreFile (c.effectiveStoreInterval == 0)) where
  opens hd := hd.opens hvalid hrestore hdatabase
  takes {f q} hq step := by
    obtain ⟨fs, hkept, hbehind⟩ := hq
    cases step with
    | request r =>
      obtain ⟨hbehind', happly⟩ := hbehind.take r
      exact ⟨_, happly, _, hkept.perform r, hbehind'⟩
    | tick =>
      refine ⟨f, f.applyAll_nil, ?_⟩
      rcases hbehind.tick with hsame | hdumped
      · exact ⟨fs, hkept, hsame⟩
      · exact ⟨_, hkept.dump, hdumped⟩
  closes {f q} hq dropped := by
    obtain ⟨fs, hkept, hbehind⟩ := hq
    unfold Rests
    rcases hbehind.finish dropped with hfiles | ⟨hsync, hfiles⟩
    · rw [hfiles]
      exact ⟨hkept.dump, hkept.dumped⟩
    · rw [hfiles]
      exact ⟨hkept, hkept.lies hsync⟩
  shows {f q} hq := by
    obtain ⟨fs, -, hbehind⟩ := hq
    exact (facade_alike _).tables hbehind

end FileStore

end Meterbank
