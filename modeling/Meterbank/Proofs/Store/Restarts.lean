/-
  Meterbank.Proofs.Store.Restarts — restarts neither lose nor double anything.

  A store on disk is opened, used by one client while timers go off, and
  closed, any number of times.  Each time it is opened it shows what all
  updates come to that were acknowledged in all sessions before: what was
  loaded counts once, and what was written after the last dump of a timer
  is saved when the store is closed, if not before.

  Main results:
    * `Config.StartsOn.restartable` — every store on disk can be restarted.
    * `sessions_neither_lose_nor_double` — so a store that is opened once
      more shows what was acknowledged, and nothing else.
-/
import Meterbank.Proofs.Store.Reopening

namespace Meterbank

open Meterbank.Sql Meterbank.Text

/-! ## All stores on disk -/

/-- What the store of a configuration keeps is to be on a disk, where nothing is yet: the file of
its snapshots can be written, or that of its database can be made. -/
def Config.StartsOn (c : Config) (d : Disk) : Prop :=
  match c.effectiveDatabase with
  | none =>
    d.files.Writable c.effectiveStoreFile ∧
      ∀ content, d.files.read c.effectiveStoreFile ≠ .ok content
  | some name => ∃ a b place, Address.OfFile name a b ∧ d.Leads a.name place ∧
      Disk.pathLength place ≤ Disk.maxDatabasePath ∧ d.Vacant place

/-- The store of a configuration can be restarted, beginning with empty tables. -/
theorem Config.StartsOn.restartable {c : Config} {d : Disk} (h : c.StartsOn d)
    (hvalid : c.validate = .ok ()) (hrestore : c.effectiveRestore = true) :
    ∃ Rest Open f, Restartable c Rest Open ∧ Rest f d ∧ f.Tallies [] := by
  unfold Config.StartsOn at h
  cases hdatabase : c.effectiveDatabase with
  | none =>
    rw [hdatabase] at h
    obtain ⟨hwritable, hread⟩ := h
    let f := FileStore.create c.effectiveStoreFile (c.effectiveStoreInterval == 0)
    have hlies : FileStore.Lies c.effectiveStoreFile f d.files := .inr ⟨hread, rfl⟩
    have hnamed : ¬ f.HasEmptyId := by simp [f, FileStore.HasEmptyId, FileStore.create]
    have hsound : f.Sound c.effectiveStoreFile :=
      ⟨fun k x hx => absurd hx (by simp [f, FileStore.create]), rfl⟩
    exact ⟨_, _, f, FileStore.restartable hvalid hrestore hdatabase,
      ⟨⟨hsound, rfl, hnamed, hwritable, fun _ => hlies⟩, hlies⟩, FileStore.create_tallies _ _⟩
  | some name =>
    rw [hdatabase] at h
    obtain ⟨a, b, place, hname, hleads, hshort, hvacant⟩ := h
    let f := FileStore.create c.effectiveStoreFile false
    have hgauges : f.gauges.unsigned = ∅ := by
      apply Table.ext_get?
      intro k
      rw [Table.get?_unsigned, Table.get?_empty]
      rfl
    have hrests : Front.Rests place a.route a.name f d :=
      ⟨.empty, .inr ⟨hvacant, rfl⟩, by rw [hgauges]; exact Database.holds_empty, hleads⟩
    have htallies : f.Tallies [] := FileStore.create_tallies _ _
    cases hinterval : c.effectiveCacheInterval with
    | none =>
      refine ⟨_, _, f, Front.restartable Front.sql_lawful hvalid (fun hd => ?_), hrests, htallies⟩
      unfold Facade.openBackend
      rw [hdatabase, hinterval]
      exact Front.sql_opens hd hname hshort c.effectiveReadPoolSize
    | some interval =>
      have hne : interval ≠ 0 := by
        have hfilter := Option.filter_eq_some_iff.1 hinterval
        simpa using hfilter.2
      refine ⟨_, _, f, Front.restartable Front.coalesced_lawful hvalid (fun hd => ?_), hrests,
        htallies⟩
      unfold Facade.openBackend
      rw [hdatabase, hinterval]
      exact Front.coalesced_opens hd hname hshort c.effectiveReadPoolSize hne

namespace Facade

/-- What holds of the update of every accepted metric holds of all that was acknowledged. -/
theorem forall_takeAll {P : Update → Prop}
    (hP : ∀ {m : Metric} {u : Update}, m.validate = .ok u → P u) (steps : List Step) (q : State) :
    ∀ u ∈ (takeAll steps q).1, P u := by
  induction steps generalizing q with
  | nil => simp [takeAll]
  | cons step steps ih =>
    show ∀ u ∈ (take q step).1 ++ _, P u
    rw [List.forall_mem_append]
    refine ⟨?_, ih _⟩
    cases step with
    | tick => simp [take]
    | request r =>
      simp only [take]
      split
      · exact r.forall_updates hP
      · simp

theorem forall_holdAll {P : Update → Prop}
    (hP : ∀ {m : Metric} {u : Update}, m.validate = .ok u → P u) (c : Config)
    (sessions : List Session) (d : Disk) : ∀ u ∈ (holdAll c sessions d).1, P u := by
  induction sessions generalizing d with
  | nil => simp [holdAll]
  | cons s sessions ih =>
    show ∀ u ∈ (hold c s d).1 ++ _, P u
    rw [List.forall_mem_append]
    refine ⟨?_, ih _⟩
    unfold hold
    split
    · simp
    · exact forall_takeAll hP _ _

/-- The last value that was acknowledged is finite. -/
theorem finite_of_lastSet? {us : List Update} (h : ∀ u ∈ us, u.Finite) {k : String} {x : Binary64}
    (hx : Update.lastSet? us k = some x) : x.isFinite = true := by
  obtain ⟨u, hu, hset⟩ := List.exists_of_findSome?_eq_some hx
  refine h u (List.mem_reverse.1 hu) x ?_
  unfold Update.sets? at hset
  split at hset
  · next y hy =>
    split at hset
    · rw [hy, Option.some.inj hset]
    · exact absurd hset (by simp)
  · exact absurd hset (by simp)

/-- **Restarts neither lose nor double anything.**  However many sessions there were, with
whatever calls and timers, a store that is opened once more shows each counter as the exact sum of
all that was acknowledged to be added to it, each gauge as the last value that was acknowledged,
and nothing else. -/
theorem sessions_neither_lose_nor_double {c : Config} {d : Disk} (hvalid : c.validate = .ok ())
    (hrestore : c.effectiveRestore = true) (hdisk : c.StartsOn d) (sessions : List Session) :
    let held := holdAll c sessions d
    ∃ facade d', openStore c held.2 = (.ok facade, d') ∧
      ∃ counters gauges,
        (operations.readCounters [] (facade, d')).1 = .ok counters ∧
        (operations.readGauges [] (facade, d')).1 = .ok gauges ∧
        (∀ k, counters.count? k = Update.added? held.1 k) ∧
        ∀ k, Option.Rel (fun x y => x.sameNumber y = true) (gauges.get? k)
          (Update.lastSet? held.1 k) := by
  intro held
  obtain ⟨Rest, Open, f, hrestartable, hrest, hempty⟩ := hdisk.restartable hvalid hrestore
  obtain ⟨f', hrest', htallies⟩ := hrestartable.holdAll hrest hempty sessions
  obtain ⟨facade, d', hopen, hq⟩ := hrestartable.opens hrest'
  obtain ⟨hcounters, gauges, hgauges, hunsigned⟩ := hrestartable.shows hq
  rw [List.nil_append] at htallies
  refine ⟨facade, d', hopen, f'.counters, gauges, hcounters, hgauges, htallies.counters, ?_⟩
  intro k
  have hsame : (gauges.get? k).map Binary64.unsignedZero =
      (Update.lastSet? held.1 k).map Binary64.unsignedZero := by
    rw [← Table.get?_unsigned, hunsigned, Table.get?_unsigned, htallies.gauges]
  have hfinite : ∀ {x}, Update.lastSet? held.1 k = some x → x.isFinite = true :=
    finite_of_lastSet? (forall_holdAll Metric.finite_of_validate c sessions d)
  generalize Update.lastSet? held.1 k = acknowledged at hsame hfinite ⊢
  generalize gauges.get? k = shown at hsame ⊢
  cases acknowledged <;> cases shown
  case none.none => exact .none
  case some.some y x =>
    exact .some (Binary64.sameNumber_of_unsignedZero (hfinite rfl) (Option.some.inj hsame))
  all_goals exact absurd hsame (by simp)

/-! ## Two sessions -/

/-- A store in memory, with a file and a worker. -/
def inFile : Config := { Config.empty with storeFile := some "m.json" }

/-- A database behind a window. -/
def inDatabase : Config :=
  { Config.empty with databaseName := some "metrics.db", cacheIntervalMillis := some 10 }

theorem inFile_startsOn : inFile.StartsOn Disk.empty := by
  have hdatabase : inFile.effectiveDatabase = none := by decide
  have hmissing : Files.empty.read "m.json" = .error .missing := by decide
  unfold Config.StartsOn
  rw [hdatabase]
  refine ⟨Files.writable_empty, fun content hread => ?_⟩
  exact absurd (hmissing.symm.trans hread) (by simp)

theorem inDatabase_startsOn : inDatabase.StartsOn Disk.empty := by
  have hdatabase : inDatabase.effectiveDatabase = some "metrics.db" := by decide
  unfold Config.StartsOn
  rw [hdatabase]
  refine ⟨.ofFile (bytes "metrics.db") .create, .ofFile (bytes "metrics.db") .read,
    [bytes "metrics.db"],
    ⟨by decide, Address.parse_plain _ _ (by decide), Address.parse_plain _ _ (by decide), by decide,
      by decide, rfl, rfl⟩,
    ?_, by decide,
    ⟨by decide, by decide, by decide, fun gate hgate => absurd hgate (by simp [Disk.empty]),
      fun gate hgate => absurd hgate (by simp [Disk.empty])⟩⟩
  intro fs _
  have hnames : Name.ofPath (bytes "metrics.db") = [bytes "metrics.db"] := by decide
  have hroot : fs.at? [] = some .directory := rfl
  show fs.resolve [] (Name.ofPath (bytes "metrics.db")) = _
  rw [hnames]
  simp only [Files.resolve, hroot]
  decide

/-- A counter and a gauge in one session, a batch in the next. -/
def twoSessions : List Session := [
  ⟨[.request (.writeData (.counter "c" 1)), .tick, .request (.writeData (.gauge "g" .zero))], true⟩,
  ⟨[.request (.writeBatch ⟨[.counter "c" 2, .counter "c" 3]⟩), .request .dump], false⟩]

theorem acknowledged_twoSessions : ∀ c ∈ [inFile, inDatabase],
    (holdAll c twoSessions Disk.empty).1 =
      [⟨"c", .counter 1⟩, ⟨"g", .gauge .zero⟩, ⟨"c", .counter 2⟩, ⟨"c", .counter 3⟩] := by
  decide +kernel

/-- The total of a counter that a store shows once it has been opened. -/
def counted? (c : Config) (d : Disk) (k : String) : Option Int :=
  match openStore c d with
  | (.error _, _) => none
  | (.ok facade, d) =>
    match operations.readCounters [] (facade, d) with
    | (.error _, _) => none
    | (.ok counters, _) => counters.count? k

/-- Two sessions of a store in memory and of one over a database: its counter has been counted
once, and is there. -/
theorem counted_once_across_restarts :
    (inFile.validate = .ok () ∧ inFile.effectiveRestore = true ∧ inFile.StartsOn .empty ∧
      counted? inFile (holdAll inFile twoSessions .empty).2 "c" = some 6) ∧
    inDatabase.validate = .ok () ∧ inDatabase.effectiveRestore = true ∧
      inDatabase.StartsOn .empty ∧
      counted? inDatabase (holdAll inDatabase twoSessions .empty).2 "c" = some 6 := by
  have hcounted : ∀ c ∈ [inFile, inDatabase], c.validate = .ok () → c.effectiveRestore = true →
      c.StartsOn .empty → counted? c (holdAll c twoSessions .empty).2 "c" = some 6 := by
    intro c hc hvalid hrestore hstarts
    obtain ⟨facade, d', hopen, counters, -, hread, -, hcounts, -⟩ :=
      sessions_neither_lose_nor_double hvalid hrestore hstarts twoSessions
    have hread' : operations.readCounters [] (facade, d') =
        (.ok counters, (operations.readCounters [] (facade, d')).2) := Prod.ext hread rfl
    unfold counted?
    rw [hopen]
    simp only
    rw [hread']
    simp only
    rw [hcounts, acknowledged_twoSessions c hc]
    decide
  exact ⟨⟨by decide, by decide, inFile_startsOn,
      hcounted inFile (by simp) (by decide) (by decide) inFile_startsOn⟩,
    by decide, by decide, inDatabase_startsOn,
      hcounted inDatabase (by simp) (by decide) (by decide) inDatabase_startsOn⟩

end Facade

end Meterbank
