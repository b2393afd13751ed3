/-
  Meterbank.Proofs.Store.Loading — what loading does to the tables.

  Loading reads the file, decodes it, checks every entry, folds the
  updates and adds them to the tables, and each of these steps can refuse
  to go on.  Only the last one writes, and it writes all or nothing.  So
  whatever the file holds, either the tables have grown by exactly what
  the file asks for, or they are as they were.

  A store that is dumped and loaded again counts everything twice, as
  loading does not ask where a snapshot comes from.

  Main results:
    * `applyAll_cases` — updates that are applied, and why they are not.
    * `perform_load_cases` — what loading comes to, for any file.
    * `load_after_dump` — a snapshot that is loaded by its own store.
    * `load_exact` — both.
-/
import Meterbank.Proofs.Refusals
import Meterbank.Proofs.Store.Requests

namespace Meterbank.FileStore

open Meterbank.Number
open Meterbank.Table (joined joined_none joined_some)

variable {f f' : FileStore} {us : List Update}

/-! ## Tables that have grown -/

/-- What a store becomes by updates: each counter has grown by the sum of
what is added to it, each gauge has the last value that it is given, and
everything else is as it was. -/
structure Grown (f : FileStore) (us : List Update) (f' : FileStore) : Prop where
  counters : ∀ k, f'.counters.count? k = joined (f.counters.count? k) (Update.added? us k)
  gauges : ∀ k, f'.gauges.get? k = (Update.lastSet? us k).or (f.gauges.get? k)
  path : f'.path = f.path
  sync : f'.sync = f.sync

/-- **Updates are applied as a whole, or refused** for a running total of
the fold that leaves the range, or for a stored one. -/
theorem applyAll_cases (f : FileStore) (us : List Update) :
    (∃ f', f.applyAll us = .ok f' ∧ f.Grown us f') ∨
    (∃ cause, f.applyAll us = .error (.validation cause) ∧
      Delta.ofUpdates us = .error (.validation cause)) ∨
    ∃ k delta, f.applyAll us = .error (.validation (.overflow k (f.counters.total k) delta)) ∧
      Update.added? us k = some delta.toInt ∧
      inRange64 ((f.counters.total k).toInt + delta.toInt) = false := by
  cases happly : f.applyAll us with
  | ok f' =>
    have hgrown := applyAll_updates happly
    have hplace : f'.path = f.path ∧ f'.sync = f.sync := by
      unfold applyAll applyDelta at happly
      split at happly
      · split at happly
        · rw [← Except.ok.inj happly]
          exact ⟨rfl, rfl⟩
        · exact absurd happly (by simp)
      · exact absurd happly (by simp)
    exact .inl ⟨f', rfl, fun k => (hgrown k).1, fun k => (hgrown k).2, hplace.1, hplace.2⟩
  | error e =>
    right
    unfold applyAll at happly
    cases hfold : Delta.ofUpdates us with
    | error e' =>
      rw [hfold] at happly
      obtain ⟨cause, rfl⟩ := Delta.ofUpdates_error hfold
      exact .inl ⟨cause, congrArg Except.error (Except.error.inj happly).symm, rfl⟩
    | ok d =>
      rw [hfold] at happly
      simp only [applyDelta] at happly
      split at happly
      · exact absurd happly (by simp)
      · next e' hadd =>
        obtain rfl : e' = e := Except.error.inj happly
        obtain ⟨k, delta, hdelta, hrange, rfl⟩ := Table.addAll_refused hadd
        refine .inr ⟨k, delta, rfl, ?_, hrange⟩
        rw [← Delta.ofUpdates_added hfold, Table.count?, hdelta, Option.map_some]

/-! ## Any file -/

/-- Whether the file of a store holds a batch. -/
def Holds (p : State) (b : Batch) : Prop :=
  ∃ content, p.2.read p.1.path = .ok content ∧ Batch.decode content = .ok b

/-- Whether the file of a store asks for updates. -/
def Asks (p : State) (us : List Update) : Prop := ∃ b, Holds p b ∧ b.validate = .ok us

/-- Why a store does not load its file. -/
inductive Unloaded (p : State) : StoreError → Prop
  /-- The file cannot be read. -/
  | unread {fault : IoFault} (h : p.2.read p.1.path = .error fault) : Unloaded p (.io fault)
  /-- It holds something else. -/
  | undecoded {content : List UInt8} {fault : DocumentFault} (h : p.2.read p.1.path = .ok content)
      (hdecode : Batch.decode content = .error (.serialization fault)) :
      Unloaded p (.serialization fault)
  /-- An entry is not accepted. -/
  | invalid {b : Batch} {cause : Refusal} (h : Holds p b)
      (hvalidate : b.validate = .error (.validation cause)) : Unloaded p (.validation cause)
  /-- A running total of the file leaves the range. -/
  | unfolded {us : List Update} {cause : Refusal} (h : Asks p us)
      (hfold : Delta.ofUpdates us = .error (.validation cause)) : Unloaded p (.validation cause)
  /-- A stored total would leave the range. -/
  | overfull {us : List Update} {k : String} {delta : Int64} (h : Asks p us)
      (hadded : Update.added? us k = some delta.toInt)
      (hrange : inRange64 ((p.1.counters.total k).toInt + delta.toInt) = false) :
      Unloaded p (.validation (.overflow k (p.1.counters.total k) delta))

theorem decode_error_cases {content : List UInt8} {e : StoreError}
    (h : Batch.decode content = .error e) : ∃ fault, e = .serialization fault := by
  unfold Batch.decode serializationError at h
  split at h
  · exact absurd h (by simp)
  · exact ⟨_, (Except.error.inj h).symm⟩

/-- **Loading applies all of the file or changes nothing.** -/
theorem perform_load_cases (p : State) :
    (∃ us f, Asks p us ∧ p.1.Grown us f ∧
      operations.perform .load p = (.ok .nothing, f, p.2)) ∨
    ∃ e, Unloaded p e ∧ operations.perform .load p = (.error e, p) := by
  have hload : operations.perform .load p =
      Store.wrap (fun _ => .nothing) (replace p (p.1.loadFrom p.2)) := rfl
  -- One case a step of the way from the file to the tables.
  cases hread : p.2.read p.1.path with
  | error fault =>
    refine .inr ⟨_, .unread hread, ?_⟩
    rw [hload, loadFrom, hread]
    rfl
  | ok content =>
    rw [perform_load hread, loadBytes]
    cases hdecode : Batch.decode content with
    | error e =>
      obtain ⟨fault, rfl⟩ := decode_error_cases hdecode
      exact .inr ⟨_, .undecoded hread hdecode, rfl⟩
    | ok b =>
      simp only
      cases hvalidate : b.validate with
      | error e =>
        obtain ⟨cause, rfl⟩ := Batch.validate_error hvalidate
        exact .inr ⟨_, .invalid ⟨content, hread, hdecode⟩ hvalidate, rfl⟩
      | ok us =>
        have hasks : Asks p us := ⟨b, ⟨content, hread, hdecode⟩, hvalidate⟩
        simp only
        rcases p.1.applyAll_cases us with ⟨f, hf, hgrown⟩ | ⟨cause, he, hfold⟩ |
          ⟨k, delta, he, hadded, hrange⟩
        · rw [hf]
          exact .inl ⟨us, f, hasks, hgrown, rfl⟩
        · rw [he]
          exact .inr ⟨_, .unfolded hasks hfold, rfl⟩
        · rw [he]
          exact .inr ⟨_, .overfull hasks hadded hrange, rfl⟩

/-! ## A snapshot of its own -/

/-- A store in which everything is counted twice. -/
structure Doubled (f f' : FileStore) : Prop where
  counters : ∀ k, f'.counters.count? k = (f.counters.count? k).map (2 * ·)
  gauges : f'.gauges = f.gauges
  path : f'.path = f.path
  sync : f'.sync = f.sync

theorem joined_self (m : Option Int) : joined m m = m.map (2 * ·) := by
  cases m with
  | none => rfl
  | some n =>
    rw [Table.some_joined_some, Option.map_some]
    congr 1
    omega

variable {path : String} {sync : Bool}

/-- **A store that loads its own snapshot counts everything twice**, or
nothing changes if a total is too large for that.  Whatever was done since
the dump, the store and its file have to be as they were. -/
theorem load_after_dump {p p' q : State} (hp : Reached path sync p) (hids : ¬ p.1.HasEmptyId)
    (hdump : operations.perform .dump p = (.ok .nothing, p')) (hstore : q.1 = p.1)
    (hfile : q.2.read p.1.path = p'.2.read p.1.path) :
    (∃ f, p.1.Doubled f ∧ operations.perform .load q = (.ok .nothing, f, q.2)) ∨
    ∃ k n cause, p.1.counters.count? k = some n ∧ inRange64 (2 * n) = false ∧
      operations.perform .load q = (.error (.validation cause), q) := by
  obtain ⟨-, hread⟩ := read_of_dump hdump
  have hcontent : q.2.read q.1.path = .ok p.1.snapshotBytes := by rw [hstore, hfile, hread]
  have happly : q.1.loadBytes p.1.snapshotBytes = p.1.applyDelta ⟨p.1.gauges, p.1.counters⟩ := by
    unfold loadBytes
    rw [decode_snapshotBytes hp.sound.finite]
    simp only
    rw [validate_snapshot hp.sound.finite hids]
    simp only [applyAll, ofUpdates_snapshotUpdates, hstore]
  rw [perform_load hcontent, happly, applyDelta]
  cases hadd : p.1.counters.addAll p.1.counters with
  | ok counters =>
    refine .inl ⟨{ p.1 with counters, gauges := p.1.gauges.setAll p.1.gauges }, ?_, rfl⟩
    refine ⟨fun k => ?_, ?_, rfl, rfl⟩
    · rw [(Table.addAll_eq_ok_iff _ _ _).1 hadd k, joined_self]
    · apply Table.ext_get?
      intro k
      rw [Table.get?_setAll, Option.or_self]
  | error e =>
    obtain ⟨k, total, htotal, hrange, rfl⟩ := Table.addAll_refused hadd
    have hcount : p.1.counters.count? k = some total.toInt := by
      rw [Table.count?, htotal, Option.map_some]
    refine .inr ⟨k, total.toInt, _, hcount, ?_, rfl⟩
    rw [Table.toInt_total, hcount, Option.getD_some, ← Int.two_mul] at hrange
    exact hrange

/-- **Loading is exact, adds to what is there, and is all or nothing**:
whatever the store and its file hold, the tables have grown by what the
file asks for, or are as they were.  A store that loads its own snapshot
counts everything twice, if it can. -/
theorem load_exact (p : State) :
    ((∃ us f, Asks p us ∧ p.1.Grown us f ∧
        operations.perform .load p = (.ok .nothing, f, p.2)) ∨
      ∃ e, Unloaded p e ∧ operations.perform .load p = (.error e, p)) ∧
    ∀ {path sync p' q}, Reached path sync p → ¬ p.1.HasEmptyId →
      operations.perform .dump p = (.ok .nothing, p') → q.1 = p.1 →
      q.2.read p.1.path = p'.2.read p.1.path →
      (∃ f, p.1.Doubled f ∧ operations.perform .load q = (.ok .nothing, f, q.2)) ∨
      ∃ k n cause, p.1.counters.count? k = some n ∧ inRange64 (2 * n) = false ∧
        operations.perform .load q = (.error (.validation cause), q) :=
  ⟨perform_load_cases p, fun hp hids hdump hstore hfile =>
    load_after_dump hp hids hdump hstore hfile⟩

/-- A counter of one that is dumped and loaded counts two. -/
theorem counted_once_loaded_twice :
    ∃ p' f, operations.perform .dump (countedOnce "c") = (.ok .nothing, p') ∧
      operations.perform .load p' = (.ok .nothing, f, p'.2) ∧
      f.counters.count? "c" = some 2 := by
  obtain ⟨p', hdump⟩ := countedOnce_dump "c"
  have hids : ¬ (countedOnce "c").1.HasEmptyId := by
    rw [countedOnce_eq]
    simp [HasEmptyId, Table.get?_set]
  have hcount : ∀ k, (countedOnce "c").1.counters.count? k = if "c" = k then some 1 else none := by
    intro k
    rw [countedOnce_eq]
    by_cases hk : "c" = k <;> simp [Table.count?, Table.get?_set, hk]
  rcases (load_exact (countedOnce "c")).2 (countedOnce_reached "c") hids hdump
    (read_of_dump hdump).1 rfl with ⟨f, hdoubled, hload⟩ | ⟨k, n, cause, hn, hrange, -⟩
  · refine ⟨p', f, hdump, hload, ?_⟩
    rw [hdoubled.counters, hcount, if_pos rfl]
    rfl
  · rw [hcount] at hn
    split at hn
    · rw [← Option.some.inj hn] at hrange
      exact absurd hrange (by decide)
    · exact absurd hn (by simp)

end Meterbank.FileStore
