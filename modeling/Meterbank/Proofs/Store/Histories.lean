/-
  Meterbank.Proofs.Store.Histories — what a database has been through.

  Behind a window a database is written window by window, read, and at
  last closed, by people who found it open some time before.  The windows
  that were written with success are all that its tables tell: a gauge has
  the last value that was merged for it, and a counter has grown by the
  exact sum of what was merged for it.

  Main results:
    * `Written.shows` — the tables of any database, whatever failed.
    * `Written.keeps` — a database whose connections work goes on to work.
-/
import Meterbank.Proofs.Store.Showing
import Meterbank.Store.Crowd

namespace Meterbank.Crowd

open Meterbank.Sql
open Meterbank.Delta (lastGauge? sumCounter?)

/-! ## Tables that deltas were applied to -/

/-- What tables have become by deltas that were applied one after the
other, each of them whole and once. -/
structure Applied (g₀ : Table Binary64) (c₀ : Table Int64) (ds : List Delta)
    (g : Table Binary64) (c : Table Int64) : Prop where
  gauges : ∀ k, g.get? k = ((lastGauge? ds k).map Binary64.unsignedZero).or (g₀.get? k)
  counters : ∀ k, c.count? k = Table.joined (c₀.count? k) (sumCounter? ds k)

variable {g₀ g : Table Binary64} {c₀ c c' : Table Int64} {ds es : List Delta} {whole : Delta}

theorem Applied.nothing : Applied g₀ c₀ [] g₀ c₀ where
  gauges _ := rfl
  counters _ := (Table.joined_none _).symm

/-- The deltas of a window are applied with its merge. -/
theorem Applied.append (h : Applied g₀ c₀ ds g c) (hm : whole.IsMergeOf es)
    (hadd : c.addAll whole.counters = .ok c') :
    Applied g₀ c₀ (ds ++ es) (g.setRows (Relation.storedRows whole.gauges.toList)) c' where
  gauges k := by
    have hrows : Table.lastOf? (Relation.storedRows whole.gauges.toList) k =
        (lastGauge? es k).map Binary64.unsignedZero := by
      rw [Relation.storedRows, Table.lastOf?_map, Table.lastOf?_toList, hm.gauges]
    rw [Table.get?_setRows, hrows, h.gauges, Delta.lastGauge?_append, Option.map_or, Option.or_assoc]
  counters k := by
    rw [(Table.addAll_eq_ok_iff _ _ _).1 hadd k, h.counters, hm.counters, Delta.sumCounter?_append,
      Table.joined_assoc]

/-- A counter that a delta touched has a total. -/
theorem Applied.counted (h : Applied g₀ c₀ ds g c) {d : Delta} (hd : d ∈ ds) {k : String}
    (hk : (d.counters.get? k).isSome = true) : (c.get? k).isSome = true := by
  -- A sum is missing only if no delta has a part in it.
  have hsum : sumCounter? ds k ≠ none := by
    intro hnone
    have hall := (Delta.sumCounter?_eq_none_iff ds k).1 hnone d hd
    unfold Table.count? at hall
    rw [Option.map_eq_none_iff] at hall
    rw [hall] at hk
    exact absurd hk (by simp)
  have hcount : (c.count? k).isSome = true := by
    rw [h.counters]
    cases hs : sumCounter? ds k with
    | none => exact absurd hs hsum
    | some n =>
      rw [Table.joined_some]
      rfl
  unfold Table.count? at hcount
  rwa [Option.isSome_map] at hcount

/-! ## Histories -/

/-- How a database can come from one state to another, and the deltas of
the windows that were written with success meanwhile. -/
inductive Written (start : SqlStore) : List Delta → SqlStore → Prop where
  | start : Written start [] start
  | window {ds es : List Delta} {whole : Delta} {sql sql' : SqlStore} (h : Written start ds sql)
      (hx : whole.Finite) (hm : whole.IsMergeOf es)
      (hw : sql.unchecked (·.writeDelta whole) = (.ok (), sql')) : Written start (ds ++ es) sql'
  | fail {ds : List Delta} {whole : Delta} {sql sql' : SqlStore} {e : StoreError}
      (h : Written start ds sql) (hx : whole.Finite)
      (hw : sql.unchecked (·.writeDelta whole) = (.error e, sql')) : Written start ds sql'
  | read {ds : List Delta} {sql : SqlStore} (h : Written start ds sql) (keys : List String) :
      Written start ds (sql.unchecked (·.readCounters keys)).2
  | close {ds : List Delta} {sql : SqlStore} (h : Written start ds sql) : Written start ds sql.close.2

variable {start sql sql' : SqlStore}

/-- Who does not look does what he would do if the database were open. -/
theorem unchecked_cases {α : Type} {op : SqlStore → Except StoreError α × SqlStore}
    {answer : Except StoreError α} (h : sql.unchecked op = (answer, sql')) :
    ∃ after, op (sql.withClosed false) = (answer, after) ∧ sql' = after.withClosed sql.isClosed := by
  obtain ⟨hanswer, hsql⟩ := Prod.mk.inj h
  exact ⟨_, Prod.ext hanswer rfl, hsql.symm⟩

/-- That a store is closed does not change its tables. -/
theorem withClosed_shows (h : sql.Shows g c) (closed : Bool) : (sql.withClosed closed).Shows g c :=
  ⟨h.guard, h.tables⟩

/-- **The tables tell the windows that were written**, whatever failed. -/
theorem Written.shows (h : Written start ds sql) (hs : start.Shows g₀ c₀) :
    ∃ g c, sql.Shows g c ∧ Applied g₀ c₀ ds g c := by
  induction h with
  | start => exact ⟨g₀, c₀, hs, .nothing⟩
  | window _ hx hm hw ih =>
    obtain ⟨g, c, hshows, happlied⟩ := ih
    obtain ⟨after, hwrite, rfl⟩ := unchecked_cases hw
    obtain ⟨c', hadd, hafter⟩ := (withClosed_shows hshows false).writeDelta_ok hx hwrite
    exact ⟨_, c', withClosed_shows hafter _, happlied.append hm hadd⟩
  | fail _ hx hw ih =>
    obtain ⟨g, c, hshows, happlied⟩ := ih
    obtain ⟨after, hwrite, rfl⟩ := unchecked_cases hw
    have hafter := (withClosed_shows hshows false).writeDelta_error hx hwrite
    exact ⟨g, c, withClosed_shows hafter _, happlied⟩
  | read _ keys ih =>
    obtain ⟨g, c, hshows, happlied⟩ := ih
    have hafter := (withClosed_shows hshows false).readCounters keys
    exact ⟨g, c, withClosed_shows hafter _, happlied⟩
  | close _ ih =>
    obtain ⟨g, c, hshows, happlied⟩ := ih
    exact ⟨g, c, hshows.close, happlied⟩

/-- A store that works is open, and opening it again changes nothing. -/
theorem withClosed_keeps (h : sql.Keeps g c) (closed : Bool) :
    ((sql.withClosed closed).withClosed false).Keeps g c := by
  have hsame : (sql.withClosed closed).withClosed false = sql := by
    show sql.withClosed false = sql
    unfold SqlStore.withClosed
    rw [← h.faithful.serving]
  rw [hsame]
  exact h

/-- **A database whose connections work goes on to work**, if one does not
mind that it is closed. -/
theorem Written.keeps (h : Written start ds sql) (hs : start.Keeps g₀ c₀) :
    ∃ g c, (sql.withClosed false).Keeps g c ∧ Applied g₀ c₀ ds g c := by
  induction h with
  | start => exact ⟨g₀, c₀, withClosed_keeps hs false, .nothing⟩
  | window _ hx hm hw ih =>
    obtain ⟨g, c, hkeeps, happlied⟩ := ih
    obtain ⟨after, hok, rfl⟩ := unchecked_cases hw
    -- It succeeded, so it was not a total out of range that was met.
    rcases hkeeps.writeDelta hx.rows with
      ⟨c', after', hadd, hwrite, hafter⟩ | ⟨e, cause, after', -, hwrite, -⟩
    · rw [hok] at hwrite
      obtain ⟨-, rfl⟩ := Prod.mk.inj hwrite
      exact ⟨_, c', withClosed_keeps hafter _, happlied.append hm hadd⟩
    · rw [hok] at hwrite
      exact absurd (Prod.mk.inj hwrite).1 (by simp)
  | fail _ hx hw ih =>
    obtain ⟨g, c, hkeeps, happlied⟩ := ih
    obtain ⟨after, herror, rfl⟩ := unchecked_cases hw
    rcases hkeeps.writeDelta hx.rows with
      ⟨c', after', -, hwrite, -⟩ | ⟨e', cause, after', -, hwrite, hafter⟩
    · rw [herror] at hwrite
      exact absurd (Prod.mk.inj hwrite).1 (by simp)
    · rw [herror] at hwrite
      obtain ⟨-, rfl⟩ := Prod.mk.inj hwrite
      exact ⟨g, c, withClosed_keeps hafter _, happlied⟩
  | read _ keys ih =>
    obtain ⟨g, c, hkeeps, happlied⟩ := ih
    obtain ⟨after, hread, hafter⟩ := hkeeps.readCounters keys
    refine ⟨g, c, ?_, happlied⟩
    rw [SqlStore.unchecked, hread]
    exact withClosed_keeps hafter _
  | @close ds sql _ ih =>
    obtain ⟨g, c, hkeeps, happlied⟩ := ih
    have hsame : sql.close.2.withClosed false = sql.withClosed false := by
      unfold SqlStore.close SqlStore.through Session.close Connection.close SqlStore.withClosed
      simp only
      split <;> rfl
    rw [hsame]
    exact ⟨g, c, hkeeps, happlied⟩

/-- **A counter that was written can be read back**, if the connections
work. -/
theorem Written.read_succeeds (h : Written start ds sql) (hs : start.Keeps g₀ c₀) {d : Delta}
    (hd : d ∈ ds) {k : String} (hk : (d.counters.get? k).isSome = true) :
    ∃ found, (sql.unchecked (·.readCounters [k])).1 = .ok found := by
  obtain ⟨g, c, hkeeps, happlied⟩ := h.keeps hs
  obtain ⟨after, hread, -⟩ := hkeeps.readCounters [k]
  -- The counter is there, so no key that was asked for is missing.
  have hsome := happlied.counted hd hk
  have hpresent : Table.ensurePresent .counter [k] (c.restrict [k]) = .ok () := by
    unfold Table.ensurePresent Table.firstMissing
    rw [List.find?_singleton, Table.get?_restrict, if_pos (List.mem_singleton.2 rfl)]
    cases hc : c.get? k with
    | none => exact absurd hsome (by simp [hc])
    | some total => rfl
  refine ⟨c.restrict [k], ?_⟩
  rw [SqlStore.unchecked, hread, Table.select, hpresent]
  rfl

end Meterbank.Crowd
