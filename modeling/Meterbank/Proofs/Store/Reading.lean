/-
  Meterbank.Proofs.Store.Reading — keyed reads are exact.

  Tables in memory look up each key.  A database is asked for the keys in
  pieces, and what it found is checked against all of them.  Both come to
  the same: the whole table, if no key is given; else the part of it that
  was asked for, if all of it is there; else the first key, in the order
  of the request, that is not there.  Reading one metric is reading one
  key, so it never answers with a number that nobody wrote.

  A store over a database may also fail.  Whatever its connections do, it
  then says so, or what it answers is exact for the rows that its reading
  connection sees.

  Main results:
    * `exact_of_demand` — reading, and then asking for all keys, is exact.
    * `ReadsExactly.of_tables` — so reading one metric is.
    * `SqlStore.answers_readable` — a read of the rows that a connection
      sees.
    * `FileStore.readsExactly`, `SqlStore.readsExactly_readable`,
      `CoalescedStore.readsExactly` — the stores.
    * `keyed_reads_exact` — all of it.
-/
import Meterbank.Proofs.Sql.Failing
import Meterbank.Proofs.Sql.Refusing
import Meterbank.Proofs.Sql.Selecting
import Meterbank.Proofs.Store.Showing
import Meterbank.Store.Coalesced
import Meterbank.Store.File

namespace Meterbank

open Meterbank.Sql

/-! ## Exact answers -/

section

variable {α : Type}

/-- What a read of keys answers, if `look` says what is stored for each
name. -/
structure ReadExactly (kind : Kind) (look : String → Option α) (keys : List String)
    (answer : Except StoreError (Table α)) : Prop where
  /-- No keys ask for everything. -/
  whole : keys = [] → ∃ found, answer = .ok found ∧ ∀ k, found.get? k = look k
  /-- Keys that are all there are read, and nothing else is. -/
  restricted : keys ≠ [] → (∀ k ∈ keys, look k ≠ none) →
    ∃ found, answer = .ok found ∧ ∀ k, found.get? k = if k ∈ keys then look k else none
  /-- The first key that is not there is reported. -/
  missing : ∀ before k after, keys = before ++ k :: after → (∀ j ∈ before, look j ≠ none) →
    look k = none → answer = .error (.notFound kind k)

/-- What a read answers if it does not fail. -/
def Answers (fails : StoreError → Prop) (kind : Kind) (look : String → Option α)
    (keys : List String) (answer : Except StoreError (Table α)) : Prop :=
  (∃ e, fails e ∧ answer = .error e) ∨ ReadExactly kind look keys answer

variable {kind : Kind} {look : String → Option α} {keys : List String} {t found : Table α}

theorem Table.firstMissing_eq_none (h : ∀ k ∈ keys, t.get? k ≠ none) : t.firstMissing keys = none := by
  unfold firstMissing
  rw [List.find?_eq_none]
  intro k hk hnone
  exact h k hk (Option.isNone_iff_eq_none.1 hnone)

theorem Table.firstMissing_append {before after : List String} {k : String}
    (hbefore : ∀ j ∈ before, t.get? j ≠ none) (hk : t.get? k = none) :
    t.firstMissing (before ++ k :: after) = some k := by
  have hnone := firstMissing_eq_none hbefore
  unfold firstMissing at hnone ⊢
  rw [List.find?_append, hnone, List.find?_cons, hk]
  rfl

/-- **Who has found the values of the keys, and then asks for all of them,
reads exactly.** -/
theorem exact_of_demand {answer : Except StoreError (Table α)}
    (hfound : ∀ k, found.get? k = if keys = [] ∨ k ∈ keys then look k else none)
    (hanswer : answer = match found.ensurePresent kind keys with
      | .error e => .error e
      | .ok _ => .ok found) : ReadExactly kind look keys answer where
  whole := by
    rintro rfl
    refine ⟨found, hanswer, fun k => ?_⟩
    rw [hfound, if_pos (.inl rfl)]
  restricted hne hall := by
    have hpresent : ∀ k ∈ keys, found.get? k ≠ none := by
      intro k hk
      rw [hfound, if_pos (.inr hk)]
      exact hall k hk
    refine ⟨found, ?_, fun k => ?_⟩
    · rw [hanswer, Table.ensurePresent, Table.firstMissing_eq_none hpresent]
    · simp only [hfound, hne, false_or]
  missing before k after hkeys hbefore hk := by
    have hpresent : ∀ j ∈ before, found.get? j ≠ none := by
      intro j hj
      rw [hfound, if_pos (.inr (hkeys ▸ List.mem_append_left _ hj))]
      exact hbefore j hj
    have habsent : found.get? k = none := by
      rw [hfound, hk, ite_self]
    rw [hanswer, Table.ensurePresent, hkeys, Table.firstMissing_append hpresent habsent]

/-- Selecting from a table is exact. -/
theorem readExactly_select (kind : Kind) (t : Table α) (keys : List String) :
    ReadExactly kind t.get? keys (t.select kind keys) := by
  cases keys with
  | nil =>
    have hfound : ∀ k, t.get? k = if ([] : List String) = [] ∨ k ∈ [] then t.get? k else none := by
      simp
    exact exact_of_demand hfound rfl
  | cons key keys =>
    have hfound : ∀ k, (t.restrict (key :: keys)).get? k =
        if key :: keys = [] ∨ k ∈ key :: keys then t.get? k else none := fun k => by
      rw [Table.get?_restrict]
      simp
    apply exact_of_demand hfound
    unfold Table.select
    rw [List.isEmpty_cons, if_neg (by simp)]
    cases (t.restrict (key :: keys)).ensurePresent kind (key :: keys) <;> rfl

end

/-! ## Stores that read exactly -/

/-- Every read of a store in a state fails, or is exact: of tables, and of
one metric of a known kind. -/
structure Store.ReadsExactly {σ : Type} (S : Store σ) (fails : StoreError → Prop) (s : σ)
    (g : String → Option Binary64) (c : String → Option Int64) : Prop where
  gauges : ∀ keys, Answers fails .gauge g keys (S.readGauges keys s).1
  counters : ∀ keys, Answers fails .counter c keys (S.readCounters keys s).1
  /-- A gauge is read with its value and without a delta. -/
  gauge : ∀ q : Metric, Kind.ofTag? q.tag = some .gauge →
    (∃ e, fails e ∧ (S.readData q s).1 = .error e) ∨
      (∀ x, g q.id = some x → (S.readData q s).1 = .ok ⟨q.id, Kind.gauge.tag, none, some x⟩) ∧
      (g q.id = none → (S.readData q s).1 = .error (.notFound .gauge q.id))
  /-- A counter is read with its total and without a value. -/
  counter : ∀ q : Metric, Kind.ofTag? q.tag = some .counter →
    (∃ e, fails e ∧ (S.readData q s).1 = .error e) ∨
      (∀ n, c q.id = some n → (S.readData q s).1 = .ok ⟨q.id, Kind.counter.tag, some n, none⟩) ∧
      (c q.id = none → (S.readData q s).1 = .error (.notFound .counter q.id))

/-- A read of one key has its value, or reports it. -/
theorem ReadExactly.single {α : Type} {kind : Kind} {look : String → Option α} {k : String}
    {answer : Except StoreError (Table α)} (h : ReadExactly kind look [k] answer) :
    (∀ v, look k = some v → ∃ found, answer = .ok found ∧ found.get? k = some v) ∧
      (look k = none → answer = .error (.notFound kind k)) := by
  constructor
  · intro v hv
    obtain ⟨found, hanswer, hfound⟩ := h.restricted (by simp) (by simp [hv])
    exact ⟨found, hanswer, by rw [hfound, if_pos (by simp), hv]⟩
  · exact h.missing [] k [] rfl nofun

/-- What is picked from an answer that is exact is exact. -/
theorem Answers.pick {α σ : Type} {fails : StoreError → Prop} {kind : Kind}
    {look : String → Option α} {id : String} {p : Except StoreError (Table α) × σ}
    (h : Answers fails kind look [id] p.1) (metric : String → α → Metric) :
    (∃ e, fails e ∧ (Store.pick kind metric id p).1 = .error e) ∨
      (∀ x, look id = some x → (Store.pick kind metric id p).1 = .ok (metric id x)) ∧
      (look id = none → (Store.pick kind metric id p).1 = .error (.notFound kind id)) := by
  obtain ⟨answer, s⟩ := p
  rcases h with ⟨e, he, rfl⟩ | hexact
  · exact .inl ⟨e, he, rfl⟩
  · obtain ⟨hsome, hnone⟩ := hexact.single
    refine .inr ⟨fun x hx => ?_, fun hx => ?_⟩
    · obtain ⟨found, rfl, hget⟩ := hsome x hx
      simp only [Store.pick, hget]
    · obtain rfl : answer = _ := hnone hx
      rfl

/-- **A store that reads its tables exactly reads each metric exactly.** -/
theorem Store.ReadsExactly.of_tables {σ : Type} {S : Store σ} {fails : StoreError → Prop} {s : σ}
    {g : String → Option Binary64} {c : String → Option Int64}
    (hgauges : ∀ keys, Answers fails .gauge g keys (S.readGauges keys s).1)
    (hcounters : ∀ keys, Answers fails .counter c keys (S.readCounters keys s).1) :
    S.ReadsExactly fails s g c where
  gauges := hgauges
  counters := hcounters
  gauge q hq := by
    unfold readData Kind.parse
    rw [hq]
    exact (hgauges [q.id]).pick .gauge
  counter q hq := by
    unfold readData Kind.parse
    rw [hq]
    exact (hcounters [q.id]).pick .counter

/-- **Tables in memory are read exactly.** -/
theorem FileStore.readsExactly (p : FileStore.State) :
    FileStore.operations.ReadsExactly (fun _ => False) p p.1.gauges.get? p.1.counters.get? :=
  .of_tables (fun keys => .inr (readExactly_select .gauge _ keys))
    fun keys => .inr (readExactly_select .counter _ keys)

/-! ## What a reading connection sees -/

namespace Sql

theorem Database.rows_of_content {db db' : Database} (h : db.content = db'.content) (kind : Kind) :
    db.rows kind = db'.rows kind := by
  cases kind with
  | gauge => exact congrArg Prod.fst h
  | counter => exact congrArg Prod.snd h

namespace Session

/-- The connection that is read on next. -/
def nextReader (s : Session) : Link :=
  (s.connection.readers[s.connection.turn % s.connection.readers.length]?).getD s.connection.writer

/-- The rows that it sees. -/
def readable (s : Session) (kind : Kind) : List Row := (s.nextReader.view s.database).rows kind

/-- Making sure of a table leaves the rows that are read next, on whatever
connection that is done. -/
theorem readable_ensure (s : Session) (kind kind' : Kind) :
    (s.onWriter fun access => Guard.ensure access kind).2.readable kind' = s.readable kind' := by
  unfold onWriter Connection.onWriter
  by_cases hclosed : s.connection.closed = true
  · rw [if_pos hclosed]
  · rw [if_neg hclosed]
    have hrun := Link.run_content (ensure_keepsRows kind) s.connection.writer (s.guard, s.database)
      trivial
    apply Database.rows_of_content
    unfold nextReader
    cases s.connection.readers[s.connection.turn % s.connection.readers.length]? with
    | none => exact hrun.2
    | some reader => exact Link.view_content hrun.1

/-- Work on a connection that reads is refused, or done on what it sees. -/
theorem onReader_answer {α : Type} (work : Work α) (s : Session) :
    (s.onReader work).1 = .error .closed ∨
      ∃ access, (s.onReader work).1 =
        (work access (s.guard, s.nextReader.view s.database)).1 := by
  by_cases hclosed : s.connection.closed = true
  · rw [s.onReader_closed work hclosed]
    exact .inl rfl
  · refine .inr ⟨s.nextReader.offer, ?_⟩
    rw [← (s.nextReader.run_view work s.guard s.database).1]
    unfold onReader Connection.onReader nextReader
    cases hr : s.connection.readers[s.connection.turn % s.connection.readers.length]? with
    | none =>
      simp only [hr, Connection.onWriter, if_neg hclosed]
      rfl
    | some reader =>
      simp only [hr, if_neg hclosed]
      rfl

end Session

end Sql

namespace SqlStore

/-- Making sure of a table that is to be read fails, or leaves what is
read. -/
theorem prepareRead_readable (s : SqlStore) (kind kind' : Kind) :
    (∃ e, IsFailure e ∧ (s.prepareRead kind).1 = .error e) ∨
      (s.prepareRead kind).1 = .ok () ∧
        (s.prepareRead kind).2.session.readable kind' = s.session.readable kind' := by
  unfold prepareRead
  split
  · exact .inr ⟨rfl, rfl⟩
  · cases hanswer : (s.session.onWriter fun access => Guard.ensure access kind).1 with
    | ok u => exact .inr ⟨hanswer, s.session.readable_ensure kind kind'⟩
    | error e =>
      refine .inl ⟨e, ?_, hanswer⟩
      rcases s.session.onWriter_shown fun access => Guard.ensure access kind with
        hclosed | ⟨access, hensure, -⟩
      · rw [hclosed] at hanswer
        exact .inl (Except.error.inj hanswer).symm
      · rw [hensure] at hanswer
        obtain ⟨fault, heq, -⟩ := Guard.ensure_error hanswer
        exact .inr ⟨fault, heq⟩

/-- **A read fails, or is exact for the rows that its connection sees.** -/
theorem answers_readable {α : Type} (s : SqlStore) (kind : Kind) (row : Row → Except SqlFault α)
    (hn : ((s.session.readable kind).map Row.key).Nodup) (keys : List String) :
    Answers IsFailure kind (Relation.valueOf row (s.session.readable kind)) keys
      (demand kind keys (s.read kind fun access => Statement.select access kind row keys)).1 := by
  unfold SqlStore.read
  rcases s.prepareRead_readable kind kind with ⟨e, he, hfailed⟩ | ⟨hready, hsame⟩
  · rcases hp : s.prepareRead kind with ⟨answer, s'⟩
    rw [hp] at hfailed
    obtain rfl : answer = .error e := hfailed
    exact .inl ⟨e, he, rfl⟩
  · rcases hp : s.prepareRead kind with ⟨answer, s'⟩
    rw [hp] at hready hsame
    obtain rfl : answer = .ok () := hready
    -- The rows are those from before the table was made sure of.
    rw [← hsame] at hn ⊢
    simp only
    rcases hr : s'.session.onReader
        (reading fun access => Statement.select access kind row keys) with ⟨result, session⟩
    have hwork := s'.session.onReader_answer
      (reading fun access => Statement.select access kind row keys)
    rw [hr] at hwork
    simp only [through, hr]
    rcases hwork with rfl | ⟨access, hresult⟩
    · exact .inl ⟨.closed, .inl rfl, rfl⟩
    · rcases Statement.select_answer access kind row keys hn with
        ⟨fault, hfault⟩ | ⟨found, hfound, hget⟩
      · obtain rfl : result = .error (.sql fault) := hresult.trans hfault
        exact .inl ⟨_, .inr ⟨fault, rfl⟩, rfl⟩
      · obtain rfl : result = .ok found := hresult.trans hfound
        refine .inr (exact_of_demand hget ?_)
        unfold demand
        simp only
        cases found.ensurePresent kind keys <;> rfl

/-- **What a database answers with is exact**, whatever its connections do
and whatever stands in its rows. -/
theorem readsExactly_readable (s : SqlStore)
    (hn : ∀ kind, ((s.session.readable kind).map Row.key).Nodup) :
    operations.ReadsExactly IsFailure s
      (Relation.valueOf Relation.readGauge (s.session.readable .gauge))
      (Relation.valueOf Relation.readCounter (s.session.readable .counter)) :=
  .of_tables (s.answers_readable .gauge Relation.readGauge (hn .gauge))
    (s.answers_readable .counter Relation.readCounter (hn .counter))

/-- **A store whose connections work reads what it keeps.** -/
theorem Keeps.readsExactly {s : SqlStore} {g : Table Binary64} {c : Table Int64} (h : s.Keeps g c) :
    operations.ReadsExactly (fun _ => False) s g.get? c.get? := by
  apply Store.ReadsExactly.of_tables
  · intro keys
    obtain ⟨s', hread, -⟩ := h.readGauges keys
    rw [show operations.readGauges keys s = _ from hread]
    exact .inr (readExactly_select .gauge g keys)
  · intro keys
    obtain ⟨s', hread, -⟩ := h.readCounters keys
    rw [show operations.readCounters keys s = _ from hread]
    exact .inr (readExactly_select .counter c keys)

end SqlStore

/-- A store behind a window reads its tables from the database. -/
theorem CoalescedStore.readsExactly {s : CoalescedStore} {fails : StoreError → Prop}
    {g : String → Option Binary64} {c : String → Option Int64}
    (h : SqlStore.operations.ReadsExactly fails s.sql g c) :
    CoalescedStore.operations.ReadsExactly fails s g c :=
  .of_tables h.gauges h.counters

/-! ## All stores -/

/-- **Keyed reads are exact on every store.**  For every list of keys, of
any length and with any repetitions, a read answers with the whole table
if the list is empty, with exactly the part that was asked for if all of
it is there, and else reports the first key, in the order of the list,
that is not there.  One metric of a known kind is read with what is
stored in the field of its kind and nothing in the other, or is reported.
This holds of tables in memory in every state, of databases whose
connections work, whatever tables they keep, and of windows before them.
A database whose connections may do anything and whose rows may hold
anything fails with an error of its own, or answers just so for the rows
that it reads from. -/
theorem keyed_reads_exact :
    (∀ p : FileStore.State,
      FileStore.operations.ReadsExactly (fun _ => False) p p.1.gauges.get? p.1.counters.get?) ∧
    (∀ (s : SqlStore) (g : Table Binary64) (c : Table Int64), s.Keeps g c →
      SqlStore.operations.ReadsExactly (fun _ => False) s g.get? c.get?) ∧
    (∀ (s : CoalescedStore) (g : Table Binary64) (c : Table Int64), s.sql.Keeps g c →
      CoalescedStore.operations.ReadsExactly (fun _ => False) s g.get? c.get?) ∧
    ∀ s : SqlStore, (∀ kind, ((s.session.readable kind).map Row.key).Nodup) →
      SqlStore.operations.ReadsExactly IsFailure s
        (Relation.valueOf Relation.readGauge (s.session.readable .gauge))
        (Relation.valueOf Relation.readCounter (s.session.readable .counter)) :=
  ⟨FileStore.readsExactly, fun _ _ _ h => h.readsExactly,
    fun _ _ _ h => CoalescedStore.readsExactly h.readsExactly, SqlStore.readsExactly_readable⟩

/-! ## One counter, and one that is not there -/

/-- A new database that one counter was written to keeps it. -/
theorem SqlStore.exists_keeps_single (key : String) :
    ∃ s : SqlStore, s.Keeps ∅ ((∅ : Table Int64).set key 1) := by
  have htotal : checkedTotal key ((∅ : Table Int64).total key) 1 = .ok 1 :=
    (checkedTotal_eq_ok_iff _ _ _ _).2 (by simp [Table.total])
  rcases (create_keeps Connection.inMemory_faithful).addCounter key 1 with
    ⟨total, s, hadd, -, hkeeps⟩ | ⟨refusal, cause, s, hadd, -, -⟩
  · rw [htotal] at hadd
    rw [← Except.ok.inj hadd] at hkeeps
    exact ⟨s, hkeeps⟩
  · rw [htotal] at hadd
    exact absurd hadd (by simp)

/-- Of a counter that is asked for twice and two that are not there, the
first one that is not there is reported; the one that is there is read,
also behind a window.  A database without rows answers or fails. -/
theorem first_missing_reported :
    ∃ s : SqlStore, s.Keeps ∅ ((∅ : Table Int64).set "a" 1) ∧
      (s.readCounters ["a", "a", "c", "b"]).1 = .error (.notFound .counter "c") ∧
      (∃ found, (s.readCounters ["a", "a"]).1 = .ok found ∧ found.get? "a" = some 1) ∧
      (CoalescedStore.operations.readData ⟨"a", "counter", none, none⟩ ⟨s, .init, 100⟩).1 =
        .ok ⟨"a", "counter", some 1, none⟩ ∧
      Answers IsFailure .counter (fun _ => none) ["a"] (SqlStore.inMemory.readCounters ["a"]).1 := by
  obtain ⟨s, hkeeps⟩ := SqlStore.exists_keeps_single "a"
  have hsome : ((∅ : Table Int64).set "a" 1).get? "a" = some 1 := by
    rw [Table.get?_set, if_pos rfl]
  have hnone : ((∅ : Table Int64).set "a" 1).get? "c" = none := by
    rw [Table.get?_set, if_neg (by decide), Table.get?_empty]
  have hall : ∀ k ∈ ["a", "a"], ((∅ : Table Int64).set "a" 1).get? k ≠ none := by
    simp [hsome]
  have htag : Kind.ofTag? "counter" = some .counter := by decide
  have hempty : ∀ kind, ((SqlStore.inMemory.session.readable kind).map Row.key).Nodup := by
    intro kind
    cases kind <;> exact List.nodup_nil
  refine ⟨s, hkeeps, ?_, ?_, ?_, ?_⟩
  · rcases (keyed_reads_exact.2.1 s _ _ hkeeps).counters ["a", "a", "c", "b"] with
      ⟨e, hfails, -⟩ | hexact
    · exact hfails.elim
    · exact hexact.missing ["a", "a"] "c" ["b"] rfl hall hnone
  · rcases (keyed_reads_exact.2.1 s _ _ hkeeps).counters ["a", "a"] with ⟨e, hfails, -⟩ | hexact
    · exact hfails.elim
    · obtain ⟨found, hfound, hget⟩ := hexact.restricted (by simp) hall
      exact ⟨found, hfound, by rw [hget, if_pos (by simp), hsome]⟩
  · rcases (keyed_reads_exact.2.2.1 ⟨s, .init, 100⟩ _ _ hkeeps).counter
        ⟨"a", "counter", none, none⟩ htag with ⟨e, hfails, -⟩ | ⟨hread, -⟩
    · exact hfails.elim
    · exact hread 1 hsome
  · exact (keyed_reads_exact.2.2.2 SqlStore.inMemory hempty).counters ["a"]

end Meterbank
