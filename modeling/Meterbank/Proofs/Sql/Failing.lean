/-
  Meterbank.Proofs.Sql.Failing — what statements fail with.

  A statement fails with a fault, or because a counter would leave the
  range.  A fault is that a value is missing only if the connection itself
  fails with that very fault, as long as the gauges to be written are
  finite: a database keeps a value that is not a number as no value at
  all.  Nothing that a statement does closes a store.

  Main results:
    * `upsertChunks_error`, `ensureAll_error` — what fails with faults only.
    * `deltaStatement_gives`, `select_gives` — what statements give.
    * `Gives.spared`, `Gives.ne_closed` — what an error then is not.
-/
import Meterbank.Proofs.Folding
import Meterbank.Proofs.Refusals
import Meterbank.Proofs.Sql.Holding
import Meterbank.Proofs.Sql.Undoing

namespace Meterbank

variable {α β : Type}

/-! ## Missing values -/

/-- Whether a fault is something else than that a value is missing. -/
def SqlFault.Spares (fault : SqlFault) : Prop := ∀ table column, fault ≠ .notNull table column

theorem SqlFault.spares_check (column : String) : (SqlFault.check column).Spares := fun _ _ => by simp

/-- Whether an answer is something else than that a value is missing. -/
def Spared (answer : Except StoreError α) : Prop :=
  ∀ table column, answer ≠ .error (.sql (.notNull table column))

theorem SqlFault.Spares.spared {fault : SqlFault} (h : fault.Spares) :
    Spared (.error (.sql fault) : Except StoreError α) := by
  intro table column heq
  exact h table column (StoreError.sql.inj (Except.error.inj heq))

theorem StoreError.IsInvalid.spared {e : StoreError} (h : e.IsInvalid) :
    Spared (.error e : Except StoreError α) := by
  obtain ⟨cause, rfl⟩ := h
  exact fun table column heq => by simp at heq

theorem spared_ok (a : α) : Spared (.ok a : Except StoreError α) := fun _ _ => by simp

/-- An error is the same in whatever answer it is. -/
theorem Spared.recast {e : StoreError} (h : Spared (.error e : Except StoreError α)) :
    Spared (.error e : Except StoreError β) := by
  intro table column heq
  exact h table column (congrArg Except.error (Except.error.inj heq))

theorem Spared.map {answer : Except StoreError α} (h : Spared answer) (f : α → β) :
    Spared (answer.map f) := by
  cases answer with
  | ok a => exact spared_ok (f a)
  | error e => exact h.recast

namespace Sql

/-! ## Failures -/

/-- An error of the database, or of a store that is closed. -/
def IsFailure (e : StoreError) : Prop := e = .closed ∨ ∃ fault, e = .sql fault

/-- A refusal is no failure. -/
theorem IsFailure.not_isInvalid {e : StoreError} (h : IsFailure e) : ¬ e.IsInvalid := by
  rintro ⟨cause, rfl⟩
  rcases h with h | ⟨fault, h⟩ <;> exact absurd h (by simp)

/-! ## Rows -/

namespace Relation

variable {r : Relation} {fault : SqlFault}

/-- A value that is there is refused for its size only. -/
theorem allow_error {kind : Kind} {value : Cell} (hv : value ≠ .null)
    (h : r.allow kind value = .error fault) : fault = .check "Value" := by
  unfold allow at h
  rw [if_neg hv] at h
  split at h
  · exact absurd h (by simp)
  · split at h
    · exact absurd h (by simp)
    · exact (Except.error.inj h).symm

/-- A finite gauge is refused for its size only. -/
theorem upsert_error {key : String} {x : Binary64} (hx : x.isFinite = true)
    (h : r.upsert key x = .error fault) : fault = .check "Value" := by
  unfold upsert at h
  rw [asGauge_real hx] at h
  simp only at h
  split at h
  · next hallow =>
    rw [← Except.error.inj h]
    exact allow_error (by simp) hallow
  · exact absurd h (by simp)

theorem upsertRows_error {rows : List (String × Binary64)}
    (hx : ∀ row ∈ rows, row.2.isFinite = true) (h : r.upsertRows rows = .error fault) :
    fault = .check "Value" := by
  induction rows generalizing r with
  | nil => exact absurd h (by simp [upsertRows])
  | cons row rows ih =>
    rw [List.forall_mem_cons] at hx
    rw [upsertRows] at h
    split at h
    · next hrow =>
      rw [← Except.error.inj h]
      exact upsert_error hx.1 hrow
    · exact ih hx.2 h

/-- A counter is refused for its size only. -/
theorem accumulate_error {key : String} {delta : Int64}
    (h : r.accumulate key delta = .error fault) : fault = .check "Value" := by
  unfold accumulate at h
  split at h
  · next hallow =>
    rw [← Except.error.inj h]
    exact allow_error (by simp) hallow
  · split at h
    · exact absurd h (by simp)
    · split at h
      · exact absurd h (by simp)
      · split at h
        · next hallow =>
          rw [← Except.error.inj h]
          exact allow_error (by simp) hallow
        · exact absurd h (by simp)

theorem accumulateRows_error {rows : List (String × Int64)}
    (h : r.accumulateRows rows = .error fault) : fault = .check "Value" := by
  -- A row is added to what the rows before it have made of the table.
  induction rows generalizing r with
  | nil => exact absurd h (by simp [accumulateRows])
  | cons row rows ih =>
    rw [accumulateRows] at h
    split at h
    · next hrow =>
      rw [← Except.error.inj h]
      exact accumulate_error hrow
    · cases hrest : r.accumulateRows rows with
      | ok rest =>
        rw [hrest] at h
        exact absurd h (by simp [Except.map])
      | error fault' =>
        rw [hrest] at h
        obtain rfl : fault' = fault := Except.error.inj h
        exact ih hrest
    · exact ih h

end Relation

/-! ## Connections -/

namespace Access

variable {access : Access} {e : StoreError}

/-- Whether a connection does not fail of its own as if a value were
missing. -/
def Spares : Access → Prop
  | .readWrite => True
  | .readOnly refusal _ => refusal.Spares
  | .blocked fault => fault.Spares
  | .faltering faults => ∀ fault, some fault ∈ faults → fault.Spares

theorem Spares.fault? (h : access.Spares) {fault : SqlFault} (hf : access.fault? = some fault) :
    fault.Spares := by
  unfold Access.fault? at hf
  split at hf
  · rw [← Option.some.inj hf]
    exact h
  · rw [hf] at h
    exact h fault List.mem_cons_self
  · exact absurd hf (by simp)

theorem Spares.later (h : access.Spares) (n : Nat) : (access.later n).Spares := by
  unfold Access.later
  split
  · exact fun fault hmem => h fault (List.mem_of_mem_drop hmem)
  · exact h

/-- Whether an error is a fault, and not that a value is missing unless
the connection itself fails so. -/
def Faults (access : Access) (e : StoreError) : Prop :=
  ∃ fault, e = .sql fault ∧ (access.Spares → fault.Spares)

/-- Whether an error is one that statements on a connection give: a fault,
or a refusal of what was to be written. -/
def Gives (access : Access) (e : StoreError) : Prop := access.Faults e ∨ e.IsInvalid

theorem Faults.later {n : Nat} (h : (access.later n).Faults e) : access.Faults e :=
  let ⟨fault, heq, hspares⟩ := h
  ⟨fault, heq, fun hs => hspares (hs.later n)⟩

theorem Gives.later {n : Nat} (h : (access.later n).Gives e) : access.Gives e :=
  h.imp_left Faults.later

theorem Gives.spared (h : access.Gives e) (hs : access.Spares) :
    Spared (.error e : Except StoreError α) := by
  rcases h with ⟨fault, rfl, hspares⟩ | hinvalid
  · exact (hspares hs).spared
  · exact hinvalid.spared

theorem Gives.ne_closed (h : access.Gives e) : e ≠ .closed := by
  rintro rfl
  rcases h with ⟨fault, heq, -⟩ | ⟨cause, heq⟩ <;> exact absurd heq (by simp)

end Access

/-- What keeps a table from being used. -/
theorem Database.require_spares {access : Access} (h : access.Spares) {db : Database} {kind : Kind}
    {fault : SqlFault} (hr : db.require access kind = .error fault) : fault.Spares := by
  unfold require at hr
  split at hr
  · next hf =>
    rw [← Except.error.inj hr]
    exact h.fault? hf
  · exact absurd hr (by simp)
  · rw [← Except.error.inj hr]
    exact fun _ _ => by simp

theorem Database.requireWritable_spares {access : Access} (h : access.Spares) {db : Database}
    {kind : Kind} {fault : SqlFault} (hr : db.requireWritable access kind = .error fault) :
    fault.Spares := by
  unfold requireWritable at hr
  split at hr
  · next hf =>
    rw [← Except.error.inj hr]
    exact require_spares h hf
  · rw [← Except.error.inj hr]
    exact h
  · exact absurd hr (by simp)

/-! ## Statements -/

namespace Statement

variable {access : Access} {db : Database} {e : StoreError}

/-- Whether all that a statement fails with is what statements on its
connection give. -/
def Gives (statement : Access → Statement α) : Prop :=
  ∀ access db e, (statement access db).1 = .error e → access.Gives e

theorem declare_error {kind : Kind} {bound : Option Bound}
    (h : (declare access kind bound db).1 = .error e) : access.Faults e := by
  unfold declare at h
  split at h
  · next fault hf => exact ⟨fault, (Except.error.inj h).symm, fun hs => hs.fault? hf⟩
  · split at h
    · split at h
      · exact absurd h (by simp)
      · exact ⟨_, (Except.error.inj h).symm, id⟩
    · exact ⟨_, (Except.error.inj h).symm, id⟩
    · exact absurd h (by simp)
    · exact absurd h (by simp)

/-- Gauges are never refused by a statement. -/
theorem upsertChunks_error {count : Nat} {pieces : List (List (String × Binary64))}
    (h : (upsertChunks access count pieces db).1 = .error e) :
    ∃ fault, e = .sql fault ∧
      ((∀ rows ∈ pieces, ∀ row ∈ rows, row.2.isFinite = true) → access.Spares → fault.Spares) := by
  -- Each piece is a statement, and may find another database and another fault.
  induction pieces generalizing access count db with
  | nil => exact absurd h (by simp [upsertChunks])
  | cons rows rest ih =>
    unfold upsertChunks at h
    split at h
    · next fault hr =>
      exact ⟨fault, (Except.error.inj h).symm, fun _ hs => Database.requireWritable_spares hs hr⟩
    · split at h
      · next fault hrows =>
        refine ⟨fault, (Except.error.inj h).symm, fun hx _ => ?_⟩
        rw [Relation.upsertRows_error (hx rows List.mem_cons_self) hrows]
        exact SqlFault.spares_check "Value"
      · obtain ⟨fault, heq, hspares⟩ := ih h
        exact ⟨fault, heq, fun hx hs =>
          hspares (fun rows hrows => hx rows (List.mem_cons_of_mem _ hrows)) (hs.later 1)⟩

/-- **Writing a finite gauge.** -/
theorem upsert_gives (key : String) {x : Binary64} (hx : x.isFinite = true) :
    Gives fun access => upsert access key x := by
  intro access db e h
  simp only [upsert] at h
  split at h
  · next fault hr =>
    exact .inl ⟨fault, (Except.error.inj h).symm, fun hs => Database.requireWritable_spares hs hr⟩
  · split at h
    · next fault hrow =>
      refine .inl ⟨fault, (Except.error.inj h).symm, fun _ => ?_⟩
      rw [Relation.upsert_error hx hrow]
      exact SqlFault.spares_check "Value"
    · exact absurd h (by simp)

theorem accumulate_gives (key : String) (delta : Int64) :
    Gives fun access => accumulate access key delta := by
  intro access db e h
  simp only [accumulate] at h
  split at h
  · next fault hr =>
    exact .inl ⟨fault, (Except.error.inj h).symm, fun hs => Database.requireWritable_spares hs hr⟩
  · split at h
    · next fault hrow =>
      refine .inl ⟨fault, (Except.error.inj h).symm, fun _ => ?_⟩
      rw [Relation.accumulate_error hrow]
      exact SqlFault.spares_check "Value"
    · exact .inr ⟨_, (Except.error.inj h).symm⟩
    · exact absurd h (by simp)

theorem accumulateChunks_gives (count : Nat) (pieces : List (List (String × Int64))) :
    Gives fun access => accumulateChunks access count pieces := by
  induction pieces generalizing count with
  | nil => exact fun _ _ _ h => absurd h (by simp [accumulateChunks])
  | cons rows rest ih =>
    intro access db e h
    simp only [accumulateChunks] at h
    split at h
    · next fault hr =>
      exact .inl ⟨fault, (Except.error.inj h).symm, fun hs => Database.requireWritable_spares hs hr⟩
    · split at h
      · next fault hrows =>
        refine .inl ⟨fault, (Except.error.inj h).symm, fun _ => ?_⟩
        rw [Relation.accumulateRows_error hrows]
        exact SqlFault.spares_check "Value"
      · split at h
        · exact (ih _ _ _ _ h).later
        · exact .inr ⟨_, (Except.error.inj h).symm⟩

theorem bare_gives {report : SqlFault → SqlFault}
    (hreport : ∀ fault : SqlFault, fault.Spares → (report fault).Spares) :
    Gives fun access => bare access report := by
  intro access db e h
  simp only [bare] at h
  split at h
  · next fault hf =>
    exact .inl ⟨_, (Except.error.inj h).symm, fun hs => hreport fault (hs.fault? hf)⟩
  · exact absurd h (by simp)

/-! ## Statements that read -/

section Reading

variable {read : Row → Except SqlFault α} {fault : SqlFault}

theorem readKey_spares {row : Row} (h : Relation.readKey row = .error fault) : fault.Spares := by
  unfold Relation.readKey at h
  split at h
  · exact absurd h (by simp)
  · rw [← Except.error.inj h]
    exact fun _ _ => by simp

theorem collect_spares (hread : ∀ row fault, read row = .error fault → fault.Spares)
    {rows : List Row} {t : Table α} (h : Relation.collect read t rows = .error fault) :
    fault.Spares := by
  induction rows generalizing t with
  | nil => exact absurd h (by simp [Relation.collect])
  | cons row rows ih =>
    rw [Relation.collect] at h
    split at h
    · next hkey =>
      obtain rfl := Except.error.inj h
      exact readKey_spares hkey
    · split at h
      · next hrow =>
        obtain rfl := Except.error.inj h
        exact hread row _ hrow
      · exact ih h

theorem selectChunks_spares (hread : ∀ row fault, read row = .error fault → fault.Spares)
    {r : Relation} {pieces : List (List String)} {t : Table α}
    (h : selectChunks r read t pieces = .error fault) : fault.Spares := by
  induction pieces generalizing t with
  | nil => exact absurd h (by simp [selectChunks])
  | cons keys rest ih =>
    rw [selectChunks] at h
    split at h
    · next hc =>
      obtain rfl := Except.error.inj h
      exact collect_spares hread hc
    · exact ih h

/-- **Reading misses a value in no row.** -/
theorem select_gives (kind : Kind) (keys : List String)
    (hread : ∀ row fault, read row = .error fault → fault.Spares) :
    Gives fun access => select access kind read keys := by
  intro access db e h
  simp only [select] at h
  split at h
  · next fault hr =>
    exact .inl ⟨fault, (Except.error.inj h).symm, fun hs => Database.require_spares hs hr⟩
  · split at h
    · next fault hrows =>
      refine .inl ⟨fault, (Except.error.inj h).symm, fun _ => ?_⟩
      unfold selectRows at hrows
      split at hrows
      · exact collect_spares hread hrows
      · exact selectChunks_spares hread hrows
    · exact absurd h (by simp)

theorem readGauge_spares {row : Row} (h : Relation.readGauge row = .error fault) :
    fault.Spares := by
  unfold Relation.readGauge at h
  split at h
  · exact absurd h (by simp)
  · exact absurd h (by simp)
  · rw [← Except.error.inj h]
    exact fun _ _ => by simp

theorem readCounter_spares {row : Row} (h : Relation.readCounter row = .error fault) :
    fault.Spares := by
  unfold Relation.readCounter at h
  split at h
  · exact absurd h (by simp)
  · rw [← Except.error.inj h]
    exact fun _ _ => by simp

end Reading

/-! ## Transactions -/

section Sequences

variable {first : Access → Statement α} {second : Access → Statement β}

/-- A statement that comes later. -/
theorem Gives.later (h : Gives first) (n : Nat) : Gives fun access => first (access.later n) :=
  fun access db e he => (h (access.later n) db e he).later

theorem Gives.andThen (h : Gives first) (h' : Gives second) :
    Gives fun access => andThen (first access) (second access) := by
  intro access db e he
  simp only [Statement.andThen] at he
  split at he
  · next hs =>
    obtain rfl := Except.error.inj he
    exact h access db _ (congrArg Prod.fst hs)
  · exact h' access _ e he

theorem atomically_gives (h : Gives first) : Gives fun access => atomically (first access) := by
  intro access db e he
  simp only [atomically] at he
  split at he
  · exact absurd he (by simp)
  · next hs =>
    obtain rfl := Except.error.inj he
    exact h access db _ (congrArg Prod.fst hs)

end Sequences

/-- The pieces hold the rows of the updates, and nothing else. -/
theorem finite_chunks {d : Delta} (hd : d.Finite) :
    ∀ rows ∈ chunksOf chunkRows d.gauges.toList, ∀ row ∈ rows, row.2.isFinite = true := by
  intro rows hrows row hrow
  have hmem : row ∈ (chunksOf chunkRows d.gauges.toList).flatten :=
    List.mem_flatten.2 ⟨rows, hrows, hrow⟩
  rw [flatten_chunksOf _ _ (by decide)] at hmem
  exact hd.rows row hmem

theorem deltaRows_gives {d : Delta} (hd : d.Finite) : Gives (SqlStore.deltaRows d) := by
  have hgauges : Gives fun access => upsertMany access d.gauges.toList := fun _ _ _ h =>
    let ⟨fault, heq, hspares⟩ := upsertChunks_error h
    .inl ⟨fault, heq, hspares (finite_chunks hd)⟩
  have hcounters : Gives fun access => accumulateMany access d.counters.toList :=
    accumulateChunks_gives 0 _
  have hdone : Gives fun _ : Access => fun db => ((.ok () : Except StoreError Unit), db) :=
    fun _ _ _ h => absurd h (by simp)
  intro access db e h
  simp only [deltaRows_eq] at h
  exact hgauges.andThen ((hcounters.later _).andThen hdone) access db e h

/-- What the statements of a transaction give, it gives. -/
theorem committed_gives (statements : Nat) {body : Access → Statement Unit} (hbody : Gives body) :
    Gives fun access => committed access statements body := by
  have hbegin : Gives fun access => bare access id := bare_gives fun _ h => h
  have hcommit : Gives fun access => bare access .commit := bare_gives fun _ _ _ _ => by simp
  intro access db e h
  simp only [committed_eq] at h
  exact atomically_gives (hbegin.andThen ((hbody.later 1).andThen (hcommit.later _))) access db e h

/-- **Writing finite folded updates.** -/
theorem deltaStatement_gives {d : Delta} (hd : d.Finite) : Gives (SqlStore.deltaStatement d) :=
  committed_gives _ (deltaRows_gives hd)

end Statement

/-! ## Work -/

/-- Whether all that work fails with is what statements on its connection
give. -/
def Work.Gives (work : Work α) : Prop :=
  ∀ access p e, (work access p).1 = .error e → access.Gives e

/-- Making sure of a table fails with a fault, if it fails. -/
theorem Guard.ensure_error {access : Access} {kind : Kind} {p : Guard × Database} {e : StoreError}
    (h : (ensure access kind p).1 = .error e) : access.Faults e := by
  unfold ensure at h
  split at h
  · exact absurd h (by simp)
  · split at h
    · exact absurd h (by simp)
    · next hcreate =>
      obtain rfl := Except.error.inj h
      exact Statement.declare_error (congrArg Prod.fst hcreate)

/-- **Making sure of tables is never refused.** -/
theorem ensureAll_error {access : Access} {kinds : List Kind} {p : Guard × Database}
    {e : StoreError} (h : (SqlStore.ensureAll access kinds p).1 = .error e) : access.Faults e := by
  induction kinds generalizing access p with
  | nil => exact absurd h (by simp [SqlStore.ensureAll])
  | cons kind kinds ih =>
    unfold SqlStore.ensureAll at h
    simp only at h
    split at h
    · have hrest := ih h
      split at hrest
      · exact hrest
      · exact hrest.later
    · next hensure =>
      obtain rfl := Except.error.inj h
      exact Guard.ensure_error (congrArg Prod.fst hensure)

/-- Once the tables are there, the connection spares whom it spared. -/
theorem ensureAll_spares {access access' : Access} {kinds : List Kind} {p : Guard × Database}
    (h : (SqlStore.ensureAll access kinds p).1 = .ok access') (hs : access.Spares) :
    access'.Spares := by
  induction kinds generalizing access p with
  | nil => exact Except.ok.inj h ▸ hs
  | cons kind kinds ih =>
    unfold SqlStore.ensureAll at h
    simp only at h
    split at h
    · refine ih h ?_
      split
      · exact hs
      · exact hs.later 1
    · exact absurd h (by simp)

/-- A statement after making sure of tables. -/
theorem writing_gives (kinds : List Kind) {statement : Access → Statement α}
    (h : Statement.Gives statement) : (SqlStore.writing kinds statement).Gives := by
  intro access p e he
  unfold SqlStore.writing at he
  split at he
  · next hensure =>
    obtain rfl := Except.error.inj he
    exact .inl (ensureAll_error (congrArg Prod.fst hensure))
  · next hensure =>
    refine (h _ _ e he).imp_left fun ⟨fault, heq, hspares⟩ => ⟨fault, heq, fun hs => hspares ?_⟩
    exact ensureAll_spares (congrArg Prod.fst hensure) hs

theorem reading_gives {statement : Access → Statement α} (h : Statement.Gives statement) :
    (SqlStore.reading statement).Gives := fun access p e he => h access p.2 e he

/-! ## Connections at work -/

theorem Link.offer_spares {l : Link} (h : l.access.Spares) : l.offer.Spares := by
  unfold offer
  split
  · next heq => rw [heq] at h; exact h
  · exact h

theorem Link.run_gives {work : Work α} (h : work.Gives) (l : Link) {p : Guard × Database}
    {e : StoreError} (he : (l.run work p).1 = .error e) : l.access.Gives e := by
  have hoffer : l.offer.Gives e := by
    unfold run at he
    split at he
    · exact h _ _ e he
    · exact h _ _ e he
  exact hoffer.imp_left fun ⟨fault, heq, hspares⟩ =>
    ⟨fault, heq, fun hs => hspares (Link.offer_spares hs)⟩

/-- **A connection that is open does not answer that it is closed.** -/
theorem Session.onWriter_ne_closed {work : Work α} (h : work.Gives) {s : Session}
    (hopen : s.connection.closed = false) : (s.onWriter work).1 ≠ .error .closed := by
  intro he
  have hrun : (s.connection.writer.run work (s.guard, s.database)).1 = .error .closed := by
    unfold onWriter Connection.onWriter at he
    rw [if_neg (by simp [hopen])] at he
    exact he
  exact (Link.run_gives h s.connection.writer hrun).ne_closed rfl

end Sql

end Meterbank
