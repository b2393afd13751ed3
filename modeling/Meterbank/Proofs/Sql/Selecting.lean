/-
  Meterbank.Proofs.Sql.Selecting — what a select reads, of any rows.

  Nothing is assumed of the rows but that no two have the same key, as the
  primary key sees to.  Their keys may be no texts and their values of any
  class; then a select that comes to them fails.  A select that succeeds
  has read of each key that was asked for the value of its row, and
  nothing of other keys, into however many pieces the keys are cut and
  wherever a key is repeated.

  Main results:
    * `collect_ok` — what is read from rows.
    * `selectRows_ok` — what is read for keys, in pieces.
    * `select_answer` — a select fails in the database, or reads exactly.
-/
import Meterbank.Proofs.Sql.Applying

namespace Meterbank.Sql

/-! ## Rows -/

namespace Relation

variable {α : Type} {read : Row → Except SqlFault α}

/-- The value that is read of the row of a name, if there is one. -/
def valueOf (read : Row → Except SqlFault α) (rows : List Row) (k : String) : Option α :=
  (rows.find? fun row => row.key = .text k).bind fun row => (read row).toOption

theorem valueOf_cons (row : Row) (rows : List Row) (k : String) :
    valueOf read (row :: rows) k =
      if row.key = .text k then (read row).toOption else valueOf read rows k := by
  unfold valueOf
  rw [List.find?_cons]
  split
  · next h => rw [if_pos (of_decide_eq_true h)]; rfl
  · next h => rw [if_neg (of_decide_eq_false h)]

theorem valueOf_eq_none {rows : List Row} {k : String} (h : .text k ∉ rows.map Row.key) :
    valueOf read rows k = none := by
  have hfind : rows.find? (fun row => row.key = .text k) = none := by
    rw [List.find?_eq_none]
    intro row hrow heq
    exact h (List.mem_map.2 ⟨row, hrow, of_decide_eq_true heq⟩)
  rw [valueOf, hfind]
  rfl

/-- **Rows that have been read are added with their values.** -/
theorem collect_ok {rows : List Row} (hn : (rows.map Row.key).Nodup) {t found : Table α}
    (h : collect read t rows = .ok found) (k : String) :
    found.get? k = (valueOf read rows k).or (t.get? k) := by
  induction rows generalizing t with
  | nil =>
    rw [← Except.ok.inj h]
    rfl
  | cons row rows ih =>
    rw [List.map_cons, List.nodup_cons] at hn
    unfold collect readKey at h
    rw [valueOf_cons]
    split at h
    · exact absurd h (by simp)
    · next key hkey =>
      split at hkey
      · next s hs =>
        obtain rfl : s = key := Except.ok.inj hkey
        split at h
        · exact absurd h (by simp)
        · next value hvalue =>
          rw [ih hn.2 h, Table.get?_set, hs, hvalue]
          by_cases hk : s = k
          · -- No other row has the key.
            subst hk
            rw [valueOf_eq_none (hs ▸ hn.1)]
            simp [Except.toOption]
          · simp [hk]
      · exact absurd hkey (by simp)

/-! ## Keys -/

theorem nodup_sortKeys (keys : List String) : (sortKeys keys).Nodup := Table.nodup_names _

/-- The row of a key that was asked for is the one it has. -/
theorem valueOf_rowsOf (r : Relation) (keys : List String) (k : String) :
    valueOf read (r.rowsOf keys) k = if k ∈ keys then valueOf read r.rows k else none := by
  simp only [← mem_sortKeys keys k]
  unfold Relation.rowsOf
  induction sortKeys keys with
  | nil => rfl
  | cons key rest ih =>
    cases hfind : r.find? key with
    | none =>
      rw [List.filterMap_cons_none (by rw [hfind]; rfl), ih]
      by_cases hk : k = key
      · -- A key without a row is not read, and has no value.
        subst hk
        have hnone : valueOf read r.rows k = none := by
          unfold valueOf
          rw [Option.map_eq_none_iff.1 hfind]
          rfl
        simp [hnone]
      · simp [hk]
    | some value =>
      rw [List.filterMap_cons_some (by rw [hfind]; rfl), valueOf_cons, ih]
      by_cases hk : k = key
      · subst hk
        obtain ⟨row, hrow, rfl⟩ := Option.map_eq_some_iff.1 hfind
        have hkey : row.key = .text k := by simpa using List.find?_some hrow
        have hvalue : valueOf read r.rows k = (read row).toOption := by
          unfold valueOf
          rw [hrow]
          rfl
        rw [if_pos rfl, if_pos List.mem_cons_self, hvalue, ← hkey]
      · rw [if_neg (by simpa using Ne.symm hk)]
        simp [hk]

theorem nodup_rowsOf (r : Relation) (keys : List String) :
    ((r.rowsOf keys).map Row.key).Nodup := by
  unfold Relation.rowsOf
  rw [List.map_filterMap]
  apply (nodup_sortKeys keys).filterMap
  intro a b row ha hb
  simp only [Option.map_map, Option.mem_def, Option.map_eq_some_iff, Function.comp_apply] at ha hb
  obtain ⟨_, -, rfl⟩ := ha
  obtain ⟨_, -, hkey⟩ := hb
  exact (Key.text.inj hkey).symm

/-- Pieces of keys that have been read are added with their values. -/
theorem selectChunks_ok {r : Relation} {pieces : List (List String)} {t found : Table α}
    (h : Statement.selectChunks r read t pieces = .ok found) (k : String) :
    found.get? k = (if k ∈ pieces.flatten then valueOf read r.rows k else none).or (t.get? k) := by
  induction pieces generalizing t with
  | nil =>
    rw [← Except.ok.inj h]
    simp
  | cons keys rest ih =>
    unfold Statement.selectChunks at h
    split at h
    · exact absurd h (by simp)
    · next t' ht' =>
      -- A key in several pieces is read again with the value it had.
      rw [ih h, collect_ok (nodup_rowsOf r keys) ht', valueOf_rowsOf, ← Option.or_assoc]
      simp only [List.flatten_cons, List.mem_append]
      by_cases hk : k ∈ keys <;> by_cases hr : k ∈ rest.flatten <;> simp [hk, hr]

/-- **What is read for keys are the values of these keys**, and of all, if
none is given. -/
theorem selectRows_ok {r : Relation} (hn : (r.rows.map Row.key).Nodup) {keys : List String}
    {found : Table α} (h : Statement.selectRows r read keys = .ok found) (k : String) :
    found.get? k = if keys = [] ∨ k ∈ keys then valueOf read r.rows k else none := by
  unfold Statement.selectRows at h
  split at h
  · next hempty =>
    rw [collect_ok hn h, Table.get?_empty, Option.or_none, if_pos (.inl (List.isEmpty_iff.1 hempty))]
  · next hkeys =>
    rw [List.isEmpty_iff] at hkeys
    rw [selectChunks_ok h, flatten_chunksOf _ _ (by decide), Table.get?_empty, Option.or_none]
    simp only [hkeys, false_or]

end Relation

/-! ## Statements -/

/-- **A select fails in the database, or reads exactly what was asked for.** -/
theorem Statement.select_answer {α : Type} (access : Access) (kind : Kind)
    (read : Row → Except SqlFault α) (keys : List String) {db : Database}
    (hn : ((db.rows kind).map Row.key).Nodup) :
    (∃ fault, (select access kind read keys db).1 = .error (.sql fault)) ∨
    ∃ found, (select access kind read keys db).1 = .ok found ∧ ∀ k, found.get? k =
      if keys = [] ∨ k ∈ keys then Relation.valueOf read (db.rows kind) k else none := by
  unfold select Database.require
  cases access.fault? with
  | some fault => exact .inl ⟨fault, rfl⟩
  | none =>
    unfold Database.rows at hn ⊢
    cases ht : db.table? kind with
    | none => exact .inl ⟨_, rfl⟩
    | some r =>
      rw [ht] at hn
      simp only
      cases hselect : selectRows r read keys with
      | error fault => exact .inl ⟨fault, rfl⟩
      | ok found => exact .inr ⟨found, rfl, Relation.selectRows_ok hn hselect⟩

end Meterbank.Sql
