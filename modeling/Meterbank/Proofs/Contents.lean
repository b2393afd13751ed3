/-
  Meterbank.Proofs.Contents — what a table holds, name by name.

  Two tables are the same if they give every name the same value, so each
  way of writing to a table is described by what it does to one name.  For
  counters the description is over the integers: `count?` is the total of
  a name as an integer, and totals of two tables are joined by adding
  where both have one.

  Main results:
    * `ext_get?` — a table is determined by the values of its names.
    * `get?_setAll` — writing another table overlays its values.
    * `addAll_eq_ok_iff` — adding another table joins the exact totals, and
      is refused exactly when some joined total leaves the range.
    * `addAll_refused` — it is refused for such a total.
    * `newTotals_append` — new totals can be made piece by piece.
-/
import Mathlib.Data.List.Nodup
import Meterbank.Table

namespace Meterbank

open Meterbank.Number

namespace Table

variable {α : Type}

/-! ## Values by name -/

/-- **A table is determined by the values of its names.** -/
theorem ext_get? {t u : Table α} (h : ∀ k, t.get? k = u.get? k) : t = u :=
  Std.ExtTreeMap.ext_getElem? fun {k} => h k

@[simp] theorem get?_empty (k : String) : (∅ : Table α).get? k = none := by
  simp [get?]

theorem mem_toList_iff (t : Table α) (k : String) (v : α) :
    (k, v) ∈ t.toList ↔ t.get? k = some v :=
  Std.ExtTreeMap.mem_toList_iff_getElem?_eq_some

theorem isEmpty_iff (t : Table α) : t.isEmpty = true ↔ ∀ k, t.get? k = none := by
  constructor
  · intro h k
    have ht : t = ∅ := Std.ExtTreeMap.isEmpty_iff.1 h
    rw [ht, get?_empty]
  · intro h
    have ht : t = ∅ := ext_get? fun k => by rw [h k, get?_empty]
    rw [ht]
    exact Std.ExtTreeMap.isEmpty_empty

theorem toList_of_isEmpty {t : Table α} (h : t.isEmpty = true) : t.toList = [] :=
  Std.ExtTreeMap.toList_eq_nil_iff.2 (Std.ExtTreeMap.isEmpty_iff.1 h)

/-- No name stands in two rows of a table. -/
theorem nodup_names (t : Table α) : (t.toList.map Prod.fst).Nodup := by
  have h := Std.ExtTreeMap.distinct_keys_toList (t := t)
  rw [List.Nodup, List.pairwise_map]
  refine h.imp ?_
  intro a b hab heq
  exact hab (by rw [heq]; exact Std.ReflCmp.compare_self)

/-! ## The last row of a name -/

theorem lastOf?_cons (row : String × α) (rows : List (String × α)) (k : String) :
    lastOf? (row :: rows) k = (lastOf? rows k).or (if row.1 = k then some row.2 else none) := by
  rw [← foldl_lastOf]
  rfl

theorem lastOf?_eq_none {rows : List (String × α)} {k : String} (h : k ∉ rows.map Prod.fst) :
    lastOf? rows k = none := by
  induction rows with
  | nil => rfl
  | cons row rows ih =>
    rw [List.map_cons, List.mem_cons, not_or] at h
    rw [lastOf?_cons, ih h.2, if_neg (Ne.symm h.1)]
    rfl

theorem lastOf?_map {β : Type} (f : α → β) (rows : List (String × α)) (k : String) :
    lastOf? (rows.map fun row => (row.1, f row.2)) k = (lastOf? rows k).map f := by
  induction rows with
  | nil => rfl
  | cons row rows ih =>
    rw [List.map_cons, lastOf?_cons, lastOf?_cons, ih, Option.map_or]
    congr 1
    split <;> rfl

theorem lastOf?_of_mem {rows : List (String × α)} (hn : (rows.map Prod.fst).Nodup) {k : String}
    {v : α} (h : (k, v) ∈ rows) : lastOf? rows k = some v := by
  induction rows with
  | nil => exact absurd h (by simp)
  | cons row rows ih =>
    rw [List.map_cons, List.nodup_cons] at hn
    rw [lastOf?_cons]
    rcases List.mem_cons.1 h with h | h
    · subst h
      rw [lastOf?_eq_none hn.1]
      simp
    · rw [ih hn.2 h]
      rfl

/-- The rows of a table say what the table says, in any order. -/
theorem lastOf?_of_perm {t : Table α} {rows : List (String × α)} (h : rows.Perm t.toList)
    (k : String) : lastOf? rows k = t.get? k := by
  cases hv : t.get? k with
  | some v =>
    have hn : (rows.map Prod.fst).Nodup := (h.map Prod.fst).nodup_iff.2 t.nodup_names
    exact lastOf?_of_mem hn (h.mem_iff.2 ((t.mem_toList_iff k v).2 hv))
  | none =>
    apply lastOf?_eq_none
    intro hmem
    obtain ⟨⟨k', v⟩, hrow, hk⟩ := List.mem_map.1 hmem
    have hk' : k' = k := hk
    subst hk'
    have hv' := (t.mem_toList_iff k' v).1 (h.mem_iff.1 hrow)
    rw [hv] at hv'
    exact absurd hv' (by simp)

/-- **The rows of a table say what the table says.** -/
theorem lastOf?_toList (t : Table α) (k : String) : lastOf? t.toList k = t.get? k :=
  lastOf?_of_perm (List.Perm.refl _) k

/-- **Writing another table overlays its values.** -/
theorem get?_setAll (t u : Table α) (k : String) :
    (t.setAll u).get? k = (u.get? k).or (t.get? k) := by
  show (t.setRows u.toList).get? k = _
  rw [get?_setRows, lastOf?_toList]

/-! ## Exact totals -/

/-- The total of a name as an integer, if the name has one. -/
def count? (t : Table Int64) (k : String) : Option Int := (t.get? k).map Int64.toInt

/-- Two totals of one name, added if both are there. -/
def joined (m n : Option Int) : Option Int := Option.merge (· + ·) m n

@[simp] theorem joined_none (m : Option Int) : joined m none = m := Option.merge_none_right

@[simp] theorem none_joined (m : Option Int) : joined none m = m := Option.merge_none_left

@[simp] theorem some_joined_some (a b : Int) : joined (some a) (some b) = some (a + b) := rfl

theorem joined_comm (m n : Option Int) : joined m n = joined n m := by
  cases m <;> cases n <;> simp [Int.add_comm]

theorem joined_assoc (l m n : Option Int) : joined (joined l m) n = joined l (joined m n) := by
  cases l <;> cases m <;> cases n <;> simp [Int.add_assoc]

@[simp] theorem count?_empty (k : String) : (∅ : Table Int64).count? k = none := by
  simp [count?]

/-- **A table of totals is determined by its integers.** -/
theorem ext_count? {t u : Table Int64} (h : ∀ k, t.count? k = u.count? k) : t = u := by
  apply ext_get?
  intro k
  have hk := h k
  unfold count? at hk
  cases ht : t.get? k <;> cases hu : u.get? k <;> rw [ht, hu] at hk
  case some.some x y =>
    have hxy : x.toInt = y.toInt := Option.some.inj hk
    rw [Int64.toInt_inj.1 hxy]
  all_goals exact absurd hk (by simp)

theorem inRange64_of_count? {t : Table Int64} {k : String} {n : Int} (h : t.count? k = some n) :
    inRange64 n = true := by
  obtain ⟨x, -, hx⟩ := Option.map_eq_some_iff.1 h
  rw [← hx]
  exact inRange64_toInt x

/-- The total that counting starts from is the integer, or zero. -/
theorem toInt_total (t : Table Int64) (k : String) : (t.total k).toInt = (t.count? k).getD 0 := by
  unfold total count?
  cases t.get? k <;> rfl

theorem joined_some (m : Option Int) (d : Int) : joined m (some d) = some (m.getD 0 + d) := by
  cases m <;> simp

/-! ## Adding -/

/-- The row of the new total of a name. -/
def newRow (t : Table Int64) (row : String × Int64) : String × Int64 :=
  (row.1, Int64.ofInt ((t.total row.1).toInt + row.2.toInt))

/-- New totals are the exact sums, and are refused only out of range. -/
theorem newTotals_eq_ok_iff (t : Table Int64) (rows rows' : List (String × Int64)) :
    t.newTotals rows = .ok rows' ↔
      (∀ row ∈ rows, inRange64 ((t.total row.1).toInt + row.2.toInt) = true) ∧
        rows' = rows.map t.newRow := by
  induction rows generalizing rows' with
  | nil =>
    rw [newTotals, Except.ok.injEq, List.map_nil]
    constructor
    · intro h
      exact ⟨fun row hrow => absurd hrow (by simp), h.symm⟩
    · intro h
      exact h.2.symm
  | cons row rows ih =>
    obtain ⟨key, delta⟩ := row
    by_cases hr : inRange64 ((t.total key).toInt + delta.toInt) = true
    · have hnext : checkedTotal key (t.total key) delta = .ok (t.newRow (key, delta)).2 :=
        (checkedTotal_eq_ok_iff key _ _ _).2 (toInt_ofInt_of_inRange hr)
      rw [newTotals, hnext]
      cases hrest : t.newTotals rows with
      | error e =>
        simp only [reduceCtorEq, false_iff, not_and]
        intro hall
        have hok := (ih (rows.map t.newRow)).2
          ⟨fun row hrow => hall row (List.mem_cons_of_mem _ hrow), rfl⟩
        rw [hrest] at hok
        exact absurd hok (by simp)
      | ok rest =>
        have hok := (ih rest).1 hrest
        rw [Except.ok.injEq, List.forall_mem_cons, List.map_cons, hok.2]
        constructor
        · intro h
          exact ⟨⟨hr, hok.1⟩, h.symm⟩
        · intro h
          exact h.2.symm
    · have hfail : checkedTotal key (t.total key) delta =
          .error (.validation (.overflow key (t.total key) delta)) := by
        unfold checkedTotal
        rw [(Total.add?_eq_none_iff _ _).2 (by simpa using hr)]
      rw [newTotals, hfail]
      simp only [reduceCtorEq, List.forall_mem_cons, false_iff, not_and]
      intro hall
      exact absurd hall.1 hr

/-- New totals are refused for the first one that leaves the range. -/
theorem newTotals_error {t : Table Int64} {rows : List (String × Int64)} {e : StoreError}
    (h : t.newTotals rows = .error e) :
    ∃ row ∈ rows, inRange64 ((t.total row.1).toInt + row.2.toInt) = false ∧
      e = .validation (.overflow row.1 (t.total row.1) row.2) := by
  induction rows with
  | nil => exact absurd h (by simp [newTotals])
  | cons row rows ih =>
    simp only [newTotals] at h
    split at h
    · next e' he =>
      injection h with h
      subst h
      unfold checkedTotal at he
      split at he
      · exact absurd he (by simp)
      · next hnone =>
        injection he with he
        exact ⟨row, List.mem_cons_self, (Total.add?_eq_none_iff _ _).1 hnone, he.symm⟩
    · split at h
      · next e' he =>
        injection h with h
        subst h
        obtain ⟨row', hmem, hrow⟩ := ih he
        exact ⟨row', List.mem_cons_of_mem _ hmem, hrow⟩
      · exact absurd h (by simp)

/-- The totals after adding rows, each name standing in one row at most. -/
theorem count?_setRows_newRow (t : Table Int64) {rows : List (String × Int64)}
    (hn : (rows.map Prod.fst).Nodup)
    (hr : ∀ row ∈ rows, inRange64 ((t.total row.1).toInt + row.2.toInt) = true) (k : String) :
    (t.setRows (rows.map t.newRow)).count? k =
      joined (t.count? k) ((lastOf? rows k).map Int64.toInt) := by
  have hnames : (rows.map t.newRow).map Prod.fst = rows.map Prod.fst := by
    rw [List.map_map]
    rfl
  unfold count?
  rw [get?_setRows]
  -- A name in no row keeps its total; one in a row has just that row.
  by_cases hk : k ∈ rows.map Prod.fst
  · obtain ⟨⟨k', d⟩, hmem, hk'⟩ := List.mem_map.1 hk
    have hk'' : k' = k := hk'
    subst hk''
    have hlast : lastOf? (rows.map t.newRow) k' = some (t.newRow (k', d)).2 := by
      apply lastOf?_of_mem
      · rw [hnames]
        exact hn
      · exact List.mem_map.2 ⟨(k', d), hmem, rfl⟩
    rw [hlast, lastOf?_of_mem hn hmem, Option.some_or, Option.map_some, Option.map_some,
      joined_some]
    show some (Int64.ofInt _).toInt = _
    rw [toInt_ofInt_of_inRange (hr _ hmem), toInt_total]
    rfl
  · rw [lastOf?_eq_none hk, lastOf?_eq_none (by rw [hnames]; exact hk)]
    simp

/-- **Adding another table joins the exact totals.**  It is refused
exactly when no table holds the joined totals. -/
theorem addAll_eq_ok_iff (t d t' : Table Int64) :
    t.addAll d = .ok t' ↔ ∀ k, t'.count? k = joined (t.count? k) (d.count? k) := by
  have hcount : ∀ k, (lastOf? d.toList k).map Int64.toInt = d.count? k := by
    intro k
    rw [lastOf?_toList]
    rfl
  unfold addAll
  constructor
  · intro h k
    split at h
    · next rows hrows =>
      injection h with h
      obtain ⟨hr, rfl⟩ := (newTotals_eq_ok_iff _ _ _).1 hrows
      rw [← h, count?_setRows_newRow t d.nodup_names hr, hcount]
    · exact absurd h (by simp)
  · intro h
    -- Each joined total is held by `t'`, so none leaves the range.
    have hr : ∀ row ∈ d.toList, inRange64 ((t.total row.1).toInt + row.2.toInt) = true := by
      intro row hrow
      have hd : d.count? row.1 = some row.2.toInt := by
        unfold count?
        rw [(d.mem_toList_iff row.1 row.2).1 hrow]
        rfl
      have hk := h row.1
      rw [hd, joined_some, ← toInt_total] at hk
      exact inRange64_of_count? hk
    rw [(newTotals_eq_ok_iff _ _ _).2 ⟨hr, rfl⟩]
    show Except.ok (t.setRows _) = Except.ok t'
    congr 1
    apply ext_count?
    intro k
    rw [h k, count?_setRows_newRow t d.nodup_names hr, hcount]

/-- **A table of deltas is refused for a total that leaves the range.** -/
theorem addAll_refused {t d : Table Int64} {e : StoreError} (h : t.addAll d = .error e) :
    ∃ key delta, d.get? key = some delta ∧
      inRange64 ((t.total key).toInt + delta.toInt) = false ∧
      e = .validation (.overflow key (t.total key) delta) := by
  unfold addAll at h
  split at h
  · exact absurd h (by simp)
  · next e' he =>
    injection h with h
    subst h
    obtain ⟨row, hmem, hrange, he⟩ := newTotals_error he
    exact ⟨row.1, row.2, (d.mem_toList_iff row.1 row.2).1 hmem, hrange, he⟩

/-- A table of deltas that is refused is refused as invalid. -/
theorem addAll_error {t d : Table Int64} {e : StoreError} (h : t.addAll d = .error e) :
    ∃ key total delta, e = .validation (.overflow key total delta) := by
  obtain ⟨key, delta, -, -, he⟩ := addAll_refused h
  exact ⟨key, _, delta, he⟩

/-! ## Pieces and parts -/

/-- New totals do not depend on what stands under other names. -/
theorem newTotals_set {t : Table Int64} {key : String} {total : Int64} {rows : List (String × Int64)}
    (hk : key ∉ rows.map Prod.fst) : (t.set key total).newTotals rows = t.newTotals rows := by
  induction rows with
  | nil => rfl
  | cons row rows ih =>
    rw [List.map_cons, List.mem_cons, not_or] at hk
    have htotal : (t.set key total).total row.1 = t.total row.1 := by
      unfold Table.total
      rw [get?_set, if_neg hk.1]
    obtain ⟨k, d⟩ := row
    simp only [Table.newTotals]
    rw [htotal, ih hk.2]

theorem setRows_append (t : Table α) (rows more : List (String × α)) :
    t.setRows (rows ++ more) = (t.setRows rows).setRows more := by
  unfold setRows
  rw [List.foldl_append]

/-- New totals of rows come from those of the first and of the others. -/
theorem newTotals_append (t : Table Int64) (rows more : List (String × Int64)) :
    t.newTotals (rows ++ more) =
      match t.newTotals rows with
      | .error e => .error e
      | .ok totals => (t.newTotals more).map (totals ++ ·) := by
  induction rows with
  | nil =>
    simp only [List.nil_append, newTotals]
    cases t.newTotals more <;> rfl
  | cons row rows ih =>
    obtain ⟨key, delta⟩ := row
    rw [List.cons_append, newTotals, newTotals, ih]
    cases checkedTotal key (t.total key) delta with
    | error e => rfl
    | ok next =>
      cases t.newTotals rows with
      | error e => rfl
      | ok totals => cases t.newTotals more <;> rfl

/-- New totals stand under the names of the rows. -/
theorem newTotals_names {t : Table Int64} {rows totals : List (String × Int64)}
    (h : t.newTotals rows = .ok totals) : totals.map Prod.fst = rows.map Prod.fst := by
  rw [((newTotals_eq_ok_iff t rows totals).1 h).2, List.map_map]
  rfl

theorem newTotals_setRows {t : Table Int64} {totals rows : List (String × Int64)}
    (h : ∀ row ∈ totals, row.1 ∉ rows.map Prod.fst) :
    (t.setRows totals).newTotals rows = t.newTotals rows := by
  induction totals generalizing t with
  | nil => rfl
  | cons row totals ih =>
    rw [List.forall_mem_cons] at h
    show ((t.set row.1 row.2).setRows totals).newTotals rows = _
    rw [ih h.2, newTotals_set h.1]

/-- The rows of the names that a table holds, in the order of the names. -/
def rowsFor (t : Table α) (keys : List String) : List (String × α) :=
  keys.filterMap fun key => (t.get? key).map fun value => (key, value)

theorem lastOf?_rowsFor (t : Table α) (keys : List String) (k : String) :
    lastOf? (t.rowsFor keys) k = if k ∈ keys then t.get? k else none := by
  induction keys with
  | nil => simp [rowsFor, lastOf?]
  | cons key keys ih =>
    unfold rowsFor at ih ⊢
    -- A name without a value has no row, and the table agrees with that.
    cases hv : t.get? key with
    | none =>
      rw [List.filterMap_cons_none (by rw [hv]; rfl), ih]
      by_cases hk : k = key
      · subst hk
        simp [hv]
      · simp [hk]
    | some value =>
      rw [List.filterMap_cons_some (by rw [hv]; rfl), lastOf?_cons, ih]
      by_cases hk : k = key
      · subst hk
        by_cases hmem : k ∈ keys <;> simp [hv, hmem]
      · simp [hk, Ne.symm hk]

theorem restrict_eq (t : Table α) (keys : List String) :
    t.restrict keys = setRows ∅ (t.rowsFor keys) := by
  unfold restrict setRows rowsFor
  rw [List.foldl_filterMap]
  congr 1
  funext found key
  cases t.get? key <;> rfl

/-- The part of a table that belongs to names has their values. -/
theorem get?_restrict (t : Table α) (keys : List String) (k : String) :
    (t.restrict keys).get? k = if k ∈ keys then t.get? k else none := by
  rw [restrict_eq, get?_setRows, lastOf?_rowsFor, get?_empty, Option.or_none]

/-! ## Single entries -/

/-- A table with one entry. -/
theorem toList_single (key : String) (value : α) :
    ((∅ : Table α).set key value).toList = [(key, value)] := by
  apply List.perm_singleton.1
  rw [List.perm_ext_iff_of_nodup (List.Nodup.of_map _ (nodup_names _)) (List.nodup_singleton _)]
  rintro ⟨k, v⟩
  rw [mem_toList_iff, get?_set, get?_empty, List.mem_singleton, Prod.mk.injEq]
  by_cases hk : key = k
  · simp [hk, eq_comm]
  · simp [hk, Ne.symm hk]

theorem setAll_single (t : Table α) (key : String) (value : α) :
    t.setAll ((∅ : Table α).set key value) = t.set key value := by
  rw [setAll, toList_single]
  rfl

theorem setAll_empty (t : Table α) : t.setAll ∅ = t := by
  apply ext_get?
  intro k
  rw [get?_setAll, get?_empty, Option.none_or]

theorem addAll_empty (t : Table Int64) : t.addAll ∅ = .ok t := by
  rw [addAll, toList_of_isEmpty Std.ExtTreeMap.isEmpty_empty]
  rfl

theorem addAll_single (t : Table Int64) (key : String) (delta : Int64) :
    t.addAll ((∅ : Table Int64).set key delta) = (t.add key delta).map Prod.snd := by
  rw [addAll, toList_single, newTotals, add]
  cases checkedTotal key (t.total key) delta <;> rfl

end Table

end Meterbank
