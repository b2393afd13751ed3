/-
  Meterbank.Proofs.Metric.Accepting — which metrics are accepted.

  A metric is a name, a tag and two numbers that may be missing.  What it
  asks for, and what it lacks if it asks for nothing, is told by the tag
  and the number that belongs to it; the other number does not count.  A
  batch is accepted if all its entries are, and otherwise refused for the
  first entry that is not, in the words in which that entry is refused.

  Main results:
    * `validate_eq_ok_iff`, `validate_eq_error_iff` — single metrics.
    * `validateFrom_eq_error_iff` — a list is refused for its first bad entry.
    * `batch_checked_by_entries` — what a batch is answered.
-/
import Mathlib.Data.List.Forall2
import Meterbank.Proofs.Folding

namespace Meterbank

open Meterbank.Number

/-! ## Single metrics -/

namespace Metric

variable {m : Metric}

/-- The update that a metric asks for. -/
inductive Asks (m : Metric) : Update → Prop where
  | gauge {x : Binary64} (hid : m.id ≠ "") (htag : m.tag = "gauge") (hvalue : m.value = some x)
      (hfinite : x.isFinite = true) : Asks m ⟨m.id, .gauge x⟩
  | counter {delta : Int64} (hid : m.id ≠ "") (htag : m.tag = "counter")
      (hdelta : m.delta = some delta) : Asks m ⟨m.id, .counter delta⟩

/-- What is missing of a metric that asks for nothing. -/
inductive Lacks (m : Metric) : Refusal → Prop where
  | name (hid : m.id = "") : Lacks m .emptyId
  | kind (hid : m.id ≠ "") (hgauge : m.tag ≠ "gauge") (hcounter : m.tag ≠ "counter") :
      Lacks m (.unknownTag m.tag)
  | value (hid : m.id ≠ "") (htag : m.tag = "gauge") (hvalue : m.value = none) :
      Lacks m (.noValue m.id)
  | finite {x : Binary64} (hid : m.id ≠ "") (htag : m.tag = "gauge") (hvalue : m.value = some x)
      (hfinite : x.isFinite = false) : Lacks m (.notFinite x)
  | delta (hid : m.id ≠ "") (htag : m.tag = "counter") (hdelta : m.delta = none) :
      Lacks m (.noDelta m.id)

theorem Asks.validate {u : Update} (h : m.Asks u) : m.validate = .ok u := by
  have hg : Kind.ofTag? "gauge" = some .gauge := by decide
  have hc : Kind.ofTag? "counter" = some .counter := by decide
  unfold Metric.validate
  cases h with
  | gauge hid htag hvalue hfinite =>
    simp [hid, htag, hg, hvalue, checkGauge, hfinite, Except.map]
  | counter hid htag hdelta => simp [hid, htag, hc, hdelta]

theorem Lacks.validate {cause : Refusal} (h : m.Lacks cause) :
    m.validate = .error (.validation cause) := by
  have hg : Kind.ofTag? "gauge" = some .gauge := by decide
  have hc : Kind.ofTag? "counter" = some .counter := by decide
  unfold Metric.validate
  cases h with
  | name hid => simp [hid]
  | kind hid hgauge hcounter =>
    have hnone : Kind.ofTag? m.tag = none := by simp [Kind.ofTag?, Kind.tag, hgauge, hcounter]
    simp [hid, hnone]
  | value hid htag hvalue => simp [hid, htag, hg, hvalue]
  | finite hid htag hvalue hfinite =>
    simp [hid, htag, hg, hvalue, checkGauge, hfinite, Except.map]
  | delta hid htag hdelta => simp [hid, htag, hc, hdelta]

theorem Asks.not_lacks {u : Update} (hu : m.Asks u) (cause : Refusal) : ¬ m.Lacks cause := by
  intro h
  have hvalidate := h.validate
  rw [hu.validate] at hvalidate
  exact absurd hvalidate (by simp)

/-- A metric lacks one thing at most: what it is asked for first. -/
theorem Lacks.unique {cause cause' : Refusal} (h : m.Lacks cause) (h' : m.Lacks cause') :
    cause = cause' := by
  have hvalidate := h'.validate
  rw [h.validate] at hvalidate
  exact StoreError.validation.inj (Except.error.inj hvalidate)

/-- A metric asks for something, or lacks something. -/
theorem asks_or_lacks (m : Metric) : (∃ u, m.Asks u) ∨ ∃ cause, m.Lacks cause := by
  by_cases hid : m.id = ""
  · exact .inr ⟨_, .name hid⟩
  by_cases hgauge : m.tag = "gauge"
  · cases hvalue : m.value with
    | none => exact .inr ⟨_, .value hid hgauge hvalue⟩
    | some x =>
      cases hfinite : x.isFinite with
      | true => exact .inl ⟨_, .gauge hid hgauge hvalue hfinite⟩
      | false => exact .inr ⟨_, .finite hid hgauge hvalue hfinite⟩
  by_cases hcounter : m.tag = "counter"
  · cases hdelta : m.delta with
    | none => exact .inr ⟨_, .delta hid hcounter hdelta⟩
    | some delta => exact .inl ⟨_, .counter hid hcounter hdelta⟩
  · exact .inr ⟨_, .kind hid hgauge hcounter⟩

/-- **A metric is accepted for what it asks for.** -/
theorem validate_eq_ok_iff (m : Metric) (u : Update) : m.validate = .ok u ↔ m.Asks u := by
  refine ⟨fun h => ?_, Asks.validate⟩
  rcases m.asks_or_lacks with ⟨v, hv⟩ | ⟨cause, hcause⟩
  · rw [hv.validate] at h
    exact Except.ok.inj h ▸ hv
  · rw [hcause.validate] at h
    exact absurd h (by simp)

/-- **A metric is refused for what it lacks**, and always as invalid. -/
theorem validate_eq_error_iff (m : Metric) (e : StoreError) :
    m.validate = .error e ↔ ∃ cause, m.Lacks cause ∧ e = .validation cause := by
  constructor
  · intro h
    rcases m.asks_or_lacks with ⟨u, hu⟩ | ⟨cause, hcause⟩
    · rw [hu.validate] at h
      exact absurd h (by simp)
    · rw [hcause.validate] at h
      exact ⟨cause, hcause, (Except.error.inj h).symm⟩
  · rintro ⟨cause, hcause, rfl⟩
    exact hcause.validate

end Metric

/-! ## Batches -/

/-- Updates that are accepted entry by entry are accepted as a batch. -/
theorem validateFrom_toMetric (index : Nat) {us : List Update}
    (h : ∀ u ∈ us, u.toMetric.validate = .ok u) :
    Batch.validateFrom index (us.map Update.toMetric) = .ok us := by
  induction us generalizing index with
  | nil => rfl
  | cons u us ih =>
    rw [List.map_cons, Batch.validate_cons]
    exact ⟨u, us, h u (by simp), ih (index + 1) fun v hv => h v (List.mem_cons_of_mem u hv), rfl⟩

namespace Batch

variable {b : Batch} {us : List Update}

theorem validateFrom_iff (index : Nat) (ms : List Metric) (us : List Update) :
    validateFrom index ms = .ok us ↔ List.Forall₂ (fun m u => m.validate = .ok u) ms us := by
  induction ms generalizing index us with
  | nil =>
    rw [List.forall₂_nil_left_iff, validateFrom, Except.ok.injEq, eq_comm]
  | cons m ms ih =>
    rw [validate_cons, List.forall₂_cons_left_iff]
    constructor
    · rintro ⟨u, rest, hu, hrest, rfl⟩
      exact ⟨u, rest, hu, (ih _ _).1 hrest, rfl⟩
    · rintro ⟨u, rest, hu, hrest, rfl⟩
      exact ⟨u, rest, hu, (ih _ _).2 hrest, rfl⟩

/-- A batch is accepted exactly if each entry is, in its place. -/
theorem validate_iff : b.validate = .ok us ↔
    List.Forall₂ (fun m u => m.validate = .ok u) b.metrics us :=
  validateFrom_iff 0 b.metrics us

/-- A batch is accepted if every entry is. -/
theorem exists_validate_iff (b : Batch) :
    (∃ us, b.validate = .ok us) ↔ ∀ m ∈ b.metrics, ∃ u, m.validate = .ok u := by
  simp only [validate_iff]
  induction b.metrics with
  | nil => exact ⟨fun _ m hm => absurd hm (by simp), fun _ => ⟨[], .nil⟩⟩
  | cons m ms ih =>
    rw [List.forall_mem_cons, ← ih]
    constructor
    · rintro ⟨us, hus⟩
      obtain ⟨u, rest, hu, hrest, rfl⟩ := List.forall₂_cons_left_iff.1 hus
      exact ⟨⟨u, hu⟩, ⟨rest, hrest⟩⟩
    · rintro ⟨⟨u, hu⟩, ⟨rest, hrest⟩⟩
      exact ⟨u :: rest, .cons hu hrest⟩

/-- The entry at this place lacks something, and all before it ask for an
update. -/
structure FirstBad (ms : List Metric) (i : Nat) (cause : Refusal) : Prop where
  lacks : ∃ m, ms[i]? = some m ∧ m.Lacks cause
  before : ∀ j m, j < i → ms[j]? = some m → ∃ u, m.Asks u

theorem firstBad_zero_iff {m : Metric} {ms : List Metric} {cause : Refusal} :
    FirstBad (m :: ms) 0 cause ↔ m.Lacks cause := by
  constructor
  · rintro ⟨⟨x, hx, hlacks⟩, -⟩
    rw [List.getElem?_cons_zero] at hx
    exact Option.some.inj hx ▸ hlacks
  · intro h
    exact ⟨⟨m, rfl, h⟩, fun j _ hj => absurd hj (Nat.not_lt_zero j)⟩

theorem firstBad_succ_iff {m : Metric} {ms : List Metric} {i : Nat} {cause : Refusal} :
    FirstBad (m :: ms) (i + 1) cause ↔ (∃ u, m.Asks u) ∧ FirstBad ms i cause := by
  constructor
  · rintro ⟨⟨x, hx, hlacks⟩, hbefore⟩
    refine ⟨hbefore 0 m (Nat.succ_pos i) rfl, ⟨x, hx, hlacks⟩, fun j y hj hy => ?_⟩
    exact hbefore (j + 1) y (Nat.succ_lt_succ hj) hy
  · rintro ⟨hasks, ⟨x, hx, hlacks⟩, hbefore⟩
    refine ⟨⟨x, hx, hlacks⟩, fun j y hj hy => ?_⟩
    cases j with
    | zero =>
      rw [List.getElem?_cons_zero] at hy
      exact Option.some.inj hy ▸ hasks
    | succ j => exact hbefore j y (Nat.lt_of_succ_lt_succ hj) hy

/-- A list is refused for its first entry, or for one of the others. -/
theorem validateFrom_cons_eq_error_iff (index : Nat) (m : Metric) (ms : List Metric)
    (e : StoreError) :
    validateFrom index (m :: ms) = .error e ↔
      (∃ cause, m.Lacks cause ∧ e = .validation (.entry index cause)) ∨
        (∃ u, m.Asks u) ∧ validateFrom (index + 1) ms = .error e := by
  rw [validateFrom]
  rcases m.asks_or_lacks with ⟨u, hu⟩ | ⟨cause, hcause⟩
  · have hasks : (∃ u, m.Asks u) ↔ True := iff_true_intro ⟨u, hu⟩
    simp only [hu.validate, hu.not_lacks, false_and, exists_false, false_or, hasks, true_and]
    cases validateFrom (index + 1) ms <;> simp
  · have hbad : ∀ u, ¬ m.Asks u := fun u hu => hu.not_lacks cause hcause
    simp only [hcause.validate, atEntry, hbad, exists_false, false_and, or_false,
      Except.error.injEq]
    constructor
    · intro h
      exact ⟨cause, hcause, h.symm⟩
    · rintro ⟨cause', hcause', rfl⟩
      rw [hcause.unique hcause']

/-- **A list is refused for its first bad entry.** -/
theorem validateFrom_eq_error_iff (index : Nat) (ms : List Metric) (e : StoreError) :
    validateFrom index ms = .error e ↔
      ∃ i cause, FirstBad ms i cause ∧ e = .validation (.entry (index + i) cause) := by
  induction ms generalizing index with
  | nil =>
    constructor
    · intro h
      exact absurd h (by simp [validateFrom])
    · rintro ⟨i, cause, ⟨⟨m, hm, -⟩, -⟩, -⟩
      exact absurd hm (by simp)
  | cons m ms ih =>
    have hplace : ∀ i, index + 1 + i = index + (i + 1) := by omega
    rw [validateFrom_cons_eq_error_iff, ih]
    constructor
    · rintro (⟨cause, hcause, rfl⟩ | ⟨hasks, i, cause, hbad, rfl⟩)
      · exact ⟨0, cause, firstBad_zero_iff.2 hcause, rfl⟩
      · exact ⟨i + 1, cause, firstBad_succ_iff.2 ⟨hasks, hbad⟩, by rw [hplace]⟩
    · rintro ⟨i, cause, hbad, rfl⟩
      cases i with
      | zero => exact .inl ⟨cause, firstBad_zero_iff.1 hbad, rfl⟩
      | succ i =>
        obtain ⟨hasks, hbad⟩ := firstBad_succ_iff.1 hbad
        exact .inr ⟨hasks, i, cause, hbad, by rw [hplace]⟩

/-! ## Whole batches -/

/-- What was accepted is accepted again in its wire form. -/
theorem validate_toMetrics (h : b.validate = .ok us) :
    (⟨us.map Update.toMetric⟩ : Batch).validate = .ok us :=
  validateFrom_toMetric 0 (forall_of_validateFrom (fun hm => validate_toMetric _ _ hm) h)

/-- What a batch is answered, by its entries. -/
structure CheckedByEntries (b : Batch) : Prop where
  /-- It is accepted if every entry asks for an update, -/
  accepted : (∃ us, b.validate = .ok us) ↔ ∀ m ∈ b.metrics, ∃ u, m.Asks u
  /-- and then the entries ask for these updates, one by one and in order. -/
  updates : ∀ us, b.validate = .ok us ↔ List.Forall₂ Metric.Asks b.metrics us
  /-- An update has the name of its entry. -/
  names : ∀ us, b.validate = .ok us → us.map Update.id = b.metrics.map Metric.id
  /-- Updates are accepted again, unchanged, in their wire form. -/
  again : ∀ us, b.validate = .ok us → (⟨us.map Update.toMetric⟩ : Batch).validate = .ok us
  /-- It is refused for its first bad entry, -/
  refused : ∀ e, b.validate = .error e ↔
    ∃ i cause, FirstBad b.metrics i cause ∧ e = .validation (.entry i cause)
  /-- which stands alone with the same refusal, while all before it are accepted:
  the wording has its place before its own. -/
  wording : ∀ e, b.validate = .error e → ∃ (i : Nat) (m : Metric) (alone : Refusal),
    b.metrics[i]? = some m ∧ m.validate = .error (.validation alone) ∧
      (∀ (j : Nat) (x : Metric), j < i → b.metrics[j]? = some x → ∃ u, x.validate = .ok u) ∧
        e.message = "Validation failed: " ++ ("entry " ++ toString i ++ ": " ++ alone.message)

/-- **A batch is checked by its entries.** -/
theorem batch_checked_by_entries (b : Batch) : b.CheckedByEntries := by
  have hasks : ∀ us, b.validate = .ok us ↔ List.Forall₂ Metric.Asks b.metrics us := by
    intro us
    rw [validate_iff]
    simp only [Metric.validate_eq_ok_iff]
  have hrefused : ∀ e, b.validate = .error e ↔
      ∃ i cause, FirstBad b.metrics i cause ∧ e = .validation (.entry i cause) := by
    intro e
    have hfirst := validateFrom_eq_error_iff 0 b.metrics e
    simp only [Nat.zero_add] at hfirst
    exact hfirst
  refine ⟨?_, hasks, ?_, fun us h => validate_toMetrics h, hrefused, ?_⟩
  · rw [exists_validate_iff]
    simp only [Metric.validate_eq_ok_iff]
  · intro us h
    have hall := (hasks us).1 h
    clear h
    generalize b.metrics = ms at hall
    induction hall with
    | nil => rfl
    | cons hm _ ih =>
      rw [List.map_cons, List.map_cons, ih]
      cases hm <;> rfl
  · intro e he
    obtain ⟨i, cause, ⟨⟨m, hm, hlacks⟩, hbefore⟩, rfl⟩ := (hrefused e).1 he
    refine ⟨i, m, cause, hm, hlacks.validate, fun j x hj hx => ?_, rfl⟩
    obtain ⟨u, hu⟩ := hbefore j x hj hx
    exact ⟨u, hu.validate⟩

/-- Two entries are bad; the batch is refused for the first of them. -/
example :
    (⟨[.counter "c" 1, ⟨"g", "histogram", some 1, none⟩, .counter "" 1]⟩ : Batch).validate =
      .error (.validation (.entry 1 (.unknownTag "histogram"))) := by decide

end Batch

end Meterbank
