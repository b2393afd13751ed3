/-
  Meterbank.Proofs.Store.Observing — what a client sees of a store.

  A client sees the answers to its calls and, if it looks, all rows after
  each of them.  Of an error it relies on the variant, and on the metric
  or the tag that is named; texts may differ.  Gauges are numbers, so the
  two zeros are one.  Rows have no order.

  Two stores are alike under a relation of their states if each operation
  that reads or writes, on states that are related, gives the same to see
  and leads to states that are related.

  Main results:
    * `Alike.perform` — alike stores answer any call of the contract alike.
    * `Alike.observe` — and any history of calls, call by call.
    * `sameNumber_iff_unsignedZero` — gauges that look the same are the
      same number.
-/
import Mathlib.Data.Multiset.Basic
import Meterbank.Proofs.Contents
import Meterbank.Sql.Relation
import Meterbank.Store.Interface

namespace Meterbank

open Meterbank.Sql

/-! ## What can be told apart -/

/-- Two numbers are the same if they are once a zero has no sign. -/
theorem Binary64.sameNumber_iff_unsignedZero {x y : Binary64} (hx : x.isNaN = false)
    (hy : y.isNaN = false) : x.sameNumber y = true ↔ x.unsignedZero = y.unsignedZero := by
  have hzero : Binary64.zero.isZero = true := by decide
  unfold Binary64.sameNumber Binary64.unsignedZero
  -- Two zeros are one number, and a zero is no number that is not zero.
  by_cases hzx : x.isZero = true <;> by_cases hzy : y.isZero = true
  · simp [hx, hy, hzx, hzy]
  · have hne : ¬ x = y := fun h => hzy (h ▸ hzx)
    have hne' : ¬ Binary64.zero = y := fun h => hzy (h ▸ hzero)
    simp [hx, hy, hzx, hzy, hne, hne']
  · have hne : ¬ x = y := fun h => hzx (h ▸ hzy)
    have hne' : ¬ x = Binary64.zero := fun h => hzx (h ▸ hzero)
    simp [hx, hy, hzx, hzy, hne, hne']
  · simp [hx, hy, hzx, hzy]

theorem Binary64.unsignedZero_again (x : Binary64) :
    x.unsignedZero.unsignedZero = x.unsignedZero := by
  have hzero : Binary64.zero.isZero = true := by decide
  unfold Binary64.unsignedZero
  by_cases h : x.isZero = true <;> simp [h, hzero]

/-- Whether a value is a number does not hang on the sign of a zero. -/
theorem Binary64.isNaN_unsignedZero (x : Binary64) : x.unsignedZero.isNaN = x.isNaN := by
  unfold Binary64.unsignedZero
  split
  · next hzero =>
    have hmagnitude : x.magnitude = 0 := by simpa [Binary64.isZero] using hzero
    simp only [Binary64.isNaN, hmagnitude]
    decide
  · rfl

/-- A value that is one with a finite value, once a zero has no sign, is the same number. -/
theorem Binary64.sameNumber_of_unsignedZero {x y : Binary64} (hy : y.isFinite = true)
    (h : x.unsignedZero = y.unsignedZero) : x.sameNumber y = true := by
  have hnumber : y.isNaN = false := by
    rw [isFinite_iff_magnitude] at hy
    simp only [isNaN, decide_eq_false_iff_not]
    omega
  have hx : x.isNaN = false := by rw [← isNaN_unsignedZero, h, isNaN_unsignedZero, hnumber]
  exact (sameNumber_iff_unsignedZero hx hnumber).2 h

/-- What a client relies on in an error: its variant, and the metric or the
tag it names. -/
def StoreError.gist : StoreError → StoreError.Code × List String
  | .notFound kind id => (.notFound, [kind.tag, id])
  | .unsupported tag => (.unsupportedKind, [tag])
  | e => (e.code, [])

/-- Gauges as numbers. -/
def Table.unsigned (t : Table Binary64) : Table Binary64 := t.map fun _ x => x.unsignedZero

/-- A metric with its value as a number. -/
def Metric.unsigned (m : Metric) : Metric := { m with value := m.value.map Binary64.unsignedZero }

/-- A payload with all values as numbers. -/
def Store.Payload.unsigned : Store.Payload → Store.Payload
  | .nothing => .nothing
  | .metric m => .metric m.unsigned
  | .gauges t => .gauges t.unsigned
  | .counters t => .counters t

/-- A row with its value as a number. -/
def Sql.Row.unsigned (row : Row) : Row :=
  match row.value with
  | .real x => { row with value := .real x.unsignedZero }
  | _ => row

/-- What a client sees of an answer. -/
def outline {α β : Type} (f : α → β) :
    Except StoreError α → Except (StoreError.Code × List String) β
  | .ok a => .ok (f a)
  | .error e => .error e.gist

namespace Table

variable {t : Table Binary64}

theorem get?_unsigned (t : Table Binary64) (k : String) :
    t.unsigned.get? k = (t.get? k).map Binary64.unsignedZero :=
  Std.ExtTreeMap.getElem?_map

theorem unsigned_set (t : Table Binary64) (key : String) (x : Binary64) :
    (t.set key x).unsigned = t.unsigned.set key x.unsignedZero := by
  apply ext_get?
  intro k
  rw [get?_unsigned, get?_set, get?_set, get?_unsigned]
  by_cases hk : key = k <;> simp [hk]

theorem unsigned_unsigned (t : Table Binary64) : t.unsigned.unsigned = t.unsigned := by
  apply ext_get?
  intro k
  rw [get?_unsigned, get?_unsigned, Option.map_map]
  cases t.get? k with
  | none => rfl
  | some x => simp [Binary64.unsignedZero_again]

theorem restrict_unsigned (t : Table Binary64) (keys : List String) :
    t.unsigned.restrict keys = (t.restrict keys).unsigned := by
  apply ext_get?
  intro k
  rw [get?_unsigned, get?_restrict, get?_restrict, get?_unsigned]
  by_cases hk : k ∈ keys <;> simp [hk]

/-- Asking for values as numbers is asking for values. -/
theorem select_unsigned (kind : Kind) (t : Table Binary64) (keys : List String) :
    outline unsigned (select kind t.unsigned keys) = outline unsigned (select kind t keys) := by
  have hmissing : (t.unsigned.restrict keys).firstMissing keys =
      (t.restrict keys).firstMissing keys := by
    unfold firstMissing
    congr 1
    funext key
    rw [restrict_unsigned, get?_unsigned, Option.isNone_map]
  unfold select ensurePresent
  split
  · simp only [outline, unsigned_unsigned]
  · rw [hmissing]
    cases (t.restrict keys).firstMissing keys with
    | some key => rfl
    | none => simp only [outline, restrict_unsigned, unsigned_unsigned]

end Table

/-! ## Histories -/

namespace Store

variable {σ τ : Type}

/-- Whether a call belongs to the contract of all stores: it reads or
writes metrics. -/
def Call.isContract : Call → Bool
  | .dump | .load | .ping | .close => false
  | _ => true

/-- What a client sees after a call: the answer, and the rows of both
tables in no order. -/
structure Observation where
  answer : Except (StoreError.Code × List String) Payload
  rows : Kind → Multiset Row

/-- What a client sees of calls that are made one after the other. -/
def observe (S : Store σ) (rows : σ → Kind → List Row) : List Call → σ → List Observation
  | [], _ => []
  | call :: calls, s =>
    let (answer, s) := S.perform call s
    ⟨outline Payload.unsigned answer, fun kind => ↑((rows s kind).map Row.unsigned)⟩ ::
      observe S rows calls s

/-! ## Alike stores -/

/-- Answers look the same, and the states are related. -/
def Agree {α β : Type} (R : σ → τ → Prop) (f : α → β) (p : Except StoreError α × σ)
    (q : Except StoreError α × τ) : Prop :=
  outline f p.1 = outline f q.1 ∧ R p.2 q.2

/-- Two stores look the same as long as their states are related. -/
structure Alike (S : Store σ) (T : Store τ) (R : σ → τ → Prop) : Prop where
  writeData : ∀ {s t}, R s t → ∀ m, Agree R Metric.unsigned (S.writeData m s) (T.writeData m t)
  writeBatch : ∀ {s t}, R s t → ∀ b, Agree R id (S.writeBatch b s) (T.writeBatch b t)
  readGauges : ∀ {s t}, R s t → ∀ keys,
    Agree R Table.unsigned (S.readGauges keys s) (T.readGauges keys t)
  readCounters : ∀ {s t}, R s t → ∀ keys,
    Agree R id (S.readCounters keys s) (T.readCounters keys t)
  writeGauge : ∀ {s t}, R s t → ∀ key x, Agree R id (S.writeGauge key x s) (T.writeGauge key x t)
  writeCounter : ∀ {s t}, R s t → ∀ key delta,
    Agree R id (S.writeCounter key delta s) (T.writeCounter key delta t)

variable {S : Store σ} {T : Store τ} {R : σ → τ → Prop}

/-- Answers that look the same are both given or both refused. -/
theorem Agree.cases {α β : Type} {f : α → β} {p : Except StoreError α × σ}
    {q : Except StoreError α × τ} (h : Agree R f p q) :
    (∃ a a' s t, p = (.ok a, s) ∧ q = (.ok a', t) ∧ f a = f a' ∧ R s t) ∨
      ∃ e e' s t, p = (.error e, s) ∧ q = (.error e', t) ∧ e.gist = e'.gist ∧ R s t := by
  obtain ⟨answer, s⟩ := p
  obtain ⟨answer', t⟩ := q
  obtain ⟨hanswer, hR⟩ := h
  cases answer <;> cases answer'
  case ok.ok a a' => exact .inl ⟨a, a', s, t, rfl, rfl, Except.ok.inj hanswer, hR⟩
  case error.error e e' => exact .inr ⟨e, e', s, t, rfl, rfl, Except.error.inj hanswer, hR⟩
  all_goals exact absurd hanswer (by simp [outline])

/-- Answers that are both given. -/
theorem Agree.given {α β : Type} {f : α → β} {a a' : α} (h : f a = f a') {s : σ} {t : τ}
    (hR : R s t) : Agree R f (.ok a, s) (.ok a', t) :=
  ⟨congrArg Except.ok h, hR⟩

/-- Answers that are both refused. -/
theorem Agree.refused {α β : Type} {f : α → β} {e e' : StoreError} (h : e.gist = e'.gist) {s : σ}
    {t : τ} (hR : R s t) : Agree R f (.error e, s) (.error e', t) :=
  ⟨congrArg Except.error h, hR⟩

/-- Payloads look the same if what is in them does. -/
theorem Agree.wrap {α β : Type} {f : α → β} {p : Except StoreError α × σ}
    {q : Except StoreError α × τ} {g : α → Payload} (h : Agree R f p q) (shown : β → Payload)
    (hg : ∀ a, (g a).unsigned = shown (f a)) :
    Agree R Payload.unsigned (wrap g p) (wrap g q) := by
  rcases h.cases with ⟨a, a', s, t, rfl, rfl, haa', hR⟩ | ⟨e, e', s, t, rfl, rfl, hee', hR⟩
  · exact .given (by rw [hg, hg, haa']) hR
  · exact .refused hee' hR

/-! ## What alike stores share -/

/-- One metric is read from the answer to a read of its table. -/
theorem Alike.readData (h : Alike S T R) {s : σ} {t : τ} (hR : R s t) (q : Metric) :
    Agree R Metric.unsigned (S.readData q s) (T.readData q t) := by
  unfold Store.readData
  cases Kind.parse q.tag with
  | error e => exact .refused rfl hR
  | ok kind =>
    cases kind with
    | gauge =>
      simp only
      rcases (h.readGauges hR [q.id]).cases with
        ⟨found, found', s', t', hs, ht, hfound, hR'⟩ | ⟨e, e', s', t', hs, ht, hee', hR'⟩ <;>
        rw [hs, ht]
      · -- The tables are the same as numbers, so the value is.
        have hvalue : (found.get? q.id).map Binary64.unsignedZero =
            (found'.get? q.id).map Binary64.unsignedZero := by
          rw [← Table.get?_unsigned, ← Table.get?_unsigned, hfound]
        simp only [Store.pick]
        generalize found.get? q.id = value at hvalue ⊢
        generalize found'.get? q.id = value' at hvalue ⊢
        cases value <;> cases value'
        case none.none => exact .refused rfl hR'
        case some.some x x' =>
          have hmetric : (Metric.gauge q.id x).unsigned = (Metric.gauge q.id x').unsigned := by
            simp only [Metric.unsigned, Metric.gauge, hvalue]
          exact .given hmetric hR'
        all_goals exact absurd hvalue (by simp)
      · exact .refused hee' hR'
    | counter =>
      simp only
      rcases (h.readCounters hR [q.id]).cases with
        ⟨found, found', s', t', hs, ht, hfound, hR'⟩ | ⟨e, e', s', t', hs, ht, hee', hR'⟩ <;>
        rw [hs, ht]
      · have hsame : found = found' := hfound
        subst hsame
        simp only [Store.pick]
        cases found.get? q.id with
        | none => exact .refused rfl hR'
        | some n => exact .given rfl hR'
      · exact .refused hee' hR'

/-- A gauge in text is written as a value, or refused. -/
theorem Alike.writeGaugeText (h : Alike S T R) {s : σ} {t : τ} (hR : R s t) (key raw : String) :
    Agree R id (S.writeGaugeText key raw s) (T.writeGaugeText key raw t) := by
  unfold Store.writeGaugeText
  cases parseGauge raw with
  | ok x => exact h.writeGauge hR key x
  | error e => exact .refused rfl hR

/-- A delta in text is added as a delta, or refused. -/
theorem Alike.writeCounterText (h : Alike S T R) {s : σ} {t : τ} (hR : R s t) (key raw : String) :
    Agree R id (S.writeCounterText key raw s) (T.writeCounterText key raw t) := by
  unfold Store.writeCounterText
  cases parseCounter raw with
  | ok delta => exact h.writeCounter hR key delta
  | error e => exact .refused rfl hR

/-- **Alike stores answer any call of the contract alike.** -/
theorem Alike.perform (h : Alike S T R) {s : σ} {t : τ} (hR : R s t) {call : Call}
    (hc : call.isContract = true) :
    Agree R Payload.unsigned (S.perform call s) (T.perform call t) := by
  cases call with
  | writeData m => exact (h.writeData hR m).wrap .metric fun _ => rfl
  | writeBatch b => exact (h.writeBatch hR b).wrap (fun _ => .nothing) fun _ => rfl
  | readData q => exact (h.readData hR q).wrap .metric fun _ => rfl
  | readGauges keys => exact (h.readGauges hR keys).wrap .gauges fun _ => rfl
  | readCounters keys => exact (h.readCounters hR keys).wrap .counters fun _ => rfl
  | writeGaugeText key raw => exact (h.writeGaugeText hR key raw).wrap (fun _ => .nothing) fun _ => rfl
  | writeGauge key x => exact (h.writeGauge hR key x).wrap (fun _ => .nothing) fun _ => rfl
  | writeCounterText key raw => exact (h.writeCounterText hR key raw).wrap (fun _ => .nothing) fun _ => rfl
  | writeCounter key delta => exact (h.writeCounter hR key delta).wrap (fun _ => .nothing) fun _ => rfl
  | _ => exact absurd hc (by simp [Call.isContract])

/-- **Alike stores look the same through any history.** -/
theorem Alike.observe (h : Alike S T R) {rows : σ → Kind → List Row} {rows' : τ → Kind → List Row}
    (hrows : ∀ s t, R s t → ∀ kind,
      ((rows s kind).map Row.unsigned).Perm ((rows' t kind).map Row.unsigned))
    {s : σ} {t : τ} (hR : R s t) {calls : List Call} (hc : ∀ call ∈ calls, call.isContract = true) :
    S.observe rows calls s = T.observe rows' calls t := by
  induction calls generalizing s t with
  | nil => rfl
  | cons call calls ih =>
    rw [List.forall_mem_cons] at hc
    obtain ⟨hanswer, hR'⟩ := h.perform hR hc.1
    rw [Store.observe, Store.observe]
    simp only [hanswer, ih hR' hc.2]
    congr 2
    funext kind
    exact Multiset.coe_eq_coe.2 (hrows _ _ hR' kind)

end Store

end Meterbank
