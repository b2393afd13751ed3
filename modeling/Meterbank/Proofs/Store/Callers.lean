/-
  Meterbank.Proofs.Store.Callers — one order of the calls of a store.

  The counters that many callers add to are accounted for by one order of
  their writes: the order in which they took effect.  A write takes effect
  in one of its sections; before it nothing of the call is in the
  counters, and after it nothing more is added; a dump adds nothing.  Each such section puts
  its call at the end of the order, so at every point of a run the
  counters are the integer sums of the calls so far.

  Main results:
    * `Ledger.step` — one section adds at most one call to the order.
    * `Counts.accounts` — every run has an order that accounts for the
      counters and for the totals that were told.
-/
import Meterbank.Store.Callers
import Meterbank.Proofs.Updates
import Mathlib.Data.List.Induction

namespace Meterbank

open Meterbank.Table (joined joined_none none_joined joined_assoc)

/-- What a write adds to a counter, if it adds to it. -/
def Write.adds? (w : Write) (k : String) : Option Int :=
  match w.updates with
  | .ok us => Update.added? us k
  | .error _ => none

namespace Callers

/-! ## Sums of calls -/

/-- The integer sum of what calls add to a counter, if one of them does.
Nothing bounds it. -/
def tally (order : List (Nat × Write)) (k : String) : Option Int :=
  order.foldr (fun call sum => joined (call.2.adds? k) sum) none

@[simp] theorem tally_nil (k : String) : tally [] k = none := rfl

theorem tally_cons (call : Nat × Write) (order : List (Nat × Write)) (k : String) :
    tally (call :: order) k = joined (call.2.adds? k) (tally order k) := rfl

theorem tally_append (order more : List (Nat × Write)) (k : String) :
    tally (order ++ more) k = joined (tally order k) (tally more k) := by
  induction order with
  | nil => exact (none_joined _).symm
  | cons call order ih => rw [List.cons_append, tally_cons, tally_cons, ih, joined_assoc]

/-- What counters become by a write, and what its caller is told of them. -/
structure Grows (c : Table Int64) (w : Write) (receipt : Store.Payload) (c' : Table Int64) : Prop where
  counters : ∀ k, c'.count? k = joined (c.count? k) (w.adds? k)
  told : ∀ id total, receipt = .metric (.counter id total) → c'.count? id = some total.toInt

/-! ## What sections do to the counters -/

variable {σ τ : Type}

/-- Whether the writes of a store are applied to its counters whole, in one
section each, or refused, and dumps leave the counters.  `receipt` tells of
a point whether a write that has come so far has been applied, and what it
will be answered with; `shown` tells the counters of what is shared. -/
structure Protocol.Counts (P : Protocol Chore σ τ) (receipt : τ → Option Store.Payload)
    (shown : σ → Table Int64 → Prop) : Prop where
  first : ∀ w, receipt (P.first (.write w)) = none
  pending : ∀ (i : Nat) (w : Write) (t : τ) (s : σ) (c : Table Int64),
    receipt t = none → shown s c →
      (receipt (P.next i (.write w) t s).1 = none ∧ shown (P.next i (.write w) t s).2 c) ∨
        ∃ r c', receipt (P.next i (.write w) t s).1 = some r ∧
          shown (P.next i (.write w) t s).2 c' ∧ Grows c w r c'
  applied : ∀ (i : Nat) (w : Write) (t : τ) (s : σ) (c : Table Int64) (r : Store.Payload),
    receipt t = some r → shown s c →
      receipt (P.next i (.write w) t s).1 = some r ∧ shown (P.next i (.write w) t s).2 c
  dumps : ∀ (i : Nat) (t : τ) (s : σ) (c : Table Int64),
    shown s c → shown (P.next i .dump t s).2 c
  succeeds : ∀ t r, P.answer? t = some (.ok r) → receipt t = some r
  fails : ∀ t e, P.answer? t = some (.error e) → receipt t = none

/-- The write of a caller that has been applied, and its receipt. -/
def Caller.applied? (receipt : τ → Option Store.Payload) (caller : Caller Chore τ) :
    Option (Write × Store.Payload) :=
  match caller.task with
  | .write w => (receipt caller.point).map (w, ·)
  | .dump => none

/-- The same of a caller by its number. -/
def State.applied? (receipt : τ → Option Store.Payload) (s : State Chore σ τ) (i : Nat) :
    Option (Write × Store.Payload) :=
  s.callers[i]?.bind (Caller.applied? receipt)

variable {P : Protocol Chore σ τ} {receipt : τ → Option Store.Payload}
  {shown : σ → Table Int64 → Prop} {s s' : State Chore σ τ} {order : List (Nat × Write)}

/-! ## The order so far -/

/-- That an order of calls accounts for the counters so far. -/
structure Ledger (receipt : τ → Option Store.Payload) (shown : σ → Table Int64 → Prop)
    (s : State Chore σ τ) (order : List (Nat × Write)) : Prop where
  once : (order.map Prod.fst).Nodup
  calls : ∀ i w, (i, w) ∈ order ↔ ∃ r, s.applied? receipt i = some (w, r)
  stored : ∃ c, shown s.shared c ∧ ∀ k, c.count? k = tally order k
  range : ∀ n k v, tally (order.take n) k = some v → Number.inRange64 v = true
  told : ∀ before i w after id total, order = before ++ (i, w) :: after →
    s.applied? receipt i = some (w, .metric (.counter id total)) →
      tally (before ++ [(i, w)]) id = some total.toInt

namespace Ledger

/-- Nobody has called yet. -/
theorem empty {start : σ} (h : shown start ∅) :
    Ledger receipt shown (Callers.start start : State Chore σ τ) [] where
  once := List.nodup_nil
  calls i w := by simp [State.applied?, Callers.start]
  stored := ⟨∅, h, fun k => Table.count?_empty k⟩
  range n k v hv := absurd hv (by simp)
  told before i w after id total horder := absurd horder (by simp)

/-- No call was applied, and the counters are the same. -/
theorem same (h : Ledger receipt shown s order)
    (hcalls : ∀ i, s'.applied? receipt i = s.applied? receipt i)
    (hshown : ∀ c, shown s.shared c → shown s'.shared c) : Ledger receipt shown s' order where
  once := h.once
  calls i w := by rw [hcalls]; exact h.calls i w
  stored := by
    obtain ⟨c, hc, htally⟩ := h.stored
    exact ⟨c, hshown c hc, htally⟩
  range := h.range
  told before i w after id total horder hr := by
    rw [hcalls] at hr
    exact h.told before i w after id total horder hr

/-- One call was applied, and is the last of the order. -/
theorem more (h : Ledger receipt shown s order) {i : Nat} {w : Write} {r : Store.Payload}
    (hbefore : s.applied? receipt i = none) (hafter : s'.applied? receipt i = some (w, r))
    (hothers : ∀ j, j ≠ i → s'.applied? receipt j = s.applied? receipt j)
    (hshown : ∀ c, shown s.shared c → ∃ c', shown s'.shared c' ∧ Grows c w r c') :
    Ledger receipt shown s' (order ++ [(i, w)]) := by
  have hnew : ∀ w', (i, w') ∉ order := by
    intro w' hmem
    obtain ⟨r', hr'⟩ := (h.calls i w').1 hmem
    rw [hbefore] at hr'
    exact absurd hr' (by simp)
  obtain ⟨c, hc, htally⟩ := h.stored
  obtain ⟨c', hc', hgrows⟩ := hshown c hc
  have hcount : ∀ k, c'.count? k = tally (order ++ [(i, w)]) k := by
    intro k
    rw [tally_append, ← htally, hgrows.counters]
    exact congrArg _ (joined_none _).symm
  refine ⟨?_, ?_, ⟨c', hc', hcount⟩, ?_, ?_⟩
  · rw [List.map_append, List.nodup_append]
    refine ⟨h.once, by simp, ?_⟩
    rintro j hj j' hj' rfl
    obtain ⟨⟨j, w'⟩, hmem, rfl⟩ := List.mem_map.1 hj
    obtain rfl : j = i := by simpa using hj'
    exact hnew w' hmem
  · intro j w'
    by_cases hj : j = i
    · subst hj
      simp [hnew, hafter, eq_comm]
    · rw [hothers j hj, ← h.calls j w']
      simp [hj]
  · intro n k v hv
    by_cases hn : n ≤ order.length
    · rw [List.take_append_of_le_length hn] at hv
      exact h.range n k v hv
    · rw [List.take_of_length_le (by simp; omega), ← hcount] at hv
      exact Table.inRange64_of_count? hv
  · intro before j w' after id total horder hr
    rcases List.eq_nil_or_concat after with rfl | ⟨after, last, rfl⟩
    · -- It is the call that was applied just now.
      obtain ⟨rfl, hcall⟩ := List.append_inj' horder rfl
      obtain ⟨rfl, rfl⟩ := Prod.mk.inj (List.singleton_inj.1 hcall)
      rw [hafter] at hr
      rw [← hcount]
      exact hgrows.told id total (Prod.mk.inj (Option.some.inj hr)).2
    · -- It is one of those before, whose receipt is as it was.
      rw [List.concat_eq_append, ← List.cons_append, ← List.append_assoc] at horder
      have hsplit : order = before ++ (j, w') :: after := (List.append_inj' horder rfl).1
      have hj : j ≠ i := by
        rintro rfl
        exact hnew w' (by simp [hsplit])
      rw [hothers j hj] at hr
      exact h.told before j w' after id total hsplit hr

/-- A caller that comes has not been applied. -/
theorem come (hP : P.Counts receipt shown) (h : Ledger receipt shown s order) (chore : Chore) :
    Ledger receipt shown (Callers.step P s (.call chore)) order := by
  refine h.same (fun i => ?_) fun c hc => hc
  simp only [State.applied?, Callers.step]
  rcases Nat.lt_trichotomy i s.callers.length with hi | rfl | hi
  · rw [List.getElem?_append_left hi]
  · cases chore with
    | write w => simp [Caller.applied?, hP.first]
    | dump => simp [Caller.applied?]
  · rw [List.getElem?_eq_none (by simp; omega), List.getElem?_eq_none (by omega)]

/-- A section changes what is applied of its caller only. -/
theorem applied?_advance (P : Protocol Chore σ τ) (receipt : τ → Option Store.Payload) {i : Nat}
    {caller : Caller Chore τ} (hi : s.callers[i]? = some caller) (j : Nat) :
    (Callers.step P s (.advance i)).applied? receipt j =
      if j = i then
        Caller.applied? receipt ⟨caller.task, (P.next i caller.task caller.point s.shared).1⟩
      else s.applied? receipt j := by
  rw [step_advance P hi]
  unfold State.applied?
  by_cases hj : j = i
  · subst hj
    rw [if_pos rfl, List.getElem?_set_self (List.getElem?_eq_some_iff.1 hi).1]
    rfl
  · rw [if_neg hj, List.getElem?_set_ne (Ne.symm hj)]

theorem applied?_eq {i : Nat} {caller : Caller Chore τ} (hi : s.callers[i]? = some caller) :
    s.applied? receipt i = Caller.applied? receipt caller := by
  rw [State.applied?, hi]
  rfl

/-- A caller goes on without having been applied in this section. -/
theorem stay (h : Ledger receipt shown s order) {i : Nat} {caller : Caller Chore τ}
    (hi : s.callers[i]? = some caller)
    (happlied : Caller.applied? receipt
        ⟨caller.task, (P.next i caller.task caller.point s.shared).1⟩ =
      Caller.applied? receipt caller)
    (hshown : ∀ c, shown s.shared c → shown (P.next i caller.task caller.point s.shared).2 c) :
    Ledger receipt shown (Callers.step P s (.advance i)) order := by
  refine h.same (fun j => ?_) fun c hc => ?_
  · rw [applied?_advance P receipt hi]
    split
    · next hj => rw [hj, applied?_eq hi, happlied]
    · rfl
  · rw [shared_advance P hi]
    exact hshown c hc

/-- **A section of a write applies it, or leaves the order as it is.** -/
theorem advance_write (hP : P.Counts receipt shown) (h : Ledger receipt shown s order) {i : Nat}
    {w : Write} {t : τ} (hi : s.callers[i]? = some ⟨.write w, t⟩) :
    Ledger receipt shown (Callers.step P s (.advance i)) order ∨
      Ledger receipt shown (Callers.step P s (.advance i)) (order ++ [(i, w)]) := by
  obtain ⟨c₀, hc₀, -⟩ := h.stored
  cases ht : receipt t with
  | some r =>
    -- It has been applied before.
    left
    have hnow := fun c hc => hP.applied i w t s.shared c r ht hc
    refine h.stay hi ?_ fun c hc => (hnow c hc).2
    simp only [Caller.applied?, (hnow c₀ hc₀).1, ht]
  | none =>
    have hnow := fun c hc => hP.pending i w t s.shared c ht hc
    cases ht' : receipt (P.next i (.write w) t s.shared).1 with
    | none =>
      left
      refine h.stay hi (by simp only [Caller.applied?, ht', ht]) fun c hc => ?_
      rcases hnow c hc with ⟨-, hshown⟩ | ⟨r, c', hr, -⟩
      · exact hshown
      · rw [ht'] at hr
        exact absurd hr (by simp)
    | some r =>
      right
      refine h.more (r := r) ?_ ?_ (fun j hj => ?_) fun c hc => ?_
      · rw [applied?_eq hi, Caller.applied?, ht]
        rfl
      · rw [applied?_advance P receipt hi, if_pos rfl, Caller.applied?, ht']
        rfl
      · rw [applied?_advance P receipt hi, if_neg hj]
      · rw [shared_advance P hi]
        rcases hnow c hc with ⟨hr, -⟩ | ⟨r', c', hr, hshown, hgrows⟩
        · rw [ht'] at hr
          exact absurd hr (by simp)
        · rw [ht'] at hr
          obtain rfl := Option.some.inj hr
          exact ⟨c', hshown, hgrows⟩

/-- **One section adds at most one call to the order.** -/
theorem step (hP : P.Counts receipt shown) (h : Ledger receipt shown s order) (e : Event Chore) :
    ∃ more, more.length ≤ 1 ∧ Ledger receipt shown (Callers.step P s e) (order ++ more) := by
  have hsame : ∀ {s' : State Chore σ τ}, Ledger receipt shown s' order →
      ∃ more, more.length ≤ 1 ∧ Ledger receipt shown s' (order ++ more) :=
    fun h' => ⟨[], by simp, by rwa [List.append_nil]⟩
  cases e with
  | call chore => exact hsame (h.come hP chore)
  | advance i =>
    cases hi : s.callers[i]? with
    | none =>
      rw [step_absent P hi]
      exact hsame h
    | some caller =>
      obtain ⟨chore, t⟩ := caller
      cases chore with
      | dump => exact hsame (h.stay hi rfl fun c hc => hP.dumps i t s.shared c hc)
      | write w =>
        rcases h.advance_write hP hi with hkept | hnext
        · exact hsame hkept
        · exact ⟨[(i, w)], by simp, hnext⟩

end Ledger

/-! ## Whole runs -/

/-- Whether a caller that writes has been answered. -/
def State.Answered (P : Protocol Chore σ τ) (s : State Chore σ τ) (i : Nat) (w : Write)
    (answer : Except StoreError Store.Payload) : Prop :=
  ∃ t, s.callers[i]? = some ⟨.write w, t⟩ ∧ P.answer? t = some answer

/-- That one order of the calls of a run accounts for its counters: it has
every call that succeeded, once, and no call that failed, and besides them
only calls that have been applied and not yet answered; at every point of
the run the counters are the integer sums of a first part of it, and so is
each first part the counters of a point of the run; no such sum leaves the
range; and the total that a call was told is the sum right after it. -/
structure Accounts (P : Protocol Chore σ τ) (shown : σ → Table Int64 → Prop) (start : σ)
    (events : List (Event Chore)) (order : List (Nat × Write)) : Prop where
  once : (order.map Prod.fst).Nodup
  called : ∀ i w, (i, w) ∈ order →
    ∃ t, (run (step P) (Callers.start start) events).callers[i]? = some ⟨.write w, t⟩
  succeeded : ∀ i w r, (run (step P) (Callers.start start) events).Answered P i w (.ok r) → (i, w) ∈ order
  failed : ∀ i w e, (run (step P) (Callers.start start) events).Answered P i w (.error e) → (i, w) ∉ order
  points : ∀ before, before <+: events → ∃ n ≤ order.length, ∃ c,
    shown (run (step P) (Callers.start start) before).shared c ∧
      (∀ k, c.count? k = tally (order.take n) k) ∧
      (∀ i w r, (run (step P) (Callers.start start) before).Answered P i w (.ok r) →
        (i, w) ∈ order.take n) ∧
        ∀ i w, (i, w) ∈ order.take n → i < (run (step P) (Callers.start start) before).callers.length
  parts : ∀ n ≤ order.length, ∃ before, before <+: events ∧ ∃ c,
    shown (run (step P) (Callers.start start) before).shared c ∧ ∀ k, c.count? k = tally (order.take n) k
  range : ∀ n k v, tally (order.take n) k = some v → Number.inRange64 v = true
  told : ∀ before i w after id total, order = before ++ (i, w) :: after →
    (run (step P) (Callers.start start) events).Answered P i w (.ok (.metric (.counter id total))) →
      tally (before ++ [(i, w)]) id = some total.toInt

theorem State.applied?_eq_some_iff {i : Nat} {w : Write} {r : Store.Payload} :
    s.applied? receipt i = some (w, r) ↔
      ∃ t, s.callers[i]? = some ⟨.write w, t⟩ ∧ receipt t = some r := by
  unfold State.applied? Caller.applied?
  rw [Option.bind_eq_some_iff]
  constructor
  · rintro ⟨⟨chore, t⟩, hc, hr⟩
    cases chore with
    | write w' =>
      obtain ⟨r', hr', heq⟩ := Option.map_eq_some_iff.1 hr
      obtain ⟨rfl, rfl⟩ := Prod.mk.inj heq
      exact ⟨t, hc, hr'⟩
    | dump => exact absurd hr (by simp)
  · rintro ⟨t, hc, hr⟩
    refine ⟨⟨.write w, t⟩, hc, ?_⟩
    simp only
    rw [hr]
    rfl

theorem Protocol.Counts.applied_of_answered (hP : P.Counts receipt shown) {i : Nat} {w : Write}
    {r : Store.Payload} (h : s.Answered P i w (.ok r)) : s.applied? receipt i = some (w, r) := by
  obtain ⟨t, hc, ht⟩ := h
  exact State.applied?_eq_some_iff.2 ⟨t, hc, hP.succeeds t r ht⟩

/-- A run has one order, whose first parts are the orders of its points. -/
theorem Protocol.Counts.ledgers (hP : P.Counts receipt shown) {start : σ} (h₀ : shown start ∅)
    (events : List (Event Chore)) :
    ∃ order, Ledger receipt shown (run (step P) (Callers.start start) events) order ∧
      (∀ before, before <+: events → ∃ n ≤ order.length,
        Ledger receipt shown (run (step P) (Callers.start start) before) (order.take n)) ∧
      ∀ n ≤ order.length, ∃ before, before <+: events ∧
        Ledger receipt shown (run (step P) (Callers.start start) before) (order.take n) := by
  induction events using List.reverseRecOn with
  | nil =>
    refine ⟨[], Ledger.empty h₀, fun before hb => ⟨0, Nat.le_refl _, ?_⟩, fun n _ => ⟨[], by simp, ?_⟩⟩
    · rw [List.prefix_nil.1 hb]
      exact Ledger.empty h₀
    · rw [List.take_nil]
      exact Ledger.empty h₀
  | append_singleton events e ih =>
    obtain ⟨order, hledger, hpoints, hparts⟩ := ih
    obtain ⟨more, hone, hstep⟩ := hledger.step hP e
    rw [← run_snoc (step P) (Callers.start start) events e] at hstep
    refine ⟨order ++ more, hstep, fun before hb => ?_, fun n hn => ?_⟩
    · rcases List.prefix_concat_iff.1 hb with rfl | hb
      · exact ⟨_, Nat.le_refl _, by rwa [List.take_length]⟩
      · obtain ⟨n, hn, hbefore⟩ := hpoints before hb
        refine ⟨n, by rw [List.length_append]; omega, ?_⟩
        rwa [List.take_append_of_le_length hn]
    · by_cases hle : n ≤ order.length
      · obtain ⟨before, hb, hbefore⟩ := hparts n hle
        refine ⟨before, hb.trans (List.prefix_append _ _), ?_⟩
        rwa [List.take_append_of_le_length hle]
      · -- At most one call was added, so this part is the whole.
        rw [List.length_append] at hn
        refine ⟨_, List.prefix_rfl, ?_⟩
        rwa [List.take_of_length_le (by rw [List.length_append]; omega)]

/-- **Every run has an order that accounts for its counters.** -/
theorem Protocol.Counts.accounts (hP : P.Counts receipt shown) {start : σ} (h₀ : shown start ∅)
    (events : List (Event Chore)) : ∃ order, Accounts P shown start events order := by
  obtain ⟨order, hledger, hpoints, hparts⟩ := hP.ledgers h₀ events
  refine ⟨order, hledger.once, ?_, ?_, ?_, ?_, ?_, hledger.range, ?_⟩
  · intro i w hmem
    obtain ⟨r, hr⟩ := (hledger.calls i w).1 hmem
    obtain ⟨t, hc, -⟩ := State.applied?_eq_some_iff.1 hr
    exact ⟨t, hc⟩
  · intro i w r hanswered
    exact (hledger.calls i w).2 ⟨r, hP.applied_of_answered hanswered⟩
  · rintro i w e ⟨t, hc, ht⟩ hmem
    obtain ⟨r, hr⟩ := (hledger.calls i w).1 hmem
    obtain ⟨t', hc', hr'⟩ := State.applied?_eq_some_iff.1 hr
    rw [hc] at hc'
    obtain ⟨-, rfl⟩ := Caller.mk.inj (Option.some.inj hc')
    rw [hP.fails t e ht] at hr'
    exact absurd hr' (by simp)
  · intro before hb
    obtain ⟨n, hn, hbefore⟩ := hpoints before hb
    obtain ⟨c, hc, htally⟩ := hbefore.stored
    refine ⟨n, hn, c, hc, htally, fun i w r hanswered => ?_, fun i w hmem => ?_⟩
    · exact (hbefore.calls i w).2 ⟨r, hP.applied_of_answered hanswered⟩
    · obtain ⟨r, hr⟩ := (hbefore.calls i w).1 hmem
      obtain ⟨t, hc, -⟩ := State.applied?_eq_some_iff.1 hr
      exact (List.getElem?_eq_some_iff.1 hc).1
  · intro n hn
    obtain ⟨before, hb, hbefore⟩ := hparts n hn
    exact ⟨before, hb, hbefore.stored⟩
  · intro before i w after id total horder hanswered
    exact hledger.told before i w after id total horder (hP.applied_of_answered hanswered)

end Callers

end Meterbank
