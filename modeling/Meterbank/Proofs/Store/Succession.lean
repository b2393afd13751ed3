/-
  Meterbank.Proofs.Store.Succession — dumps that follow each other.

  A caller copies both tables and writes the file while it holds the lock
  of the dumps, so its dump lies wholly before or wholly behind that of
  anybody else.  A caller is at a later point after each of its sections,
  so it updates the tables before it takes that lock.  Hence no dump puts
  back what a later one has written, and what a write has changed is in
  the file from the moment it is answered.

  Main results:
    * `exclusive` — who dumps holds the lock.
    * `Dumps.before` — of two dumps one is over before the other copies.
    * `file_shows_last` — the file holds the copies of the last dump.
    * `dumps_never_overtake` — all of it, for every interleaving.
-/
import Meterbank.Proofs.Store.Durability
import Meterbank.Store.Dumping

namespace Meterbank.Dumping

open Meterbank.Callers (step step_caller step_shared)

/-! ## Points of a call -/

namespace Point

/-- How many kinds of section a call has behind it at most. -/
def rank : Point → Nat
  | .writing => 0
  | .settingGauges _ => 1
  | .waiting _ => 2
  | .copyingGauges _ => 3
  | .copyingCounters _ _ => 4
  | .rewriting _ _ _ => 5
  | .releasing _ => 6
  | .answered _ => 7

/-- Whether the caller has the lock of the dumps. -/
def Holds : Point → Prop
  | .copyingGauges _ | .copyingCounters _ _ | .rewriting _ _ _ | .releasing _ => True
  | _ => False

theorem holds_iff (point : Point) : point.Holds ↔ 3 ≤ point.rank ∧ point.rank ≤ 6 := by
  cases point <;> simp [Holds, rank]

end Point

/-- What the first section of a write does besides changing a table: it
ends the call, and then an unsaved write of metrics was refused, or leads
to the gauges or to the dump. -/
structure Applied (w : Write) (s : Shared) (p : Point × Shared) : Prop where
  files : p.2.files = s.files
  dumper : p.2.dumper = s.dumper
  alike : s.store.Alike p.2.store
  stage : (∃ gauges, p.1 = .settingGauges gauges) ∨ (∃ receipt, p.1 = .waiting receipt) ∨
    ∃ answer, p.1 = .answered answer ∧
      (FileStore.dumps w.call = true → s.store.sync = true → answer.isOk = false)

theorem Applied.refused (w : Write) (s : Shared) (e : StoreError) :
    Applied w s (.answered (.error e), s) where
  files := rfl
  dumper := rfl
  alike := ⟨rfl, rfl⟩
  stage := .inr (.inr ⟨.error e, rfl, fun _ _ => rfl⟩)

/-- A write to one of the tables dumps nothing. -/
theorem Applied.quiet {w : Write} (hquiet : FileStore.dumps w.call = false) (s : Shared) :
    Applied w s (s.answeredBy (FileStore.operations.perform w.call (s.store, s.files))) where
  files := FileStore.perform_quiet (p := (s.store, s.files)) (by rw [hquiet, Bool.false_and])
  dumper := rfl
  alike := FileStore.perform_alike w.call (s.store, s.files)
  stage := .inr (.inr ⟨_, rfl, fun h => absurd (h.symm.trans hquiet) (by simp)⟩)

/-- A write of metrics that has been applied in full is yet to dump, if
every write does. -/
theorem Applied.concluded {w : Write} {s : Shared} {store : FileStore} (halike : s.store.Alike store)
    (receipt : Store.Payload) : Applied w s (concluded store receipt, { s with store }) where
  files := rfl
  dumper := rfl
  alike := halike
  stage := by
    unfold Dumping.concluded
    cases hsync : store.sync with
    | true => exact .inr (.inl ⟨receipt, rfl⟩)
    | false =>
      refine .inr (.inr ⟨.ok receipt, rfl, fun _ hevery => ?_⟩)
      rw [halike.2, hevery] at hsync
      exact absurd hsync (by simp)

/-- **The first section of a write** changes the tables only. -/
theorem applying_applied (w : Write) (s : Shared) : Applied w s (applying w s) := by
  cases w with
  | data m =>
    simp only [applying, applyingData]
    cases hm : m.validate with
    | error e => exact .refused _ s e
    | ok u =>
      simp only
      cases hu : s.store.apply u with
      | error e => exact .refused _ s e
      | ok p => exact .concluded (FileStore.apply_alike hu) _
  | batch b =>
    simp only [applying, applyingBatch]
    cases hb : b.validate with
    | error e => exact .refused _ s e
    | ok us =>
      simp only
      cases hd : Delta.ofUpdates us with
      | error e => exact .refused _ s e
      | ok d =>
        simp only
        cases hadd : s.store.counters.addAll d.counters with
        | error e => exact .refused _ s e
        | ok counters => exact ⟨rfl, rfl, ⟨rfl, rfl⟩, .inl ⟨d.gauges, rfl⟩⟩
  | gauge key x | gaugeText key raw | counter key delta | counterText key raw =>
    exact .quiet rfl s

/-! ## One section -/

variable {i : Nat} {task : Chore} {point : Point} {s : Shared}

/-- A caller is never led back. -/
theorem rank_next (i : Nat) (task : Chore) (point : Point) (s : Shared) :
    point.rank ≤ (next i task point s).1.rank := by
  cases point with
  | writing => exact Nat.zero_le _
  | settingGauges gauges =>
    show 1 ≤ (concluded s.store .nothing).rank
    unfold concluded
    split <;> decide
  | waiting receipt =>
    simp only [next]
    split
    · exact Nat.le_refl _
    · exact Nat.le_succ _
  | copyingGauges receipt | copyingCounters gauges receipt | releasing answer =>
    exact Nat.le_succ _
  | rewriting gauges counters receipt =>
    simp only [next]
    split <;> exact Nat.le_succ _
  | answered answer => exact Nat.le_refl _

/-- The lock of the dumps is free before a caller takes it, and who gives
it back has it. -/
theorem dumper_next (i : Nat) (task : Chore) (point : Point) (s : Shared) :
    (next i task point s).2.dumper = s.dumper ∨ s.dumper = none ∨
      ∃ answer, point = .releasing answer := by
  cases point with
  | writing =>
    cases task with
    | write w => exact .inl (applying_applied w s).dumper
    | dump => exact .inl rfl
  | settingGauges gauges | copyingGauges receipt | copyingCounters gauges receipt
  | answered answer =>
    exact .inl rfl
  | waiting receipt =>
    simp only [next]
    cases hd : s.dumper with
    | none => exact .inr (.inl rfl)
    | some j => exact .inl hd
  | rewriting gauges counters receipt =>
    simp only [next]
    split <;> exact .inl rfl
  | releasing answer => exact .inr (.inr ⟨answer, rfl⟩)

/-- Who has the lock after a section has taken it, or had it before. -/
theorem holds_next (h : (next i task point s).1.Holds) :
    (next i task point s).2.dumper = some i ∨
      point.Holds ∧ (next i task point s).2.dumper = s.dumper := by
  cases point with
  | writing =>
    -- After its first section a call waits at most.
    cases task with
    | write w =>
      simp only [next] at h
      rcases (applying_applied w s).stage with ⟨g, hg⟩ | ⟨r, hr⟩ | ⟨a, ha, -⟩
      · rw [hg] at h
        exact h.elim
      · rw [hr] at h
        exact h.elim
      · rw [ha] at h
        exact h.elim
    | dump => exact h.elim
  | settingGauges gauges =>
    simp only [next, concluded] at h
    split at h <;> exact h.elim
  | waiting receipt =>
    simp only [next] at h ⊢
    split at h
    · exact h.elim
    · next hfree =>
      rw [if_neg hfree]
      exact .inl rfl
  | copyingGauges receipt => exact .inr ⟨trivial, rfl⟩
  | copyingCounters gauges receipt => exact .inr ⟨trivial, rfl⟩
  | rewriting gauges counters receipt =>
    refine .inr ⟨trivial, ?_⟩
    simp only [next]
    split <;> rfl
  | releasing answer => exact h.elim
  | answered answer => exact h.elim

/-- A section leaves the store for the same file, dumping as often. -/
theorem alike_next (i : Nat) (task : Chore) (point : Point) (s : Shared) :
    s.store.Alike (next i task point s).2.store := by
  cases point with
  | writing =>
    cases task with
    | write w => exact (applying_applied w s).alike
    | dump => exact ⟨rfl, rfl⟩
  | waiting receipt | rewriting gauges counters receipt =>
    simp only [next]
    split <;> exact ⟨rfl, rfl⟩
  | settingGauges gauges | copyingGauges receipt | copyingCounters gauges receipt
  | releasing answer | answered answer =>
    exact ⟨rfl, rfl⟩

/-- Only a rewriting touches the files. -/
theorem files_next (h : point.rank ≠ 5) : (next i task point s).2.files = s.files := by
  cases point with
  | writing =>
    cases task with
    | write w => exact (applying_applied w s).files
    | dump => rfl
  | waiting receipt =>
    simp only [next]
    split <;> rfl
  | rewriting gauges counters receipt => exact absurd rfl h
  | settingGauges gauges | copyingGauges receipt | copyingCounters gauges receipt
  | releasing answer | answered answer =>
    rfl

/-! ## One event -/

section

variable {s : State} {e : Event} {i : Nat} {c c' : Caller}

/-- A caller stays, with what it is about, and is not led back. -/
theorem step_persists (h : s.callers[i]? = some c) (e : Event) :
    ∃ c', (step protocol s e).callers[i]? = some c' ∧ c'.task = c.task ∧
      c.point.rank ≤ c'.point.rank := by
  have hlt := (List.getElem?_eq_some_iff.1 h).1
  cases e with
  | call task =>
    refine ⟨c, ?_, rfl, Nat.le_refl _⟩
    show (s.callers ++ [⟨task, first task⟩])[i]? = some c
    rw [List.getElem?_append_left hlt, h]
  | advance j =>
    cases hj : s.callers[j]? with
    | none =>
      rw [Callers.step_absent protocol hj]
      exact ⟨c, h, rfl, Nat.le_refl _⟩
    | some d =>
      rw [Callers.step_advance protocol hj]
      simp only
      by_cases hij : j = i
      · subst hij
        obtain rfl : d = c := Option.some.inj (hj.symm.trans h)
        exact ⟨_, List.getElem?_set_self hlt, rfl, rank_next j d.task d.point s.shared⟩
      · refine ⟨c, ?_, rfl, Nat.le_refl _⟩
        rw [List.getElem?_set_ne hij]
        exact h

end

/-! ## The lock of the dumps -/

/-- Whether everybody who is to hold the lock of the dumps does. -/
def Exclusive (s : State) : Prop :=
  ∀ i c, s.callers[i]? = some c → c.point.Holds → s.shared.dumper = some i

theorem Exclusive.step {s : State} (h : Exclusive s) (e : Event) : Exclusive (step protocol s e) := by
  intro i c' hc' hholds
  rcases step_caller protocol hc' with ⟨hc, hother⟩ | ⟨c, hc, rfl, rfl⟩ | ⟨task, rfl, rfl⟩
  · -- Nobody else takes the lock or gives it back meanwhile.
    have hmine := h i c' hc hholds
    rcases step_shared protocol s e with hsame | ⟨j, d, rfl, hd, hshared⟩
    · rw [hsame]
      exact hmine
    · rw [hshared, protocol_next]
      rcases dumper_next j d.task d.point s.shared with hsame | hfree | ⟨answer, hpoint⟩
      · rw [hsame]
        exact hmine
      · rw [hfree] at hmine
        exact absurd hmine (by simp)
      · have hholds' : d.point.Holds := by
          rw [hpoint]
          trivial
        have hij : i = j := Option.some.inj (hmine.symm.trans (h j d hd hholds'))
        exact absurd (by rw [hij]) hother
  · rw [Callers.shared_advance protocol hc, protocol_next]
    rcases holds_next hholds with htaken | ⟨hbefore, hsame⟩
    · exact htaken
    · rw [hsame]
      exact h i c hc hbefore
  · cases task with
    | write w => exact hholds.elim
    | dump => exact hholds.elim

/-! ## Moments of a run -/

section

variable {s : State} {events : List Event} {i n m : Nat} {c c' : Caller}

theorem moment_persists (hnm : n ≤ m) (h : (moment (step protocol) s events n).callers[i]? = some c) :
    ∃ c', (moment (step protocol) s events m).callers[i]? = some c' ∧ c'.task = c.task ∧
      c.point.rank ≤ c'.point.rank := by
  induction m, hnm using Nat.le_induction with
  | base => exact ⟨c, h, rfl, Nat.le_refl _⟩
  | succ m hnm ih =>
    obtain ⟨c₁, h₁, htask₁, hrank₁⟩ := ih
    rcases moment_cases (step protocol) s events m with ⟨-, hrest⟩ | ⟨e, -, hnext⟩
    · exact ⟨c₁, by rw [hrest]; exact h₁, htask₁, hrank₁⟩
    · obtain ⟨c₂, h₂, htask₂, hrank₂⟩ := step_persists h₁ e
      exact ⟨c₂, by rw [hnext]; exact h₂, htask₂.trans htask₁, Nat.le_trans hrank₁ hrank₂⟩

/-- **Who dumps holds the lock,** at every moment. -/
theorem exclusive (store : FileStore) (files : Files) (events : List Event) (n : Nat) :
    Exclusive (moment (step protocol) (start store files) events n) :=
  moment_keeps (fun _ e h => h.step e) (fun _ _ hc => absurd hc (by simp [start, Callers.start])) events n

theorem alike_moment (store : FileStore) (files : Files) (events : List Event) (n : Nat) :
    store.Alike (moment (step protocol) (start store files) events n).shared.store := by
  refine moment_keeps (P := fun s : State => store.Alike s.shared.store) ?_ ⟨rfl, rfl⟩ events n
  intro s e h
  rcases step_shared protocol s e with hsame | ⟨j, c, -, -, hshared⟩
  · rw [hsame]
    exact h
  · rw [hshared]
    have hnext := alike_next j c.task c.point s.shared
    exact ⟨hnext.1.trans h.1, hnext.2.trans h.2⟩

/-! ## Sections of a run -/

/-- A caller goes through a section at a moment. -/
def Advances (s : State) (events : List Event) (i n : Nat) (c : Caller) : Prop :=
  events[n]? = some (.advance i) ∧ (moment (step protocol) s events n).callers[i]? = some c

/-- A caller goes through its sections in their order. -/
theorem Advances.before (h : Advances s events i n c) (h' : Advances s events i m c')
    (hrank : c.point.rank < c'.point.rank) : n < m := by
  by_contra hmn
  obtain ⟨c₁, h₁, -, hrank₁⟩ := moment_persists (Nat.le_of_not_lt hmn) h'.2
  obtain rfl : c₁ = c := Option.some.inj (h₁.symm.trans h.2)
  omega

/-- What a section leads to. -/
theorem Advances.after (h : Advances s events i n c) :
    (moment (step protocol) s events (n + 1)).callers[i]? =
        some ⟨c.task, (next i c.task c.point (moment (step protocol) s events n).shared).1⟩ ∧
      (moment (step protocol) s events (n + 1)).shared =
        (next i c.task c.point (moment (step protocol) s events n).shared).2 := by
  have hlt := (List.getElem?_eq_some_iff.1 h.2).1
  rw [moment_succ h.1, Callers.step_advance protocol h.2]
  exact ⟨List.getElem?_set_self hlt, rfl⟩

/-- A section that updates one of the tables. -/
def Updates (s : State) (events : List Event) (i n : Nat) : Prop :=
  ∃ c, Advances s events i n c ∧ c.point.rank ≤ 1

end

/-! ## Dumps -/

/-- When a caller has dumped. -/
structure Dump where
  caller : Nat
  gaugesAt : Nat
  countersAt : Nat
  rewrittenAt : Nat

/-- That a caller has copied the tables and written the file then. -/
structure Dumps (s : State) (events : List Event) (d : Dump) : Prop where
  gauges : ∃ task receipt, Advances s events d.caller d.gaugesAt ⟨task, .copyingGauges receipt⟩
  counters : ∃ task gauges receipt,
    Advances s events d.caller d.countersAt ⟨task, .copyingCounters gauges receipt⟩
  rewritten : ∃ task gauges counters receipt,
    Advances s events d.caller d.rewrittenAt ⟨task, .rewriting gauges counters receipt⟩

/-- A store with the tables as a dump has copied them. -/
def Dump.copied (d : Dump) (s : State) (events : List Event) : FileStore :=
  { s.shared.store with
    gauges := (moment (step protocol) s events d.gaugesAt).shared.store.gauges
    counters := (moment (step protocol) s events d.countersAt).shared.store.counters }

section

variable {store : FileStore} {files : Files} {events : List Event} {d d' : Dump} {i n : Nat}
  {s : State} {c : Caller}

/-- A dump copies the gauges, then the counters, and then it writes. -/
theorem Dumps.ordered (h : Dumps s events d) :
    d.gaugesAt < d.countersAt ∧ d.countersAt < d.rewrittenAt := by
  obtain ⟨task, receipt, hgauges⟩ := h.gauges
  obtain ⟨task', gauges, receipt', hcounters⟩ := h.counters
  obtain ⟨task'', gauges', counters, receipt'', hrewritten⟩ := h.rewritten
  exact ⟨hgauges.before hcounters (Nat.lt_succ_self 3),
    hcounters.before hrewritten (Nat.lt_succ_self 4)⟩

/-- Whose section a dump ends with, that caller has dumped. -/
theorem Dumps.caller_eq (h : Dumps s events d)
    (he : events[d.rewrittenAt]? = some (.advance i)) : d.caller = i := by
  obtain ⟨task, gauges, counters, receipt, hrewritten⟩ := h.rewritten
  exact Callers.Event.advance.inj (Option.some.inj (hrewritten.1.symm.trans he))

/-- **Of two dumps one is over before the other copies.** -/
theorem Dumps.before (h : Dumps (start store files) events d)
    (h' : Dumps (start store files) events d') (hlt : d.rewrittenAt < d'.rewrittenAt) :
    d.rewrittenAt < d'.gaugesAt := by
  obtain ⟨task, gauges, counters, receipt, hrewritten⟩ := h.rewritten
  obtain ⟨task', receipt', hcopying⟩ := h'.gauges
  obtain ⟨task'', gauges'', counters'', receipt'', hrewritten'⟩ := h'.rewritten
  by_contra hlate
  -- Else both hold the lock when the first one writes.
  obtain ⟨c, hc, -, hlow⟩ := moment_persists (Nat.le_of_not_lt hlate) hcopying.2
  obtain ⟨c', hc', -, hhigh⟩ := moment_persists (Nat.le_of_lt hlt) hc
  obtain rfl : c' = ⟨task'', .rewriting gauges'' counters'' receipt''⟩ :=
    Option.some.inj (hc'.symm.trans hrewritten'.2)
  have hholds : c.point.Holds := by
    rw [Point.holds_iff]
    have hfrom : 3 ≤ c.point.rank := hlow
    have hupto : c.point.rank ≤ 5 := hhigh
    exact ⟨hfrom, Nat.le_succ_of_le hupto⟩
  have hlock := exclusive store files events d.rewrittenAt
  have hsame : d.caller = d'.caller :=
    Option.some.inj ((hlock _ _ hrewritten.2 trivial).symm.trans (hlock _ _ hc hholds))
  -- But one caller dumps only once.
  have hdone := hrewritten.after.1
  rw [hsame] at hdone
  obtain ⟨c₁, hc₁, -, hrank₁⟩ := moment_persists (Nat.succ_le_of_lt hlt) hdone
  obtain rfl : c₁ = ⟨task'', .rewriting gauges'' counters'' receipt''⟩ :=
    Option.some.inj (hc₁.symm.trans hrewritten'.2)
  simp only [next] at hrank₁
  split at hrank₁ <;> simp [Point.rank] at hrank₁

/-! ## What callers have behind them -/

/-- Whether a call leaves the tables in the file if it succeeds. -/
def Saves (task : Chore) (store : FileStore) : Prop :=
  match task with
  | .write w => FileStore.dumps w.call = true ∧ store.sync = true
  | .dump => True

/-- What a caller has behind it that is at a point before the event of a
number. -/
def Trail (store : FileStore) (s : State) (events : List Event) (n i : Nat) (c : Caller) : Prop :=
  match c.point with
  | .writing | .settingGauges _ => ∃ w, c.task = .write w
  | .waiting _ | .copyingGauges _ => True
  | .copyingCounters gauges _ =>
    ∃ g < n, (∃ task receipt, Advances s events i g ⟨task, .copyingGauges receipt⟩) ∧
      gauges = (moment (step protocol) s events g).shared.store.gauges
  | .rewriting gauges counters _ =>
    ∃ d : Dump, d.caller = i ∧ d.countersAt < n ∧
      (∃ task receipt, Advances s events i d.gaugesAt ⟨task, .copyingGauges receipt⟩) ∧
      (∃ task gauges receipt,
        Advances s events i d.countersAt ⟨task, .copyingCounters gauges receipt⟩) ∧
      gauges = (moment (step protocol) s events d.gaugesAt).shared.store.gauges ∧
      counters = (moment (step protocol) s events d.countersAt).shared.store.counters
  | .releasing _ => ∃ d, Dumps s events d ∧ d.caller = i ∧ d.rewrittenAt < n
  | .answered answer => Saves c.task store → answer.isOk = true →
    ∃ d, Dumps s events d ∧ d.caller = i ∧ d.rewrittenAt < n

/-- What is behind a caller stays behind it. -/
theorem Trail.later (h : Trail store s events n i c) : Trail store s events (n + 1) i c := by
  obtain ⟨task, point⟩ := c
  cases point with
  | writing => exact h
  | settingGauges gauges => exact h
  | waiting receipt => trivial
  | copyingGauges receipt => trivial
  | copyingCounters gauges receipt =>
    obtain ⟨g, hg, hcopied⟩ := h
    exact ⟨g, Nat.lt_succ_of_lt hg, hcopied⟩
  | rewriting gauges counters receipt =>
    obtain ⟨d, hd, hcounters, hcopied⟩ := h
    exact ⟨d, hd, Nat.lt_succ_of_lt hcounters, hcopied⟩
  | releasing answer =>
    obtain ⟨d, hd, hcaller, hn⟩ := h
    exact ⟨d, hd, hcaller, Nat.lt_succ_of_lt hn⟩
  | answered answer =>
    intro hsaves hok
    obtain ⟨d, hd, hcaller, hn⟩ := h hsaves hok
    exact ⟨d, hd, hcaller, Nat.lt_succ_of_lt hn⟩

/-- **A section puts itself behind its caller.** -/
theorem Trail.advance (h : Trail store s events n i c) (hc : Advances s events i n c)
    (halike : store.Alike (moment (step protocol) s events n).shared.store) :
    Trail store s events (n + 1) i
      ⟨c.task, (next i c.task c.point (moment (step protocol) s events n).shared).1⟩ := by
  obtain ⟨task, point⟩ := c
  cases point with
  | writing =>
    obtain ⟨w, hw⟩ := h
    obtain rfl : task = .write w := hw
    simp only [next]
    rcases (applying_applied w (moment (step protocol) s events n).shared).stage with
      ⟨gauges, hstage⟩ | ⟨receipt, hstage⟩ | ⟨answer, hstage, hrefused⟩
    · rw [hstage]
      exact ⟨w, rfl⟩
    · rw [hstage]
      trivial
    · rw [hstage]
      rintro ⟨hdumps, hsync⟩ hok
      rw [hrefused hdumps (halike.2.trans hsync)] at hok
      exact absurd hok (by simp)
  | settingGauges gauges =>
    obtain ⟨w, hw⟩ := h
    obtain rfl : task = .write w := hw
    simp only [next, concluded]
    split
    · trivial
    · next hnever =>
      rintro ⟨-, hsync⟩ -
      exact absurd (halike.2.trans hsync) hnever
  | waiting receipt =>
    simp only [next]
    split <;> trivial
  | copyingGauges receipt => exact ⟨n, Nat.lt_succ_self n, ⟨task, receipt, hc⟩, rfl⟩
  | copyingCounters gauges receipt =>
    obtain ⟨g, -, hcopied, hgauges⟩ := h
    exact ⟨⟨i, g, n, n⟩, rfl, Nat.lt_succ_self n, hcopied, ⟨task, gauges, receipt, hc⟩, hgauges, rfl⟩
  | rewriting gauges counters receipt =>
    obtain ⟨d, -, -, hcopied, hcounted, -⟩ := h
    have hd : Dumps s events ⟨i, d.gaugesAt, d.countersAt, n⟩ :=
      ⟨hcopied, hcounted, task, gauges, counters, receipt, hc⟩
    simp only [next]
    split
    · exact ⟨_, hd, rfl, Nat.lt_succ_self n⟩
    · exact ⟨_, hd, rfl, Nat.lt_succ_self n⟩
  | releasing answer => exact fun _ _ => Trail.later h
  | answered answer => exact Trail.later h

/-- **Every caller has behind it what its point says,** at every moment. -/
theorem trail (store : FileStore) (files : Files) (events : List Event) (n : Nat) :
    ∀ i c, (moment (step protocol) (start store files) events n).callers[i]? = some c →
      Trail store (start store files) events n i c := by
  -- The induction is on the events; one of them is a section of one caller at most.
  induction n with
  | zero => exact fun _ _ hc => absurd hc (by simp [moment, start, Callers.start])
  | succ n ih =>
    intro i c' hc'
    rcases moment_cases (step protocol) (start store files) events n with ⟨-, hrest⟩ | ⟨e, he, hnext⟩
    · rw [hrest] at hc'
      exact (ih i c' hc').later
    · rw [hnext] at hc'
      rcases step_caller protocol hc' with ⟨hc, -⟩ | ⟨c, hc, rfl, rfl⟩ | ⟨task, rfl, rfl⟩
      · exact (ih i c' hc).later
      · exact (ih i c hc).advance ⟨he, hc⟩ (alike_moment store files events n)
      · cases task with
        | write w => exact ⟨w, rfl⟩
        | dump => trivial

/-- A write that has got anywhere has updated a table, or was refused there. -/
theorem updated (store : FileStore) (files : Files) (events : List Event) (n : Nat) :
    ∀ i w point,
      (moment (step protocol) (start store files) events n).callers[i]? = some ⟨.write w, point⟩ →
      0 < point.rank → ∃ u < n, Updates (start store files) events i u := by
  induction n with
  | zero => exact fun _ _ _ hc => absurd hc (by simp [moment, start, Callers.start])
  | succ n ih =>
    intro i w point hc' hpos
    rcases moment_cases (step protocol) (start store files) events n with ⟨-, hrest⟩ | ⟨e, he, hnext⟩
    · rw [hrest] at hc'
      obtain ⟨u, hu, hupdates⟩ := ih i w point hc' hpos
      exact ⟨u, Nat.lt_succ_of_lt hu, hupdates⟩
    · rw [hnext] at hc'
      rcases step_caller protocol hc' with ⟨hc, -⟩ | ⟨c, hc, rfl, hpoint⟩ | ⟨task, rfl, hfirst⟩
      · obtain ⟨u, hu, hupdates⟩ := ih i w point hc hpos
        exact ⟨u, Nat.lt_succ_of_lt hu, hupdates⟩
      · by_cases hrank : 0 < c.point.rank
        · have htask : c.task = .write w := (congrArg Callers.Caller.task hpoint).symm
          obtain ⟨u, hu, hupdates⟩ := ih i w c.point (by rw [hc, ← htask]) hrank
          exact ⟨u, Nat.lt_succ_of_lt hu, hupdates⟩
        · -- This is its first section.
          exact ⟨n, Nat.lt_succ_self n, c, ⟨he, hc⟩, by omega⟩
      · obtain ⟨rfl, rfl⟩ := Callers.Caller.mk.inj hfirst
        exact absurd hpos (Nat.lt_irrefl 0)

/-! ## The file -/

/-- Who rewrites a file that can be written leaves in it what it has copied. -/
theorem next_rewriting {sh : Shared} (hw : sh.files.Writable sh.store.path) (i : Nat) (task : Chore)
    (gauges : Table Binary64) (counters : Table Int64) (receipt : Store.Payload) :
    ∃ files, next i task (.rewriting gauges counters receipt) sh =
        (.releasing (.ok receipt), { sh with files }) ∧
      files.read sh.store.path = .ok { sh.store with gauges, counters }.snapshotBytes ∧
      files.Writable sh.store.path := by
  obtain ⟨files, hdump, hread, hagain⟩ :=
    FileStore.dump_writable (s := { sh.store with gauges, counters }) hw
  refine ⟨files, ?_, hread, hagain⟩
  simp only [next, hdump]

/-- The file can be written at every moment, if it could be before. -/
theorem writable_moment (hw : files.Writable store.path) (events : List Event) (n : Nat) :
    (moment (step protocol) (start store files) events n).shared.files.Writable store.path := by
  refine (moment_keeps
    (P := fun s : State => store.Alike s.shared.store ∧ s.shared.files.Writable store.path)
    ?_ ⟨⟨rfl, rfl⟩, hw⟩ events n).2
  intro s e ⟨halike, hwritable⟩
  rcases step_shared protocol s e with hsame | ⟨j, c, -, -, hshared⟩
  · rw [hsame]
    exact ⟨halike, hwritable⟩
  · rw [hshared, protocol_next]
    have hnext := alike_next j c.task c.point s.shared
    refine ⟨⟨hnext.1.trans halike.1, hnext.2.trans halike.2⟩, ?_⟩
    obtain ⟨task, point⟩ := c
    by_cases hrank : point.rank = 5
    · cases point with
      | rewriting gauges counters receipt =>
        rw [← halike.1] at hwritable ⊢
        obtain ⟨files', hrewritten, -, hagain⟩ :=
          next_rewriting hwritable j task gauges counters receipt
        rw [hrewritten]
        exact hagain
      | _ => exact absurd hrank (by simp [Point.rank])
    · rw [files_next hrank]
      exact hwritable

/-- An event leaves the files alone, or it is the last section of a dump
and the file shows the copies of that dump. -/
theorem file_after (hw : files.Writable store.path) (events : List Event) (n : Nat) :
    ((moment (step protocol) (start store files) events (n + 1)).shared.files =
        (moment (step protocol) (start store files) events n).shared.files ∧
      ∀ d, Dumps (start store files) events d → d.rewrittenAt ≠ n) ∨
    ∃ d, Dumps (start store files) events d ∧ d.rewrittenAt = n ∧
      (moment (step protocol) (start store files) events (n + 1)).shared.files.read store.path =
        .ok (d.copied (start store files) events).snapshotBytes := by
  by_cases hrewrites : ∃ i task gauges counters receipt,
      Advances (start store files) events i n ⟨task, .rewriting gauges counters receipt⟩
  · obtain ⟨i, task, gauges, counters, receipt, hc⟩ := hrewrites
    have htrail := trail store files events n i _ hc.2
    obtain ⟨d, -, -, hcopied, hcounted, rfl, rfl⟩ := htrail
    have halike := alike_moment store files events n
    have hnow := writable_moment hw events n
    rw [← halike.1] at hnow
    obtain ⟨files', hrewritten, hread, -⟩ := next_rewriting hnow i task _ _ receipt
    refine .inr ⟨⟨i, d.gaugesAt, d.countersAt, n⟩,
      ⟨hcopied, hcounted, task, _, _, receipt, hc⟩, rfl, ?_⟩
    rw [hc.after.2, hrewritten]
    rw [halike.1] at hread
    exact hread
  · refine .inl ⟨?_, ?_⟩
    · rcases moment_cases (step protocol) (start store files) events n with ⟨-, hrest⟩ | ⟨e, he, hnext⟩
      · rw [hrest]
      · rw [hnext]
        rcases step_shared protocol (moment (step protocol) (start store files) events n) e with
          hsame | ⟨j, c, rfl, hc, hshared⟩
        · rw [hsame]
        · rw [hshared]
          apply files_next
          intro hrank
          obtain ⟨task, point⟩ := c
          cases point with
          | rewriting gauges counters receipt =>
            exact hrewrites ⟨j, task, gauges, counters, receipt, he, hc⟩
          | _ => exact absurd hrank (by simp [Point.rank])
    · rintro d hd rfl
      obtain ⟨task, gauges, counters, receipt, hc⟩ := hd.rewritten
      exact hrewrites ⟨d.caller, task, gauges, counters, receipt, hc⟩

/-- **The file holds the copies of the last dump,** or what was in it
before the first one. -/
theorem file_shows_last (hw : files.Writable store.path) (events : List Event) (n : Nat) :
    ((moment (step protocol) (start store files) events n).shared.files = files ∧
      ∀ d, Dumps (start store files) events d → n ≤ d.rewrittenAt) ∨
    ∃ d, Dumps (start store files) events d ∧ d.rewrittenAt < n ∧
      (∀ d', Dumps (start store files) events d' → d'.rewrittenAt < n →
        d'.rewrittenAt ≤ d.rewrittenAt) ∧
      (moment (step protocol) (start store files) events n).shared.files.read store.path =
        .ok (d.copied (start store files) events).snapshotBytes := by
  induction n with
  | zero => exact .inl ⟨rfl, fun d _ => Nat.zero_le _⟩
  | succ n ih =>
    rcases file_after hw events n with ⟨hsame, hnone⟩ | ⟨d, hd, hn, hread⟩
    · rw [hsame]
      rcases ih with ⟨hfiles, hlater⟩ | ⟨d, hd, hn, hlast, hread⟩
      · refine .inl ⟨hfiles, fun d hd => ?_⟩
        have hne := hnone d hd
        have hle := hlater d hd
        omega
      · refine .inr ⟨d, hd, Nat.lt_succ_of_lt hn, fun d' hd' hn' => ?_, hread⟩
        have hne := hnone d' hd'
        exact hlast d' hd' (by omega)
    · exact .inr ⟨d, hd, by omega, fun d' _ hn' => by omega, hread⟩

/-! ## Every interleaving -/

/-- What is in the file from the moment at which a call that saves has been
answered. -/
theorem saved_from (hw : files.Writable store.path) {events : List Event} {i n m : Nat} {task : Chore}
    {receipt : Store.Payload}
    (hc : (moment (step protocol) (start store files) events n).callers[i]? =
      some ⟨task, .answered (.ok receipt)⟩)
    (hsaves : Saves task store) (hnm : n ≤ m) :
    ∃ d, Dumps (start store files) events d ∧ d.rewrittenAt < m ∧
      (moment (step protocol) (start store files) events m).shared.files.read store.path =
        .ok (d.copied (start store files) events).snapshotBytes ∧
      ∀ u, Updates (start store files) events i u → u < d.gaugesAt ∧ u < d.countersAt := by
  obtain ⟨own, hown, rfl, howned⟩ := trail store files events n i _ hc hsaves rfl
  rcases file_shows_last hw events m with ⟨-, hnone⟩ | ⟨d, hd, hm, hlast, hread⟩
  · have hle := hnone own hown
    omega
  · refine ⟨d, hd, hm, hread, fun u hu => ?_⟩
    -- Its own dump comes behind its updates, and the last one is no earlier.
    obtain ⟨c, hupdates, hrank⟩ := hu
    obtain ⟨task', receipt', hcopies⟩ := hown.gauges
    have hbefore : u < own.gaugesAt :=
      hupdates.before hcopies (Nat.lt_of_le_of_lt hrank (by decide : 1 < 3))
    have hordered := hown.ordered
    have hordered' := hd.ordered
    rcases Nat.lt_or_ge own.rewrittenAt d.rewrittenAt with hlt | hge
    · have hover := hown.before hd hlt
      omega
    · -- The last dump is its own.
      have hsame : d.rewrittenAt = own.rewrittenAt := Nat.le_antisymm hge
        (hlast own hown (Nat.lt_of_lt_of_le howned hnm))
      obtain ⟨_, _, _, _, hwrites⟩ := hown.rewritten
      have hcaller : d.caller = own.caller := hd.caller_eq (hsame ▸ hwrites.1)
      obtain ⟨task'', receipt'', hcopies'⟩ := hd.gauges
      rw [hcaller] at hcopies'
      have hfirst : u < d.gaugesAt :=
        hupdates.before hcopies' (Nat.lt_of_le_of_lt hrank (by decide : 1 < 3))
      omega

end

/-- **No dump puts an older state over a newer one.**  In every
interleaving of calls on a store whose file can be written: a caller that
writes the file leaves in it one copy of the gauges and one of the
counters, as it has made them since it took the lock; what is copied for
one dump is copied after everything for the dumps before it; nothing else
changes the file; and once a call that saves has been answered, the file
always holds copies that were made after all updates of that call. -/
theorem dumps_never_overtake {store : FileStore} {files : Files}
    (hw : files.Writable store.path) (events : List Event) :
    let s := start store files
    (∀ i n task gauges counters receipt,
      Advances s events i n ⟨task, .rewriting gauges counters receipt⟩ →
      ∃ d, Dumps s events d ∧ d.caller = i ∧ d.rewrittenAt = n ∧
        d.gaugesAt < d.countersAt ∧ d.countersAt < n ∧
        (moment (step protocol) s events (n + 1)).shared.files.read store.path =
          .ok (d.copied s events).snapshotBytes) ∧
    (∀ d d', Dumps s events d → Dumps s events d' → d.rewrittenAt < d'.rewrittenAt →
      d.gaugesAt < d'.gaugesAt ∧ d.countersAt < d'.countersAt) ∧
    (∀ n, (∀ d, Dumps s events d → d.rewrittenAt ≠ n) →
      (moment (step protocol) s events (n + 1)).shared.files =
        (moment (step protocol) s events n).shared.files) ∧
    ∀ i n task receipt, Saves task store →
      (moment (step protocol) s events n).callers[i]? = some ⟨task, .answered (.ok receipt)⟩ →
      (∀ w, task = .write w → ∃ u < n, Updates s events i u) ∧
      ∀ m, n ≤ m → ∃ d, Dumps s events d ∧ d.rewrittenAt < m ∧
        (moment (step protocol) s events m).shared.files.read store.path =
          .ok (d.copied s events).snapshotBytes ∧
        ∀ u, Updates s events i u → u < d.gaugesAt ∧ u < d.countersAt := by
  intro s
  refine ⟨?_, ?_, ?_, ?_⟩
  · intro i n task gauges counters receipt hc
    obtain ⟨own, -, -, hcopied, hcounted, -⟩ := trail store files events n i _ hc.2
    have hown : Dumps s events ⟨i, own.gaugesAt, own.countersAt, n⟩ :=
      ⟨hcopied, hcounted, task, gauges, counters, receipt, hc⟩
    rcases file_after hw events n with ⟨-, hnone⟩ | ⟨d, hd, hn, hread⟩
    · exact absurd rfl (hnone _ hown)
    · have hcaller : d.caller = i := hd.caller_eq (hn ▸ hc.1)
      exact ⟨d, hd, hcaller, hn, hd.ordered.1, hn ▸ hd.ordered.2, hread⟩
  · intro d d' hd hd' hlt
    have hover := hd.before hd' hlt
    have hordered := hd.ordered
    have hordered' := hd'.ordered
    omega
  · intro n hnone
    rcases file_after hw events n with ⟨hsame, -⟩ | ⟨d, hd, hn, -⟩
    · exact hsame
    · exact absurd hn (hnone d hd)
  · intro i n task receipt hsaves hc
    refine ⟨?_, fun m hnm => saved_from hw hc hsaves hnm⟩
    rintro w rfl
    exact updated store files events n i w _ hc (Nat.succ_pos 6)

/-- One counter, by one. -/
def byOne : Metric := .counter "c" 1

/-- Two callers that write at the same time, the second of which waits until
the first has dumped. -/
def twoWriters : List Event :=
  [.call (.write (.data byOne)), .call (.write (.data byOne)), .advance 0, .advance 0, .advance 0,
    .advance 1, .advance 1, .advance 0, .advance 0, .advance 0, .advance 1, .advance 1, .advance 1,
    .advance 1, .advance 1]

/-- The update of the second one falls between the two copies of the first;
the file then holds copies that were made after it. -/
theorem second_writer_saved :
    Files.empty.Writable "m.json" ∧
      Saves (.write (.data byOne)) (FileStore.create "m.json" true) ∧
      (moment (step protocol) (start (FileStore.create "m.json" true) .empty) twoWriters 15).callers[1]? =
        some ⟨.write (.data byOne), .answered (.ok (.metric (.counter "c" 2)))⟩ ∧
      ∃ d, Dumps (start (FileStore.create "m.json" true) .empty) twoWriters d ∧ 5 < d.gaugesAt ∧
        (moment (step protocol) (start (FileStore.create "m.json" true) .empty) twoWriters 15).shared.files.read
          "m.json" = .ok
            (d.copied (start (FileStore.create "m.json" true) .empty) twoWriters).snapshotBytes := by
  have hw : Files.empty.Writable (FileStore.create "m.json" true).path := Files.writable_empty
  obtain ⟨-, -, -, hsaved⟩ := dumps_never_overtake hw twoWriters
  have hsaves : Saves (.write (.data byOne)) (FileStore.create "m.json" true) := ⟨rfl, rfl⟩
  have hanswered : (moment (step protocol) (start (FileStore.create "m.json" true) .empty) twoWriters 15).callers[1]? =
      some ⟨.write (.data byOne), .answered (.ok (.metric (.counter "c" 2)))⟩ := by rfl
  have hupdate : Updates (start (FileStore.create "m.json" true) .empty) twoWriters 1 5 :=
    ⟨⟨.write (.data byOne), .writing⟩, ⟨rfl, rfl⟩, Nat.zero_le 1⟩
  obtain ⟨d, hd, -, hread, hafter⟩ := (hsaved 1 15 _ _ hsaves hanswered).2 15 (Nat.le_refl 15)
  exact ⟨Files.writable_empty, hsaves, hanswered, d, hd, (hafter 5 hupdate).1, hread⟩

end Meterbank.Dumping
