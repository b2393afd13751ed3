/-
  Meterbank.Proofs.Store.Texts — deltas that are written as text.

  The delta of a counter can be given as text, with blanks around it.  What
  is between the blanks has to be a numeral in the 64-bit range; then the
  text is as good as the number to every store, and otherwise it is refused
  and nothing is written.

  Main results:
    * `trimChars_between`, `trimChars_append` — a text is its trimmed form
      between blanks.
    * `parseCounter_eq_ok_iff` — which texts are deltas.
    * `texts_count_as_numbers` — what stores make of them.
-/
import Mathlib.Data.List.DropRight
import Meterbank.Proofs.Number.Digits
import Meterbank.Store.MemoryTable
import Meterbank.Store.Plans

namespace Meterbank

open Meterbank.Number

/-! ## Blanks around a text -/

namespace Text

/-- Whether characters are blanks. -/
def AreBlank (cs : List Char) : Prop := ∀ c ∈ cs, isBlank c = true

/-- **A text is its trimmed form between blanks.** -/
theorem trimChars_between (cs : List Char) :
    ∃ l r, AreBlank l ∧ AreBlank r ∧ cs = l ++ trimChars cs ++ r := by
  refine ⟨cs.takeWhile isBlank, (cs.dropWhile isBlank).rtakeWhile isBlank,
    fun c hc => List.mem_takeWhile_imp hc, fun c hc => List.mem_rtakeWhile_imp hc, ?_⟩
  rw [show trimChars cs = (cs.dropWhile isBlank).rdropWhile isBlank from rfl, List.append_assoc,
    List.rdropWhile_append_rtakeWhile, List.takeWhile_append_dropWhile]

/-- **Blanks around a text do not change its trimmed form.** -/
theorem trimChars_append {l r : List Char} (hl : AreBlank l) (hr : AreBlank r) (cs : List Char) :
    trimChars (l ++ cs ++ r) = trimChars cs := by
  unfold trimChars
  rw [List.append_assoc, List.dropWhile_append_of_pos hl, List.dropWhile_append]
  split
  · next hempty =>
    -- There are only blanks, on both sides.
    rw [List.isEmpty_iff.1 hempty, List.dropWhile_eq_nil_iff.2 hr]
  · have hreverse : ∀ c ∈ r.reverse, isBlank c = true := fun c hc => hr c (List.mem_reverse.1 hc)
    rw [List.reverse_append, List.dropWhile_append_of_pos hreverse]

/-- A text without blanks is its own trimmed form. -/
theorem trimChars_of_notBlank {cs : List Char} (h : ∀ c ∈ cs, isBlank c = false) :
    trimChars cs = cs := by
  apply trimChars_eq_self
  · cases hhead : cs.head? with
    | none => rfl
    | some c => simp [h c (List.mem_of_mem_head? hhead)]
  · cases hlast : cs.getLast? with
    | none => rfl
    | some c => simp [h c (List.mem_of_getLast? hlast)]

theorem toList_trim (s : String) : (trim s).toList = trimChars s.toList := String.toList_ofList

theorem isBlank_of_isDigit {c : Char} (h : c.isDigit = true) : isBlank c = false := by
  have hc := isDigit_iff.1 h
  unfold isBlank
  simp
  omega

end Text

open Meterbank.Text (AreBlank trimChars trimChars_between trimChars_append)

/-- A numeral has no blanks in it. -/
theorem Number.Numeral.notBlank {cs : List Char} {i : Int} (h : Numeral cs i) :
    ∀ c ∈ cs, Text.isBlank c = false := by
  intro c hc
  cases h with
  | plain hne hds => exact Text.isBlank_of_isDigit (hds c hc)
  | plus hne hds | minus hne hds =>
    rcases List.mem_cons.1 hc with rfl | hc
    · decide
    · exact Text.isBlank_of_isDigit (hds c hc)

/-! ## Texts that are deltas -/

/-- Whether a text writes an integer: a numeral with blanks around it, or
without. -/
def WritesInteger (raw : String) (i : Int) : Prop :=
  ∃ l cs r, AreBlank l ∧ AreBlank r ∧ raw.toList = l ++ cs ++ r ∧ Numeral cs i

theorem writesInteger_iff (raw : String) (i : Int) :
    WritesInteger raw i ↔ Numeral (trimChars raw.toList) i := by
  constructor
  · rintro ⟨l, cs, r, hl, hr, hraw, hnumeral⟩
    rw [hraw, trimChars_append hl hr, Text.trimChars_of_notBlank hnumeral.notBlank]
    exact hnumeral
  · intro h
    obtain ⟨l, r, hl, hr, hraw⟩ := trimChars_between raw.toList
    exact ⟨l, _, r, hl, hr, hraw, h⟩

/-- **Exactly the texts that write an integer in the range are deltas.** -/
theorem parseCounter_eq_ok_iff (raw : String) (n : Int64) :
    parseCounter raw = .ok n ↔ WritesInteger raw n.toInt := by
  rw [writesInteger_iff, ← readInteger_eq_ok_iff]
  unfold parseCounter
  simp only [Text.toList_trim]
  cases readInteger (trimChars raw.toList) <;> simp

/-- Every other text is refused in the words for it. -/
theorem parseCounter_error_cause {raw : String} {e : StoreError} (h : parseCounter raw = .error e) :
    ∃ cause, e = .validation (.counterText (Text.trim raw) cause) := by
  unfold parseCounter at h
  simp only at h
  split at h
  · exact absurd h (by simp)
  · next cause _ => exact ⟨cause, (Except.error.inj h).symm⟩

/-- Whether a text writes a 64-bit integer. -/
def WritesDelta (raw : String) : Prop :=
  ∃ i, WritesInteger raw i ∧ -9223372036854775808 ≤ i ∧ i ≤ 9223372036854775807

theorem writesDelta_iff (raw : String) : WritesDelta raw ↔ ∃ n, parseCounter raw = .ok n := by
  constructor
  · rintro ⟨i, hi, hrange⟩
    refine ⟨Int64.ofInt i, (parseCounter_eq_ok_iff raw _).2 ?_⟩
    rwa [toInt_ofInt_of_inRange ((inRange64_iff i).2 hrange)]
  · rintro ⟨n, hn⟩
    exact ⟨n.toInt, (parseCounter_eq_ok_iff raw n).1 hn, (inRange64_iff _).1 (inRange64_toInt n)⟩

/-! ## What stores make of them -/

/-- Wherever a delta is given as this text, it is as good as this number. -/
structure CountsAs (raw : String) (n : Int64) : Prop where
  parse : parseCounter raw = .ok n
  sample : Sample.parse .counter raw = .ok (.counter n)
  table : ∀ (t : Table Int64) (key : String), t.writeCounterText key raw = t.writeCounter key n
  store : ∀ {σ : Type} (S : Store σ) (key : String) (s : σ),
    S.perform (.writeCounterText key raw) s = S.perform (.writeCounter key n) s
  plan : ∀ key, Plan.ofCall (.writeCounterText key raw) = Plan.ofCall (.writeCounter key n)

/-- Wherever a delta is given as this text, this is the answer, and nothing
is written. -/
structure RefusedAs (raw : String) (e : StoreError) : Prop where
  parse : parseCounter raw = .error e
  sample : Sample.parse .counter raw = .error e
  table : ∀ (t : Table Int64) (key : String), t.writeCounterText key raw = .error e
  store : ∀ {σ : Type} (S : Store σ) (key : String) (s : σ),
    S.perform (.writeCounterText key raw) s = (.error e, s)
  plan : ∀ key, Plan.ofCall (.writeCounterText key raw) = .done (.error e)

theorem countsAs_of_ok {raw : String} {n : Int64} (h : parseCounter raw = .ok n) :
    CountsAs raw n where
  parse := h
  sample := by simp only [Sample.parse, h, Except.map]
  table t key := t.writeCounterText_ok key raw n h
  store S key s := by simp only [Store.perform, Store.writeCounterText, h]
  plan key := by simp only [Plan.ofCall, h]

theorem refusedAs_of_error {raw : String} {e : StoreError} (h : parseCounter raw = .error e) :
    RefusedAs raw e where
  parse := h
  sample := by simp only [Sample.parse, h, Except.map]
  table t key := by simp only [Table.writeCounterText, h]
  store S key s := by simp only [Store.perform, Store.writeCounterText, h, Store.wrap, Except.map]
  plan key := by simp only [Plan.ofCall, h]

/-- **Texts count as the numbers that they write.**  A text that writes a
64-bit integer is that delta to every store, any other text is refused as
invalid; and what is read back of a number that is written out, with
blanks around it or without, is that number. -/
theorem texts_count_as_numbers :
    (∀ (raw : String) (n : Int64), WritesInteger raw n.toInt ↔ parseCounter raw = .ok n) ∧
      (∀ (raw : String) (n : Int64), WritesInteger raw n.toInt → CountsAs raw n) ∧
        (∀ raw : String, ¬ WritesDelta raw →
          ∃ cause, RefusedAs raw (.validation (.counterText (Text.trim raw) cause))) ∧
          ∀ (n : Int64) (l r : String), AreBlank l.toList → AreBlank r.toList →
            WritesInteger (l ++ integerText n.toInt ++ r) n.toInt := by
  refine ⟨fun raw n => (parseCounter_eq_ok_iff raw n).symm,
    fun raw n h => countsAs_of_ok ((parseCounter_eq_ok_iff raw n).2 h), ?_, ?_⟩
  · intro raw hraw
    cases hparse : parseCounter raw with
    | ok n => exact absurd ((writesDelta_iff raw).2 ⟨n, hparse⟩) hraw
    | error e =>
      obtain ⟨cause, rfl⟩ := parseCounter_error_cause hparse
      exact ⟨cause, refusedAs_of_error hparse⟩
  · intro n l r hl hr
    refine ⟨l.toList, _, r.toList, hl, hr, ?_, numeral_integerDigits n.toInt⟩
    rw [String.toList_append, String.toList_append, integerText, String.toList_ofList]

/-- The least delta between blanks, zeros after a sign, and two signs. -/
theorem least_delta_between_blanks :
    CountsAs ("\u00a0" ++ integerText Int64.minValue.toInt ++ "\n") Int64.minValue ∧
      CountsAs " +007" 7 ∧
        ∃ cause, RefusedAs "+-7" (.validation (.counterText (Text.trim "+-7") cause)) := by
  obtain ⟨hparse, hcounts, hrefused, hwritten⟩ := texts_count_as_numbers
  have hleft : AreBlank "\u00a0".toList := fun c hc => by
    rw [List.mem_singleton.1 hc]
    decide
  have hright : AreBlank "\n".toList := fun c hc => by
    rw [List.mem_singleton.1 hc]
    decide
  refine ⟨hcounts _ _ (hwritten Int64.minValue _ _ hleft hright),
    hcounts _ _ ((hparse " +007" 7).2 (by decide)), hrefused "+-7" fun h => ?_⟩
  obtain ⟨n, hn⟩ := (writesDelta_iff "+-7").1 h
  have herror : parseCounter "+-7" = .error (.validation (.counterText "+-7" .invalidDigit)) := by
    decide
  rw [herror] at hn
  exact absurd hn (by simp)

end Meterbank
