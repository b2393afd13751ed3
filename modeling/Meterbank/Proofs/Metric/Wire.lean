/-
  Meterbank.Proofs.Metric.Wire — nothing is lost on the wire.

  A single metric travels on one line, many of them as a document laid out
  over several.  On one line no blank stands after a colon and no line
  break around a member; the reader passes over both, so members that are
  read in a document are read on a line as well.

  Main results:
    * `decode_compact` — a metric is read as it was written on one line.
    * `wire_keeps_everything` — batches and metrics whose values are finite
      are read back as they were, and accepted updates are accepted again.
-/
import Meterbank.Proofs.Metric.Accepting
import Meterbank.Proofs.Metric.Documents

namespace Meterbank

open Meterbank.Json Meterbank.Number

/-! ## What can be written -/

/-- A metric that JSON can express: its value, if it has one, is finite. -/
def Metric.Expressible (m : Metric) : Prop := ∀ x ∈ m.value, x.isFinite = true

instance (m : Metric) : Decidable m.Expressible := by
  unfold Metric.Expressible
  infer_instance

/-- A batch that JSON can express. -/
def Batch.Expressible (b : Batch) : Prop := ∀ m ∈ b.metrics, m.Expressible

instance (b : Batch) : Decidable b.Expressible := by
  unfold Batch.Expressible
  infer_instance

/-- **Accepted updates can be written.** -/
theorem expressible_toMetric {m : Metric} {u : Update} (h : m.validate = .ok u) :
    u.toMetric.Expressible := by
  have haccepted := validate_toMetric m u h
  obtain ⟨id, sample⟩ := u
  intro x hx
  cases sample with
  | counter d => simp [Update.toMetric, Metric.counter] at hx
  | gauge y =>
    have hy : y = x := by simpa [Update.toMetric, Metric.gauge] using hx
    subst hy
    have htag : Kind.ofTag? Kind.gauge.tag = some .gauge := by decide
    -- A gauge that is accepted has passed the check of its value.
    simp only [Update.toMetric, Metric.validate, Metric.gauge, htag] at haccepted
    split at haccepted
    · simp at haccepted
    · cases hcheck : checkGauge y with
      | error e => simp [hcheck, Except.map] at haccepted
      | ok z => exact ((checkGauge_eq_ok_iff y z).1 hcheck).1

/-! ## One line -/

/-- A member that is read after a blank is read without it, as its value is looked for
behind blanks. -/
theorem readOnce_unspaced {α β : Type} (name : String) {before : Option α}
    {value : Bytes → Step α} {φ : α × Bytes → β} {cs : Bytes} {b : β}
    (hvalue : value (0x20 :: cs) = value cs)
    (h : (MetricFields.readOnce name before value (0x3A :: 0x20 :: cs)).map φ = .ok b) :
    (MetricFields.readOnce name before value (0x3A :: cs)).map φ = .ok b := by
  cases before with
  | some a => simp [MetricFields.readOnce, stopLater, Except.map] at h
  | none =>
    have hread : ∀ r, MetricFields.readOnce name none value (0x3A :: r) = value r := fun _ => rfl
    rwa [hread, hvalue, ← hread] at h

theorem readMember_unspaced {budget : Nat} {name : String} {f g : MetricFields} {cs rest : Bytes}
    (h : f.readMember budget name (0x3A :: 0x20 :: cs) = .ok (g, rest)) :
    f.readMember budget name (0x3A :: cs) = .ok (g, rest) := by
  have hskip : skipBlanks (0x20 :: cs) = skipBlanks cs := rfl
  unfold MetricFields.readMember at h ⊢
  by_cases hid : name = "id"
  · rw [if_pos hid] at h ⊢
    exact readOnce_unspaced "id" (by simp only [readString, hskip]) h
  by_cases htag : name = "type"
  · rw [if_neg hid, if_pos htag] at h ⊢
    exact readOnce_unspaced "type" (by simp only [readString, hskip]) h
  by_cases hdelta : name = "delta"
  · rw [if_neg hid, if_neg htag, if_pos hdelta] at h ⊢
    exact readOnce_unspaced "delta" (by simp only [readOptional, hskip]) h
  by_cases hval : name = "value"
  · rw [if_neg hid, if_neg htag, if_neg hdelta, if_pos hval] at h ⊢
    exact readOnce_unspaced "value" (by simp only [readOptional, hskip]) h
  · -- The value of a member that is not known is passed over, blanks first.
    have hcolon : ∀ r, readColon (0x3A :: r) = .ok ((), r) := fun _ => rfl
    rw [if_neg hid, if_neg htag, if_neg hdelta, if_neg hval, hcolon] at h ⊢
    simp only [skipValue] at h ⊢
    cases budget with
    | zero => simp [skipWithin, stopAtNext, Except.map] at h
    | succ n =>
      rw [skipWithin] at h ⊢
      rwa [show skipHead (0x20 :: cs) = skipHead cs by simp only [skipHead, hskip]] at h

/-- A member without a blank after the colon. -/
def compactMember (member : String × List Char) : List Char :=
  quoteChars member.1 ++ ':' :: member.2

/-- The members after the first one and the closing bracket, on one line. -/
def following (members : List (String × List Char)) : List Char :=
  members.flatMap (fun p => ',' :: compactMember p) ++ ['}']

/-- The bytes of a member: its name, a colon and its value. -/
theorem encode_compactMember (name : String) (value : List Char) (rest : Bytes) :
    encode (compactMember (name, value)) ++ rest =
      encode (quoteChars name) ++ (0x3A :: (encode value ++ rest)) := by
  unfold compactMember
  rw [encode_append, List.append_assoc]
  rfl

theorem encode_following_cons (p : String × List Char) (members : List (String × List Char))
    (rest : Bytes) :
    encode (following (p :: members)) ++ rest =
      0x2C :: (encode (compactMember p) ++ (encode (following members) ++ rest)) := by
  have hcomma : ∀ cs, encode (',' :: cs) = 0x2C :: encode cs := fun _ => rfl
  unfold following
  rw [List.flatMap_cons]
  simp only [List.append_assoc, List.cons_append, hcomma, encode_append]

/-- No number runs into what follows it. -/
theorem stopsNumber_following (members : List (String × List Char)) (rest : Bytes) :
    StopsNumber (encode (following members) ++ rest) := by
  cases members with
  | nil => exact stopsNumber_cons (b := 0x7D) (by decide) rest
  | cons p members =>
    rw [encode_following_cons]
    exact stopsNumber_cons (by decide) _

/-- The characters of a metric on one line: a bracket, its first member and the others. -/
theorem compactChars_eq (m : Metric) :
    m.compactChars =
      '{' :: (compactMember ("id", quoteChars m.id) ++ following m.members.tail) := by
  have hmembers : m.members = ("id", quoteChars m.id) :: m.members.tail := rfl
  unfold Metric.compactChars following compactMember
  rw [hmembers, List.map_cons, joinWith_cons, List.flatMap_map]
  simp only [List.cons_append, List.append_assoc, List.nil_append, List.tail_cons]

variable {budget : Nat}

/-- The members that follow are read up to the closing bracket. -/
theorem readMetricMembers_following {f g : MetricFields} {members : List (String × List Char)}
    {m : Metric} (htakes : Takes budget f members g) (hm : g.complete = .ok m) (rest : Bytes)
    {n : Nat} (hn : members.length < n) :
    readMetricMembers budget n false f (encode (following members) ++ rest) =
      .ok (m, 0x7D :: rest) := by
  induction htakes generalizing n with
  | nil f =>
    obtain ⟨n, rfl⟩ : ∃ k, n = k + 1 := ⟨n - 1, by simp at hn; omega⟩
    have hend : nextKey false (encode (following []) ++ rest) = .ok (false, 0x7D :: rest) := rfl
    rw [readMetricMembers, hend]
    simp only [hm]
  | @cons f g h name value members hread _ ih =>
    obtain ⟨n, rfl⟩ : ∃ k, n = k + 1 := ⟨n - 1, by simp at hn; omega⟩
    rw [List.length_cons] at hn
    have hkey : ∀ r, nextKey false (0x2C :: (encode (quoteChars name) ++ r)) =
        .ok (true, afterQuote name r) := by
      intro r
      unfold nextKey
      rw [skipBlanks_cons _ _ (by decide), encode_quoteChars]
      rfl
    rw [encode_following_cons, encode_compactMember, readMetricMembers, hkey]
    simp only
    rw [afterQuote, readText_quoted]
    simp only
    rw [readMember_unspaced (hread _ (stopsNumber_following _ _))]
    exact ih hm (by omega)

/-- **A metric is read as it was written on one line**, if its value is finite. -/
theorem decode_compact {m : Metric} (hfinite : m.Expressible) :
    Metric.decode (Text.bytes m.compact) = .ok m := by
  have hbytes : Text.bytes m.compact = 0x7B :: (encode (quoteChars "id") ++
      (0x3A :: (encode (quoteChars m.id) ++ encode (following m.members.tail)))) := by
    have hbracket : ∀ cs, encode ('{' :: cs) = 0x7B :: encode cs := fun _ => rfl
    unfold Metric.compact
    rw [bytes_ofList, compactChars_eq, hbracket, encode_append, encode_compactMember]
  have hmembers : m.members.tail.length ≤ 3 := by
    obtain ⟨id, tag, delta, value⟩ := m
    cases delta <;> cases value <;> simp [Metric.members]
  have hlength : 6 ≤ (Text.bytes m.compact).length := by
    have hname : (encode (quoteChars "id")).length = 4 := by decide
    rw [hbytes]
    simp only [List.length_cons, List.length_append, hname]
    omega
  have hread : ∀ budget, 6 ≤ budget →
      readMetric budget (Text.bytes m.compact) = .ok (m, []) := by
    intro budget hbudget
    obtain ⟨n, hn⟩ : ∃ n, budget = n + 1 := ⟨budget - 1, by omega⟩
    have htakes := takes_members budget hfinite
    rw [show m.members = ("id", quoteChars m.id) :: m.members.tail from rfl] at htakes
    cases htakes with
    | cons hfirst hothers =>
      have hstops : StopsNumber (encode (following m.members.tail)) := by
        simpa using stopsNumber_following m.members.tail []
      have hkey : ∀ r, nextKey true (encode (quoteChars "id") ++ r) = .ok (true, afterQuote "id" r) :=
        fun _ => rfl
      have hfollowing := readMetricMembers_following hothers (MetricFields.complete_ofMetric m) []
        (n := n) (by omega)
      rw [List.append_nil] at hfollowing
      have hfields : readMetricMembers budget budget true .none (encode (quoteChars "id") ++
          (0x3A :: (encode (quoteChars m.id) ++ encode (following m.members.tail)))) =
          .ok (m, [0x7D]) := by
        conv_lhs => rw [hn, readMetricMembers, ← hn, hkey]
        simp only
        rw [afterQuote, readText_quoted]
        simp only
        rw [readMember_unspaced (hfirst _ hstops)]
        exact hfollowing
      unfold readMetric readStructure
      rw [hbytes, skipBlanks_cons _ _ (by decide)]
      simp only
      rw [if_neg (by decide), if_pos trivial, hfields]
      exact enclose_ok m _ [] endObject rfl
  unfold Metric.decode readDocument
  rw [hread _ (by omega)]
  rfl

/-! ## There and back -/

/-- **Nothing is lost on the wire.**  A batch is decoded from its document and a metric from
its line exactly as they were written, and accepted updates, one of them or many, come back
and are accepted as the same updates. -/
theorem wire_keeps_everything :
    (∀ b : Batch, b.Expressible → Batch.decode (Text.bytes b.pretty) = .ok b) ∧
    (∀ m : Metric, m.Expressible → Metric.decode (Text.bytes m.compact) = .ok m) ∧
    (∀ (m : Metric) (u : Update), m.validate = .ok u →
      (Metric.decode (Text.bytes u.toMetric.compact)).bind Metric.validate = .ok u) ∧
    (∀ us : List Update, (∀ u ∈ us, ∃ m : Metric, m.validate = .ok u) →
      (Batch.decode (Text.bytes (Batch.mk (us.map Update.toMetric)).pretty)).bind Batch.validate =
        .ok us) := by
  refine ⟨fun b hb => decode_pretty hb, fun m hm => decode_compact hm, ?_, ?_⟩
  · intro m u hu
    rw [decode_compact (expressible_toMetric hu)]
    exact validate_toMetric m u hu
  · intro us hus
    have hexpressible : (Batch.mk (us.map Update.toMetric)).Expressible := by
      intro m hm
      obtain ⟨u, hu, rfl⟩ := List.mem_map.1 hm
      obtain ⟨n, hn⟩ := hus u hu
      exact expressible_toMetric hn
    rw [decode_pretty hexpressible]
    refine validateFrom_toMetric 0 fun u hu => ?_
    obtain ⟨n, hn⟩ := hus u hu
    exact validate_toMetric n u hn

/-- Metrics with quotes, controls and the empty name, with both numbers, one or none. -/
def awkwardMetrics : List Metric :=
  [⟨"", "", none, none⟩, ⟨"say \"\\\" \n\x00 é 😀", "gauge", some Int64.minValue, none⟩,
    ⟨"both", "counter", some Int64.maxValue, some (Binary64.ofParts true 0)⟩,
    ⟨"least", "gauge", none, some ⟨1⟩⟩]

/-- The least delta, of a counter whose name is a quote. -/
def awkwardUpdate : Update := ⟨"\"", .counter Int64.minValue⟩

theorem awkwardMetrics_kept :
    (Batch.mk awkwardMetrics).Expressible ∧
    Batch.decode (Text.bytes (Batch.mk awkwardMetrics).pretty) = .ok ⟨awkwardMetrics⟩ ∧
    (∀ m ∈ awkwardMetrics, Metric.decode (Text.bytes m.compact) = .ok m) ∧
    awkwardUpdate.toMetric.validate = .ok awkwardUpdate ∧
    (Metric.decode (Text.bytes awkwardUpdate.toMetric.compact)).bind Metric.validate =
      .ok awkwardUpdate ∧
    (Batch.decode (Text.bytes (Batch.mk ([awkwardUpdate].map Update.toMetric)).pretty)).bind
      Batch.validate = .ok [awkwardUpdate] := by
  have hexpressible : (Batch.mk awkwardMetrics).Expressible := by decide
  have haccepted : awkwardUpdate.toMetric.validate = .ok awkwardUpdate := by decide
  have haccepteds : ∀ u ∈ [awkwardUpdate], ∃ m : Metric, m.validate = .ok u := by
    intro u hu
    obtain rfl := List.mem_singleton.1 hu
    exact ⟨_, haccepted⟩
  obtain ⟨hbatch, hmetric, hupdate, hupdates⟩ := wire_keeps_everything
  exact ⟨hexpressible, hbatch _ hexpressible, fun m hm => hmetric m (hexpressible m hm), haccepted,
    hupdate _ _ haccepted, hupdates _ haccepteds⟩

end Meterbank
