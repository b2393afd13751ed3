/-
  Meterbank.Proofs.Metric.Documents — a batch is read as it was written.

  A snapshot is a batch laid out over several lines.  What a reader meets
  after a value is either a comma or a line break, so no value runs into
  the next one; blanks between the parts do not count.  The members of a
  metric and the elements of the list are followed one by one.

  Main results:
    * `readMetric_prettyChars` — a metric is read as it was written.
    * `decode_pretty` — so is a batch, whatever its ids are, if all its
      gauge values are finite.
-/
import Meterbank.Metric.Decode
import Meterbank.Metric.Encode
import Meterbank.Proofs.Json.Numbers
import Meterbank.Proofs.Json.Texts

namespace Meterbank

open Meterbank.Json Meterbank.Number

/-! ## Layout -/

theorem skipBlanks_lineBreak (depth : Nat) (cs : Bytes) :
    skipBlanks (encode (lineBreak depth) ++ cs) = skipBlanks cs := by
  have hspaces : ∀ n, skipBlanks (encode (List.replicate n ' ') ++ cs) = skipBlanks cs := by
    intro n
    induction n with
    | zero => rfl
    | succ n ih => exact ih
  exact hspaces (2 * depth)

/-- The items after the first one, and the closing bracket. -/
def remaining (closing : Char) (depth : Nat) (items : List (List Char)) : List Char :=
  items.flatMap (fun t => ',' :: lineBreak (depth + 1) ++ t) ++ lineBreak depth ++ [closing]

theorem joinWith_cons (separator t : List Char) (ts : List (List Char)) :
    joinWith separator (t :: ts) = t ++ ts.flatMap (separator ++ ·) := by
  induction ts generalizing t with
  | nil => simp [joinWith]
  | cons u us ih =>
    show t ++ separator ++ joinWith separator (u :: us) = _
    rw [ih, List.flatMap_cons, List.append_assoc, List.append_assoc]

/-- Between the brackets stand the first item and those that remain. -/
theorem layOut_cons (opening closing : Char) (depth : Nat) (t : List Char) (ts : List (List Char)) :
    layOut opening closing depth (t :: ts) =
      opening :: (lineBreak (depth + 1) ++ (t ++ remaining closing depth ts)) := by
  unfold layOut remaining
  rw [joinWith_cons]
  simp [List.append_assoc]

/-- An item that remains stands after a comma and a line break. -/
theorem encode_remaining_cons (closing : Char) (depth : Nat) (t : List Char)
    (ts : List (List Char)) (rest : Bytes) :
    encode (remaining closing depth (t :: ts)) ++ rest =
      0x2C :: (encode (lineBreak (depth + 1)) ++
        (encode t ++ (encode (remaining closing depth ts) ++ rest))) := by
  have hcomma : ∀ cs, encode (',' :: cs) = 0x2C :: encode cs := fun cs => rfl
  unfold remaining
  rw [List.flatMap_cons]
  simp only [List.append_assoc, List.cons_append, hcomma, encode_append]

theorem encode_remaining_nil (closing : Char) (depth : Nat) (rest : Bytes) :
    encode (remaining closing depth []) ++ rest =
      encode (lineBreak depth) ++ (encode [closing] ++ rest) := by
  unfold remaining
  rw [List.flatMap_nil, List.nil_append, encode_append, List.append_assoc]

/-- No number runs into what remains after it. -/
theorem stopsNumber_remaining (closing : Char) (depth : Nat) (ts : List (List Char)) (rest : Bytes) :
    StopsNumber (encode (remaining closing depth ts) ++ rest) := by
  cases ts with
  | nil =>
    rw [encode_remaining_nil]
    exact stopsNumber_cons (b := 0x0A) (by decide) _
  | cons t ts =>
    rw [encode_remaining_cons]
    exact stopsNumber_cons (by decide) _

/-! ## Keys and elements -/

/-- What the reader of a key is left with: the text after its first quote. -/
def afterQuote (name : String) (rest : Bytes) : Bytes :=
  encode (name.toList.flatMap escape) ++ 0x22 :: rest

theorem nextKey_first (depth : Nat) (name : String) (rest : Bytes) :
    nextKey true (encode (lineBreak depth) ++ (encode (quoteChars name) ++ rest)) =
      .ok (true, afterQuote name rest) := by
  unfold nextKey
  rw [skipBlanks_lineBreak, encode_quoteChars, skipBlanks_cons _ _ (by decide)]
  rfl

theorem nextKey_next (depth : Nat) (name : String) (rest : Bytes) :
    nextKey false (0x2C :: (encode (lineBreak depth) ++ (encode (quoteChars name) ++ rest))) =
      .ok (true, afterQuote name rest) := by
  unfold nextKey
  rw [skipBlanks_cons _ _ (by decide)]
  simp only
  rw [skipBlanks_lineBreak, encode_quoteChars, skipBlanks_cons _ _ (by decide)]
  rfl

theorem nextKey_end (depth : Nat) (rest : Bytes) :
    nextKey false (encode (remaining '}' depth []) ++ rest) = .ok (false, 0x7D :: rest) := by
  unfold nextKey
  rw [encode_remaining_nil, skipBlanks_lineBreak]
  rfl

theorem nextElement_first (depth : Nat) {b : UInt8} (r : Bytes) (hblank : isBlankByte b = false)
    (hend : b ≠ 0x5D) :
    nextElement true (encode (lineBreak depth) ++ b :: r) = .ok (true, b :: r) := by
  unfold nextElement
  rw [skipBlanks_lineBreak, skipBlanks_cons b r hblank]
  simp only [hend, if_false, if_true]

theorem nextElement_next (depth : Nat) {b : UInt8} (r : Bytes) (hblank : isBlankByte b = false)
    (hend : b ≠ 0x5D) :
    nextElement false (0x2C :: (encode (lineBreak depth) ++ b :: r)) = .ok (true, b :: r) := by
  unfold nextElement
  rw [skipBlanks_cons _ _ (by decide)]
  simp only
  rw [skipBlanks_lineBreak, skipBlanks_cons b r hblank]
  simp only [hend, if_false]
  rfl

theorem nextElement_end (depth : Nat) (rest : Bytes) :
    nextElement false (encode (remaining ']' depth []) ++ rest) = .ok (false, 0x5D :: rest) := by
  unfold nextElement
  rw [encode_remaining_nil, skipBlanks_lineBreak]
  rfl

/-- The value of a member that has not been read is read after the colon. -/
theorem readOnce_value {α : Type} {value : Bytes → Step α} {a : α} {cs rest : Bytes} (name : String)
    (h : value (0x20 :: cs) = .ok (a, rest)) :
    MetricFields.readOnce name none value (0x3A :: 0x20 :: cs) = .ok (a, rest) := by
  unfold MetricFields.readOnce readColon
  rw [if_neg (by simp), skipBlanks_cons _ _ (by decide)]
  exact h

/-! ## Metrics -/

/-- The bytes of a member: its name, a colon, a blank and its value. -/
theorem encode_prettyMember (name : String) (value : List Char) (rest : Bytes) :
    encode (prettyMember (name, value)) ++ rest =
      encode (quoteChars name) ++ (0x3A :: 0x20 :: (encode value ++ rest)) := by
  unfold prettyMember
  rw [encode_append, List.append_assoc]
  rfl

/-- Members that are read one after the other, from fields to fields. -/
inductive Takes (budget : Nat) : MetricFields → List (String × List Char) → MetricFields → Prop
  | nil (f : MetricFields) : Takes budget f [] f
  | cons {f g h : MetricFields} {name : String} {value : List Char}
      {members : List (String × List Char)}
      (hread : ∀ rest, StopsNumber rest →
        f.readMember budget name (0x3A :: 0x20 :: (encode value ++ rest)) = .ok (g, rest))
      (hmembers : Takes budget g members h) : Takes budget f ((name, value) :: members) h

theorem Takes.append {budget : Nat} {f g h : MetricFields}
    {before after : List (String × List Char)} (hbefore : Takes budget f before g)
    (hafter : Takes budget g after h) : Takes budget f (before ++ after) h := by
  induction hbefore with
  | nil => exact hafter
  | cons hread _ ih => exact .cons hread (ih hafter)

variable {budget : Nat}

theorem readMember_id (s : String) (rest : Bytes) :
    MetricFields.none.readMember budget "id" (0x3A :: 0x20 :: (encode (quoteChars s) ++ rest)) =
      .ok (⟨some s, none, none, none⟩, rest) := by
  have hvalue : readString (0x20 :: (encode (quoteChars s) ++ rest)) = .ok (s, rest) :=
    readString_quoteChars s rest
  unfold MetricFields.readMember
  rw [if_pos rfl, show MetricFields.none.id = none from rfl, readOnce_value "id" hvalue]
  rfl

theorem readMember_tag (id : Option String) (s : String) (rest : Bytes) :
    MetricFields.readMember budget "type" ⟨id, none, none, none⟩
      (0x3A :: 0x20 :: (encode (quoteChars s) ++ rest)) = .ok (⟨id, some s, none, none⟩, rest) := by
  have hvalue : readString (0x20 :: (encode (quoteChars s) ++ rest)) = .ok (s, rest) :=
    readString_quoteChars s rest
  unfold MetricFields.readMember
  rw [if_neg (by decide), if_pos rfl, readOnce_value "type" hvalue]
  rfl

theorem readMember_delta (id tag : Option String) (d : Int64) {rest : Bytes}
    (hrest : StopsNumber rest) :
    MetricFields.readMember budget "delta" ⟨id, tag, none, none⟩
      (0x3A :: 0x20 :: (encode (integerDigits d.toInt) ++ rest)) =
        .ok (⟨id, tag, some (some d), none⟩, rest) := by
  have hvalue : readOptional readInt64 (0x20 :: (encode (integerDigits d.toInt) ++ rest)) =
      .ok (some d, rest) :=
    readOptional_number ((startsNumber_integerDigits d.toInt).append rest)
      (readInt64_integerDigits d hrest)
  unfold MetricFields.readMember
  rw [if_neg (by decide), if_neg (by decide), if_pos rfl, readOnce_value "delta" hvalue]
  rfl

theorem readMember_value (id tag : Option String) (delta : Option (Option Int64)) {x : Binary64}
    (hx : x.isFinite = true) {rest : Bytes} (hrest : StopsNumber rest) :
    MetricFields.readMember budget "value" ⟨id, tag, delta, none⟩
      (0x3A :: 0x20 :: (encode (floatChars x) ++ rest)) =
        .ok (⟨id, tag, delta, some (some x)⟩, rest) := by
  have hvalue : readOptional readFloat64 (0x20 :: (encode (floatChars x) ++ rest)) =
      .ok (some x, rest) :=
    readOptional_number ((startsNumber_floatChars hx).append rest) (readFloat64_floatChars hx hrest)
  unfold MetricFields.readMember
  rw [if_neg (by decide), if_neg (by decide), if_neg (by decide), if_pos rfl,
    readOnce_value "value" hvalue]
  rfl

/-- The fields that hold a metric's members. -/
def MetricFields.ofMetric (m : Metric) : MetricFields :=
  ⟨some m.id, some m.tag, m.delta.map some, m.value.map some⟩

theorem MetricFields.complete_ofMetric (m : Metric) : (ofMetric m).complete = .ok m := by
  obtain ⟨id, tag, delta, value⟩ := m
  cases delta <;> cases value <;> rfl

/-- The members a metric is written with give it back. -/
theorem takes_members (budget : Nat) {m : Metric} (hfinite : ∀ x ∈ m.value, x.isFinite = true) :
    Takes budget .none m.members (.ofMetric m) := by
  obtain ⟨id, tag, delta, value⟩ := m
  have hnames : Takes budget .none [("id", quoteChars id), ("type", quoteChars tag)]
      ⟨some id, some tag, none, none⟩ :=
    .cons (fun rest _ => readMember_id id rest)
      (.cons (fun rest _ => readMember_tag (some id) tag rest) (.nil _))
  have hdelta : Takes budget ⟨some id, some tag, none, none⟩
      (delta.map fun d => ("delta", integerDigits d.toInt)).toList
      ⟨some id, some tag, delta.map some, none⟩ := by
    cases delta with
    | none => exact .nil _
    | some d => exact .cons (fun _ hrest => readMember_delta _ _ d hrest) (.nil _)
  have hvalue : Takes budget ⟨some id, some tag, delta.map some, none⟩
      (value.map fun x => ("value", floatChars x)).toList
      ⟨some id, some tag, delta.map some, value.map some⟩ := by
    cases value with
    | none => exact .nil _
    | some x => exact .cons (fun _ hrest => readMember_value _ _ _ (hfinite x rfl) hrest) (.nil _)
  exact (hnames.append hdelta).append hvalue

/-- The members that remain are read up to the closing bracket. -/
theorem readMetricMembers_remaining {f g : MetricFields} {members : List (String × List Char)}
    {m : Metric} (htakes : Takes budget f members g) (hm : g.complete = .ok m) (depth : Nat)
    (rest : Bytes) {n : Nat} (hn : members.length < n) :
    readMetricMembers budget n false f
      (encode (remaining '}' depth (members.map prettyMember)) ++ rest) = .ok (m, 0x7D :: rest) := by
  induction htakes generalizing n with
  | nil f =>
    obtain ⟨n, rfl⟩ : ∃ k, n = k + 1 := ⟨n - 1, by simp at hn; omega⟩
    rw [List.map_nil, readMetricMembers, nextKey_end]
    simp only [hm]
  | cons hread _ ih =>
    obtain ⟨n, rfl⟩ : ∃ k, n = k + 1 := ⟨n - 1, by simp at hn; omega⟩
    rw [List.length_cons] at hn
    rw [List.map_cons, encode_remaining_cons, encode_prettyMember, readMetricMembers, nextKey_next]
    simp only
    rw [afterQuote, readText_quoted]
    simp only
    rw [hread _ (stopsNumber_remaining _ _ _ _)]
    exact ih hm (by omega)

/-- The bytes of a metric: a bracket, its first member and the others. -/
theorem encode_prettyChars (m : Metric) (depth : Nat) (rest : Bytes) :
    encode (m.prettyChars depth) ++ rest =
      0x7B :: (encode (lineBreak (depth + 1)) ++ (encode (prettyMember ("id", quoteChars m.id)) ++
        (encode (remaining '}' depth (m.members.tail.map prettyMember)) ++ rest))) := by
  have hbracket : ∀ cs, encode ('{' :: cs) = 0x7B :: encode cs := fun cs => rfl
  unfold Metric.prettyChars
  rw [show m.members.map prettyMember =
    prettyMember ("id", quoteChars m.id) :: m.members.tail.map prettyMember from rfl, layOut_cons,
    hbracket]
  simp only [encode_append, List.cons_append, List.append_assoc]

/-- **A metric is read as it was written**, if its value is finite. -/
theorem readMetric_prettyChars {m : Metric} (hfinite : ∀ x ∈ m.value, x.isFinite = true)
    (hbudget : 5 ≤ budget) (depth : Nat) (rest : Bytes) :
    readMetric budget (encode (m.prettyChars depth) ++ rest) = .ok (m, rest) := by
  have hlength : m.members.tail.length ≤ 3 := by
    obtain ⟨id, tag, delta, value⟩ := m
    cases delta <;> cases value <;> simp [Metric.members]
  have hfields : readMetricMembers budget budget true .none (encode (lineBreak (depth + 1)) ++
      (encode (prettyMember ("id", quoteChars m.id)) ++
        (encode (remaining '}' depth (m.members.tail.map prettyMember)) ++ rest))) =
      .ok (m, 0x7D :: rest) := by
    obtain ⟨n, hn⟩ : ∃ n, budget = n + 1 := ⟨budget - 1, by omega⟩
    have htakes := takes_members budget hfinite
    rw [show m.members = ("id", quoteChars m.id) :: m.members.tail from rfl] at htakes
    cases htakes with
    | cons hread hmembers =>
      conv_lhs => rw [hn, readMetricMembers, ← hn, encode_prettyMember, nextKey_first]
      simp only
      rw [afterQuote, readText_quoted]
      simp only
      rw [hread _ (stopsNumber_remaining _ _ _ _)]
      exact readMetricMembers_remaining hmembers (MetricFields.complete_ofMetric m) depth rest
        (by omega)
  unfold readMetric readStructure
  rw [encode_prettyChars, skipBlanks_cons _ _ (by decide)]
  simp only
  rw [if_neg (by decide), if_pos trivial, hfields]
  exact enclose_ok m _ rest endObject rfl

/-! ## Lists of metrics -/

/-- The metrics that remain are read up to the closing bracket. -/
theorem readElements_remaining {ms : List Metric}
    (hfinite : ∀ m ∈ ms, ∀ x ∈ m.value, x.isFinite = true)
    (hbudget : 5 ≤ budget) (depth : Nat) (done : List Metric) (rest : Bytes) {n : Nat}
    (hn : ms.length < n) :
    readElements (readMetric budget) n false done
      (encode (remaining ']' depth (ms.map (Metric.prettyChars (depth + 1)))) ++ rest) =
        .ok (done.reverse ++ ms, 0x5D :: rest) := by
  induction ms generalizing n done with
  | nil =>
    obtain ⟨n, rfl⟩ : ∃ k, n = k + 1 := ⟨n - 1, by simp at hn; omega⟩
    rw [List.map_nil, readElements, nextElement_end, List.append_nil]
  | cons m ms ih =>
    obtain ⟨n, rfl⟩ : ∃ k, n = k + 1 := ⟨n - 1, by simp at hn; omega⟩
    rw [List.length_cons] at hn
    have hm := readMetric_prettyChars (hfinite m (by simp)) hbudget (depth + 1)
      (encode (remaining ']' depth (ms.map (Metric.prettyChars (depth + 1)))) ++ rest)
    have hms : ∀ m' ∈ ms, ∀ x ∈ m'.value, x.isFinite = true :=
      fun m' h => hfinite m' (List.mem_cons_of_mem m h)
    rw [encode_prettyChars] at hm
    rw [List.map_cons, encode_remaining_cons, encode_prettyChars, readElements,
      nextElement_next _ _ (by decide) (by decide)]
    simp only
    rw [hm]
    simp only
    rw [ih hms (m :: done) (by omega), List.reverse_cons, List.append_assoc, List.singleton_append]

/-- **A list of metrics is read as it was written.** -/
theorem readList_prettyList (budget : Nat) {ms : List Metric}
    (hfinite : ∀ m ∈ ms, ∀ x ∈ m.value, x.isFinite = true)
    (hbudget : 5 ≤ budget) (hlength : ms.length < budget) (depth : Nat) (rest : Bytes) :
    readList budget (readMetric budget) (0x20 :: (encode (prettyList depth ms) ++ rest)) =
      .ok (ms, rest) := by
  obtain ⟨n, hn⟩ : ∃ n, budget = n + 1 := ⟨budget - 1, by omega⟩
  unfold readList
  rw [show ∀ cs, skipBlanks (0x20 :: cs) = skipBlanks cs from fun _ => rfl]
  cases ms with
  | nil =>
    rw [show encode (prettyList depth []) ++ rest = 0x5B :: 0x5D :: rest from rfl,
      skipBlanks_cons _ _ (by decide)]
    simp only [if_true]
    conv_lhs => rw [hn, readElements, ← hn]
    exact enclose_ok [] _ rest endList rfl
  | cons m ms =>
    have hbytes : encode (prettyList depth (m :: ms)) ++ rest =
        0x5B :: (encode (lineBreak (depth + 1)) ++ (encode (m.prettyChars (depth + 1)) ++
          (encode (remaining ']' depth (ms.map (Metric.prettyChars (depth + 1)))) ++ rest))) := by
      have hbracket : ∀ cs, encode ('[' :: cs) = 0x5B :: encode cs := fun cs => rfl
      unfold prettyList
      rw [if_neg (by simp), List.map_cons, layOut_cons, hbracket]
      simp only [encode_append, List.cons_append, List.append_assoc]
    have hm := readMetric_prettyChars (hfinite m (by simp)) hbudget (depth + 1)
      (encode (remaining ']' depth (ms.map (Metric.prettyChars (depth + 1)))) ++ rest)
    have hms : ∀ m' ∈ ms, ∀ x ∈ m'.value, x.isFinite = true :=
      fun m' h => hfinite m' (List.mem_cons_of_mem m h)
    rw [List.length_cons] at hlength
    rw [encode_prettyChars] at hm
    rw [hbytes, skipBlanks_cons _ _ (by decide), encode_prettyChars]
    simp only [if_true]
    conv_lhs => rw [hn, readElements, ← hn, nextElement_first _ _ (by decide) (by decide)]
    simp only
    rw [hm]
    simp only
    rw [readElements_remaining hms hbudget depth [m] rest (by omega)]
    exact enclose_ok (m :: ms) _ rest endList rfl

/-! ## Batches -/

/-- Characters have at least a byte each. -/
theorem length_le_encode (cs : List Char) : cs.length ≤ (encode cs).length := by
  induction cs with
  | nil => simp
  | cons c cs ih =>
    have hc : 0 < (String.utf8EncodeChar c).length := by
      rw [String.length_utf8EncodeChar]
      exact Char.utf8Size_pos c
    rw [encode_cons, List.length_append, List.length_cons]
    omega

/-- A list of metrics is longer than the number of the metrics. -/
theorem length_le_prettyList (depth : Nat) (ms : List Metric) :
    ms.length ≤ (prettyList depth ms).length := by
  have hremaining : ∀ ts : List (List Char), ts.length ≤ (remaining ']' depth ts).length := by
    intro ts
    unfold remaining
    induction ts with
    | nil => simp
    | cons t ts ih =>
      rw [List.flatMap_cons]
      simp only [List.length_append, List.length_cons] at ih ⊢
      omega
  cases ms with
  | nil => simp
  | cons m ms =>
    have hms := hremaining (ms.map (Metric.prettyChars (depth + 1)))
    unfold prettyList
    rw [if_neg (by simp), List.map_cons, layOut_cons]
    simp only [List.length_append, List.length_cons, List.length_map] at hms ⊢
    omega

/-- The characters of a batch: the list of metrics as the only member. -/
theorem Batch.prettyChars_eq (b : Batch) :
    b.prettyChars = '{' :: (lineBreak 1 ++
      (prettyMember ("metrics_db", prettyList 1 b.metrics) ++ remaining '}' 0 [])) :=
  layOut_cons '{' '}' 0 _ []

/-- A document is long enough for its metrics to be read. -/
theorem length_le_pretty (b : Batch) : b.metrics.length + 5 ≤ (Text.bytes b.pretty).length := by
  have hlist := length_le_prettyList 1 b.metrics
  have hencode := length_le_encode b.prettyChars
  have hname : (quoteChars "metrics_db").length = 12 := by decide
  unfold Batch.pretty
  rw [bytes_ofList]
  rw [Batch.prettyChars_eq] at hencode ⊢
  unfold prettyMember at hencode ⊢
  simp only [List.length_cons, List.length_append, hname] at hencode ⊢
  omega

/-- **A batch is read as it was written**, if the gauge values in it are
finite.  Nothing is asked of the ids. -/
theorem decode_pretty {b : Batch} (hfinite : ∀ m ∈ b.metrics, ∀ x ∈ m.value, x.isFinite = true) :
    Batch.decode (Text.bytes b.pretty) = .ok b := by
  have hlength := length_le_pretty b
  have hread : ∀ budget, b.metrics.length + 5 < budget →
      readBatch budget (Text.bytes b.pretty) = .ok (b, []) := by
    intro budget hbudget
    have hms := readList_prettyList budget hfinite (by omega) (by omega) 1
      (encode (remaining '}' 0 []))
    obtain ⟨n, hn⟩ : ∃ n, budget = n + 1 + 1 := ⟨budget - 2, by omega⟩
    have hbytes : Text.bytes b.pretty = 0x7B :: (encode (lineBreak 1) ++
        (encode (quoteChars "metrics_db") ++ (0x3A :: 0x20 ::
          (encode (prettyList 1 b.metrics) ++ encode (remaining '}' 0 []))))) := by
      have hbracket : ∀ cs, encode ('{' :: cs) = 0x7B :: encode cs := fun cs => rfl
      unfold Batch.pretty
      rw [bytes_ofList, Batch.prettyChars_eq, hbracket]
      simp only [encode_append, ← encode_prettyMember]
    have hend : nextKey false (encode (remaining '}' 0 [])) = .ok (false, [0x7D]) := by
      have h := nextKey_end 0 []
      rwa [List.append_nil] at h
    have hmembers : readBatchMembers budget budget true none (encode (lineBreak 1) ++
        (encode (quoteChars "metrics_db") ++ (0x3A :: 0x20 ::
          (encode (prettyList 1 b.metrics) ++ encode (remaining '}' 0 []))))) = .ok (b, [0x7D]) := by
      conv_lhs => rw [hn, readBatchMembers, ← hn, nextKey_first]
      simp only
      rw [afterQuote, readText_quoted]
      simp only [if_true]
      rw [readOnce_value "metrics_db" hms]
      simp only
      rw [readBatchMembers, hend]
      rfl
    unfold readBatch readStructure
    rw [hbytes, skipBlanks_cons _ _ (by decide)]
    simp only
    rw [if_neg (by decide), if_pos trivial, hmembers]
    exact enclose_ok b _ [] endObject rfl
  unfold Batch.decode readDocument
  rw [hread _ (by omega)]
  rfl

end Meterbank
