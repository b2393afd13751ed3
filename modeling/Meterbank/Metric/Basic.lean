/-
  Meterbank.Metric.Basic — metrics as they arrive, and as they are accepted.

  A metric on the wire is a name, a tag and two optional numbers; it may
  be nonsense.  `validate` turns it into an update, which is a name and a
  sample of a definite kind, and only updates are ever applied.

  Main results:
    * `validate_toMetric` — an update that came from a metric is accepted
      again, unchanged, in its wire form.
    * `checkGauge_eq_ok_iff` — exactly the finite values are gauge values.
    * `checkedTotal_eq_ok_iff`, `checkedTotal_eq_error_iff` — a total is the
      exact sum or is refused.
-/
import Meterbank.Error
import Meterbank.Total
import Meterbank.Text.Blank

namespace Meterbank

open Meterbank.Number

/-! ## Types -/

/-- A metric as it is written on the wire and in snapshots. -/
structure Metric where
  /-- The name of the metric. -/
  id : String
  /-- The tag of its kind, if it is one. -/
  tag : String
  /-- The delta of a counter, or its total in answers. -/
  delta : Option Int64
  /-- The value of a gauge. -/
  value : Option Binary64
  deriving DecidableEq, Inhabited, Repr

/-- A measurement of a definite kind. -/
inductive Sample where
  /-- Replaces the stored value. -/
  | gauge (value : Binary64)
  /-- Is added to the stored total. -/
  | counter (delta : Int64)
  deriving DecidableEq, Inhabited, Repr

/-- A write that has been accepted. -/
structure Update where
  id : String
  sample : Sample
  deriving DecidableEq, Inhabited, Repr

/-! ## Checks on numbers -/

/-- A gauge value must be a number that can be written down. -/
def checkGauge (x : Binary64) : Except StoreError Binary64 :=
  if x.isFinite then .ok x else .error (.validation (.notFinite x))

/-- **Exactly the finite values are gauge values, and they are kept.** -/
theorem checkGauge_eq_ok_iff (x y : Binary64) :
    checkGauge x = .ok y ↔ x.isFinite = true ∧ y = x := by
  unfold checkGauge
  split
  · next h => simp [h, eq_comm]
  · next h => simp [h]

/-- The total after a delta, unless it leaves the range. -/
def checkedTotal (id : String) (total delta : Int64) : Except StoreError Int64 :=
  match Total.add? total delta with
  | some next => .ok next
  | none => .error (.validation (.overflow id total delta))

/-- **A total is the exact sum or is refused.** -/
theorem checkedTotal_eq_ok_iff (id : String) (total delta next : Int64) :
    checkedTotal id total delta = .ok next ↔ next.toInt = total.toInt + delta.toInt := by
  unfold checkedTotal
  rw [← Total.add?_eq_some_iff]
  split <;> next h => simp [h]

/-- Exactly a sum that leaves the range is refused. -/
theorem checkedTotal_eq_error_iff (id : String) (total delta : Int64) (e : StoreError) :
    checkedTotal id total delta = .error e ↔
      inRange64 (total.toInt + delta.toInt) = false ∧
        e = .validation (.overflow id total delta) := by
  rw [← Total.add?_eq_none_iff]
  unfold checkedTotal
  split <;> next h => simp [h, eq_comm]

/-- A gauge value in text.  Blanks around it do not count. -/
def parseGauge (raw : String) : Except StoreError Binary64 :=
  let trimmed := Text.trim raw
  match readFloat trimmed.toList with
  | .ok x => checkGauge x
  | .error e => .error (.validation (.gaugeText trimmed e))

/-- A counter delta in text.  Blanks around it do not count. -/
def parseCounter (raw : String) : Except StoreError Int64 :=
  let trimmed := Text.trim raw
  match readInteger trimmed.toList with
  | .ok n => .ok n
  | .error e => .error (.validation (.counterText trimmed e))

/-! ## Kinds -/

/-- The kind a tag names, or an error that names the tag. -/
def Kind.parse (tag : String) : Except StoreError Kind :=
  match Kind.ofTag? tag with
  | some kind => .ok kind
  | none => .error (.unsupported tag)

namespace Sample

/-- The kind of a sample. -/
def kind : Sample → Kind
  | .gauge _ => .gauge
  | .counter _ => .counter

/-- A sample of the given kind in text. -/
def parse (kind : Kind) (raw : String) : Except StoreError Sample :=
  match kind with
  | .gauge => (parseGauge raw).map .gauge
  | .counter => (parseCounter raw).map .counter

end Sample

/-! ## Metrics -/

namespace Metric

/-- A gauge with its value. -/
def gauge (id : String) (value : Binary64) : Metric := ⟨id, Kind.gauge.tag, none, some value⟩

/-- A counter with a delta or total. -/
def counter (id : String) (delta : Int64) : Metric := ⟨id, Kind.counter.tag, some delta, none⟩

/-- A gauge is never a counter. -/
theorem gauge_ne_counter (id id' : String) (x : Binary64) (n : Int64) : gauge id x ≠ counter id' n :=
  fun h => absurd (congrArg Metric.delta h) (by simp [gauge, counter])

/-- A question: the name and the kind without a number. -/
def query (id : String) (kind : Kind) : Metric := ⟨id, kind.tag, none, none⟩

/-- The update a metric asks for.  The number of the other kind, if there
is one, does not matter. -/
def validate (m : Metric) : Except StoreError Update :=
  if m.id.isEmpty then .error (.validation .emptyId)
  else
    match Kind.ofTag? m.tag with
    | none => .error (.validation (.unknownTag m.tag))
    | some .gauge =>
      match m.value with
      | none => .error (.validation (.noValue m.id))
      | some x => (checkGauge x).map fun x => ⟨m.id, .gauge x⟩
    | some .counter =>
      match m.delta with
      | none => .error (.validation (.noDelta m.id))
      | some d => .ok ⟨m.id, .counter d⟩

end Metric

namespace Update

/-- The kind of an update. -/
def kind (u : Update) : Kind := u.sample.kind

/-- The wire form of an update. -/
def toMetric (u : Update) : Metric :=
  match u.sample with
  | .gauge x => Metric.gauge u.id x
  | .counter d => Metric.counter u.id d

end Update

/-- **An update that came from a metric is accepted again in its wire form.** -/
theorem validate_toMetric (m : Metric) (u : Update) (h : m.validate = .ok u) :
    u.toMetric.validate = .ok u := by
  have hg : Kind.ofTag? Kind.gauge.tag = some .gauge := by decide
  have hc : Kind.ofTag? Kind.counter.tag = some .counter := by decide
  unfold Metric.validate at h
  split at h
  · exact absurd h (by simp)
  · next hid =>
    split at h
    · exact absurd h (by simp)
    · split at h
      · exact absurd h (by simp)
      · next x _ =>
        unfold checkGauge at h
        split at h
        · next hx =>
          simp only [Except.map, Except.ok.injEq] at h
          subst h
          simp [Update.toMetric, Metric.gauge, Metric.validate, hid, hg, checkGauge, hx, Except.map]
        · exact absurd h (by simp [Except.map])
    · split at h
      · exact absurd h (by simp)
      · simp only [Except.ok.injEq] at h
        subst h
        simp [Update.toMetric, Metric.counter, Metric.validate, hid, hc]

end Meterbank
