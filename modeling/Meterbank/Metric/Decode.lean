/-
  Meterbank.Metric.Decode — metrics from JSON.

  A metric is read from an object with any order of members, or from a
  list of its fields in order.  Id and tag must be there; the numbers may
  be absent or `null`.  Members it does not know are passed over, a member
  given twice is refused.  A batch is read the same way, with the list of
  metrics as its only field.
-/
import Meterbank.Metric.Batch
import Meterbank.Json.Typed
import Meterbank.Json.Skip

namespace Meterbank

open Meterbank.Json

/-! ## Fields of a metric -/

/-- The members of a metric that have been read so far. -/
structure MetricFields where
  id : Option String
  tag : Option String
  delta : Option (Option Int64)
  value : Option (Option Binary64)
  deriving Inhabited, Repr

namespace MetricFields

/-- Before any member has been read. -/
def none : MetricFields := ⟨.none, .none, .none, .none⟩

/-- The metric of the members, once the object has ended. -/
def complete (f : MetricFields) : Except Cause Metric :=
  match f.id, f.tag with
  | .none, _ => .error (.fieldMissing "id")
  | .some _, .none => .error (.fieldMissing "type")
  | .some id, .some tag => .ok ⟨id, tag, f.delta.getD .none, f.value.getD .none⟩

/-- Reads the value of a member that must not have been read before. -/
def readOnce {α : Type} (name : String) (before : Option α) (value : Bytes → Step α)
    (cs : Bytes) : Step α :=
  if before.isSome then stopLater (.fieldRepeated name) cs
  else
    match readColon cs with
    | .error s => .error s
    | .ok (_, r) => value r

/-- Reads the colon and the value of the member of this name. -/
def readMember (budget : Nat) (name : String) (f : MetricFields) (cs : Bytes) :
    Step MetricFields :=
  if name = "id" then
    (readOnce "id" f.id readString cs).map fun (v, r) => ({ f with id := some v }, r)
  else if name = "type" then
    (readOnce "type" f.tag readString cs).map fun (v, r) => ({ f with tag := some v }, r)
  else if name = "delta" then
    (readOnce "delta" f.delta (readOptional readInt64) cs).map
      fun (v, r) => ({ f with delta := some v }, r)
  else if name = "value" then
    (readOnce "value" f.value (readOptional readFloat64) cs).map
      fun (v, r) => ({ f with value := some v }, r)
  else
    match readColon cs with
    | .error s => .error s
    | .ok (_, r) => (skipValue budget r).map fun (_, r) => (f, r)

end MetricFields

/-! ## Metrics -/

/-- Reads the members of a metric's object.  Every round takes a byte off
the rounds. -/
def readMetricMembers (budget : Nat) : Nat → Bool → MetricFields → Bytes → Step Metric
  | 0, _, _, cs => stopAtNext .endInObject cs
  | n + 1, first, f, cs =>
    match nextKey first cs with
    | .error s => .error s
    | .ok (false, r) =>
      match f.complete with
      | .ok m => .ok (m, r)
      | .error cause => stopLater cause r
    | .ok (true, r) =>
      match readText r with
      | .error s => .error s
      | .ok (name, r) =>
        match f.readMember budget name r with
        | .error s => .error s
        | .ok (f, r) => readMetricMembers budget n false f r

/-- Reads an element of a metric's list, if there is one more. -/
def readOptionalElement {α : Type} (first : Bool) (value : Bytes → Step α) (cs : Bytes) :
    Step (Option α) :=
  match nextElement first cs with
  | .error s => .error s
  | .ok (false, r) => .ok (none, r)
  | .ok (true, r) => (value r).map fun (v, r) => (some v, r)

/-- Reads an element that must be there, the `count`-th from zero. -/
def readElement {α : Type} (count : Nat) (value : Bytes → Step α) (cs : Bytes) : Step α :=
  match readOptionalElement (count == 0) value cs with
  | .error s => .error s
  | .ok (some v, r) => .ok (v, r)
  | .ok (none, r) => stopLater (.tooFewElements count .metric 4) r

/-- Reads the fields of a metric from a list. -/
def readMetricElements (cs : Bytes) : Step Metric :=
  match readElement 0 readString cs with
  | .error s => .error s
  | .ok (id, r) =>
    match readElement 1 readString r with
    | .error s => .error s
    | .ok (tag, r) =>
      match readOptionalElement false (readOptional readInt64) r with
      | .error s => .error s
      | .ok (delta, r) =>
        match readOptionalElement false (readOptional readFloat64) r with
        | .error s => .error s
        | .ok (value, r) => .ok (⟨id, tag, delta.getD none, value.getD none⟩, r)

/-- Reads a metric that is no longer than the budget. -/
def readMetric (budget : Nat) (cs : Bytes) : Step Metric :=
  readStructure .metric (readMetricMembers budget budget true .none) readMetricElements cs

/-! ## Batches -/

/-- Reads the members of a batch's object.  Every round takes a byte off
the rounds. -/
def readBatchMembers (budget : Nat) : Nat → Bool → Option (List Metric) → Bytes → Step Batch
  | 0, _, _, cs => stopAtNext .endInObject cs
  | n + 1, first, metrics, cs =>
    match nextKey first cs with
    | .error s => .error s
    | .ok (false, r) => .ok (⟨metrics.getD []⟩, r)
    | .ok (true, r) =>
      match readText r with
      | .error s => .error s
      | .ok (name, r) =>
        if name = "metrics_db" then
          match MetricFields.readOnce "metrics_db" metrics (readList budget (readMetric budget)) r with
          | .error s => .error s
          | .ok (ms, r) => readBatchMembers budget n false (some ms) r
        else
          match readColon r with
          | .error s => .error s
          | .ok (_, r) =>
            match skipValue budget r with
            | .error s => .error s
            | .ok (_, r) => readBatchMembers budget n false metrics r

/-- Reads the fields of a batch from a list. -/
def readBatchElements (budget : Nat) (cs : Bytes) : Step Batch :=
  (readOptionalElement true (readList budget (readMetric budget)) cs).map fun (ms, r) => (⟨ms.getD []⟩, r)

/-- Reads a batch that is no longer than the budget. -/
def readBatch (budget : Nat) (cs : Bytes) : Step Batch :=
  readStructure .batch (readBatchMembers budget budget true none) (readBatchElements budget) cs

/-! ## Documents -/

/-- A fault of a document as an error of the store. -/
def serializationError {α : Type} : Except Fault α → Except StoreError α
  | .ok a => .ok a
  | .error fault => .error (.serialization (.json fault))

/-- The metric a document holds. -/
def Metric.decode (document : Bytes) : Except StoreError Metric :=
  serializationError (readDocument readMetric document)

/-- The batch a document holds. -/
def Batch.decode (document : Bytes) : Except StoreError Batch :=
  serializationError (readDocument readBatch document)

end Meterbank
