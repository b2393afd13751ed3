/-
  Meterbank.Store.MemoryTable — tables in memory, written one kind at a time.

  Beside whole metrics a store takes writes to one of its two tables, as
  a number or as text.  Such a write names the key directly; any key will
  do, even the empty one.

  Main results:
    * `writeGauge_ok_iff` — only finite values enter a gauge table.
    * `writeCounterText_ok` — a delta in text has the effect of the delta.
-/
import Meterbank.Table

namespace Meterbank.Table

/-- Writes a value to a gauge table. -/
def writeGauge (t : Table Binary64) (key : String) (x : Binary64) :
    Except StoreError (Table Binary64) :=
  match checkGauge x with
  | .ok x => .ok (t.set key x)
  | .error e => .error e

/-- Writes a value in text to a gauge table. -/
def writeGaugeText (t : Table Binary64) (key raw : String) :
    Except StoreError (Table Binary64) :=
  match parseGauge raw with
  | .ok x => .ok (t.set key x)
  | .error e => .error e

/-- Adds a delta to a counter table. -/
def writeCounter (t : Table Int64) (key : String) (delta : Int64) :
    Except StoreError (Table Int64) :=
  match t.add key delta with
  | .ok (_, t) => .ok t
  | .error e => .error e

/-- Adds a delta in text to a counter table. -/
def writeCounterText (t : Table Int64) (key raw : String) : Except StoreError (Table Int64) :=
  match parseCounter raw with
  | .ok delta => t.writeCounter key delta
  | .error e => .error e

/-- **Only finite values enter a gauge table.** -/
theorem writeGauge_ok_iff (t t' : Table Binary64) (key : String) (x : Binary64) :
    t.writeGauge key x = .ok t' ↔ x.isFinite = true ∧ t' = t.set key x := by
  unfold writeGauge checkGauge
  by_cases h : x.isFinite = true
  · simp [h, eq_comm]
  · simp [h]

/-- **A delta in text has the effect of the delta.** -/
theorem writeCounterText_ok (t : Table Int64) (key raw : String) (delta : Int64)
    (h : parseCounter raw = .ok delta) : t.writeCounterText key raw = t.writeCounter key delta := by
  simp [writeCounterText, h]

end Meterbank.Table
