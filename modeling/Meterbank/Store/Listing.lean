/-
  Meterbank.Store.Listing — a snapshot of rows that lie in any order.

  A snapshot is made of copies of the two tables, whose rows come in the
  order in which they lie.  Each kind is sorted by the bytes of its ids
  before it is written, gauges first.
-/
import Meterbank.Layout
import Meterbank.Store.File

namespace Meterbank.FileStore

/-- All metrics of the rows: gauges, then counters, each sorted by id. -/
def snapshotOf (gauges : List (String × Binary64)) (counters : List (String × Int64)) : Batch :=
  ⟨(sortRows gauges).map (fun row => Metric.gauge row.1 row.2)
    ++ (sortRows counters).map (fun row => Metric.counter row.1 row.2)⟩

/-- Replaces what the file holds by the snapshot of the tables, whose rows
lie as they do. -/
def dumpOf (s : FileStore) (gauges : s.gauges.Layout) (counters : s.counters.Layout) (fs : Files) :
    Except StoreError Files :=
  match fs.write s.path (Text.bytes (snapshotOf gauges.rows counters.rows).pretty) with
  | .ok fs => .ok fs
  | .error e => .error (.io e)

end Meterbank.FileStore
