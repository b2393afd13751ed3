/-
  Meterbank.Store.File — tables in memory, kept in a file.

  The file holds a snapshot: a batch of all metrics, gauges first, each
  kind in the order of its ids.  Dumping writes it anew; loading applies it
  to the tables as any batch, so counters that are there already grow.
  A store may dump after every write of a metric or a batch; that such a
  dump failed does not make the write fail.
-/
import Meterbank.Files
import Meterbank.Metric.Decode
import Meterbank.Metric.Encode
import Meterbank.Store.Interface
import Meterbank.Store.MemoryTable

namespace Meterbank

/-- A store that keeps its tables in memory. -/
structure FileStore where
  gauges : Table Binary64
  counters : Table Int64
  /-- The file of the snapshot. -/
  path : String
  /-- Whether to dump after every write. -/
  sync : Bool

namespace FileStore

/-- An empty store.  Nothing is read. -/
def create (path : String) (sync : Bool) : FileStore := ⟨∅, ∅, path, sync⟩

/-! ## Snapshots -/

/-- All metrics: gauges, then counters, each in the order of the ids. -/
def snapshot (s : FileStore) : Batch :=
  ⟨s.gauges.toList.map (fun row => Metric.gauge row.1 row.2)
    ++ s.counters.toList.map (fun row => Metric.counter row.1 row.2)⟩

/-- The bytes of a snapshot. -/
def snapshotBytes (s : FileStore) : List UInt8 := Text.bytes s.snapshot.pretty

/-! ## Applying updates -/

/-- Applies one update, and gives it back as it is stored. -/
def apply (s : FileStore) (u : Update) : Except StoreError (Metric × FileStore) :=
  match u.sample with
  | .gauge x => .ok (.gauge u.id x, { s with gauges := s.gauges.set u.id x })
  | .counter delta =>
    match s.counters.add u.id delta with
    | .ok (total, counters) => .ok (.counter u.id total, { s with counters })
    | .error e => .error e

/-- Applies folded updates.  Counters come first, as only they can refuse. -/
def applyDelta (s : FileStore) (d : Delta) : Except StoreError FileStore :=
  match s.counters.addAll d.counters with
  | .ok counters => .ok { s with counters, gauges := s.gauges.setAll d.gauges }
  | .error e => .error e

/-- Folds updates and applies them, so that a refusal applies none. -/
def applyAll (s : FileStore) (us : List Update) : Except StoreError FileStore :=
  match Delta.ofUpdates us with
  | .ok d => s.applyDelta d
  | .error e => .error e

/-! ## The file -/

/-- Replaces what the file holds by the snapshot. -/
def dump (s : FileStore) (fs : Files) : Except StoreError Files :=
  match fs.write s.path s.snapshotBytes with
  | .ok fs => .ok fs
  | .error e => .error (.io e)

/-- The files after a write: with a new snapshot, if every write makes one. -/
def afterWrite (s : FileStore) (fs : Files) : Files :=
  if s.sync then
    match s.dump fs with
    | .ok fs => fs
    -- A dump that failed has left the files as they were.
    | .error _ => fs
  else fs

/-- Applies the snapshot that bytes hold. -/
def loadBytes (s : FileStore) (content : List UInt8) : Except StoreError FileStore :=
  match Batch.decode content with
  | .error e => .error e
  | .ok b =>
    match b.validate with
    | .error e => .error e
    | .ok us => s.applyAll us

/-- Applies the snapshot in the file. -/
def loadFrom (s : FileStore) (fs : Files) : Except StoreError FileStore :=
  match fs.read s.path with
  | .error e => .error (.io e)
  | .ok content => s.loadBytes content

/-! ## Operations -/

/-- The state of the store: its tables, and the files. -/
abbrev State := FileStore × Files

/-- Keeps the state unless there is a new store. -/
def replace (p : State) : Except StoreError FileStore → Except StoreError Unit × State
  | .ok s => (.ok (), s, p.2)
  | .error e => (.error e, p)

/-- Writes one metric. -/
def writeData (m : Metric) (p : State) : Except StoreError Metric × State :=
  match m.validate with
  | .error e => (.error e, p)
  | .ok u =>
    match p.1.apply u with
    | .error e => (.error e, p)
    -- The write stands, whatever becomes of the dump.
    | .ok (written, s) => (.ok written, s, s.afterWrite p.2)

/-- Writes a batch. -/
def writeBatch (b : Batch) (p : State) : Except StoreError Unit × State :=
  match b.validate with
  | .error e => (.error e, p)
  | .ok us =>
    match p.1.applyAll us with
    | .error e => (.error e, p)
    | .ok s => (.ok (), s, s.afterWrite p.2)

/-- Applies the snapshot in the file. -/
def load (p : State) : Except StoreError Unit × State := replace p (p.1.loadFrom p.2)

/-- The operations of the store.  Closing does nothing. -/
def operations : Store State where
  writeData := writeData
  writeBatch := writeBatch
  readGauges keys p := (Table.select .gauge p.1.gauges keys, p)
  readCounters keys p := (Table.select .counter p.1.counters keys, p)
  writeGauge key x p :=
    replace p ((p.1.gauges.writeGauge key x).map fun gauges => { p.1 with gauges })
  writeCounter key delta p :=
    replace p ((p.1.counters.writeCounter key delta).map fun counters => { p.1 with counters })
  dump p :=
    match p.1.dump p.2 with
    | .ok fs => (.ok (), p.1, fs)
    | .error e => (.error e, p)
  load := load
  ping p := (.ok (), p)
  close p := (.ok (), p)

end FileStore

end Meterbank
