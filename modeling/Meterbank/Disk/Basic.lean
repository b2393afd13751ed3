/-
  Meterbank.Disk.Basic — files, the databases in them, and the gates.

  A disk is what outlives a store.  Databases and gates are told apart by
  their numbers, in the order in which they came.  Beside the file of a
  database there may be its log, the index of the log, and a file of
  changes that are being made.

  Main results:
    * `addVolume_fresh` — what was added is found.
    * `volume_engrave` — writing the file changes nothing that is seen.
-/
import Meterbank.Disk.Volume

namespace Meterbank

open Meterbank.Sql Meterbank.Text

/-! ## Disks -/

/-- Files, the databases in them or in memory, and the gates to these. -/
structure Disk where
  files : Files
  /-- All databases, by number. -/
  volumes : List Volume
  /-- All gates, by number; those that nobody uses any more, too. -/
  gates : List Gate
  deriving Repr

namespace Disk

/-- An empty disk. -/
def empty : Disk := ⟨Files.empty, [], []⟩

/-- The database of a number. -/
def volume (d : Disk) (n : Nat) : Volume := d.volumes.getD n default

/-- Puts a database in its place. -/
def setVolume (d : Disk) (n : Nat) (v : Volume) : Disk := { d with volumes := d.volumes.set n v }

/-- A further database. -/
def addVolume (d : Disk) (v : Volume) : Nat × Disk :=
  (d.volumes.length, { d with volumes := d.volumes ++ [v] })

/-- The gate of a number. -/
def gate (d : Disk) (g : Nat) : Gate := d.gates.getD g default

/-- Puts a gate in its place. -/
def setGate (d : Disk) (g : Nat) (gate : Gate) : Disk := { d with gates := d.gates.set g gate }

/-- A further gate. -/
def addGate (d : Disk) (gate : Gate) : Nat × Disk :=
  (d.gates.length, { d with gates := d.gates ++ [gate] })

/-- Puts an entry at a place. -/
def putEntry (d : Disk) (place : Place) (e : Entry) : Disk :=
  { d with files := d.files.put place e }

/-- Takes away what is at a place. -/
def dropEntry (d : Disk) (place : Place) : Disk := { d with files := d.files.drop place }

/-- The content of a file, if there is one at a place. -/
def content? (d : Disk) (place : Place) : Option (List UInt8) :=
  match d.files.at? place with
  | some (.file content) => some content
  | some (.database _ content) => some content
  | _ => none

/-- Takes a file away; a directory stays. -/
def dropFile (d : Disk) (place : Place) : Disk :=
  if (d.content? place).isSome then d.dropEntry place else d

/-- Whether there is a directory at a place. -/
def isDirectory (d : Disk) (place : Place) : Bool := d.files.at? place = some .directory

/-- Whether there is anything at a place but an empty file. -/
def isPresent (d : Disk) (place : Place) : Bool :=
  d.isDirectory place || (d.content? place).any (· ≠ [])

/-- What is seen through a gate. -/
def view (d : Disk) (g : Nat) : Database :=
  match (d.gate g).keeping with
  | .frozen content => content
  | _ => (d.volume (d.gate g).volume).current

/-- Whether some gate has the log of a database open. -/
def isLogOpen (d : Disk) (n : Nat) : Bool :=
  d.gates.any fun g => decide (g.volume = n ∧ g.log ≠ .closed)

/-! ## Files beside a database -/

/-- The file of changes that are being made directly. -/
def journalOf (place : Place) : Place := place.beside "-journal"

/-- The log. -/
def logOf (place : Place) : Place := place.beside "-wal"

/-- The index of the log. -/
def indexOf (place : Place) : Place := place.beside "-shm"

/-- The first bytes of a log with writes. -/
def logContent : List UInt8 := [0x37, 0x7f, 0x06, 0x82]

/-- The first bytes of an index. -/
def indexContent : List UInt8 := [0x18, 0xe2, 0x2d, 0x00]

/-- Whether the file of a database is still where it was. -/
def isInPlace (d : Disk) (n : Nat) (place : Place) : Bool :=
  match d.files.at? place with
  | some (.database m _) => m = n
  | some (.file _) => true
  | _ => false

/-- Writes the file of a database, unless it is no longer where it was. -/
def engrave (d : Disk) (n : Nat) : Disk :=
  let v := d.volume n
  match v.place, v.content? with
  | some place, some content =>
    if d.isInPlace n place then d.putEntry place (.database n content) else d
  | _, _ => d

/-! ## Laws -/

theorem volume_setVolume (d : Disk) (n : Nat) (v : Volume) (h : n < d.volumes.length) :
    (d.setVolume n v).volume n = v := by
  simp [volume, setVolume, h]

theorem volume_putEntry (d : Disk) (place : Place) (e : Entry) (n : Nat) :
    (d.putEntry place e).volume n = d.volume n := rfl

/-- A database that was added is found. -/
theorem addVolume_fresh (d : Disk) (v : Volume) :
    (d.addVolume v).2.volume (d.addVolume v).1 = v := by
  simp [addVolume, Disk.volume]

/-- Writing the file does not change what anyone sees. -/
theorem volume_engrave (d : Disk) (n m : Nat) : (d.engrave n).volume m = d.volume m := by
  unfold engrave
  simp only
  split
  · split <;> rfl
  · rfl

end Disk

end Meterbank
