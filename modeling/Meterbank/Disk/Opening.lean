/-
  Meterbank.Disk.Opening — databases opened by their names.

  A name leads to a file, to a database in memory that others may open
  too, or to one that nobody else sees.  A store opens its database once
  to write it, which begins the log, and then once for each connection
  that only reads.  What was opened before something failed is closed
  again; files that were made stay.
-/
import Meterbank.Disk.Writing
import Meterbank.Sql.Connection

namespace Meterbank

open Meterbank.Sql Meterbank.Text

namespace Disk

/-! ## Gates -/

/-- The gate that is shared under a key, if somebody uses it. -/
def sharedGate? (d : Disk) (key : Option ShareKey) : Option Nat :=
  match key with
  | none => none
  | some key => d.gates.findIdx? fun g => decide (0 < g.users ∧ g.key = some key)

/-- One more connection goes through a gate. -/
def join (d : Disk) (g : Nat) : Disk :=
  let gate := d.gate g
  d.setGate g { gate with users := gate.users + 1 }

/-- A gate to a new database in memory, unless it is shared with others. -/
def openMemory (a : Address) (d : Disk) : Nat × Disk :=
  let key := if a.sharesGate ∧ a.name ≠ [] then some (ShareKey.memory a.vfs a.name) else none
  match d.sharedGate? key with
  | some g => (g, d.join g)
  | none =>
    let (n, d) := d.addVolume (.fresh none none)
    d.addGate ⟨n, a.isWritable, .memory, .closed, 1, key⟩

/-- The database that has a label, if somebody has it open. -/
def labelled? (d : Disk) (label : Option (List UInt8)) : Option Nat :=
  if label = none then none
  else
    (d.gates.find? fun g => decide (0 < g.users ∧ (d.volume g.volume).label = label)).map
      Gate.volume

/-- Whether a name in memory can be opened again: it starts with a slash
of either kind, and goes on. -/
def isLabel (name : List UInt8) : Bool :=
  match name with
  | first :: _ :: _ => first = 0x2f ∨ first = 0x5c
  | _ => false

/-- A gate to a file that is only in memory. -/
def openMemoryFile (a : Address) (d : Disk) : Nat × Disk :=
  let key := if a.sharesGate then some (ShareKey.memory a.vfs a.name) else none
  match d.sharedGate? key with
  | some g => (g, d.join g)
  | none =>
    let label := if isLabel a.name then some a.name else none
    let (n, d) :=
      match d.labelled? label with
      | some n => (n, d)
      | none => d.addVolume (.fresh none label)
    let keeping := if a.immutable then .frozen (d.volume n).current else .memory
    d.addGate ⟨n, a.isWritable, keeping, .closed, 1, key⟩

/-! ## Files -/

/-- The longest path of a database, in bytes. -/
def maxDatabasePath : Nat := 504

/-- What the path of the working directory adds to those in it. -/
def homeLength : Nat := 16

/-- The length of the path of a place. -/
def pathLength (place : Place) : Nat :=
  place.foldl (fun length name => length + name.length + 1) (homeLength - 1)

/-- Where what is written through a gate to a file goes. -/
def keepingOf (a : Address) (v : Volume) : Keeping :=
  if a.immutable then .frozen v.settled
  else if a.nolock then .direct
  else
    match a.vfs with
    | .unlocked | .lockFiles => .direct
    | _ => .logged

/-- The database in the file at a place, which is made if it may be. -/
def volumeAt (name : String) (a : Address) (place : Place) (d : Disk) :
    Except SqlFault (Nat × Disk) :=
  let made (content : List UInt8) : Nat × Disk :=
    let (n, d) := d.addVolume (.fresh (some place) none)
    (n, d.putEntry place (.database n content))
  match d.files.at? place with
  | some (.database n _) => .ok (n, d)
  | some (.file content) =>
    if content.length ≤ 1 then .ok (made content)
    else if a.immutable then .error .notADatabase
    else .ok (d.addVolume { Volume.fresh (some place) none with form := .plain })
  | some .directory => .error (if a.isWritable then .cannotOpen name else .diskFault)
  | none =>
    if a.mode = .file .create ∧ d.isDirectory place.dropLast then .ok (made [])
    else .error (.cannotOpen name)

/-- Notes that a file is opened, maybe for one program alone.  That holds
as long as anyone has it open. -/
def markExclusive (d : Disk) (n : Nat) (exclusive : Bool) : Disk :=
  let v := d.volume n
  let isOpen := d.gates.any fun g => decide (0 < g.users ∧ g.volume = n)
  d.setVolume n { v with exclusive := exclusive || (isOpen && v.exclusive) }

/-- A gate to the database in a file. -/
def openFile (name : String) (a : Address) (d : Disk) : Except SqlFault (Nat × Disk) :=
  match d.files.resolve [] (Name.ofPath a.name) with
  | none => .error (.cannotOpen name)
  | some place =>
    let key := if a.sharesGate then some (ShareKey.file a.vfs place) else none
    match d.sharedGate? key with
    | some g => .ok (g, d.join g)
    | none =>
      if maxDatabasePath < pathLength place then .error (.cannotOpen name)
      else
        match d.volumeAt name a place with
        | .error e => .error e
        | .ok (n, d) =>
          let d := d.markExclusive n (a.vfs = .exclusive)
          .ok (d.addGate ⟨n, a.isWritable, keepingOf a (d.volume n), .closed, 1, key⟩)

/-! ## Names -/

/-- The place of the first NUL of a name, in bytes. -/
def nulPosition (name : String) : Nat := ((bytes name).takeWhile fun b => b != 0).length

/-- A gate to the database of a name. -/
def openName (most : Permission) (name : String) (d : Disk) : Except SqlFault (Nat × Disk) :=
  if (bytes name).contains 0 then .error (.nameHasNul name (nulPosition name))
  else
    match Address.parse most name with
    | .error e => .error e
    | .ok a =>
      if a.isInMemory then .ok (openMemory a d)
      else if a.vfs = .memory then .ok (openMemoryFile a d)
      else openFile name a d

/-- Turns a file over to a log. -/
def beginLog (d : Disk) (n : Nat) : Disk :=
  let v := d.volume n
  let d := (d.setVolume n { v with form := .logged }).engrave n
  match v.place with
  | some place => d.dropFile (journalOf place)
  | none => d

/-- The first statements on the connection that writes: they look at the
database and turn its file over to a log, unless that has been done for
another connection through the gate. -/
def start (d : Disk) (g : Nat) : Except SqlFault Unit × Disk :=
  if (d.gate g).keeping = .logged ∧ 1 < (d.gate g).users then (.ok (), d)
  else
    match d.enter g with
    | (.blocked fault, d) => (.error fault, d)
    | (access, d) =>
      let gate := d.gate g
      match gate.keeping, gate.log, access with
      | .logged, .closed, .readWrite => (.ok (), d.beginLog gate.volume)
      | .logged, .closed, .readOnly refusal _ => (.error refusal, d)
      | _, _, _ => (.ok (), d)

/-! ## Stores -/

/-- The gates of the connections of a store. -/
structure Gates where
  writer : Nat
  readers : List Nat
  deriving DecidableEq, Inhabited, Repr

/-- Closes all connections: the one that writes comes first. -/
def release (gates : Gates) (d : Disk) : Disk :=
  gates.readers.foldl leave (d.leave gates.writer)

/-- Opens connections that only read. -/
def openReaders (name : String) : Nat → Disk → Except SqlFault (List Nat) × Disk
  | 0, d => (.ok [], d)
  | readers + 1, d =>
    match openName .read name d with
    | .error e => (.error e, d)
    | .ok (g, d) =>
      match openReaders name readers d with
      | (.error e, d) => (.error e, d.leave g)
      | (.ok gs, d) => (.ok (g :: gs), d)

/-- Opens all connections of a store to the database of a name. -/
def connect (name : String) (readers : Nat) (d : Disk) : Except SqlFault Gates × Disk :=
  match openName .create name d with
  | .error e => (.error e, d)
  | .ok (writer, d) =>
    match d.start writer with
    | (.error e, d) => (.error e, d.leave writer)
    | (.ok _, d) =>
      match openReaders name readers d with
      | (.error e, d) => (.error e, d.leave writer)
      | (.ok readers, d) => (.ok ⟨writer, readers⟩, d)

/-- A database that is open: how a store is connected to it, and the
gates of the connections. -/
abbrev Opened := Connection × Gates

/-- Opens a database in memory, which has no connections that only read. -/
def connectMemory (d : Disk) : Opened × Disk :=
  let (writer, d) := openMemory (.ofFile (bytes Connection.memoryName) .create) d
  ((.inMemory, ⟨writer, []⟩), d)

/-- Opens the database of any name. -/
def connectFile (name : String) (readers : Nat) (d : Disk) : Except StoreError Opened × Disk :=
  match d.connect name readers with
  | (.error e, d) => (.error (.sql e), d)
  | (.ok gates, d) => (.ok (.toFile name readers, gates), d)

/-- Opens the database of a name; the name of memory stands for a
database without connections that only read. -/
def openDatabase (name : String) (readers : Nat) (d : Disk) : Except StoreError Opened × Disk :=
  if name = Connection.memoryName then
    let (opened, d) := d.connectMemory
    (.ok opened, d)
  else d.connectFile name readers

end Disk

end Meterbank
