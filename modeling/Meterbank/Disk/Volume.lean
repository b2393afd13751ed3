/-
  Meterbank.Disk.Volume — databases and the gates to them.

  A database lies in a file, or in memory alone.  Its writes go into the
  file, or into a log beside it that is brought into the file later.  Who
  has it open goes through a gate: a gate knows whether it may write, and
  where its writes go.
-/
import Meterbank.Files
import Meterbank.Sql.Address
import Meterbank.Sql.Database

namespace Meterbank

open Meterbank.Sql Meterbank.Text

/-! ## Databases -/

/-- What the file of a database is like. -/
inductive Form where
  /-- Nothing has been written yet. -/
  | blank
  /-- Writes go into the file. -/
  | plain
  /-- Writes go into a log. -/
  | logged
  deriving DecidableEq, Inhabited, Repr

/-- A database, and where it is kept. -/
structure Volume where
  /-- The database with all writes. -/
  current : Database
  /-- The database without the writes that are only in the log. -/
  settled : Database
  /-- Whether the log holds writes. -/
  unsettled : Bool
  form : Form
  /-- The place of its file; none for a database in memory. -/
  place : Option Place
  /-- The name under which a database in memory can be opened again. -/
  label : Option (List UInt8)
  /-- Whether the index of its log need not be seen by other programs. -/
  exclusive : Bool
  /-- Whether the index of its log has been put into a file. -/
  indexFile : Bool
  deriving DecidableEq, Inhabited, Repr

namespace Volume

/-- A new database. -/
def fresh (place : Option Place) (label : Option (List UInt8)) : Volume :=
  ⟨.empty, .empty, false, .blank, place, label, false, false⟩

/-- The first bytes of a file with a database: what it is, and the size
of a page. -/
def signature : List UInt8 := bytes "SQLite format 3" ++ [0, 0x10, 0]

/-- The only page of a file that is going to have a log and holds no
table yet. -/
def firstPage : List UInt8 :=
  let zeros (n : Nat) : List UInt8 := List.replicate n 0
  signature ++ [2, 2, 0, 0x40, 0x20, 0x20, 0, 0, 0, 1, 0, 0, 0, 1] ++ zeros 60 ++
    [0, 0, 0, 1, 0, 0x2e, 0x7a, 0x70, 0x0d, 0, 0, 0, 0, 0x10, 0, 0] ++ zeros 3988

/-- The first bytes of a file with tables, up to where they are no text. -/
def tablePages : List UInt8 := signature ++ [0xf8]

/-- The bytes of the file, if anything has been written into it. -/
def content? (v : Volume) : Option (List UInt8) :=
  if v.form = .blank then none
  else if v.settled = .empty then some firstPage
  else some tablePages

/-- A file with tables begins as every file with a database does. -/
example : signature.isPrefixOf tablePages = true := by
  decide

end Volume

/-! ## Gates -/

/-- Where what is written through a gate goes. -/
inductive Keeping where
  | memory
  /-- Nowhere: the file is taken to be as it was when the gate was made. -/
  | frozen (content : Database)
  /-- Into the file. -/
  | direct
  /-- Into a log. -/
  | logged
  deriving DecidableEq, Repr

instance : Inhabited Keeping := ⟨.memory⟩

/-- What a gate has made of the log. -/
inductive LogUse where
  | closed
  | opened
  /-- Its index cannot be written, so the log is only read. -/
  | readOnly
  deriving DecidableEq, Inhabited, Repr

/-- What those who ask for a shared gate must agree in. -/
inductive ShareKey where
  | memory (vfs : Vfs) (name : List UInt8)
  | file (vfs : Vfs) (place : Place)
  deriving DecidableEq, Repr

/-- A way to a database. -/
structure Gate where
  /-- The number of the database. -/
  volume : Nat
  writable : Bool
  keeping : Keeping
  log : LogUse
  /-- How many connections go through it. -/
  users : Nat
  /-- What others must ask for to share it; none for a gate of one. -/
  key : Option ShareKey
  deriving DecidableEq, Inhabited, Repr

/-- What the gate lets through, whatever the files are like. -/
def Gate.access (g : Gate) : Access := if g.writable then .readWrite else .readOnly .readOnly none

end Meterbank
