/-
  Meterbank.Disk.Writing — what was written, and where it ends up.

  What is written goes into the file or into the log.  The gate that
  closes the log last brings what it holds into the file and takes it
  away, if it may write; else the log stays, and whoever opens it next
  finds the writes in it.
-/
import Meterbank.Disk.Entering

namespace Meterbank

open Meterbank.Sql

namespace Disk

/-! ## Writing -/

/-- Takes over the database as a statement left it that went through a
gate.  What goes into a log is not in the file yet. -/
def store (d : Disk) (g : Nat) (db : Database) : Disk :=
  let gate := d.gate g
  let v := d.volume gate.volume
  match v.place, gate.log with
  | none, _ => d.setVolume gate.volume { v with current := db, settled := db }
  | some place, .closed =>
    let form := if v.form = .blank ∧ db ≠ .empty then .plain else v.form
    let d := (d.setVolume gate.volume { v with current := db, settled := db, form }).engrave
      gate.volume
    if db = v.current then d else d.dropFile (journalOf place)
  | some place, _ =>
    let unsettled := v.unsettled || decide (db ≠ v.current)
    let d := d.setVolume gate.volume { v with current := db, unsettled }
    if unsettled && (d.content? (logOf place)).isSome then
      d.putEntry (logOf place) (.file logContent)
    else d

/-- Brings the writes of a log into the file. -/
def settle (d : Disk) (n : Nat) : Disk :=
  let v := d.volume n
  let d := d.setVolume n { v with settled := v.current, unsettled := false }
  if v.unsettled then d.engrave n else d

/-- Brings the writes into the file, if the gate may write and the log is
open.  A log that was open before is emptied, too. -/
def checkpoint (d : Disk) (g : Nat) : Disk :=
  let wasOpened : Bool := (d.gate g).log = .opened
  let d := (d.enter g).2
  let gate := d.gate g
  match (d.volume gate.volume).place with
  | none => d
  | some place =>
    if gate.log = .opened ∧ gate.writable then
      let d := d.settle gate.volume
      if wasOpened && (d.content? (logOf place)).isSome then d.putEntry (logOf place) (.file [])
      else d
    else d

/-- What keeps a gate from bringing the writes into the file. -/
def checkpointFault (d : Disk) (g : Nat) : Option SqlFault :=
  match (d.gate g).keeping, d.enter g with
  | .logged, (.blocked fault, _) => some fault
  | .logged, (_, d) =>
    let gate := d.gate g
    if gate.log = .readOnly then some .readOnly
    else if ! gate.writable && (d.volume gate.volume).unsettled then some .diskFault
    else none
  | _, _ => none

/-- Closes the log of a database that nobody has open any more. -/
def closeLog (d : Disk) (n : Nat) : Disk :=
  match (d.volume n).place with
  | none => d
  | some place =>
    if (d.content? place).isNone then d
    else
      let d := (d.settle n).dropFile (logOf place)
      if (d.volume n).indexFile then d.dropFile (indexOf place) else d

/-- A connection no longer goes through a gate. -/
def leave (d : Disk) (g : Nat) : Disk :=
  let gate := d.gate g
  if 1 < gate.users then d.setGate g { gate with users := gate.users - 1 }
  else
    let d := d.setGate g { gate with users := 0, log := .closed }
    if gate.log = .opened ∧ gate.writable ∧ ¬ d.isLogOpen gate.volume then d.closeLog gate.volume
    else d

/-! ## Laws -/

end Disk

end Meterbank
