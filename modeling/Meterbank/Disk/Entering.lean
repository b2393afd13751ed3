/-
  Meterbank.Disk.Entering — going through a gate.

  The first statement that goes through a gate looks at the files: the
  file may be gone or hold something else, changes may be unfinished, and
  there may be a log.  The log is opened then, and stays open for all
  statements that follow.
-/
import Meterbank.Disk.Basic

namespace Meterbank

open Meterbank.Sql

namespace Disk

/-! ## Looking at the files -/

/-- Whether the file of changes cannot be made. -/
def isJournalBlocked (d : Disk) (place : Place) : Bool :=
  d.isDirectory (journalOf place) || ! (journalOf place).name.fits

/-- Looks whether the file is still there.  One that was emptied is a new
database. -/
def checkFile (d : Disk) (n : Nat) (place : Place) : Except SqlFault Disk :=
  match d.files.at? place with
  | some (.database m _) => if m = n then .ok d else .error .diskFault
  | some (.file content) =>
    if content.length ≤ 1 then
      .ok ((d.setVolume n (.fresh (some place) none)).putEntry place (.database n content))
    else .ok d
  | _ => .error .diskFault

/-- Looks for changes that were not finished, and undoes them. -/
def checkJournal (d : Disk) (gate : Gate) (place : Place) : Except SqlFault Disk :=
  let journal := journalOf place
  let isBlank := (d.volume gate.volume).form = .blank
  if d.isDirectory journal then if isBlank then .ok d else .error .diskFault
  else
    match d.content? journal with
    | none | some [] => .ok d
    | some (first :: _) =>
      if isBlank then .ok (if gate.writable then d.dropEntry journal else d)
      else if first = 0 then .ok d
      else if gate.writable then .ok (d.dropEntry journal)
      else .error .readOnly

/-- Forgets the writes that were only in the log. -/
def loseLog (d : Disk) (n : Nat) : Disk :=
  let v := d.volume n
  d.setVolume n { v with current := v.settled, unsettled := false }

/-- Makes the index of a log that nobody has open yet. -/
def makeIndex (d : Disk) (n : Nat) (place : Place) : Disk :=
  let v := d.volume n
  let d := d.setVolume n { v with indexFile := ! v.exclusive }
  if v.exclusive || d.isDirectory (indexOf place) then d
  else d.putEntry (indexOf place) (.file indexContent)

/-- Opens the log, and makes it if it is not there.  Writes that were in
it are lost if it is no longer the one that held them. -/
def openLog (d : Disk) (g : Nat) (place : Place) : Disk :=
  let gate := d.gate g
  let n := gate.volume
  let isShared := d.isLogOpen n
  let isGone := d.files.at? (logOf place) ≠ some (.file logContent)
  let d := if (d.volume n).unsettled ∧ isGone ∧ ¬ isShared then d.loseLog n else d
  let d := if (d.content? (logOf place)).isSome then d else d.putEntry (logOf place) (.file [])
  let d := if isShared then d else d.makeIndex n place
  let isFixed := (d.volume n).indexFile && d.isDirectory (indexOf place)
  d.setGate g { gate with log := if isFixed then .readOnly else .opened }

/-- Looks for a log, and opens it if there is one or ought to be one. -/
def checkLog (d : Disk) (g : Nat) (place : Place) : Except SqlFault Disk :=
  let gate := d.gate g
  let form := (d.volume gate.volume).form
  let log := logOf place
  if form = .blank then
    if d.isDirectory log then .error .diskFault
    else if d.isPresent log then .ok (d.dropEntry log)
    else .ok d
  else if form ≠ .logged ∧ ¬ d.isPresent log then .ok d
  else if gate.keeping = .direct ∨ d.isDirectory log then .error .cannotReach
  else .ok (d.openLog g place)

/-- Whether a file holds something else than its database, and no log
holds it either. -/
def isForeign (d : Disk) (n : Nat) (place : Place) : Bool :=
  match d.files.at? place with
  | some (.file _) =>
    ! decide ((d.volume n).unsettled ∧ d.files.at? (logOf place) = some (.file logContent))
  | _ => false

/-- Looks at the files of a database, as the first statement does.  A log
beside a file that never was a database is opened all the same. -/
def look (d : Disk) (g : Nat) (place : Place) : Except SqlFault Unit × Disk :=
  match d.checkFile (d.gate g).volume place with
  | .error e => (.error e, d)
  | .ok d =>
    match d.checkJournal (d.gate g) place with
    | .error e => (.error e, d)
    | .ok d =>
      let n := (d.gate g).volume
      match d.checkLog g place with
      | .error e => (.error e, d)
      | .ok opened =>
        if ! d.isForeign n place then (.ok (), opened)
        else (.error .notADatabase, if (d.volume n).form = .logged then d else opened)

/-- What the gate lets through to a file, once it has been looked at. -/
def accessTo (d : Disk) (gate : Gate) (place : Place) : Access :=
  match gate.log with
  | .opened => gate.access
  | .readOnly => .readOnly .readOnly none
  | .closed =>
    if gate.writable && d.isJournalBlocked place then .readOnly .cannotReach none else gate.access

/-- What a statement may do that goes through a gate, and the disk after
it has been let through. -/
def enter (d : Disk) (g : Nat) : Access × Disk :=
  let gate := d.gate g
  match gate.keeping, (d.volume gate.volume).place with
  | .frozen _, _ => (.readOnly .readOnly none, d)
  | .memory, _ | _, none => (gate.access, d)
  | _, some place =>
    if gate.log ≠ .closed then (d.accessTo gate place, d)
    else
      match d.look g place with
      | (.error fault, d) => (.blocked fault, d)
      | (.ok _, d) => (d.accessTo (d.gate g) place, d)

/-! ## Laws -/

end Disk

end Meterbank
