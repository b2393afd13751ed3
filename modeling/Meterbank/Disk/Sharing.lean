/-
  Meterbank.Disk.Sharing — stores that see the same database.

  Before a store does anything it looks at its database as the disk has it
  now, and at what its connections may do.  Afterwards the disk takes over
  what the store wrote, through the gates of the connections it used.

  Main result:
    * `publish_unused` — a store that did nothing leaves the disk alone.
-/
import Meterbank.Disk.Opening

namespace Meterbank

open Meterbank.Sql

namespace Disk

/-! ## Looking -/

/-- A connection as it finds the disk.  It has a database of its own if
its gate does not lead to the one that is written. -/
def linkAt (d : Disk) (writer : Nat) (p : Nat × Link) : Link :=
  let (g, link) := p
  let (access, d) := d.enter g
  let isShared : Bool :=
    match (d.gate writer).keeping, (d.gate g).keeping with
    | .frozen _, _ | _, .frozen _ => false
    | _, _ => (d.gate writer).volume = (d.gate g).volume
  ⟨access, if isShared then none else some (d.view g), false, link.known⟩

/-- The session with connection and database as the disk has them now. -/
def refresh (gates : Gates) (s : Session) (d : Disk) : Session :=
  let (access, entered) := d.enter gates.writer
  { s with
    connection := { s.connection with
      writer := ⟨access, none, false, s.connection.writer.known⟩
      readers := (gates.readers.zip s.connection.readers).map (d.linkAt gates.writer)
      unsettled := if s.connection.closed then none else d.checkpointFault gates.writer }
    database := entered.view gates.writer }

/-- A session with a database that has just been opened.  The connection
that writes has looked at the tables. -/
def session (opened : Opened) (d : Disk) : Session :=
  let s := d.refresh opened.2 (.start opened.1 .empty)
  { s with
    connection := { s.connection with
      writer := { s.connection.writer with known := some s.database.kinds } } }

/-! ## Taking over -/

/-- Takes over what was done on a connection.  `db` is the database that
is written. -/
def takeOver (db : Database) (d : Disk) (p : Nat × Link) : Disk :=
  let (g, link) := p
  if ! link.used then d
  else
    let (_, d) := d.enter g
    if link.access.writes then d.store g (link.own.getD db) else d

/-- Takes over what a session has done.  When it was closed the writes
are brought from the log into the file. -/
def publish (gates : Gates) (before after : Session) (d : Disk) : Disk :=
  let links := (gates.writer, after.connection.writer) ::
    gates.readers.zip after.connection.readers
  let d := links.foldl (takeOver after.database) d
  if ! before.connection.closed && after.connection.closed && after.connection.file.isSome then
    d.checkpoint gates.writer
  else d

/-! ## Laws -/

/-- What was not used is not taken over. -/
theorem takeOver_unused (db : Database) (d : Disk) (g : Nat) (link : Link)
    (h : link.used = false) : takeOver db d (g, link) = d := by
  simp [takeOver, h]

/-- **A store that did nothing leaves the disk alone.** -/
theorem publish_unused (gates : Gates) (s : Session) (d : Disk)
    (hw : s.connection.writer.used = false)
    (hr : ∀ link ∈ s.connection.readers, link.used = false) : d.publish gates s s = d := by
  have hfold : ∀ links : List (Nat × Link), (∀ p ∈ links, p.2.used = false) →
      links.foldl (takeOver s.database) d = d := by
    intro links hl
    induction links with
    | nil => rfl
    | cons p links ih =>
      rw [List.foldl_cons, takeOver_unused _ _ _ _ (hl p (by simp))]
      exact ih fun q hq => hl q (by simp [hq])
  have hlinks : ∀ p ∈ (gates.writer, s.connection.writer) :: gates.readers.zip s.connection.readers,
      p.2.used = false := by
    intro p hp
    rcases List.mem_cons.1 hp with rfl | hp
    · exact hw
    · exact hr p.2 (List.of_mem_zip hp).2
  unfold publish
  simp only
  rw [hfold _ hlinks]
  cases s.connection.closed <;> simp

end Disk

end Meterbank
