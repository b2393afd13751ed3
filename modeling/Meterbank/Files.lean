/-
  Meterbank.Files — a tree of files and directories.

  Snapshots, configurations and databases lie in files.  A tree maps
  places to what is there.  A path is followed from the working directory
  name by name; all names but the last must be those of directories.  A
  path with a slash at its end asks for a directory.  A path can also be
  resolved before it is followed: then ".." takes back any name.  Each way
  in which an operation can fail has its own fault.

  Main results:
    * `read_write` — a file that was written is read back.
    * `writable_of_write` — a path that was written can be written again.
-/
import Meterbank.Error
import Meterbank.Text.Pieces
import Meterbank.Text.Utf8

namespace Meterbank

open Meterbank.Text

/-! ## Names and places -/

/-- The name of a file or a directory: any bytes but the slash. -/
abbrev Name := List UInt8

namespace Name

/-- The directory itself, ".". -/
def this : Name := [0x2e]

/-- The directory that holds it, "..". -/
def parent : Name := [0x2e, 0x2e]

/-- The longest name of one file, in bytes. -/
def maxLength : Nat := 255

/-- Whether a file can have this name. -/
def fits (name : Name) : Bool := decide (name.length ≤ maxLength)

/-- The names in a path. -/
def ofPath (path : List UInt8) : List Name := (pieces 0x2f path).filter (· ≠ [])

end Name

/-- The names that lead from the working directory to a place.  Names ".."
stand in front only, and lead out of the working directory. -/
abbrev Place := List Name

namespace Place

/-- Whether the place is the working directory or one that holds it. -/
def isAbove (p : Place) : Bool := p.all (· == Name.parent)

/-- The directory that holds the place. -/
def up (p : Place) : Place := if p.isAbove then p ++ [Name.parent] else p.dropLast

/-- The last name of the place. -/
def name (p : Place) : Name := p.getLastD []

/-- The place beside this one whose name is longer by a suffix. -/
def beside (p : Place) (suffix : String) : Place := p.dropLast ++ [p.name ++ bytes suffix]

/-- What has a name other than ".." is not above the working directory. -/
theorem isAbove_append (p : Place) (name : Name) (h : name ≠ Name.parent) :
    isAbove (p ++ [name]) = false := by
  simp [isAbove, h]

end Place

/-! ## Trees -/

/-- What is at a place. -/
inductive Entry where
  | file (content : List UInt8)
  /-- A file that holds the database of this number, and its bytes. -/
  | database (number : Nat) (content : List UInt8)
  | directory
  deriving DecidableEq, Repr

/-- All entries of the tree but the directories that hold the working
directory. -/
structure Files where
  entries : List (Place × Entry)
  deriving Repr

namespace Files

/-- A working directory with nothing in it. -/
def empty : Files := ⟨[]⟩

/-- What is at a place.  The working directory itself is a directory, and
so are those that hold it. -/
def at? (fs : Files) (place : Place) : Option Entry :=
  if place.isAbove then some .directory else fs.entries.lookup place

/-- Puts an entry at a place. -/
def put (fs : Files) (place : Place) (e : Entry) : Files :=
  ⟨(place, e) :: fs.entries.filter fun old => old.1 ≠ place⟩

/-- Takes away what is at a place. -/
def drop (fs : Files) (place : Place) : Files :=
  ⟨fs.entries.filter fun old => old.1 ≠ place⟩

/-- **What was put at a place is there.** -/
theorem at?_put (fs : Files) (place : Place) (e : Entry) (h : place.isAbove = false) :
    (fs.put place e).at? place = some e := by
  simp [at?, put, h]

/-- Taking away what is at one place does not change what is at others. -/
theorem lookup_filter_ne (place other : Place) (h : other ≠ place) (es : List (Place × Entry)) :
    (es.filter fun old => old.1 ≠ place).lookup other = es.lookup other := by
  induction es with
  | nil => rfl
  | cons e es ih =>
    obtain ⟨p, v⟩ := e
    by_cases hp : p = place
    · have hb : (other == p) = false := by rw [hp]; exact beq_eq_false_iff_ne.2 h
      rw [List.lookup_cons, hb]
      simpa [List.filter_cons, hp] using ih
    · rw [List.filter_cons_of_pos (by simpa using hp), List.lookup_cons, List.lookup_cons, ih]

/-- **What is put at one place does not change what is at others.** -/
theorem at?_put_of_ne (fs : Files) (place other : Place) (e : Entry) (h : other ≠ place) :
    (fs.put place e).at? other = fs.at? other := by
  unfold at? put
  split
  · rfl
  · have hb : (other == place) = false := beq_eq_false_iff_ne.2 h
    rw [List.lookup_cons, hb]
    exact lookup_filter_ne place other h fs.entries

/-! ## Following paths -/

/-- Where a path leads. -/
inductive Target where
  /-- To a directory that is there, as its last name is "." or "..". -/
  | directory
  /-- To a name in a directory that is there. -/
  | entry (place : Place)
  deriving DecidableEq, Repr

/-- Where names lead from a directory.  Each name but the last must be
that of a directory; the last need not be there. -/
def follow (fs : Files) : Place → List Name → Except IoFault Target
  | _, [] => .ok .directory
  | place, name :: names =>
    if name = Name.this then follow fs place names
    else if name = Name.parent then follow fs place.up names
    else if names.isEmpty then .ok (.entry (place ++ [name]))
    else if ! name.fits then .error .nameTooLong
    else
      match fs.at? (place ++ [name]) with
      | some .directory => follow fs (place ++ [name]) names
      | some _ => .error .notDirectory
      | none => .error .missing

/-- The longest path, in bytes. -/
def maxPath : Nat := 4095

/-- Where a path leads. -/
def locate (fs : Files) (path : String) : Except IoFault Target :=
  if path.toList.contains (Char.ofNat 0) then .error .pathHasNul
  else if path = "" then .error .missing
  else if maxPath < path.utf8ByteSize then .error .nameTooLong
  else follow fs [] (Name.ofPath (bytes path))

/-- Where names lead if ".." only takes back the name before it.  A name
may be missing; it must not be too long for a directory that is there, and
must not lie in a file. -/
def resolve (fs : Files) : Place → List Name → Option Place
  | place, [] => some place
  | place, name :: names =>
    if name = Name.this then resolve fs place names
    else if name = Name.parent then resolve fs place.up names
    else
      match fs.at? place with
      | some .directory => if name.fits then resolve fs (place ++ [name]) names else none
      | some _ => none
      | none => resolve fs (place ++ [name]) names

/-- Whether a path asks for a directory. -/
def asksDirectory (path : String) : Bool := path.toList.getLast? == some '/'

/-- What a path leads to.  Nothing is at a name that no file can have, and
a file is not what a path with a slash at its end asks for. -/
def find (fs : Files) (path : String) : Except IoFault Entry :=
  match fs.locate path with
  | .error e => .error e
  | .ok .directory => .ok .directory
  | .ok (.entry place) =>
    if ! place.name.fits then .error .nameTooLong
    else
      match fs.at? place with
      | some .directory => .ok .directory
      | some e => if asksDirectory path then .error .notDirectory else .ok e
      | none => .error .missing

/-! ## Operations -/

/-- The content of a file. -/
def read (fs : Files) (path : String) : Except IoFault (List UInt8) :=
  match fs.find path with
  | .error e => .error e
  | .ok (.file content) => .ok content
  | .ok (.database _ content) => .ok content
  | .ok .directory => .error .isDirectory

/-- The content of a file that must be text. -/
def readText (fs : Files) (path : String) : Except IoFault String :=
  match fs.read path with
  | .error e => .error e
  | .ok content =>
    match ofBytes? content with
    | some s => .ok s
    | none => .error .notText

/-- Writes a whole file, in place of what it held. -/
def write (fs : Files) (path : String) (content : List UInt8) : Except IoFault Files :=
  match fs.locate path with
  | .error e => .error e
  | .ok .directory => .error .isDirectory
  | .ok (.entry place) =>
    if asksDirectory path then .error .isDirectory
    else if ! place.name.fits then .error .nameTooLong
    else
      match fs.at? place with
      | some .directory => .error .isDirectory
      | _ => .ok (fs.put place (.file content))

/-- Makes a directory that is not there yet. -/
def makeDirectory (fs : Files) (path : String) : Except IoFault Files :=
  match fs.locate path with
  | .error e => .error e
  | .ok .directory => .error .alreadyExists
  | .ok (.entry place) =>
    if ! place.name.fits then .error .nameTooLong
    else
      match fs.at? place with
      | some _ => .error .alreadyExists
      | none => .ok (fs.put place .directory)

/-- Removes a file. -/
def remove (fs : Files) (path : String) : Except IoFault Files :=
  match fs.locate path with
  | .error e => .error e
  | .ok .directory => .error .isDirectory
  | .ok (.entry place) =>
    if ! place.name.fits then .error .nameTooLong
    else
      match fs.at? place with
      | none => .error .missing
      | some .directory => .error .isDirectory
      | some _ => if asksDirectory path then .error .notDirectory else .ok (fs.drop place)

/-- Whether a path leads to something. -/
def isThere (fs : Files) (path : String) : Bool := (fs.find path).toBool

/-! ## Laws -/

/-- A path never leads to a name above the working directory. -/
theorem follow_entry (fs : Files) (start : Place) (names : List Name) (place : Place)
    (h : follow fs start names = .ok (.entry place)) : place.isAbove = false := by
  induction names generalizing start with
  | nil => simp [follow] at h
  | cons name names ih =>
    unfold follow at h
    split at h
    · exact ih _ h
    · split at h
      · exact ih _ h
      · next hd =>
        split at h
        · simp only [Except.ok.injEq, Target.entry.injEq] at h
          rw [← h]
          exact Place.isAbove_append _ _ hd
        · split at h
          · exact absurd h (by simp)
          · split at h
            · exact ih _ h
            · exact absurd h (by simp)
            · exact absurd h (by simp)

/-- Where names lead never depends on what is put at a place that is no
directory. -/
theorem follow_put (fs : Files) (place : Place) (content : List UInt8)
    (hfile : fs.at? place ≠ some .directory) (start : Place) (names : List Name)
    (target : Target) (h : follow fs start names = .ok target) :
    follow (fs.put place (.file content)) start names = .ok target := by
  induction names generalizing start with
  | nil => simpa [follow] using h
  | cons name names ih =>
    unfold follow at h ⊢
    split
    · next hc => rw [if_pos hc] at h; exact ih _ h
    · next hc =>
      rw [if_neg hc] at h
      split
      · next hd => rw [if_pos hd] at h; exact ih _ h
      · next hd =>
        rw [if_neg hd] at h
        split
        · next hn => rw [if_pos hn] at h; exact h
        · next hn =>
          rw [if_neg hn] at h
          split
          · next hl => rw [if_pos hl] at h; exact absurd h (by simp)
          · next hl =>
            rw [if_neg hl] at h
            split at h
            · next hdir =>
              have hne : start ++ [name] ≠ place := by
                rintro rfl
                exact hfile hdir
              rw [at?_put_of_ne _ _ _ _ hne, hdir]
              exact ih _ h
            · exact absurd h (by simp)
            · exact absurd h (by simp)

/-- Where a path leads never depends on what is put at a place that is no
directory. -/
theorem locate_put (fs : Files) (place : Place) (content : List UInt8)
    (hfile : fs.at? place ≠ some .directory) (path : String) (target : Target)
    (h : fs.locate path = .ok target) :
    (fs.put place (.file content)).locate path = .ok target := by
  unfold locate at h ⊢
  split
  · next h1 => rw [if_pos h1] at h; exact absurd h (by simp)
  · next h1 =>
    rw [if_neg h1] at h
    split
    · next h2 => rw [if_pos h2] at h; exact absurd h (by simp)
    · next h2 =>
      rw [if_neg h2] at h
      split
      · next h3 => rw [if_pos h3] at h; exact absurd h (by simp)
      · next h3 =>
        rw [if_neg h3] at h
        exact follow_put fs place content hfile [] _ target h

/-- A path that can be located leads to no name above the working directory. -/
theorem locate_entry (fs : Files) (path : String) (place : Place)
    (h : fs.locate path = .ok (.entry place)) : place.isAbove = false := by
  unfold locate at h
  split at h
  · exact absurd h (by simp)
  · split at h
    · exact absurd h (by simp)
    · split at h
      · exact absurd h (by simp)
      · exact follow_entry fs [] _ place h

/-- **A file that was written is read back.** -/
theorem read_write (fs fs' : Files) (path : String) (content : List UInt8)
    (h : fs.write path content = .ok fs') : fs'.read path = .ok content := by
  unfold write at h
  split at h
  · exact absurd h (by simp)
  · exact absurd h (by simp)
  · next place hp =>
    split at h
    · exact absurd h (by simp)
    · next hs =>
      split at h
      · exact absurd h (by simp)
      · next hfit =>
        split at h
        · exact absurd h (by simp)
        · next hnd =>
          simp only [Except.ok.injEq] at h
          have hloc := locate_put fs place content hnd path _ hp
          have hat := at?_put fs place (.file content) (locate_entry fs path place hp)
          rw [← h]
          simp [read, find, hloc, hfit, hat, hs]

/-! ## Paths that can be written -/

/-- Whether a path can be written, whatever is written there. -/
def Writable (fs : Files) (path : String) : Prop :=
  ∀ content, ∃ fs', fs.write path content = .ok fs'

/-- A path that was written can be written again. -/
theorem writable_of_write {fs fs' : Files} {path : String} {content : List UInt8}
    (h : fs.write path content = .ok fs') : fs'.Writable path := by
  intro next
  unfold write at h
  split at h
  · exact absurd h (by simp)
  · exact absurd h (by simp)
  · next place hplace =>
    split at h
    · exact absurd h (by simp)
    · next hslash =>
      split at h
      · exact absurd h (by simp)
      · next hfits =>
        split at h
        · exact absurd h (by simp)
        · next hfile =>
          obtain rfl := Except.ok.inj h
          have hlocate := locate_put fs place content hfile path _ hplace
          have hat := at?_put fs place (.file content) (locate_entry fs path place hplace)
          unfold write
          rw [hlocate]
          simp only
          rw [if_neg hslash, if_neg hfits, hat]
          exact ⟨_, rfl⟩

/-- In an empty tree a plain name can be written. -/
theorem writable_empty : Files.empty.Writable "m.json" := by
  intro content
  have hlocate : Files.empty.locate "m.json" = .ok (.entry [bytes "m.json"]) := rfl
  have hslash : Files.asksDirectory "m.json" = false := by decide
  have hfits : (Place.name [bytes "m.json"]).fits = true := by decide
  unfold write
  rw [hlocate]
  simp only [hslash, hfits]
  exact ⟨_, rfl⟩

end Files

end Meterbank
