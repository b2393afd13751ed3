/-
  Meterbank.Sql.Address — the names under which databases are opened.

  A name is that of a file, unless it starts with "file:".  Then it is an
  address: a path, maybe behind an empty or a local authority; after a
  question mark, options; after a number sign, nothing that matters.  In
  paths, names and values of options a percent sign with two hexadecimal
  digits stands for a byte, and the byte zero ends what it stands in.
  Options say how a file is reached and what may be done to it, up to what
  the opener may do.

  Main result:
    * `parse_plain` — a name that is no address is that of a file.
-/
import Meterbank.Files

namespace Meterbank.Sql

open Meterbank.Text

/-! ## Escapes -/

/-- The value of a hexadecimal digit. -/
def hexDigit? (b : UInt8) : Option UInt8 :=
  if 0x30 ≤ b ∧ b ≤ 0x39 then some (b - 0x30)
  else if 0x61 ≤ b ∧ b ≤ 0x66 then some (b - 0x57)
  else if 0x41 ≤ b ∧ b ≤ 0x46 then some (b - 0x37)
  else none

/-- The byte that two hexadecimal digits stand for. -/
def hexByte? (high low : UInt8) : Option UInt8 :=
  match hexDigit? high, hexDigit? low with
  | some h, some l => some (16 * h + l)
  | _, _ => none

/-- The bytes that a part of an address stands for. -/
def unescape : List UInt8 → List UInt8
  | mark :: high :: low :: rest =>
    if mark = 0x25 then
      match hexByte? high low with
      | some b => if b = 0 then [] else b :: unescape rest
      | none => mark :: unescape (high :: low :: rest)
    else mark :: unescape (high :: low :: rest)
  | short => short

/-! ## What an address says -/

/-- What may be done to a file, in rising order. -/
inductive Permission where
  /-- Read it. -/
  | read
  /-- Write it, too. -/
  | change
  /-- Make it, if it is not there. -/
  | create
  deriving DecidableEq, Inhabited, Repr

/-- The place of a permission in the order. -/
def Permission.rank : Permission → Nat
  | .read => 0
  | .change => 1
  | .create => 2

/-- How a database is kept. -/
inductive Mode where
  | memory
  | file (permission : Permission)
  deriving DecidableEq, Inhabited, Repr

/-- How files are reached. -/
inductive Vfs where
  | usual
  /-- By one program alone. -/
  | exclusive
  /-- Without locks. -/
  | unlocked
  /-- With locks that are files. -/
  | lockFiles
  /-- Files that are only in memory. -/
  | memory
  deriving DecidableEq, Inhabited, Repr

/-- The file system of a name. -/
def Vfs.ofName? (name : String) : Option Vfs :=
  [("unix", Vfs.usual), ("unix-excl", .exclusive), ("unix-none", .unlocked),
    ("unix-dotfile", .lockFiles), ("memdb", .memory)].lookup name

/-- Where a database is, and how it is to be opened. -/
structure Address where
  name : List UInt8
  mode : Mode
  vfs : Vfs
  /-- Whether connections to the same place go through one gate. -/
  sharesGate : Bool
  /-- Whether nobody is going to write the file. -/
  immutable : Bool
  /-- Whether locks are left out. -/
  nolock : Bool
  deriving DecidableEq, Inhabited, Repr

namespace Address

/-- The address of a file. -/
def ofFile (name : List UInt8) (permission : Permission) : Address :=
  ⟨name, .file permission, .usual, false, false, false⟩

/-- Whether what is written may stay. -/
def isWritable (a : Address) : Bool := a.mode ≠ .file .read

/-- Whether the database lies in no file: it has no name, or that of
memory, or memory is asked for. -/
def isInMemory (a : Address) : Bool :=
  a.mode = .memory ∨ a.name = [] ∨ a.name = bytes ":memory:"

/-! ## Options -/

/-- An option and its value. -/
abbrev Setting := String × List UInt8

/-- The options in what follows the question mark.  One without a name is
left out. -/
def settings (query : List UInt8) : List Setting :=
  (pieces 0x26 query).filterMap fun piece =>
    let (name, value) := cut 0x3d piece
    let name := unescape name
    if name = [] then none else some (shown name, unescape value)

/-- The first value of an option. -/
def valueOf? (name : String) (options : List Setting) : Option (List UInt8) := options.lookup name

/-- Whether a value says yes: by a word, or by a number of one byte that
is not zero. -/
def saysYes (value : List UInt8) : Bool :=
  let digits := value.takeWhile fun b => decide (0x30 ≤ b ∧ b ≤ 0x39)
  if digits = [] then
    let word := value.map fun b => if 0x41 ≤ b ∧ b ≤ 0x5a then b + 0x20 else b
    ["on", "yes", "true"].any fun yes => word = bytes yes
  else
    let n : Nat := digits.foldl (fun n b => 10 * n + (b.toNat - 0x30)) 0
    decide (n < 1 <<< 31 ∧ n % 256 ≠ 0)

/-- The permission of a word. -/
def permissionOf? (word : List UInt8) : Option Permission :=
  if word = bytes "ro" then some .read
  else if word = bytes "rw" then some .change
  else if word = bytes "rwc" then some .create
  else none

/-- Sets the mode.  From memory there is a way to any mode; from a file
only to permissions that do not rise, and to memory. -/
def setMode (value : List UInt8) (a : Address) : Except SqlFault Address :=
  if value = bytes "memory" then .ok { a with mode := .memory }
  else
    match permissionOf? value, a.mode with
    | none, _ => .error (.noSuchMode "access" (shown value))
    | some permission, .memory => .ok { a with mode := .file permission }
    | some permission, .file most =>
      if most.rank < permission.rank then .error (.modeNotAllowed (shown value))
      else .ok { a with mode := .file permission }

/-- Sets whether gates are shared. -/
def setCache (value : List UInt8) (a : Address) : Except SqlFault Address :=
  if value = bytes "shared" then .ok { a with sharesGate := true }
  else if value = bytes "private" then .ok { a with sharesGate := false }
  else .error (.noSuchMode "cache" (shown value))

/-- Follows one option.  Others than these two do not matter here. -/
def follow (a : Address) (option : Setting) : Except SqlFault Address :=
  if option.1 = "mode" then a.setMode option.2
  else if option.1 = "cache" then a.setCache option.2
  else .ok a

/-- Follows options in order. -/
def followAll (a : Address) : List Setting → Except SqlFault Address
  | [] => .ok a
  | option :: options =>
    match a.follow option with
    | .error e => .error e
    | .ok a => a.followAll options

/-- Sets the file system, which is looked up after all other options. -/
def setVfs (options : List Setting) (a : Address) : Except SqlFault Address :=
  match valueOf? "vfs" options.reverse with
  | none => .ok a
  | some value =>
    match Vfs.ofName? (shown value) with
    | some vfs => .ok { a with vfs }
    | none => .error (.noSuchVfs (shown value))

/-! ## Parsing -/

/-- What an address starts with. -/
def scheme : List UInt8 := bytes "file:"

/-- The path, options and end of an address behind its authority, which
must be empty or local. -/
def afterAuthority (rest : List UInt8) : Except SqlFault (List UInt8) :=
  match rest with
  | 0x2f :: 0x2f :: rest =>
    let authority := rest.takeWhile (· ≠ 0x2f)
    if authority = [] ∨ authority = bytes "localhost" then .ok (rest.drop authority.length)
    else .error (.foreignAuthority (shown authority))
  | _ => .ok rest

/-- The address in what follows the scheme. -/
def parseRest (most : Permission) (rest : List UInt8) : Except SqlFault Address :=
  match afterAuthority rest with
  | .error e => .error e
  | .ok rest =>
    let (path, query) := cut 0x3f (cut 0x23 rest).1
    let options := settings query
    match (ofFile (unescape path) most).followAll options with
    | .error e => .error e
    | .ok a =>
      let said (name : String) : Bool := ((valueOf? name options).map saysYes).getD false
      setVfs options { a with immutable := said "immutable", nolock := said "nolock" }

/-- The address of a name, for an opener that may do so much. -/
def parse (most : Permission) (name : String) : Except SqlFault Address :=
  let name := bytes name
  if scheme.isPrefixOf name then parseRest most (name.drop scheme.length)
  else .ok (ofFile name most)

/-- **A name that is no address is that of a file.** -/
theorem parse_plain (most : Permission) (name : String)
    (h : scheme.isPrefixOf (bytes name) = false) :
    parse most name = .ok (ofFile (bytes name) most) := by
  simp [parse, h]

end Address

end Meterbank.Sql
