/-
  Meterbank.Config.Toml — settings from a configuration text.

  The settings stand in the table `storage`, by name or, if the table is
  written as a list, in their order.  Names that are not known are passed
  over; a setting of the wrong type makes the whole text unusable.
-/
import Meterbank.Config
import Meterbank.Files
import Meterbank.Toml.Document

namespace Meterbank.Config

open Meterbank.Toml

/-! ## Settings of each type -/

/-- A setting that is text. -/
def asText : Value → Option String
  | .text s => some s
  | _ => none

/-- A setting that is true or false. -/
def asBoolean : Value → Option Bool
  | .boolean b => some b
  | _ => none

/-- A setting that counts something. -/
def asCount : Value → Option Nat
  | .integer n => if n.toInt < 0 then none else some n.toInt.toNat
  | _ => none

/-- A setting that need not be given; the outer option is failure. -/
def given {α : Type} (read : Value → Option α) : Option Value → Option (Option α)
  | none => some none
  | some v => (read v).map some

/-- The settings among values, given a way to find each. -/
def ofValues (find : Nat → String → Option Value) : Option Config := do
  let databaseName ← given asText (find 0 "database_dsn")
  let storeFile ← given asText (find 1 "store_file")
  let restore ← given asBoolean (find 2 "restore")
  let storeIntervalSeconds ← given asCount (find 3 "store_interval_secs")
  let cacheIntervalMillis ← given asCount (find 4 "cache_interval_ms")
  let readPoolSize ← given asCount (find 5 "read_pool_size")
  return { databaseName, storeFile, restore, storeIntervalSeconds, cacheIntervalMillis,
           readPoolSize }

/-! ## Whole texts -/

/-- The settings in the value of `storage`.  A date is a table of parts
that no setting is called after. -/
def ofStorage : Value → Option Config
  | .table _ es => ofValues fun _ name => Entries.find? es name
  | .list _ vs => ofValues fun index _ => vs[index]?
  | .moment => some empty
  | _ => none

/-- The settings a text writes down. -/
def ofText? (text : String) : Option Config :=
  (document text).bind fun es =>
    match Entries.find? es "storage" with
    | none => some empty
    | some v => ofStorage v

/-- The settings in a file, which must be ones that can be used. -/
def ofFile (fs : Files) (path : String) : Except StoreError Config :=
  match fs.readText path with
  | .error e => .error (.io e)
  | .ok text =>
    match ofText? text with
    | none => .error (.config (.undecodable path))
    | some c =>
      match c.validate with
      | .error e => .error e
      | .ok _ => .ok c

end Meterbank.Config
