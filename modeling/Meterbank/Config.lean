/-
  Meterbank.Config — which store to open, and how.

  Six settings, none of which has to be given.  The effective settings
  put defaults in the place of those that are not; a database name made
  of blanks counts as not given.

  Main result:
    * `validate_ok_iff` — which configurations can be used.
-/
import Meterbank.Error
import Meterbank.Text.Blank

namespace Meterbank

/-! ## Settings -/

/-- The settings of a store, as they were given. -/
structure Config where
  /-- The file of the database, or the name of a database in memory. -/
  databaseName : Option String
  /-- The file that holds the snapshot of a store without database. -/
  storeFile : Option String
  /-- Whether to load the snapshot when the store is opened. -/
  restore : Option Bool
  /-- Seconds between snapshots; with zero every write makes one. -/
  storeIntervalSeconds : Option Nat
  /-- Milliseconds between flushes; with zero writes are not collected. -/
  cacheIntervalMillis : Option Nat
  /-- Connections that only read. -/
  readPoolSize : Option Nat
  deriving DecidableEq, Inhabited, Repr

namespace Config

/-- No setting is given. -/
def empty : Config := ⟨none, none, none, none, none, none⟩

/-! ## Defaults -/

/-- The snapshot file if none is given. -/
def defaultStoreFile : String := "/tmp/metrics-db.json"

/-- The seconds between snapshots if none are given. -/
def defaultStoreInterval : Nat := 300

/-- The number of reading connections if none is given. -/
def defaultReadPoolSize : Nat := 4

/-! ## Effective settings -/

/-- The database to use, if one is named by more than blanks. -/
def effectiveDatabase (c : Config) : Option String :=
  (c.databaseName.map Text.trim).filter fun name => ! name.isEmpty

/-- The snapshot file to use. -/
def effectiveStoreFile (c : Config) : String := c.storeFile.getD defaultStoreFile

/-- Whether to load the snapshot. -/
def effectiveRestore (c : Config) : Bool := c.restore.getD true

/-- The seconds between snapshots. -/
def effectiveStoreInterval (c : Config) : Nat := c.storeIntervalSeconds.getD defaultStoreInterval

/-- The milliseconds between flushes, if writes are collected at all. -/
def effectiveCacheInterval (c : Config) : Option Nat :=
  c.cacheIntervalMillis.filter fun ms => ms != 0

/-- The number of reading connections. -/
def effectiveReadPoolSize (c : Config) : Nat := c.readPoolSize.getD defaultReadPoolSize

/-! ## Checks -/

/-- Refuses settings no store can be opened with. -/
def validate (c : Config) : Except StoreError Unit :=
  if c.effectiveReadPoolSize = 0 then .error (.config .emptyPool)
  else if c.effectiveDatabase.isNone ∧ c.effectiveStoreFile.isEmpty then
    .error (.config .noStoreFile)
  else .ok ()

/-- **A configuration can be used if it has a reader and a place to keep data.** -/
theorem validate_ok_iff (c : Config) :
    c.validate = .ok () ↔
      c.effectiveReadPoolSize ≠ 0 ∧
        (c.effectiveDatabase.isSome = true ∨ c.effectiveStoreFile.isEmpty = false) := by
  unfold validate
  by_cases h : c.effectiveReadPoolSize = 0
  · simp [h]
  · rw [if_neg h]
    cases hd : c.effectiveDatabase <;> cases hf : c.effectiveStoreFile.isEmpty <;> simp [h]

end Config

end Meterbank
