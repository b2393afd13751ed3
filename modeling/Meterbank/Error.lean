/-
  Meterbank.Error — everything that can go wrong in a store.

  An error is a cause, not a text: the reason a write was refused, the
  statement of the database that failed, the state of a file.  Its code
  groups errors for callers that only need to know whom to blame, and its
  message is for people.

  Main result:
    * `isBackend_iff_code` — the errors of disk and database are told by
      their code.
-/
import Meterbank.Json.Fault
import Meterbank.Metric.Kind

namespace Meterbank

open Meterbank.Text Meterbank.Number

/-! ## Refused writes -/

/-- Why a metric, a batch or a value is not accepted. -/
inductive Refusal where
  /-- The metric has no name. -/
  | emptyId
  /-- The tag names no kind. -/
  | unknownTag (tag : String)
  /-- A gauge came without a value. -/
  | noValue (id : String)
  /-- A counter came without a delta. -/
  | noDelta (id : String)
  /-- The text is not a gauge value. -/
  | gaugeText (raw : String) (cause : FloatTextError)
  /-- The text is not a counter delta. -/
  | counterText (raw : String) (cause : IntegerTextError)
  /-- A gauge value is an infinity or not a number. -/
  | notFinite (value : Binary64)
  /-- A total would leave the 64-bit range. -/
  | overflow (id : String) (total delta : Int64)
  /-- A stored total, which is not told, would leave the 64-bit range. -/
  | overflowAdding (key : String) (delta : Int64)
  /-- Some totals of a multi-row write would leave the 64-bit range. -/
  | overflowInBatch (overflowing rows : Nat)
  /-- An entry of a batch is not accepted. -/
  | entry (index : Nat) (cause : Refusal)
  /-- A refusal in the words of whoever makes it. -/
  | stated (text : String)
  deriving DecidableEq, Repr

/-- The wording of a refusal. -/
def Refusal.message : Refusal → String
  | .emptyId => "metric id must not be empty"
  | .unknownTag tag => "unknown metric type: " ++ quoted tag
  | .noValue id => "gauge " ++ id ++ " has no value"
  | .noDelta id => "counter " ++ id ++ " has no delta"
  | .gaugeText raw cause => "invalid gauge value " ++ quoted raw ++ ": " ++ cause.message
  | .counterText raw cause => "invalid counter delta " ++ quoted raw ++ ": " ++ cause.message
  | .notFinite value => "gauge value must be finite, got " ++ value.nonFiniteText
  | .overflow id total delta =>
    "counter " ++ id ++ " overflows: " ++ integerText total.toInt ++ " + " ++
      integerText delta.toInt
  | .overflowAdding key delta =>
    "counter " ++ key ++ " overflows when adding " ++ integerText delta.toInt
  | .overflowInBatch overflowing rows =>
    toString overflowing ++ " of " ++ toString rows ++ " counters in batch would overflow"
  | .entry index cause => "entry " ++ toString index ++ ": " ++ cause.message
  | .stated text => text

/-! ## Database -/

/-- The storage class of a cell that a read did not expect. -/
inductive CellClass where
  | null
  | integer
  | real
  | text
  | blob
  deriving DecidableEq, Repr

/-- The name of a storage class. -/
def CellClass.message : CellClass → String
  | .null => "Null"
  | .integer => "Integer"
  | .real => "Real"
  | .text => "Text"
  | .blob => "Blob"

/-- Why the database did not do what it was told. -/
inductive SqlFault where
  /-- No database can be kept under this name. -/
  | cannotOpen (name : String)
  /-- A file that belongs to the database cannot be opened. -/
  | cannotReach
  /-- A file that belongs to the database cannot be read or removed. -/
  | diskFault
  /-- The file holds something else. -/
  | notADatabase
  /-- The name holds a NUL at this byte. -/
  | nameHasNul (name : String) (position : Nat)
  /-- An address names a machine. -/
  | foreignAuthority (authority : String)
  /-- An option of an address has no such value. -/
  | noSuchMode (option value : String)
  /-- An address asks for more than its opener may do. -/
  | modeNotAllowed (mode : String)
  /-- An address names an unknown file system. -/
  | noSuchVfs (name : String)
  | noSuchTable (table : String)
  | readOnly
  | notNull (table column : String)
  | check (column : String)
  | unique (table column : String)
  | nestedTransaction
  /-- A cell is not of the type it is read as. -/
  | columnType (found : CellClass) (index : Nat) (column : String)
  /-- A transaction could not be committed. -/
  | commit (cause : SqlFault)
  /-- A fault in the words of whoever reports it. -/
  | stated (text : String)
  deriving DecidableEq, Repr

/-- The wording of a database fault. -/
def SqlFault.message : SqlFault → String
  | .cannotOpen name => "unable to open database file: " ++ name
  | .cannotReach => "unable to open database file"
  | .diskFault => "disk I/O error"
  | .notADatabase => "file is not a database"
  | .nameHasNul _ position =>
    "nul byte found in provided data at position: " ++ toString position
  | .foreignAuthority authority => "invalid uri authority: " ++ authority
  | .noSuchMode option value => "no such " ++ option ++ " mode: " ++ value
  | .modeNotAllowed mode => "access mode not allowed: " ++ mode
  | .noSuchVfs name => "no such vfs: " ++ name
  | .noSuchTable table => "no such table: " ++ table
  | .readOnly => "attempt to write a readonly database"
  | .notNull table column => "NOT NULL constraint failed: " ++ table ++ "." ++ column
  | .check column => "CHECK constraint failed: " ++ column
  | .unique table column => "UNIQUE constraint failed: " ++ table ++ "." ++ column
  | .nestedTransaction => "cannot start a transaction within a transaction"
  | .columnType found index column =>
    "Invalid column type " ++ found.message ++ " at index: " ++ toString index ++ ", name: "
      ++ column
  | .commit cause => "commit: " ++ cause.message
  | .stated text => text

/-! ## Files and threads -/

/-- Why a file cannot be read or written, or a helper did not answer. -/
inductive IoFault where
  | missing
  | isDirectory
  | notDirectory
  | alreadyExists
  | nameTooLong
  /-- A path holds a NUL. -/
  | pathHasNul
  /-- A file that must be text is not. -/
  | notText
  /-- The receiver of a flush died of it. -/
  | sinkPanicked
  /-- A fault in the words of whoever reports it. -/
  | stated (text : String)
  deriving DecidableEq, Repr

/-- The wording of a file fault. -/
def IoFault.message : IoFault → String
  | .missing => "No such file or directory (os error 2)"
  | .isDirectory => "Is a directory (os error 21)"
  | .notDirectory => "Not a directory (os error 20)"
  | .alreadyExists => "File exists (os error 17)"
  | .nameTooLong => "File name too long (os error 36)"
  | .pathHasNul => "file name contained an unexpected NUL byte"
  | .notText => "stream did not contain valid UTF-8"
  | .sinkPanicked => "flush sink panicked"
  | .stated text => text

/-! ## Configuration -/

/-- Why a configuration cannot be used. -/
inductive ConfigFault where
  | emptyPool
  | noStoreFile
  | noCoalescingInterval
  | noSnapshotInterval
  /-- The file is not a configuration at all. -/
  | undecodable (path : String)
  /-- A fault in the words of whoever reports it. -/
  | stated (text : String)
  deriving DecidableEq, Repr

/-- The wording of a configuration fault. -/
def ConfigFault.message : ConfigFault → String
  | .emptyPool => "read_pool_size must be at least 1"
  | .noStoreFile => "store_file must not be empty when no database_dsn is set"
  | .noCoalescingInterval => "coalescing interval must be non-zero"
  | .noSnapshotInterval => "snapshot interval must be non-zero"
  | .undecodable path => path ++ ": not a configuration"
  | .stated text => text

/-! ## Documents -/

/-- Why a document cannot be decoded. -/
inductive DocumentFault where
  | json (fault : Json.Fault)
  /-- A fault in the words of whoever reports it. -/
  | stated (text : String)
  deriving DecidableEq, Repr

/-- The wording of a document fault. -/
def DocumentFault.message : DocumentFault → String
  | .json fault => fault.message
  | .stated text => text

/-! ## All errors -/

/-- An error of a store. -/
inductive StoreError where
  /-- What was written is not acceptable. -/
  | validation (cause : Refusal)
  /-- No metric of this kind has this id. -/
  | notFound (kind : Kind) (id : String)
  /-- A tag names no kind. -/
  | unsupported (tag : String)
  /-- The database failed. -/
  | sql (cause : SqlFault)
  /-- A file or a thread failed. -/
  | io (cause : IoFault)
  /-- A document cannot be decoded. -/
  | serialization (cause : DocumentFault)
  /-- An operation took too long. -/
  | timeout (operation : String) (millis : Nat)
  /-- The store no longer accepts work. -/
  | closed
  /-- The configuration cannot be used. -/
  | config (cause : ConfigFault)
  deriving DecidableEq, Repr

namespace StoreError

/-- The wording of an error. -/
def message : StoreError → String
  | .validation cause => "Validation failed: " ++ cause.message
  | .notFound kind id => "Metric " ++ kind.tag ++ "/" ++ id ++ " not found"
  | .unsupported tag => "Unsupported metric type: " ++ tag
  | .sql cause => "SQLite error: " ++ cause.message
  | .io cause => "I/O error: " ++ cause.message
  | .serialization cause => "Serialization error: " ++ cause.message
  | .timeout operation millis =>
    operation ++ " timed out after " ++ toString millis ++ "ms"
  | .closed => "Storage is closed"
  | .config cause => "Configuration error: " ++ cause.message

/-- The group an error belongs to.  Codes are stable; messages are not. -/
inductive Code where
  | validation
  | notFound
  | unsupportedKind
  | storage
  | io
  | serialization
  | timeout
  | closed
  | config
  deriving DecidableEq, Repr

/-- The text of a code. -/
def Code.text : Code → String
  | .validation => "VALIDATION_ERROR"
  | .notFound => "NOT_FOUND"
  | .unsupportedKind => "UNSUPPORTED_KIND"
  | .storage => "STORAGE_ERROR"
  | .io => "IO_ERROR"
  | .serialization => "SERIALIZATION_ERROR"
  | .timeout => "TIMEOUT"
  | .closed => "STORAGE_CLOSED"
  | .config => "CONFIG_ERROR"

/-- The code of an error. -/
def code : StoreError → Code
  | .validation _ => .validation
  | .notFound _ _ => .notFound
  | .unsupported _ => .unsupportedKind
  | .sql _ => .storage
  | .io _ => .io
  | .serialization _ => .serialization
  | .timeout _ _ => .timeout
  | .closed => .closed
  | .config _ => .config

/-- Whether disk, database or their being shut down is to blame, and not
what the caller asked for. -/
def isBackend : StoreError → Bool
  | .sql _ | .io _ | .timeout _ _ | .closed => true
  | _ => false

/-- **The errors of disk and database are told by their code.** -/
theorem isBackend_iff_code (e : StoreError) :
    e.isBackend = true ↔
      e.code = .storage ∨ e.code = .io ∨ e.code = .timeout ∨ e.code = .closed := by
  cases e <;> simp [isBackend, code]

end StoreError

end Meterbank
