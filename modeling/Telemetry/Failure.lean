/-
Everything that can go wrong, by cause.

A failure says what happened, with the values that a reader needs; its wording is
one function (`Failure.message`). Failures are the caller's (`isClient`) or the
system's. Each group has a constructor for a text stated by someone else, such as
a source of readings or a peer.
-/
import Telemetry.Json.Fault
import Telemetry.Metric.Kind
import Telemetry.Service.Status

namespace Telemetry

/-! ## Causes -/

/-- A refused operation on files. -/
inductive FileFault where
  | missing
  | exists
  | notDirectory
  | isDirectory
  | nameTooLong
  | zeroByte
  | notText
  | stated (text : String)
  deriving DecidableEq, Repr

def FileFault.message : FileFault → String
  | .missing => "No such file or directory (os error 2)"
  | .exists => "File exists (os error 17)"
  | .notDirectory => "Not a directory (os error 20)"
  | .isDirectory => "Is a directory (os error 21)"
  | .nameTooLong => "File name too long (os error 36)"
  | .zeroByte => "file name contained an unexpected NUL byte"
  | .notText => "stream did not contain valid UTF-8"
  | .stated text => text

/-- What a cell of a table holds. -/
inductive CellClass where
  | null
  | integer
  | real
  | text
  deriving DecidableEq, Repr

def CellClass.name : CellClass → String
  | .null => "Null"
  | .integer => "Integer"
  | .real => "Real"
  | .text => "Text"

/-- A refused statement. -/
inductive DatabaseFault where
  | columnType (found : CellClass) (index : Nat) (column : String)
  | noTable (table : String)
  | notUnique (column : String)
  deriving DecidableEq, Repr

def DatabaseFault.message : DatabaseFault → String
  | .columnType found index column =>
    "Invalid column type " ++ found.name ++ " at index: " ++ toString index ++
      ", name: " ++ column
  | .noTable table => "no such table: " ++ table
  | .notUnique column => "UNIQUE constraint failed: " ++ column

/-- Why a setting from the environment was refused. -/
inductive VariableFault where
  | integer (fault : IntegerFault)
  | boolean
  deriving DecidableEq, Repr

def VariableFault.message : VariableFault → String
  | .integer fault => fault.message
  | .boolean => "provided string was not `true` or `false`"

/-- Settings that nothing can run with. -/
inductive SettingsFault where
  | emptySecret
  | unreadable (path : String) (fault : FileFault)
  | unparsable (path : String) (fault : Json.Fault)
  | variable (name raw : String) (fault : VariableFault)
  | empty (setting : String)
  | emptyOptional (setting : String)
  | zero (setting : String)
  | stated (text : String)
  deriving DecidableEq, Repr

def SettingsFault.message : SettingsFault → String
  | .emptySecret => "integrity key must not be empty"
  | .unreadable path fault => "failed to read config file " ++ path ++ ": " ++ fault.message
  | .unparsable path fault => "failed to parse config file " ++ path ++ ": " ++ fault.message
  | .variable name raw fault =>
    name ++ "=" ++ Text.quoted raw ++ " is invalid: " ++ fault.message
  | .empty setting => setting ++ " is empty"
  | .emptyOptional setting => setting ++ " is empty; omit it to disable"
  | .zero setting => setting ++ " must be greater than 0"
  | .stated text => text

/-- Input that a rule refuses. -/
inductive Rejection where
  | blankId
  | noValue (name : String)
  | noDelta (name : String)
  | notFinite (name : String) (value : Binary64)
  | overflow (name : String) (total delta : Int64)
  | gaugeText (raw : String) (fault : FloatFault)
  | deltaText (raw : String) (fault : IntegerFault)
  | undecodable
  | refusedBatch (reply : String)
  | stated (field text : String)
  deriving DecidableEq, Repr

namespace Rejection

/-- The field that the rule is about. -/
def field : Rejection → String
  | .blankId => "id"
  | .noValue _ => "value"
  | .noDelta _ => "delta"
  | .notFinite _ _ => "value"
  | .overflow _ _ _ => "delta"
  | .gaugeText _ _ => "value"
  | .deltaText _ _ => "delta"
  | .undecodable => "body"
  | .refusedBatch _ => "batch"
  | .stated field _ => field

def message : Rejection → String
  | .blankId => "metric id is empty"
  | .noValue name => "gauge " ++ name ++ " has no value"
  | .noDelta name => "counter " ++ name ++ " has no delta"
  | .notFinite name x => "gauge " ++ name ++ " is not a finite number (" ++ x.plain ++ ")"
  | .overflow name total delta =>
    "counter " ++ name ++ " overflows: " ++ toString total.toInt ++ " + " ++
      toString delta.toInt
  | .gaugeText raw fault => "invalid gauge value " ++ Text.quoted raw ++ ": " ++ fault.message
  | .deltaText raw fault =>
    "invalid counter delta " ++ Text.quoted raw ++ ": " ++ fault.message
  | .undecodable => "gzip decompression failed"
  | .refusedBatch reply => "collector rejected batch: " ++ reply
  | .stated _ text => text

end Rejection

/-- A stored snapshot that gives nothing to restore. -/
inductive SnapshotFault where
  | unreadable (path : String) (fault : FileFault)
  | unparsable (path : String) (fault : Json.Fault)
  | missing (path : String)
  | empty (path : String)
  | emptyBackend (name : String)
  | stated (text : String)
  deriving DecidableEq, Repr

def SnapshotFault.message : SnapshotFault → String
  | .unreadable path fault => "cannot read " ++ path ++ ": " ++ fault.message
  | .unparsable path fault => "cannot parse " ++ path ++ ": " ++ fault.message
  | .missing path => path ++ " does not exist"
  | .empty path => path ++ " holds no metrics"
  | .emptyBackend name => name ++ " backend holds no metrics"
  | .stated text => text

/-- A backend that cannot be opened or reached. -/
inductive Unavailability where
  | noDirectory (path : String) (fault : FileFault)
  | notDirectory (path : String)
  | directory (path : String) (fault : FileFault)
  | closed
  | cannotOpen (path : String)
  | notDatabase
  | migration (fault : DatabaseFault)
  | stated (text : String)
  deriving DecidableEq, Repr

def Unavailability.message : Unavailability → String
  | .noDirectory path fault =>
    "failed to create snapshot directory " ++ path ++ ": " ++ fault.message
  | .notDirectory path => path ++ " is not a directory"
  | .directory path fault =>
    "snapshot directory " ++ path ++ " unavailable: " ++ fault.message
  | .closed => "connection is closed"
  | .cannotOpen path =>
    "failed to open " ++ path ++ ": unable to open database file: " ++ path
  | .notDatabase => "PRAGMA setup failed: file is not a database"
  | .migration fault => "migration failed: " ++ fault.message
  | .stated text => text

/-- A batch that was not delivered. -/
inductive Undelivered where
  | requestFailed
  | status (code : Nat) (reply : String)
  | stated (text : String)
  deriving DecidableEq, Repr

/-- The wording of a batch that was not delivered. -/
def Undelivered.message : Undelivered → String
  | .requestFailed => "batch request failed"
  | .status code reply => "collector returned " ++ Service.Status.text code ++ ": " ++ reply
  | .stated text => text

/-- A fault of the system itself. -/
inductive InternalFault where
  | database (context : String) (fault : DatabaseFault)
  | noProcess (pid : Int32)
  | stated (text : String)
  deriving DecidableEq, Repr

def InternalFault.message : InternalFault → String
  | .database context fault => context ++ ": " ++ fault.message
  | .noProcess pid => "process " ++ toString pid.toInt ++ " not found"
  | .stated text => text

/-! ## Failures -/

/-- What went wrong. -/
inductive Failure where
  | malformed (fault : Json.Fault)
  | settings (fault : SettingsFault)
  | rejected (rejection : Rejection)
  | notFound (kind : Option Kind) (name : String)
  | unsupportedKind (text : String)
  | hashMismatch (id : String)
  | badSnapshot (fault : SnapshotFault)
  | nothingToRestore
  | unavailable (cause : Unavailability)
  | undelivered (cause : Undelivered)
  | file (fault : FileFault)
  | internal (fault : InternalFault)
  deriving DecidableEq, Repr

namespace Failure

def message : Failure → String
  | .malformed fault => "serialization error: " ++ fault.message
  | .settings fault => "config error: " ++ fault.message
  | .rejected rejection =>
    "validation failed (" ++ rejection.field ++ "): " ++ rejection.message
  | .notFound _ name => "metric not found: " ++ name
  | .unsupportedKind text => "unsupported metric kind: " ++ text
  | .hashMismatch id => "integrity hash mismatch for metric " ++ id
  | .badSnapshot fault => "snapshot is corrupt or empty: " ++ fault.message
  | .nothingToRestore => "restore requires a snapshot"
  | .unavailable cause => "backend unavailable: " ++ cause.message
  | .undelivered cause => "network error: " ++ cause.message
  | .file fault => "I/O error: " ++ fault.message
  | .internal fault => "internal error: " ++ fault.message

/-- The caller's input is to blame, and not the system. -/
def isClient : Failure → Bool
  | .malformed _ | .rejected _ | .notFound _ _ | .unsupportedKind _ | .hashMismatch _ => true
  | _ => false

end Failure

/-- A result, or why there is none. -/
abbrev Outcome := Except Failure

end Telemetry
