import Daisy.StdMap
import Mathlib.Data.String.Basic

/-!
# Tables, storages and exceptions

The values `DatabasesCommon.cpp` passes around: a table's `StorageID` and UUID, the storage
pointers kept in `tables`, the identity of the database object the catalog refers to, and the
exceptions thrown along the way.  Only what `DatabaseWithOwnTablesBase` reads of them is kept; the
rest of `IStorage` and `IDatabase` is outside the model.
-/

namespace Daisy.Databases

/-- `UUID`, a strong typedef of a 128-bit unsigned integer. -/
structure UUID where
  /-- The 128 bits. -/
  toUInt128 : BitVec 128
deriving DecidableEq, Repr

namespace UUIDHelpers

/-- `UUIDHelpers::Nil`: the UUID of a table that has none. -/
def Nil : UUID := ⟨0⟩

end UUIDHelpers

/-- `backQuote(name)`: the name between backquotes.  The helper lives outside the modelled
sources; its escaping of quotes inside the name is left out, as no statement reads messages. -/
def backQuote (s : String) : String := "`" ++ s ++ "`"

/-- `StorageID`: the database, table name and UUID a table reports for itself. -/
structure StorageID where
  /-- `database_name`. -/
  databaseName : String
  /-- `table_name`. -/
  tableName : String
  /-- `uuid`, `UUIDHelpers::Nil` for a table without one. -/
  uuid : UUID
deriving DecidableEq, Repr

namespace StorageID

/-- `hasUUID()`. -/
def hasUUID (id : StorageID) : Bool := id.uuid != UUIDHelpers.Nil

/-- `getFullTableName()`: `database.table`.  Like `backQuote`, the quoting of names that are not
plain identifiers is left out. -/
def getFullTableName (id : StorageID) : String := id.databaseName ++ "." ++ id.tableName

theorem hasUUID_iff (id : StorageID) : id.hasUUID ↔ id.uuid ≠ UUIDHelpers.Nil := by
  simp [hasUUID]

end StorageID

/-- A `StoragePtr`: a shared pointer to a table.  Two pointers are the same table when they point
at the same object, named by `addr`; `storageID` is what the table's `getStorageID()` returns. -/
structure StoragePtr where
  /-- The object pointed at. -/
  addr : Nat
  /-- The table's identity, as `getStorageID()` reports it. -/
  storageID : StorageID
deriving DecidableEq, Repr

/-- `table->getStorageID()`. -/
def StoragePtr.getStorageID (table : StoragePtr) : StorageID := table.storageID

/-- A `DatabasePtr`: the database object `shared_from_this()` points at. -/
structure DatabasePtr where
  /-- The object pointed at. -/
  addr : Nat
deriving DecidableEq, Repr

/-- `Tables`: the `std::map<String, StoragePtr>` of a database's attached tables. -/
abbrev Tables := StdMap String StoragePtr

/-- An entry of `Tables`: a table name and the table attached under it. -/
abbrev TableEntry := (_ : String) × StoragePtr

/-- The `ErrorCodes` that `DatabasesCommon.cpp` throws. -/
inductive ErrorCode
  | tableAlreadyExists
  | unknownTable
  | unknownDatabase
deriving DecidableEq, Repr

/-- An exception escaping a call of the database layer. -/
inductive Exception
  | /-- `Exception(code, message)`, thrown by `DatabaseWithOwnTablesBase` itself. -/
    mk (code : ErrorCode) (message : String)
  | /-- A failed `addUUIDMapping` or `removeUUIDMapping` of the catalog for this UUID. -/
    uuidMapping (uuid : UUID)
  | /-- Whatever a table's own `flush()` or `flushAndShutdown()` throws; the database layer
    passes it on without looking at it. -/
    storage (message : String)
deriving DecidableEq, Repr

end Daisy.Databases
