import Daisy.Databases.Invariant

/-!
# `InterpreterDropQuery`

`DROP`, `DETACH` and `TRUNCATE` of a table or of a whole database, as `InterpreterDropQuery.cpp`
runs them against a `DatabaseWithOwnTablesBase`.  The interpreter's own branching is modelled as
the source has it: the dispatch of `execute`, the checks of `executeToTableImpl` in their order,
the temporary-table path, the two loops of `executeToDatabaseImpl`, the hand-off of distributed
DDL that Daisy adds, and the rights `getRequiredAccessForDDLOnCluster` asks of a query run on a
cluster.

Everything the interpreter asks outside the modelled code is a field of `Env`: the context (the
current database, the user's rights, the session's temporary tables), a table's own methods, the
database engine's `dropTable` and `detachTablePermanently`, and the catalog service of the
distributed path.  Their answers are parameters, so every theorem holds whatever they are.  Two
calls outside the repository change the modelled state, and are modelled by what they do to it:
the catalog's `detachDatabase` checks that a database that should be empty is, then runs the
database's `shutdown()` (`Database.shutdown`); and a replicated database's
`tryEnqueueReplicatedDDL` runs the query on this replica before it returns.

The model holds one database, which the catalog holds under its name; a query naming another
database finds none.  The session's temporary tables live in a database of their own that only
the context reaches: `executeToTemporaryTable` changes nothing of the model, and its
`removeExternalTable` is left out.  "The catalog" in the theorems is its UUID map.

A call runs in `EStateM` over the database layer's `State`, so `detachTable` is the modelled
`DatabaseWithOwnTablesBase::detachTable`, and a query that throws leaves what it had changed.
Waiting for a dropped table (`no_delay`), the DDL guards and table locks have no effect in a run
of whole queries and are left out, as are the logs and the out-parameters that only feed the
waiting.
-/

namespace Daisy.Interpreters

open Daisy.Databases (State Database StorageID StoragePtr UUID db₀ tables₁₂ catalog₁₂ table₁)

/-- `ASTDropQuery::Kind`. -/
inductive Kind
  | /-- `DROP`: forget the table and delete its data. -/
    drop
  | /-- `DETACH`: forget the table and keep its data. -/
    detach
  | /-- `TRUNCATE`: delete the table's data and keep the table. -/
    truncate
deriving DecidableEq, Repr

/-- The fields of an `ASTDropQuery` that the interpreter reads. -/
structure ASTDropQuery where
  /-- `kind`. -/
  kind : Kind
  /-- `database`, empty when the query names none. -/
  database : String
  /-- `table`, empty for a query on a whole database. -/
  table : String
  /-- `cluster`, empty unless the query runs `ON CLUSTER`. -/
  cluster : String
  /-- `if_exists`. -/
  ifExists : Bool
  /-- `temporary`. -/
  temporary : Bool
  /-- `is_view`: the query says `VIEW`. -/
  isView : Bool
  /-- `is_dictionary`: the query says `DICTIONARY`. -/
  isDictionary : Bool
  /-- `permanently`: `DETACH ... PERMANENTLY`. -/
  permanently : Bool
deriving DecidableEq, Repr

/-- The `AccessType`s the interpreter checks or requires. -/
inductive AccessType
  | dropDatabase
  | dropTable
  | dropView
  | dropDictionary
  | truncate
deriving DecidableEq, Repr

/-- `AccessRightsElement`: access types on a database, or on one table of it. -/
structure AccessRightsElement where
  /-- The access types, `DROP_TABLE | DROP_VIEW` being two of them. -/
  accessFlags : List AccessType
  /-- The database. -/
  database : String
  /-- The table, `none` for the whole database. -/
  table : Option String
deriving DecidableEq, Repr

/-- The `ErrorCodes` that `InterpreterDropQuery.cpp` throws, and `DATABASE_NOT_EMPTY`, which the
catalog's `detachDatabase` throws. -/
inductive ErrorCode
  | logicalError
  | syntaxError
  | unknownTable
  | unknownDatabase
  | notImplemented
  | incorrectQuery
  | databaseNotEmpty
deriving DecidableEq, Repr

/-- An exception escaping the interpreter. -/
inductive DropException
  | /-- `Exception(message, code)`, thrown by the interpreter itself. -/
    mk (code : ErrorCode) (message : String)
  | /-- Thrown by a call of the modelled database layer. -/
    database (e : Databases.Exception)
  | /-- `checkAccess` refusing the user an access type on a database or a table. -/
    accessDenied (accessType : AccessType) (database : String) (table : Option String)
  | /-- The catalog's `getDatabase` finding no database of the name. -/
    noDatabase (name : String)
  | /-- The catalog's `getDatabaseAndTable` finding no table of the identity. -/
    noTable (tableId : StorageID)
  | /-- Thrown by a call outside the model: a table's own checks and methods, the catalog, the
    log, the cluster. -/
    external (message : String)
deriving DecidableEq, Repr

/-- The `DWAL::OpCode` of a DDL block that the distributed path appends to the log. -/
inductive OpCode
  | deleteTable
  | deleteDatabase
deriving DecidableEq, Repr

/-- What the interpreter asks outside the modelled code, and what those calls return. -/
structure Env where
  /-- `getContext()->getCurrentDatabase()`. -/
  currentDatabase : String
  /-- The session's temporary table of a name, as `tryResolveStorageID` with `ResolveExternal`
  finds it. -/
  resolveExternal : String → Option StoragePtr
  /-- The user's rights: `checkAccess(type, database, table)` returns when this holds. -/
  granted : AccessType → String → Option String → Bool
  /-- `table->isView()`. -/
  isView : StoragePtr → Bool
  /-- `table->isDictionary()`. -/
  isDictionary : StoragePtr → Bool
  /-- What `table->checkTableCanBeDetached()` returns. -/
  checkTableCanBeDetached : StoragePtr → Except DropException Unit
  /-- What `table->checkTableCanBeDropped()` returns. -/
  checkTableCanBeDropped : StoragePtr → Except DropException Unit
  /-- What `table->flush()` returns. -/
  flush : StoragePtr → Except DropException Unit
  /-- What `table->flushAndShutdown()` returns. -/
  flushAndShutdown : StoragePtr → Except DropException Unit
  /-- What `table->lockExclusively(...)` returns: it throws when the lock times out. -/
  lockExclusively : StoragePtr → Except DropException Unit
  /-- What `table->truncate(...)` returns. -/
  truncate : StoragePtr → Except DropException Unit
  /-- What `table->drop()` returns. -/
  drop : StoragePtr → Except DropException Unit
  /-- `database->getUUID()`. -/
  databaseUUID : UUID
  /-- Whether the database is a `DatabaseReplicated`. -/
  isReplicated : Bool
  /-- Whether the query is a `SECONDARY_QUERY` of a distributed DDL. -/
  isSecondaryQuery : Bool
  /-- What enqueueing the query in a replicated database's log returns, the first part of
  `tryEnqueueReplicatedDDL(query, context)`; the call then runs the query on this replica (see
  `executeToFoundTable`). -/
  tryEnqueueReplicatedDDL : Except DropException Unit
  /-- `database->shouldBeEmptyOnDetach()`. -/
  shouldBeEmptyOnDetach : Bool
  /-- What `database->assertCanBeDetached(true)` returns. -/
  assertCanBeDetached : Except DropException Unit
  /-- What the checks of `DatabaseCatalog::detachDatabase(name, drop, check_empty)` other than the
  emptiness check return: that the name is a database's, and that an atomic database may be
  detached. -/
  detachDatabase : Bool → Except DropException Unit
  /-- What the tables' `flush()` and `flushAndShutdown()` return in the database's `shutdown()`,
  which the catalog's `detachDatabase` runs. -/
  shutdownCalls : Databases.StorageCalls
  /-- What `database->drop(context)` returns, which the catalog's `detachDatabase` runs for a
  `DROP`. -/
  dropDatabase : Except DropException Unit
  /-- The database engine's `dropTable(context, name, no_delay)`, which
  `DatabaseWithOwnTablesBase` does not define. -/
  dropTable : String → EStateM Databases.Exception State Unit
  /-- The database engine's `detachTablePermanently(context, name)`. -/
  detachTablePermanently : String → EStateM Databases.Exception State Unit
  /-- `ctx->isDistributed()`. -/
  isDistributed : Bool
  /-- Whether the query parameters hold `_payload`. -/
  hasPayload : Bool
  /-- `ctx->isDistributedDDLOperation()`. -/
  isDistributedDDLOperation : Bool
  /-- The engines of the tables `CatalogService::findTableByName(database, table)` finds. -/
  findTableByName : String → String → List String
  /-- What `appendDDLBlock(...)` returns for a block of the op code. -/
  appendDDLBlock : OpCode → Except DropException Unit
  /-- What `executeDDLQueryOnCluster(query, context, required_access)` returns. -/
  executeDDLQueryOnCluster : List AccessRightsElement → Except DropException Unit

/-- A call of the interpreter: over the database layer's state, throwing `DropException`. -/
abbrev Interp := EStateM DropException State

/-- A call of the modelled database layer, whose exceptions the interpreter passes on. -/
def liftDatabase {α : Type} (x : EStateM Databases.Exception State α) : Interp α := fun s ↦
  match x s with
  | .ok a s' => .ok a s'
  | .error e s' => .error (.database e) s'

/-- `StorageID::getNameForLogs()`, outside the repository's files: the database and the table
name.  Their quoting is left out, as for `backQuote`; no UUID is appended, as the interpreter has
not looked it up where it names the table. -/
def getNameForLogs (tableId : StorageID) : String :=
  tableId.databaseName ++ "." ++ tableId.tableName

section Interpreter

variable (db : Database) (env : Env) (queryPtr : ASTDropQuery)

/-- `getContext()->checkAccess(access_type, database, table)`. -/
def checkAccess (accessType : AccessType) (database : String) (table : Option String) :
    Interp Unit :=
  if env.granted accessType database table then pure ()
  else throw (.accessDenied accessType database table)

/-- `DatabaseCatalog::tryGetDatabaseAndTable(table_id)`: the table attached to the modelled
database under the name, when the identity names that database. -/
def tryGetDatabaseAndTable (s : State) (tableId : StorageID) : Option StoragePtr :=
  if tableId.databaseName = db.databaseName then Database.tryGetTable s tableId.tableName else none

/-- `DatabaseCatalog::getDatabaseAndTable(table_id)`: the same lookup, throwing when it finds no
database or no table. -/
def getDatabaseAndTable (tableId : StorageID) : Interp StoragePtr :=
  if tableId.databaseName ≠ db.databaseName then throw (.noDatabase tableId.databaseName)
  else do
    match Database.tryGetTable (← get) tableId.tableName with
    | some table => pure table
    | none => throw (.noTable tableId)

/-- `executeToTemporaryTable(table_name, kind)`: a temporary table cannot be detached; one the
session holds is truncated, or shut down and dropped. -/
def executeToTemporaryTable (tableName : String) (kind : Kind) : Interp Unit :=
  if kind = .detach then throw (.mk .syntaxError "Unable to detach temporary table.")
  else
    match env.resolveExternal tableName with
    | none => pure ()
    | some table =>
      if kind = .truncate then do
        MonadExcept.ofExcept (env.lockExclusively table)
        MonadExcept.ofExcept (env.truncate table)
      else if kind = .drop then do
        MonadExcept.ofExcept (env.flushAndShutdown table)
        MonadExcept.ofExcept (env.lockExclusively table)
        MonadExcept.ofExcept (env.drop table)
      else pure ()

/-- `drop_storage`: the access type that dropping or detaching `table` needs. -/
def dropStorage (table : StoragePtr) : AccessType :=
  if env.isView table then .dropView else if env.isDictionary table then .dropDictionary
  else .dropTable

/-- The branch of `executeToTableImpl` for the query's kind, run on this server's copy of the
found table: the access check, the table's own checks, its `flushAndShutdown()` and lock, then the
database's `detachTable` or the engine's `detachTablePermanently` or `dropTable`; or, for a
`TRUNCATE`, the table's `truncate`. -/
def executeHere (query : ASTDropQuery) (tableId : StorageID) (table : StoragePtr) :
    Interp Unit :=
  let name := some tableId.tableName
  match query.kind with
  | .detach => do
    checkAccess env (dropStorage env table) tableId.databaseName name
    (if env.isDictionary table then
      (if !query.isDictionary then MonadExcept.ofExcept (env.checkTableCanBeDetached table)
      else pure ())
    else MonadExcept.ofExcept (env.checkTableCanBeDetached table))
    MonadExcept.ofExcept (env.flushAndShutdown table)
    (if env.databaseUUID = Databases.UUIDHelpers.Nil then
      MonadExcept.ofExcept (env.lockExclusively table)
    else pure ())
    if query.permanently then liftDatabase (env.detachTablePermanently tableId.tableName)
    else discard (liftDatabase (db.detachTable tableId.tableName))
  | .truncate => do
    (if env.isDictionary table then throw (.mk .syntaxError "Cannot TRUNCATE dictionary")
    else pure ())
    checkAccess env .truncate tableId.databaseName name
    MonadExcept.ofExcept (env.checkTableCanBeDropped table)
    MonadExcept.ofExcept (env.lockExclusively table)
    MonadExcept.ofExcept (env.truncate table)
  | .drop => do
    checkAccess env (dropStorage env table) tableId.databaseName name
    (if env.isDictionary table then
      (if !query.isDictionary then MonadExcept.ofExcept (env.checkTableCanBeDropped table)
      else pure ())
    else MonadExcept.ofExcept (env.checkTableCanBeDropped table))
    MonadExcept.ofExcept (env.flushAndShutdown table)
    (if env.databaseUUID = Databases.UUIDHelpers.Nil then
      MonadExcept.ofExcept (env.lockExclusively table)
    else pure ())
    liftDatabase (env.dropTable tableId.tableName)

/-- The part of `executeToTableImpl` after the catalog found the table: the checks of what the
query says the table is, then the branch of the query's kind, run here or handed to a replicated
database.  `tryEnqueueReplicatedDDL`, outside the repository, puts the query in the database's
replicated log and runs it on this replica, in the same context, before it returns; the model
runs the same branch here once the enqueue has returned. -/
def executeToFoundTable (query : ASTDropQuery) (tableId : StorageID) (table : StoragePtr) :
    Interp Unit := do
  (if query.isView && !env.isView table then
    throw (.mk .incorrectQuery ("Table " ++ getNameForLogs tableId ++ " is not a View"))
  else pure ())
  (if query.isDictionary && !env.isDictionary table then
    throw (.mk .incorrectQuery ("Table " ++ getNameForLogs tableId ++ " is not a Dictionary"))
  else pure ())
  let isDropOrDetachDatabase := queryPtr.table.isEmpty
  let isReplicatedDdlQuery := env.isReplicated && !env.isSecondaryQuery && !isDropOrDetachDatabase
  let name := some tableId.tableName
  if isReplicatedDdlQuery then do
    (match query.kind with
      | .detach => checkAccess env (dropStorage env table) tableId.databaseName name
      | .truncate => checkAccess env .truncate tableId.databaseName name
      | .drop => checkAccess env (dropStorage env table) tableId.databaseName name)
    MonadExcept.ofExcept env.tryEnqueueReplicatedDDL
    executeHere db env query tableId table
  else executeHere db env query tableId table

/-- `executeToTableImpl(query, db, uuid_to_wait)`: a query without a database first looks for a
temporary table of the name and otherwise runs in the current database; a temporary query that
finds none stops there.  Then the catalog looks the table up, throwing for a missing one unless
the query says `IF EXISTS`. -/
def executeToTableImpl (query : ASTDropQuery) : Interp Unit := do
  let tableId : StorageID := ⟨query.database, query.table, Databases.UUIDHelpers.Nil⟩
  let resolving := query.temporary || tableId.databaseName.isEmpty
  if resolving && (env.resolveExternal tableId.tableName).isSome then
    executeToTemporaryTable env tableId.tableName query.kind
  else
    let tableId :=
      if resolving then { tableId with databaseName := env.currentDatabase } else tableId
    if query.temporary then
      if query.ifExists then pure ()
      else throw (.mk .unknownTable ("Temporary table " ++ tableId.tableName ++ " doesn't exist"))
    else
      let table? ← (if query.ifExists then (tryGetDatabaseAndTable db · tableId) <$> get
        else some <$> getDatabaseAndTable db tableId)
      match table? with
      | some table => executeToFoundTable db env queryPtr query tableId table
      | none => pure ()

/-- `deleteTableDistributed(query)`: under a distributed DDL operation, the drop of a
`DistributedMergeTree` table is appended to the log as a `DELETE_TABLE` block and reported
handled; any other table is left to the local path. -/
def deleteTableDistributed (query : ASTDropQuery) : Interp Bool :=
  if !env.isDistributed then pure false
  else if !env.hasPayload then pure false
  else if env.isDistributedDDLOperation then
    match env.findTableByName query.database query.table with
    | [] => throw (.mk .unknownTable
        ("Table " ++ query.database ++ "." ++ query.table ++ " does not exist."))
    | engine :: _ =>
      if engine ≠ "DistributedMergeTree" then pure false
      else do
        MonadExcept.ofExcept (env.appendDDLBlock .deleteTable)
        pure true
  else pure false

/-- `executeToTable(query)`. -/
def executeToTable (query : ASTDropQuery) : Interp Unit := do
  if ← deleteTableDistributed env query then pure ()
  else executeToTableImpl db env queryPtr query

/-- `deleteDatabaseDistributed(query)`: under a distributed DDL operation, the drop of an existing
database is appended to the log as a `DELETE_DATABASE` block and reported handled. -/
def deleteDatabaseDistributed (query : ASTDropQuery) : Interp Bool :=
  if !env.isDistributed then pure false
  else if !env.hasPayload then pure false
  else if env.isDistributedDDLOperation then
    if query.database ≠ db.databaseName then
      throw (.mk .unknownDatabase ("Databases " ++ query.database ++ " does not exist."))
    else do
      MonadExcept.ofExcept (env.appendDDLBlock .deleteDatabase)
      pure true
  else pure false

/-- `query_for_table`: the query `executeToDatabaseImpl` runs on each table of the database, with
the database query's kind, `IF EXISTS`, and `DICTIONARY` when the table is one. -/
def queryForTable (query : ASTDropQuery) (tableName : String) (isDictionary : Bool) :
    ASTDropQuery :=
  { kind := query.kind, database := query.database, table := tableName, cluster := "",
    ifExists := true, temporary := false, isView := false, isDictionary := isDictionary,
    permanently := false }

/-- `DatabaseCatalog::detachDatabase(database_name, drop, check_empty)`, whose code is outside the
repository: its own checks; with `check_empty`, `DATABASE_NOT_EMPTY` when a table is still
attached; then the database's `shutdown()`, which flushes, shuts down and unmaps every table and
clears `tables`; and for a `DROP`, the database's `drop`.  The catalog's map of databases, from
which it erases the database before the shutdown, is not modelled. -/
def detachDatabase (drop checkEmpty : Bool) : Interp Unit := do
  MonadExcept.ofExcept (env.detachDatabase drop)
  (if checkEmpty && !Database.empty (← get) then
    throw (.mk .databaseNotEmpty
      "New table appeared in database being dropped or detached. Try again.")
  else pure ())
  liftDatabase (Database.shutdown env.shutdownCalls)
  if drop then MonadExcept.ofExcept env.dropDatabase else pure ()

/-- `executeToDatabaseImpl(query, database, uuids_to_wait)`: a database cannot be truncated; to
detach or drop one, flush every table, run the query on every table, then detach the database
from the catalog. -/
def executeToDatabaseImpl (query : ASTDropQuery) : Interp Unit :=
  let databaseName := query.database
  if databaseName ≠ db.databaseName then
    if query.ifExists then pure () else throw (.noDatabase databaseName)
  else if query.kind = .truncate then
    throw (.mk .syntaxError "Unable to truncate database")
  else if query.kind = .detach || query.kind = .drop then do
    let drop := query.kind = .drop
    checkAccess env .dropDatabase databaseName none
    (if query.kind = .detach && query.permanently then
      throw (.mk .notImplemented "DETACH PERMANENTLY is not implemented for databases")
    else pure ())
    (if env.shouldBeEmptyOnDetach then do
      (Database.getTablesIterator (← get) none).entries.forM fun kv ↦
        MonadExcept.ofExcept (env.flush kv.2)
      (Database.getTablesIterator (← get) none).entries.forM fun kv ↦
        executeToTableImpl db env queryPtr (queryForTable query kv.1 (env.isDictionary kv.2))
    else pure ())
    (if !drop then MonadExcept.ofExcept env.assertCanBeDetached else pure ())
    detachDatabase env drop env.shouldBeEmptyOnDetach
  else pure ()

/-- `executeToDatabase(query)`. -/
def executeToDatabase (query : ASTDropQuery) : Interp Unit := do
  if ← deleteDatabaseDistributed db env query then pure ()
  else executeToDatabaseImpl db env queryPtr query

/-- `getRequiredAccessForDDLOnCluster()`: the rights a query run `ON CLUSTER` requires of its
user before it is sent to the cluster's hosts. -/
def getRequiredAccessForDDLOnCluster : List AccessRightsElement :=
  if queryPtr.table.isEmpty then
    if queryPtr.kind = .detach then [⟨[.dropDatabase], queryPtr.database, none⟩]
    else if queryPtr.kind = .drop then [⟨[.dropDatabase], queryPtr.database, none⟩]
    else []
  else if queryPtr.isDictionary then
    if queryPtr.kind = .detach then [⟨[.dropDictionary], queryPtr.database, some queryPtr.table⟩]
    else if queryPtr.kind = .drop then
      [⟨[.dropDictionary], queryPtr.database, some queryPtr.table⟩]
    else []
  else if !queryPtr.temporary then
    if queryPtr.kind = .drop then
      [⟨[.dropTable, .dropView], queryPtr.database, some queryPtr.table⟩]
    else if queryPtr.kind = .truncate then
      [⟨[.truncate], queryPtr.database, some queryPtr.table⟩]
    else if queryPtr.kind = .detach then
      [⟨[.dropTable, .dropView], queryPtr.database, some queryPtr.table⟩]
    else []
  else []

/-- `execute()`: a query `ON CLUSTER` is sent to the cluster; otherwise it runs on its table, or
on its database when it names no table. -/
def execute : Interp Unit :=
  if !queryPtr.cluster.isEmpty then
    MonadExcept.ofExcept (env.executeDDLQueryOnCluster (getRequiredAccessForDDLOnCluster queryPtr))
  else if !queryPtr.table.isEmpty then executeToTable db env queryPtr queryPtr
  else if !queryPtr.database.isEmpty then executeToDatabase db env queryPtr queryPtr
  else throw (.mk .logicalError "Nothing to drop, both names are empty")

end Interpreter

theorem isEmpty_eq_false {n : String} (h : n ≠ "") : n.isEmpty = false := by
  rw [Bool.eq_false_iff, ne_eq, String.isEmpty_iff]
  exact h

/- The rights an `ON CLUSTER` `DROP` or `DETACH` of a table asks of its user include the access
type each host checks before it drops or detaches the table (`drop_storage`) exactly when the
query says `DICTIONARY` just for a table that is a dictionary and not a view.  So a `DROP TABLE`
of a dictionary goes to the cluster on `DROP TABLE` rights, though every host then checks
`DROP DICTIONARY`. -/
example (env : Env) (q : ASTDropQuery) (t : StoragePtr) (ht : q.table ≠ "")
    (htmp : q.temporary = false) (hk : q.kind ≠ .truncate) :
    (∃ el ∈ getRequiredAccessForDDLOnCluster q, dropStorage env t ∈ el.accessFlags ∧
        el.database = q.database ∧ el.table = some q.table) ↔
      (q.isDictionary = true ↔ dropStorage env t = .dropDictionary) := by
  have hte := isEmpty_eq_false ht
  unfold getRequiredAccessForDDLOnCluster dropStorage
  cases hq : q.kind <;> cases hd : q.isDictionary <;> cases hv : env.isView t <;>
    cases hdi : env.isDictionary t <;> simp_all

/-! ## Calls that leave the state alone -/

/-- The state a call leaves, whether it returned or threw. -/
def stateAfter {α : Type} : EStateM.Result DropException State α → State
  | .ok _ s => s
  | .error _ s => s

@[simp] theorem stateAfter_ok {α : Type} (a : α) (s : State) : stateAfter (.ok a s) = s := rfl

@[simp] theorem stateAfter_error {α : Type} (e : DropException) (s : State) :
    stateAfter (.error e s : EStateM.Result DropException State α) = s := rfl

/-- A call that neither reads nor changes the modelled state: from every state it returns, or
throws, the same. -/
def Stateless {α : Type} (x : Interp α) : Prop :=
  ∃ r : Except DropException α, ∀ s, x s = match r with
    | .ok a => .ok a s
    | .error e => .error e s

namespace Stateless

variable {α β : Type} {x y : Interp α}

theorem ofExcept (r : Except DropException α) : Stateless (MonadExcept.ofExcept r : Interp α) :=
  ⟨r, fun _ ↦ by cases r <;> rfl⟩

theorem pure (a : α) : Stateless (Pure.pure a : Interp α) := ⟨.ok a, fun _ ↦ rfl⟩

theorem throw (e : DropException) : Stateless (MonadExcept.throw e : Interp α) :=
  ⟨.error e, fun _ ↦ rfl⟩

theorem ite {c : Prop} [Decidable c] (hx : Stateless x) (hy : Stateless y) :
    Stateless (if c then x else y) := by
  split <;> assumption

theorem bind (hx : Stateless x) {f : α → Interp β} (hf : ∀ a, Stateless (f a)) :
    Stateless (x >>= f) := by
  obtain ⟨r, hr⟩ := hx
  cases r with
  | ok a =>
    obtain ⟨r', hr'⟩ := hf a
    exact ⟨r', fun s ↦ by simp [hr, hr']⟩
  | error e => exact ⟨.error e, fun s ↦ by simp [hr]⟩

theorem forM {γ : Type} {l : List γ} {f : γ → Interp PUnit} (hf : ∀ a ∈ l, Stateless (f a)) :
    Stateless (l.forM f) := by
  induction l with
  | nil => exact pure _
  | cons a l ih =>
    exact (hf a (List.mem_cons_self _ _)).bind fun _ ↦ ih fun b hb ↦ hf b (.tail _ hb)

theorem stateAfter_eq (hx : Stateless x) (s : State) : stateAfter (x s) = s := by
  obtain ⟨r, hr⟩ := hx
  rw [hr]
  cases r <;> rfl

/-- A stateless call either throws, leaving the state, or returns and hands the state on. -/
theorem bind_cases (hx : Stateless x) (f : α → Interp β) (s : State) :
    (∃ e, (x >>= f) s = .error e s) ∨ ∃ a, x s = .ok a s ∧ (x >>= f) s = f a s := by
  obtain ⟨r, hr⟩ := hx
  cases r with
  | ok a => exact .inr ⟨a, hr s, by simp [hr]⟩
  | error e => exact .inl ⟨e, by simp [hr]⟩

end Stateless

/-- A stateless call followed by `f`: the whole throws and leaves the state, or reaches `f` on the
unchanged state. -/
theorem Stateless.bind_or {α : Type} {x : Interp α} (hx : Stateless x) {f : α → Interp Unit}
    {s s' : State} {Q : Prop}
    (h : ∀ a, x s = .ok a s → (∃ e, f a s = .error e s) ∨ (f a s = .ok () s' ∧ Q)) :
    (∃ e, (x >>= f) s = .error e s) ∨ ((x >>= f) s = .ok () s' ∧ Q) := by
  rcases hx.bind_cases f s with ⟨e, he⟩ | ⟨a, ha, he⟩
  · exact .inl ⟨e, he⟩
  · rw [he]
    exact h a ha

theorem discard_apply {α : Type} (x : Interp α) (s : State) :
    discard x s = match x s with
      | .ok _ s' => .ok () s'
      | .error e s' => .error e s' := by
  cases h : x s <;> simp [discard, Functor.mapConst, EStateM.map, h]

theorem liftDatabase_apply {α : Type} (x : EStateM Databases.Exception State α) (s : State) :
    liftDatabase x s = match x s with
      | .ok a s' => .ok a s'
      | .error e s' => .error (.database e) s' :=
  rfl

/-! ## Calls that keep a relation between the states before and after -/

/-- Every state the call leaves, returning or throwing, is related by `R` to the one it started
from.  With `R` equality the call leaves the state alone; with `R` "the invariant is kept" it
keeps the invariant. -/
def Respects (R : State → State → Prop) {α : Type} (x : Interp α) : Prop :=
  ∀ s, R s (stateAfter (x s))

namespace Respects

variable {R : State → State → Prop} {α β : Type} {x y : Interp α}

theorem of_stateless [IsRefl State R] (hx : Stateless x) : Respects R x := fun s ↦ by
  rw [hx.stateAfter_eq]
  exact refl s

theorem get [IsRefl State R] : Respects R (MonadState.get : Interp State) := fun s ↦ refl s

theorem bind [IsTrans State R] (hx : Respects R x) {f : α → Interp β}
    (hf : ∀ a, Respects R (f a)) : Respects R (x >>= f) := fun s ↦ by
  have hxs := hx s
  cases h : x s with
  | ok a s' =>
    rw [h] at hxs
    simpa [h] using IsTrans.trans _ _ _ hxs (hf a s')
  | error e s' => simpa [h] using hxs

theorem ite {c : Prop} [Decidable c] (hx : Respects R x) (hy : Respects R y) :
    Respects R (if c then x else y) := by
  split <;> assumption

theorem map (hx : Respects R x) (f : α → β) : Respects R (f <$> x) := fun s ↦ by
  have hxs := hx s
  cases h : x s <;> simpa [h] using hxs

theorem discard (hx : Respects R x) : Respects R (Functor.discard x) := fun s ↦ by
  have hxs := hx s
  cases h : x s <;> simpa [discard_apply, h] using hxs

theorem forM [IsRefl State R] [IsTrans State R] {γ : Type} {l : List γ}
    {f : γ → Interp PUnit} (hf : ∀ a ∈ l, Respects R (f a)) : Respects R (l.forM f) := by
  induction l with
  | nil => exact of_stateless (.pure _)
  | cons a l ih =>
    exact (hf a (List.mem_cons_self _ _)).bind fun _ ↦ ih fun b hb ↦ hf b (.tail _ hb)

/-- A call of the database layer lifted into the interpreter keeps what it kept. -/
theorem liftDatabase {x : EStateM Databases.Exception State α}
    (hx : ∀ s, R s (Databases.stateAfter (x s))) : Respects R (liftDatabase x) := fun s ↦ by
  have hxs := hx s
  cases h : x s <;> simpa [liftDatabase_apply, h] using hxs

end Respects

/-- Every state the call returns in is related by `R` to the one it started from; where it throws
is not constrained. -/
def RespectsOk (R : State → State → Prop) {α : Type} (x : Interp α) : Prop :=
  ∀ s a s', x s = .ok a s' → R s s'

theorem Respects.ok {R : State → State → Prop} {α : Type} {x : Interp α} (hx : Respects R x) :
    RespectsOk R x := fun s _ _ h ↦ by
  simpa [h] using hx s

namespace RespectsOk

variable {R : State → State → Prop} {α β : Type} {x y : Interp α}

theorem bind [IsTrans State R] (hx : RespectsOk R x) {f : α → Interp β}
    (hf : ∀ a, RespectsOk R (f a)) : RespectsOk R (x >>= f) := fun s b s' h ↦ by
  simp only [Databases.bind_apply] at h
  split at h
  · next a s₁ hx' => exact IsTrans.trans _ _ _ (hx s a s₁ hx') (hf a s₁ b s' h)
  · cases h

theorem ite {c : Prop} [Decidable c] (hx : RespectsOk R x) (hy : RespectsOk R y) :
    RespectsOk R (if c then x else y) := by
  split <;> assumption

end RespectsOk

/-! ## Where a call can end -/

/-- Run from `s`, the call throws in a state satisfying `E`, or returns `a` in a state satisfying
`O a`. -/
def Ends {α : Type} (x : Interp α) (s : State) (E : State → Prop) (O : α → State → Prop) :
    Prop :=
  match x s with
  | .ok a s' => O a s'
  | .error _ s' => E s'

namespace Ends

variable {α β : Type} {x : Interp α} {s : State} {E : State → Prop} {O : α → State → Prop}

theorem bind {f : α → Interp β} {O' : β → State → Prop} (hx : Ends x s E O)
    (hf : ∀ a s', O a s' → Ends (f a) s' E O') : Ends (x >>= f) s E O' := by
  revert hx
  unfold Ends
  rw [Databases.bind_apply]
  cases x s with
  | ok a s' => exact hf a s'
  | error e s' => exact id

theorem of_stateless (hx : Stateless x) (hE : E s) (hO : ∀ a, O a s) : Ends x s E O := by
  obtain ⟨r, hr⟩ := hx
  unfold Ends
  rw [hr]
  cases r with
  | ok a => exact hO a
  | error e => exact hE

/-- Reading the state and going on with it. -/
theorem get_bind {f : State → Interp β} {O : β → State → Prop} (h : Ends (f s) s E O) :
    Ends (MonadState.get >>= f) s E O := h

/-- A call that neither reads nor changes the state, followed by `f`: where `f` ends, provided
the state as it was satisfies `E`. -/
theorem stateless_bind {f : α → Interp β} {O : β → State → Prop} (hx : Stateless x) (hE : E s)
    (hf : ∀ a, Ends (f a) s E O) : Ends (x >>= f) s E O :=
  (of_stateless (O := fun _ s' ↦ s' = s) hx hE fun _ ↦ rfl).bind fun a _ h ↦ h ▸ hf a

theorem mono {E' : State → Prop} {O' : α → State → Prop} (h : Ends x s E O)
    (hE : ∀ s', E s' → E' s') (hO : ∀ a s', O a s' → O' a s') : Ends x s E' O' := by
  revert h
  unfold Ends
  cases x s with
  | ok a s' => exact hO a s'
  | error e s' => exact hE s'

theorem of_error {e : DropException} {s' : State} (he : x s = .error e s') (h : E s') :
    Ends x s E O := by
  unfold Ends
  rwa [he]

theorem of_ok {a : α} {s' : State} (ha : x s = .ok a s') (h : O a s') : Ends x s E O := by
  unfold Ends
  rwa [ha]

theorem congr {y : Interp α} (h : x s = y s) : Ends x s E O ↔ Ends y s E O := by
  unfold Ends
  rw [h]

theorem ok_of (h : Ends x s E O) {a : α} {s' : State} (ha : x s = .ok a s') : O a s' := by
  unfold Ends at h
  rwa [ha] at h

/-- What holds wherever the call ends holds of the state it leaves. -/
theorem after {P : State → Prop} (h : Ends x s E O) (hE : ∀ s', E s' → P s')
    (hO : ∀ a s', O a s' → P s') : P (stateAfter (x s)) := by
  revert h
  unfold Ends
  cases x s with
  | ok a s' => exact hO a s'
  | error e s' => exact hE s'

end Ends

section Frame

variable (db : Database) (env : Env) (queryPtr : ASTDropQuery)

theorem stateless_checkAccess (a : AccessType) (d : String) (n : Option String) :
    Stateless (checkAccess env a d n) :=
  .ite (.pure _) (.throw _)

theorem checkAccess_ok {a : AccessType} {d : String} {n : Option String} {s s' : State} {u : Unit}
    (h : checkAccess env a d n s = .ok u s') : env.granted a d n := by
  unfold checkAccess at h
  split at h
  · assumption
  · cases h

theorem stateless_executeToTemporaryTable (n : String) (k : Kind) :
    Stateless (executeToTemporaryTable env n k) := by
  unfold executeToTemporaryTable
  split
  · exact .throw _
  · split
    · exact .pure _
    · refine .ite (.bind (.ofExcept _) fun _ ↦ .ofExcept _) (.ite ?_ (.pure _))
      exact .bind (.ofExcept _) fun _ ↦ .bind (.ofExcept _) fun _ ↦ .ofExcept _

theorem stateless_deleteTableDistributed (q : ASTDropQuery) :
    Stateless (deleteTableDistributed env q) := by
  unfold deleteTableDistributed
  refine .ite (.pure _) (.ite (.pure _) (.ite ?_ (.pure _)))
  split
  · exact .throw _
  · exact .ite (.pure _) (.bind (.ofExcept _) fun _ ↦ .pure _)

theorem stateless_deleteDatabaseDistributed (q : ASTDropQuery) :
    Stateless (deleteDatabaseDistributed db env q) :=
  .ite (.pure _) (.ite (.pure _) (.ite (.ite (.throw _) (.bind (.ofExcept _) fun _ ↦ .pure _))
    (.pure _)))

/-- A `TRUNCATE` run here neither reads nor changes the modelled state. -/
theorem stateless_executeHere_truncate {q : ASTDropQuery} (hk : q.kind = .truncate)
    (tableId : StorageID) (t : StoragePtr) : Stateless (executeHere db env q tableId t) := by
  unfold executeHere
  rw [hk]
  exact .bind (.ite (.throw _) (.pure _)) fun _ ↦ .bind (stateless_checkAccess env _ _ _) fun _ ↦
    .bind (.ofExcept _) fun _ ↦ .bind (.ofExcept _) fun _ ↦ .ofExcept _

end Frame

section Calls

variable {R : State → State → Prop} [IsRefl State R] [IsTrans State R]
variable (db : Database) (env : Env) (queryPtr : ASTDropQuery)

theorem respects_getDatabaseAndTable (tableId : StorageID) :
    Respects R (getDatabaseAndTable db tableId) := by
  unfold getDatabaseAndTable
  refine .ite (.of_stateless (.throw _)) (Respects.get.bind fun _ ↦ ?_)
  split
  · exact .of_stateless (.pure _)
  · exact .of_stateless (.throw _)

/-- `executeHere` changes the state only by its last call: the database's `detachTable`, or the
engine's `detachTablePermanently` or `dropTable`. -/
theorem respects_executeHere
    (hdetach : ∀ n, Respects R (liftDatabase (db.detachTable n)))
    (hperm : ∀ n, Respects R (liftDatabase (env.detachTablePermanently n)))
    (hdrop : ∀ n, Respects R (liftDatabase (env.dropTable n)))
    (query : ASTDropQuery) (tableId : StorageID) (t : StoragePtr) :
    Respects R (executeHere db env query tableId t) := by
  have hcheck := fun a ↦ Respects.of_stateless (R := R) (stateless_checkAccess env a
    tableId.databaseName (some tableId.tableName))
  unfold executeHere
  dsimp only
  split
  · exact (hcheck _).bind fun _ ↦
      .bind (.of_stateless (.ite (.ite (.ofExcept _) (.pure _)) (.ofExcept _))) fun _ ↦
      .bind (.of_stateless (.ofExcept _)) fun _ ↦
      .bind (.of_stateless (.ite (.ofExcept _) (.pure _))) fun _ ↦
      .ite (hperm _) (.discard (hdetach _))
  · exact .of_stateless (.bind (.ite (.throw _) (.pure _)) fun _ ↦
      .bind (stateless_checkAccess env _ _ _) fun _ ↦
      .bind (.ofExcept _) fun _ ↦ .bind (.ofExcept _) fun _ ↦ .ofExcept _)
  · exact (hcheck _).bind fun _ ↦
      .bind (.of_stateless (.ite (.ite (.ofExcept _) (.pure _)) (.ofExcept _))) fun _ ↦
      .bind (.of_stateless (.ofExcept _)) fun _ ↦
      .bind (.of_stateless (.ite (.ofExcept _) (.pure _))) fun _ ↦ hdrop _

/-- `executeToFoundTable` changes the state only where it runs the query's branch, here or, after
the enqueue, on this replica. -/
theorem respects_executeToFoundTable
    (hdetach : ∀ n, Respects R (liftDatabase (db.detachTable n)))
    (hperm : ∀ n, Respects R (liftDatabase (env.detachTablePermanently n)))
    (hdrop : ∀ n, Respects R (liftDatabase (env.dropTable n)))
    (query : ASTDropQuery) (tableId : StorageID) (t : StoragePtr) :
    Respects R (executeToFoundTable db env queryPtr query tableId t) := by
  have hhere := respects_executeHere db env hdetach hperm hdrop query tableId t
  unfold executeToFoundTable
  refine .bind (.of_stateless (.ite (.throw _) (.pure _))) fun _ ↦
    .bind (.of_stateless (.ite (.throw _) (.pure _))) fun _ ↦ ?_
  dsimp only
  refine .ite (.bind (.of_stateless ?_) fun _ ↦ .bind (.of_stateless (.ofExcept _)) fun _ ↦ hhere)
    hhere
  split <;> exact stateless_checkAccess env _ _ _

/-- `executeToTableImpl` changes the state only where it runs the query on a table it found;
for a temporary query it never gets there. -/
theorem respects_executeToTableImpl (query : ASTDropQuery)
    (hfound : query.temporary = false → ∀ tableId t,
      Respects R (executeToFoundTable db env queryPtr query tableId t)) :
    Respects R (executeToTableImpl db env queryPtr query) := by
  unfold executeToTableImpl
  dsimp only
  split
  · exact .of_stateless (stateless_executeToTemporaryTable env _ _)
  · split
    · exact .of_stateless (.ite (.pure _) (.throw _))
    · next htmp =>
      refine .bind
        (.ite ((Respects.get (R := R)).map _) ((respects_getDatabaseAndTable db _).map _))
        fun table? ↦ ?_
      cases table? with
      | none => exact .of_stateless (.pure _)
      | some t => exact hfound (by simpa using htmp) _ t

theorem respects_executeToTable (query : ASTDropQuery)
    (himpl : Respects R (executeToTableImpl db env queryPtr query)) :
    Respects R (executeToTable db env queryPtr query) :=
  .bind (.of_stateless (stateless_deleteTableDistributed env query)) fun _ ↦
    .ite (.of_stateless (.pure _)) himpl

/-- `executeToDatabaseImpl` changes the state only where it runs the query on the database's
tables, and in the catalog's `detachDatabase`. -/
theorem respects_executeToDatabaseImpl (query : ASTDropQuery)
    (htable : ∀ n b, Respects R (executeToTableImpl db env queryPtr (queryForTable query n b)))
    (hdetachDb : ∀ drop, Respects R (detachDatabase env drop env.shouldBeEmptyOnDetach)) :
    Respects R (executeToDatabaseImpl db env queryPtr query) := by
  unfold executeToDatabaseImpl
  refine .ite (.of_stateless (.ite (.pure _) (.throw _)))
    (.ite (.of_stateless (.throw _)) (.ite ?_ (.of_stateless (.pure _))))
  refine .bind (.of_stateless (stateless_checkAccess env _ _ _)) fun _ ↦
    .bind (.of_stateless (.ite (.throw _) (.pure _))) fun _ ↦ .bind (.ite ?_
      (.of_stateless (.pure _))) fun _ ↦
        .bind (.of_stateless (.ite (.ofExcept _) (.pure _))) fun _ ↦ hdetachDb _
  exact Respects.get.bind fun _ ↦ .bind (.forM fun _ _ ↦ .of_stateless (.ofExcept _)) fun _ ↦
    Respects.get.bind fun _ ↦ .forM fun kv _ ↦ htable kv.1 _

/-- Where it returns, `executeToDatabaseImpl` is related to where it started wherever the table
queries are and the catalog's `detachDatabase` is when it returns. -/
theorem respectsOk_executeToDatabaseImpl (query : ASTDropQuery)
    (htable : ∀ n b, Respects R (executeToTableImpl db env queryPtr (queryForTable query n b)))
    (hdetachDb : ∀ drop, RespectsOk R (detachDatabase env drop env.shouldBeEmptyOnDetach)) :
    RespectsOk R (executeToDatabaseImpl db env queryPtr query) := by
  unfold executeToDatabaseImpl
  refine .ite (Respects.of_stateless (.ite (.pure _) (.throw _))).ok
    (.ite (Respects.of_stateless (.throw _)).ok (.ite ?_ (Respects.of_stateless (.pure _)).ok))
  refine .bind (Respects.of_stateless (stateless_checkAccess env _ _ _)).ok fun _ ↦
    .bind (Respects.of_stateless (.ite (.throw _) (.pure _))).ok fun _ ↦ .bind (Respects.ite ?_
      (.of_stateless (.pure _))).ok fun _ ↦
        .bind (Respects.of_stateless (.ite (.ofExcept _) (.pure _))).ok fun _ ↦ hdetachDb _
  exact Respects.get.bind fun _ ↦ .bind (.forM fun _ _ ↦ .of_stateless (.ofExcept _)) fun _ ↦
    Respects.get.bind fun _ ↦ .forM fun kv _ ↦ htable kv.1 _

theorem respects_executeToDatabase (query : ASTDropQuery)
    (himpl : Respects R (executeToDatabaseImpl db env queryPtr query)) :
    Respects R (executeToDatabase db env queryPtr query) :=
  .bind (.of_stateless (stateless_deleteDatabaseDistributed db env query)) fun _ ↦
    .ite (.of_stateless (.pure _)) himpl

/-- `execute` changes the state only where it runs the query on its table or on its database. -/
theorem respects_execute
    (htable : queryPtr.cluster = "" → queryPtr.table ≠ "" →
      Respects R (executeToTableImpl db env queryPtr queryPtr))
    (hdatabase : queryPtr.cluster = "" → queryPtr.table = "" →
      Respects R (executeToDatabaseImpl db env queryPtr queryPtr)) :
    Respects R (execute db env queryPtr) := by
  unfold execute
  split_ifs with hc ht hd
  · exact .of_stateless (.ofExcept _)
  · exact respects_executeToTable db env queryPtr queryPtr
      (htable (by simpa [String.isEmpty_iff] using hc) fun h ↦ absurd ht (by simp [h]; decide))
  · exact respects_executeToDatabase db env queryPtr queryPtr
      (hdatabase (by simpa [String.isEmpty_iff] using hc) (by simpa [String.isEmpty_iff] using ht))
  · exact .of_stateless (.throw _)

/-- Where it returns, `execute` is related to where it started wherever its table query is, and
its database query where that returns. -/
theorem respectsOk_execute
    (htable : queryPtr.cluster = "" → queryPtr.table ≠ "" →
      Respects R (executeToTableImpl db env queryPtr queryPtr))
    (hdatabase : queryPtr.cluster = "" → queryPtr.table = "" →
      RespectsOk R (executeToDatabaseImpl db env queryPtr queryPtr)) :
    RespectsOk R (execute db env queryPtr) := by
  unfold execute
  split_ifs with hc ht hd
  · exact (Respects.of_stateless (.ofExcept _)).ok
  · exact (respects_executeToTable db env queryPtr queryPtr
      (htable (by simpa [String.isEmpty_iff] using hc) fun h ↦ absurd ht (by simp [h]; decide))).ok
  · exact .bind (Respects.of_stateless (stateless_deleteDatabaseDistributed db env queryPtr)).ok
      fun _ ↦ .ite (Respects.of_stateless (.pure _)).ok
        (hdatabase (by simpa [String.isEmpty_iff] using hc) (by simpa [String.isEmpty_iff] using ht))
  · exact (Respects.of_stateless (.throw _)).ok

end Calls

/-! ## A context, and queries to run in it -/

/-- A context in which the user holds every right, every call outside the model returns, no table
is a view or a dictionary, and neither a replicated database nor the distributed path takes the
query. -/
def permissive : Env where
  currentDatabase := "db"
  resolveExternal _ := none
  granted _ _ _ := true
  isView _ := false
  isDictionary _ := false
  checkTableCanBeDetached _ := .ok ()
  checkTableCanBeDropped _ := .ok ()
  flush _ := .ok ()
  flushAndShutdown _ := .ok ()
  lockExclusively _ := .ok ()
  truncate _ := .ok ()
  drop _ := .ok ()
  databaseUUID := Databases.UUIDHelpers.Nil
  isReplicated := false
  isSecondaryQuery := false
  tryEnqueueReplicatedDDL := .ok ()
  shouldBeEmptyOnDetach := true
  assertCanBeDetached := .ok ()
  detachDatabase _ := .ok ()
  shutdownCalls := ⟨fun _ ↦ .ok (), fun _ ↦ .ok ()⟩
  dropDatabase := .ok ()
  dropTable _ := pure ()
  detachTablePermanently _ := pure ()
  isDistributed := false
  hasPayload := false
  isDistributedDDLOperation := false
  findTableByName _ _ := []
  appendDDLBlock _ := .ok ()
  executeDDLQueryOnCluster _ := .ok ()

/-- `DETACH TABLE db.a`. -/
def detachA : ASTDropQuery := ⟨.detach, "db", "a", "", false, false, false, false, false⟩

/-- `DETACH DATABASE db`. -/
def detachDb : ASTDropQuery := ⟨.detach, "db", "", "", false, false, false, false, false⟩

/-! ## What a query may change -/

/-- `s'` satisfies the UUID-mapping invariant whenever `s` does. -/
def KeepsInv (db : Database) (s s' : State) : Prop :=
  db.UUIDMappingInv s → db.UUIDMappingInv s'

instance (db : Database) : IsRefl State (KeepsInv db) := ⟨fun _ h ↦ h⟩

instance (db : Database) : IsTrans State (KeepsInv db) := ⟨fun _ _ _ h₁ h₂ h ↦ h₂ (h₁ h)⟩

theorem keepsInv_detachTable (db : Database) (n : String) :
    Respects (KeepsInv db) (liftDatabase (db.detachTable n)) :=
  Respects.liftDatabase fun s hs ↦ by
    cases hf : s.tables.find n with
    | none => simpa [Databases.Database.detachTable_of_find_none hf] using hs
    | some t =>
      simpa [Databases.Database.detachTable_of_find hs hf] using hs.detachTable_of_find hf

section Queries

variable (db : Database) (env : Env) (queryPtr : ASTDropQuery)

/-- Where the database's `shutdown()`, run from a state satisfying the UUID-mapping invariant,
can end: thrown with every table still attached and those shut down before the throw unmapped,
or returned with no table attached and the invariant holding. -/
theorem ends_shutdown {s : State} (hinv : db.UUIDMappingInv s) (calls : Databases.StorageCalls) :
    Ends (liftDatabase (Database.shutdown calls)) s
      (fun s' ↦ s'.tables = s.tables ∧
        ∃ k, s'.catalog = s.catalog.unmapTables (s.tables.entries.take k))
      (fun _ s' ↦ db.UUIDMappingInv s' ∧ s'.tables = StdMap.empty) := by
  unfold Ends
  rw [liftDatabase_apply]
  cases h : Database.shutdown calls s with
  | ok u s' => exact ⟨hinv.shutdown_ok h, by rw [Databases.Database.shutdown_ok hinv h]⟩
  | error e s' =>
    rw [Databases.Database.shutdown_eq calls s hinv.isSome_uuidMap] at h
    split at h
    · cases h
      exact ⟨rfl, 0, rfl⟩
    · split at h
      · cases h
      · cases h
        exact ⟨rfl, _, by rw [← List.prefix_iff_eq_take.mp (List.takeWhile_prefix _)]⟩

/-- Where the catalog's `detachDatabase`, run from a state satisfying the UUID-mapping invariant,
can end: thrown before the shutdown, leaving the state; thrown inside the shutdown, which the
emptiness check rules out when it is made; or, once the shutdown returned, with no table
attached and the invariant holding. -/
theorem ends_detachDatabase {s : State} (hinv : db.UUIDMappingInv s) (drop checkEmpty : Bool) :
    Ends (detachDatabase env drop checkEmpty) s
      (fun s' ↦ s' = s ∨ (checkEmpty = false ∧ s'.tables = s.tables ∧
          ∃ k, s'.catalog = s.catalog.unmapTables (s.tables.entries.take k)) ∨
        (db.UUIDMappingInv s' ∧ s'.tables = StdMap.empty))
      (fun _ s' ↦ db.UUIDMappingInv s' ∧ s'.tables = StdMap.empty) := by
  unfold detachDatabase
  refine .stateless_bind (.ofExcept _) (.inl rfl) fun _ ↦ .get_bind ?_
  by_cases hc : (checkEmpty && !Database.empty s) = true
  · rw [if_pos hc]
    exact .bind (O := fun _ _ ↦ False) (.of_error rfl (.inl rfl)) nofun
  rw [if_neg hc]
  refine .stateless_bind (.pure _) (.inl rfl) fun _ ↦
    .bind ((ends_shutdown db hinv env.shutdownCalls).mono (fun s' ⟨ht, k, hk⟩ ↦ ?_)
      fun _ _ h ↦ h) fun _ s' h ↦ .of_stateless (.ite (.ofExcept _) (.pure _)) (.inr (.inr h))
        fun _ ↦ h
  cases checkEmpty
  · exact .inr (.inl ⟨rfl, ht, k, hk⟩)
  · have he : s.tables.entries = [] := by
      simpa [Database.empty, StdMap.isEmpty] using hc
    rw [he, List.take_nil, Databases.DatabaseCatalog.unmapTables_nil] at hk
    exact .inl (by cases s; cases s'; simp_all)

/-- With the emptiness check, the catalog's `detachDatabase` keeps the invariant whether it
returns or throws: it shuts down a database with no table left. -/
theorem keepsInv_detachDatabase_checkEmpty (drop : Bool) :
    Respects (KeepsInv db) (detachDatabase env drop true) := fun s hs ↦
  (ends_detachDatabase db env hs drop true).after
    (fun _ h ↦ by rcases h with rfl | ⟨h, -⟩ | ⟨h, -⟩; exacts [hs, absurd h (by decide), h])
    fun _ _ h ↦ h.1

/-- A returning `detachDatabase` keeps the invariant. -/
theorem keepsInv_detachDatabase_ok (drop checkEmpty : Bool) :
    RespectsOk (KeepsInv db) (detachDatabase env drop checkEmpty) := fun _ _ _ h hs ↦
  ((ends_detachDatabase db env hs drop checkEmpty).ok_of h).1

/-- Every query `execute` runs keeps the UUID-mapping invariant of the database when it returns,
and, on a database that should be empty when detached, also when it throws; provided the
database engine's own `dropTable` and `detachTablePermanently` keep it.  The interpreter's own
steps, the database's `detachTable`, a replica's run of the query, and a returning `shutdown()` in
the catalog's `detachDatabase` keep it.  On a database that need not be empty, a `shutdown()`
that throws part way leaves tables attached but unmapped (`detach_database_throws`). -/
theorem execute_keeps_uuidMappingInv
    (hdrop : ∀ n s, db.UUIDMappingInv s →
      db.UUIDMappingInv (Databases.stateAfter (env.dropTable n s)))
    (hperm : ∀ n s, db.UUIDMappingInv s →
      db.UUIDMappingInv (Databases.stateAfter (env.detachTablePermanently n s)))
    {s : State} (hs : db.UUIDMappingInv s) :
    (env.shouldBeEmptyOnDetach = true →
        db.UUIDMappingInv (stateAfter (execute db env queryPtr s))) ∧
      ∀ s', execute db env queryPtr s = .ok () s' → db.UUIDMappingInv s' := by
  have hfound := respects_executeToFoundTable db env queryPtr (keepsInv_detachTable db)
    (fun n ↦ .liftDatabase (hperm n)) (fun n ↦ .liftDatabase (hdrop n))
  have htable := fun q ↦ respects_executeToTableImpl db env queryPtr q fun _ ↦ hfound q
  refine ⟨fun hempty ↦ ?_, fun s' h ↦ ?_⟩
  · refine respects_execute db env queryPtr (fun _ _ ↦ htable _)
      (fun _ _ ↦ respects_executeToDatabaseImpl db env queryPtr _ (fun _ _ ↦ htable _) ?_) s hs
    rw [hempty]
    exact keepsInv_detachDatabase_checkEmpty db env
  · exact respectsOk_execute db env queryPtr (fun _ _ ↦ htable _)
      (fun _ _ ↦ respectsOk_executeToDatabaseImpl db env queryPtr _ (fun _ _ ↦ htable _)
        fun drop ↦ keepsInv_detachDatabase_ok db env drop _) s () s' h hs

theorem detachA_keeps_uuidMappingInv :
    (∀ n s, db₀.UUIDMappingInv s →
      db₀.UUIDMappingInv (Databases.stateAfter (permissive.dropTable n s))) ∧
    (∀ n s, db₀.UUIDMappingInv s →
      db₀.UUIDMappingInv (Databases.stateAfter (permissive.detachTablePermanently n s))) ∧
    db₀.UUIDMappingInv ⟨tables₁₂, catalog₁₂⟩ ∧
    (permissive.shouldBeEmptyOnDetach = true →
        db₀.UUIDMappingInv (stateAfter (execute db₀ permissive detachA ⟨tables₁₂, catalog₁₂⟩))) ∧
      ∀ s', execute db₀ permissive detachA ⟨tables₁₂, catalog₁₂⟩ = .ok () s' →
        db₀.UUIDMappingInv s' :=
  have hdrop : ∀ n s, db₀.UUIDMappingInv s →
      db₀.UUIDMappingInv (Databases.stateAfter (permissive.dropTable n s)) :=
    fun _ _ h ↦ h
  have hperm : ∀ n s, db₀.UUIDMappingInv s →
      db₀.UUIDMappingInv (Databases.stateAfter (permissive.detachTablePermanently n s)) :=
    fun _ _ h ↦ h
  ⟨hdrop, hperm, Databases.uuidMappingInv_tables₁₂,
    execute_keeps_uuidMappingInv db₀ permissive detachA hdrop hperm
      Databases.uuidMappingInv_tables₁₂⟩

end Queries

end Daisy.Interpreters
