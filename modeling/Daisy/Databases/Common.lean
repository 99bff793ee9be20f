import Daisy.Databases.Catalog

/-!
# `DatabaseWithOwnTablesBase`

The part of `DatabasesCommon.cpp` that keeps a database's attached tables: `attachTable`,
`detachTable`, `shutdown` and the reads around them.  A call is an `EStateM` computation over the
database's `tables` and the global catalog.  `EStateM` keeps the state when it throws, as a C++
exception leaves behind whatever the call had already changed: a failed call is modelled by the
state it leaves, not by the state it started from.

The mutex is not modelled here.  A call that takes it is, in a run of whole calls, the same as
the call that assumes it held (`attachTable` and `attachTableUnlocked`); what the lock buys, and
what `shutdown` gives up by releasing it, is the subject of `Daisy.Databases.Interleaving`.  The
`assert`s on the database's own UUID are debug-build checks and are left out.

Each call gets one lemma saying what it does (`attachTableUnlocked_eq`, `detachTableUnlocked_eq`,
`shutdown_eq`); later files use those and never unfold the calls.
-/

namespace Daisy.Databases

/-- What the calls of this layer read and change. -/
structure State where
  /-- The database's `tables`. -/
  tables : Tables
  /-- The global `DatabaseCatalog`. -/
  catalog : DatabaseCatalog

/-- The parts of a `DatabaseWithOwnTablesBase` that no call changes. -/
structure Database where
  /-- The object itself, as `shared_from_this()` hands it to the catalog. -/
  self : DatabasePtr
  /-- `database_name`. -/
  databaseName : String

/-! ## Calls into the catalog and the tables' own methods -/

/-- `DatabaseCatalog::instance().addUUIDMapping(uuid, database, table)`. -/
def addUUIDMapping (uuid : UUID) (database : DatabasePtr) (table : StoragePtr) :
    EStateM Exception State Unit := fun s ↦
  match s.catalog.addUUIDMapping uuid database table with
  | some c => .ok () { s with catalog := c }
  | none => .error (.uuidMapping uuid) s

/-- `DatabaseCatalog::instance().removeUUIDMapping(uuid)`. -/
def removeUUIDMapping (uuid : UUID) : EStateM Exception State Unit := fun s ↦
  match s.catalog.removeUUIDMapping uuid with
  | some c => .ok () { s with catalog := c }
  | none => .error (.uuidMapping uuid) s

/-- `tables.emplace(table_name, table).second`. -/
def emplaceTable (tableName : String) (table : StoragePtr) : EStateM Exception State Bool :=
  fun s ↦ .ok (s.tables.emplace tableName table).2
    { s with tables := (s.tables.emplace tableName table).1 }

/-- What each call of a table's `flush()` and `flushAndShutdown()` in one `shutdown` returns.
The tables' own methods are outside the model.  A call is named by the snapshot entry it is
made for; each loop visits every entry once, so every pattern of returns and throws is covered. -/
structure StorageCalls where
  /-- What `kv.second->flush()` returns. -/
  flush : TableEntry → Except Exception Unit
  /-- What `kv.second->flushAndShutdown()` returns. -/
  flushAndShutdown : TableEntry → Except Exception Unit

/-! ## Exceptions -/

/-- `Exception(UNKNOWN_TABLE, "Table {}.{} doesn't exist", backQuote(database_name),
backQuote(table_name))`. -/
def tableDoesntExist (databaseName tableName : String) : Exception :=
  .mk .unknownTable ("Table " ++ backQuote databaseName ++ "." ++ backQuote tableName ++
    " doesn't exist")

/-- `Exception(UNKNOWN_DATABASE, "Database was renamed to `{}`, cannot create table in `{}`",
database_name, table_id.database_name)`. -/
def databaseRenamed (databaseName tableDatabaseName : String) : Exception :=
  .mk .unknownDatabase ("Database was renamed to `" ++ databaseName ++
    "`, cannot create table in `" ++ tableDatabaseName ++ "`")

/-- `Exception(TABLE_ALREADY_EXISTS, "Table {} already exists.", table_id.getFullTableName())`. -/
def tableAlreadyExists (tableId : StorageID) : Exception :=
  .mk .tableAlreadyExists ("Table " ++ tableId.getFullTableName ++ " already exists.")

namespace Database

variable (db : Database)

/-! ## Reads -/

/-- `isTableExist(table_name)`. -/
def isTableExist (s : State) (tableName : String) : Bool := s.tables.contains tableName

/-- `tryGetTable(table_name)`; `none` is the null pointer. -/
def tryGetTable (s : State) (tableName : String) : Option StoragePtr := s.tables.find tableName

/-- `empty()`. -/
def empty (s : State) : Bool := s.tables.isEmpty

/-- The loop of `getTablesIterator`: `filtered_tables.emplace(table_name, storage)` for each
entry, in order, whose name the filter accepts. -/
def filterTables (f : String → Bool) (filteredTables : Tables) : List TableEntry → Tables
  | [] => filteredTables
  | ⟨n, t⟩ :: rest =>
    filterTables f (if f n then (filteredTables.emplace n t).1 else filteredTables) rest

/-- `getTablesIterator(context, filter_by_table_name)`: the tables a snapshot iterator walks, all
of `tables` or, with a filter, those the loop copies into `filtered_tables`. -/
def getTablesIterator (s : State) (filterByTableName : Option (String → Bool)) : Tables :=
  match filterByTableName with
  | none => s.tables
  | some f => filterTables f StdMap.empty s.tables.entries

/-- `getTableUnlocked(table_name)`. -/
def getTableUnlocked (tableName : String) : EStateM Exception State StoragePtr := do
  match (← get).tables.find tableName with
  | some table => return table
  | none => throw (tableDoesntExist db.databaseName tableName)

/-! ## Attaching and detaching -/

/-- `detachTableUnlocked(table_name)`: erase the entry, then drop the table's UUID mapping. -/
def detachTableUnlocked (tableName : String) : EStateM Exception State StoragePtr := do
  let some res := (← get).tables.find tableName
    | throw (tableDoesntExist db.databaseName tableName)
  modify fun s ↦ { s with tables := s.tables.erase tableName }
  let tableId := res.getStorageID
  if tableId.hasUUID then
    removeUUIDMapping tableId.uuid
  return res

/-- `detachTable(table_name)`: `detachTableUnlocked` under `mutex`. -/
def detachTable (tableName : String) : EStateM Exception State StoragePtr :=
  db.detachTableUnlocked tableName

/-- `attachTableUnlocked(table_name, table)`: check the database name, map the table's UUID in
the catalog, then emplace the entry, undoing the mapping if the name is taken. -/
def attachTableUnlocked (tableName : String) (table : StoragePtr) :
    EStateM Exception State Unit := do
  let tableId := table.getStorageID
  if tableId.databaseName ≠ db.databaseName then
    throw (databaseRenamed db.databaseName tableId.databaseName)
  if tableId.hasUUID then
    addUUIDMapping tableId.uuid db.self table
  unless (← emplaceTable tableName table) do
    if tableId.hasUUID then
      removeUUIDMapping tableId.uuid
    throw (tableAlreadyExists tableId)

/-- `attachTable(table_name, table)`: `attachTableUnlocked` under `mutex`. -/
def attachTable (tableName : String) (table : StoragePtr) : EStateM Exception State Unit :=
  db.attachTableUnlocked tableName table

/-! ## Shutdown -/

/-- One pass of `shutdown`'s second loop: `flushAndShutdown()` the table, a call that returns
`flushAndShutdown`, then drop its UUID mapping. -/
def shutdownTable (kv : TableEntry) (flushAndShutdown : Except Exception Unit) :
    EStateM Exception State Unit := do
  let tableId := kv.2.getStorageID
  MonadExcept.ofExcept flushAndShutdown
  if tableId.hasUUID then
    removeUUIDMapping tableId.uuid

/-- `shutdown()`: snapshot `tables`, `flush()` every table of the snapshot, shut each down and
unmap it, and clear `tables`. -/
def shutdown (calls : StorageCalls) : EStateM Exception State Unit := do
  let tablesSnapshot := (← get).tables
  tablesSnapshot.entries.forM fun kv ↦ MonadExcept.ofExcept (calls.flush kv)
  tablesSnapshot.entries.forM fun kv ↦ shutdownTable kv (calls.flushAndShutdown kv)
  modify fun s ↦ { s with tables := StdMap.empty }

end Database

/-! ## Running a call

Unfolding lemmas for the `EStateM` and `Except` combinators the calls are written with, so that
a call applied to a state evaluates by `simp`. -/

section Run

variable {ε σ α β : Type}

@[simp] theorem bind_apply (x : EStateM ε σ α) (f : α → EStateM ε σ β) (s : σ) :
    (x >>= f) s = match x s with
      | .ok a s' => f a s'
      | .error e s' => .error e s' := rfl

@[simp] theorem map_apply (f : α → β) (x : EStateM ε σ α) (s : σ) :
    (f <$> x) s = match x s with
      | .ok a s' => .ok (f a) s'
      | .error e s' => .error e s' := rfl

@[simp] theorem pure_apply (a : α) (s : σ) : (pure a : EStateM ε σ α) s = .ok a s := rfl

@[simp] theorem throw_apply (e : ε) (s : σ) : (throw e : EStateM ε σ α) s = .error e s := rfl

@[simp] theorem get_apply (s : σ) : (get : EStateM ε σ σ) s = .ok s s := rfl

@[simp] theorem modify_apply (f : σ → σ) (s : σ) :
    (modify f : EStateM ε σ PUnit) s = .ok ⟨⟩ (f s) := rfl

@[simp] theorem ofExcept_ok_apply (a : α) (s : σ) :
    (MonadExcept.ofExcept (.ok a) : EStateM ε σ α) s = .ok a s := rfl

@[simp] theorem ofExcept_error_apply (e : ε) (s : σ) :
    (MonadExcept.ofExcept (.error e) : EStateM ε σ α) s = .error e s := rfl

@[simp] theorem except_error_bind (e : ε) (f : α → Except ε β) :
    (Except.error e >>= f) = Except.error e := rfl

@[simp] theorem except_ok_bind (a : α) (f : α → Except ε β) : (Except.ok a >>= f) = f a := rfl

@[simp] theorem except_isOk_ok (a : α) : (Except.ok a : Except ε α).isOk = true := rfl

@[simp] theorem except_isOk_error (e : ε) : (Except.error e : Except ε α).isOk = false := rfl

end Run

@[simp] theorem emplaceTable_apply (n : String) (t : StoragePtr) (s : State) :
    emplaceTable n t s =
      .ok (s.tables.emplace n t).2 { s with tables := (s.tables.emplace n t).1 } := rfl

/-- Removing the mapping of a UUID that has an entry empties it. -/
theorem removeUUIDMapping_of_isSome {u : UUID} {s : State} (h : (s.catalog.uuidMap u).isSome) :
    removeUUIDMapping u s = .ok () { s with catalog := s.catalog.set u none } := by
  obtain ⟨c, hc⟩ := Option.isSome_iff_exists.mp h
  simp [removeUUIDMapping, DatabaseCatalog.removeUUIDMapping, hc]

namespace Database

variable (db : Database)

/-! ## What each call does -/

/-- The filter loop keeps what `filteredTables` held, then adds the first entry of the list under
each accepted name. -/
theorem find_filterTables (f : String → Bool) (m : Tables) (l : List TableEntry) (k : String) :
    (filterTables f m l).find k = (m.find k).or (if f k then l.dlookup k else none) := by
  induction l generalizing m with
  | nil => simp [filterTables, Option.or_none]
  | cons kv l ih =>
    obtain ⟨n, t⟩ := kv
    rw [filterTables, ih, StdMap.dlookup_cons]
    by_cases hn : f n <;> by_cases hk : k = n <;>
      simp [hn, hk, StdMap.find_emplace, Option.or_assoc]

/-- With a filter, `getTablesIterator`'s loop builds exactly the attached tables whose names the
filter accepts. -/
theorem getTablesIterator_filter (s : State) (f : String → Bool) :
    getTablesIterator s (some f) = s.tables.filter f :=
  StdMap.ext fun k ↦ by
    rw [getTablesIterator, find_filterTables, StdMap.find_filter, StdMap.find_empty, Option.none_or]
    rfl

/-- `attachTableUnlocked` throws at the first of its three checks that fails, and leaves the
table's UUID entry emptied when it throws after mapping it. -/
theorem attachTableUnlocked_eq (n : String) (t : StoragePtr) (s : State) :
    db.attachTableUnlocked n t s =
      if t.getStorageID.databaseName ≠ db.databaseName then
        .error (databaseRenamed db.databaseName t.getStorageID.databaseName) s
      else if t.getStorageID.hasUUID ∧ (s.catalog.mappedTable t.getStorageID.uuid).isSome then
        .error (.uuidMapping t.getStorageID.uuid) s
      else if s.tables.contains n then
        .error (tableAlreadyExists t.getStorageID) { s with
          catalog := if t.getStorageID.hasUUID then s.catalog.set t.getStorageID.uuid none
            else s.catalog }
      else
        .ok () ⟨s.tables.insert n t, if t.getStorageID.hasUUID then
          s.catalog.set t.getStorageID.uuid (some (db.self, t)) else s.catalog⟩ := by
  by_cases hdb : t.getStorageID.databaseName = db.databaseName
  · by_cases hu : t.getStorageID.hasUUID
    · cases ha : s.catalog.addUUIDMapping t.getStorageID.uuid db.self t with
      | none =>
        simp [attachTableUnlocked, hdb, hu, ha, addUUIDMapping,
          DatabaseCatalog.addUUIDMapping_eq_none.mp ha]
      | some c =>
        obtain ⟨hm, rfl⟩ := DatabaseCatalog.addUUIDMapping_eq_some.mp ha
        by_cases hn : s.tables.contains n <;>
          simp [attachTableUnlocked, hdb, hu, ha, hm, hn, addUUIDMapping, StdMap.emplace,
            removeUUIDMapping, DatabaseCatalog.removeUUIDMapping]
    · by_cases hn : s.tables.contains n <;> simp [attachTableUnlocked, hdb, hu, hn, StdMap.emplace]
  · simp [attachTableUnlocked, hdb]

/-- `detachTableUnlocked` throws when the name is not attached, and otherwise erases the entry
before it unmaps the table, so a failed unmapping leaves the entry erased. -/
theorem detachTableUnlocked_eq (n : String) (s : State) :
    db.detachTableUnlocked n s =
      match s.tables.find n with
      | none => .error (tableDoesntExist db.databaseName n) s
      | some t =>
        if t.getStorageID.hasUUID then
          match s.catalog.removeUUIDMapping t.getStorageID.uuid with
          | some c => .ok t ⟨s.tables.erase n, c⟩
          | none => .error (.uuidMapping t.getStorageID.uuid) { s with tables := s.tables.erase n }
        else .ok t { s with tables := s.tables.erase n } := by
  cases hf : s.tables.find n with
  | none => simp [detachTableUnlocked, hf]
  | some t =>
    by_cases hu : t.getStorageID.hasUUID
    · cases hr : s.catalog.removeUUIDMapping t.getStorageID.uuid <;>
        simp [detachTableUnlocked, hf, hu, hr, removeUUIDMapping]
    · simp [detachTableUnlocked, hf, hu]

@[simp] theorem shutdownTable_error (kv : TableEntry) (e : Exception) (s : State) :
    shutdownTable kv (.error e) s = .error e s := rfl

theorem shutdownTable_ok (kv : TableEntry) (u : Unit) (s : State) :
    shutdownTable kv (.ok u) s =
      if kv.2.getStorageID.hasUUID then removeUUIDMapping kv.2.getStorageID.uuid s
      else .ok () s := by
  by_cases hu : kv.2.getStorageID.hasUUID <;> simp [shutdownTable, hu]

/-- The first loop of `shutdown` throws the first exception of a `flush()` and changes nothing. -/
theorem forM_ofExcept (f : TableEntry → Except Exception Unit) (l : List TableEntry)
    (s : State) :
    (l.forM fun kv ↦ (MonadExcept.ofExcept (f kv) : EStateM Exception State Unit)) s =
      match l.forM f with
      | .ok () => .ok () s
      | .error e => .error e s := by
  induction l with
  | nil => rfl
  | cons kv l ih => cases h : f kv <;> simp [h, ih]

/-- The second loop of `shutdown` unmaps the tables whose `flushAndShutdown()` returned, up to
the first that throws, provided every table with a UUID has a catalog entry to remove. -/
theorem forM_shutdownTable (g : TableEntry → Except Exception Unit) (l : List TableEntry)
    (s : State) (hl : ∀ kv ∈ l, kv.2.getStorageID.hasUUID →
      (s.catalog.uuidMap kv.2.getStorageID.uuid).isSome) :
    (l.forM fun kv ↦ shutdownTable kv (g kv)) s =
      match l.forM g with
      | .ok () => .ok () { s with catalog := s.catalog.unmapTables l }
      | .error e => .error e
          { s with catalog := s.catalog.unmapTables (l.takeWhile fun kv ↦ (g kv).isOk) } := by
  induction l generalizing s with
  | nil => rfl
  | cons kv l ih =>
    cases h : g kv with
    | error e => simp [h]
    | ok u =>
      by_cases hu : kv.2.getStorageID.hasUUID
      · have ih' := ih { s with catalog := s.catalog.set kv.2.getStorageID.uuid none }
          fun kv' hkv' hu' ↦ DatabaseCatalog.isSome_uuidMap_set (hl kv' (by simp [hkv']) hu') _ _
        simp [shutdownTable_ok, hu, removeUUIDMapping_of_isSome (hl kv (by simp) hu), ih', h,
          DatabaseCatalog.unmapTables_cons]
      · have ih' := ih s fun kv' hkv' ↦ hl kv' (by simp [hkv'])
        simp [shutdownTable_ok, hu, ih', h, DatabaseCatalog.unmapTables_cons]

/-- `shutdown` from a state whose attached tables all have catalog entries: the first loop
throws the first exception of a `flush()`, leaving everything as it was; the second unmaps the
tables in turn until a `flushAndShutdown()` throws; only a shutdown that gets through both loops
clears `tables`. -/
theorem shutdown_eq (calls : StorageCalls) (s : State)
    (hs : ∀ kv ∈ s.tables.entries, kv.2.getStorageID.hasUUID →
      (s.catalog.uuidMap kv.2.getStorageID.uuid).isSome) :
    shutdown calls s =
      match s.tables.entries.forM calls.flush with
      | .error e => .error e s
      | .ok () =>
        match s.tables.entries.forM calls.flushAndShutdown with
        | .ok () => .ok () ⟨StdMap.empty, s.catalog.unmapTables s.tables.entries⟩
        | .error e => .error e { s with
            catalog := s.catalog.unmapTables
              (s.tables.entries.takeWhile fun kv ↦ (calls.flushAndShutdown kv).isOk) } := by
  cases h₁ : s.tables.entries.forM calls.flush <;>
    cases h₂ : s.tables.entries.forM calls.flushAndShutdown <;>
    simp [shutdown, forM_ofExcept, forM_shutdownTable _ _ _ hs, h₁, h₂]

end Database

end Daisy.Databases
