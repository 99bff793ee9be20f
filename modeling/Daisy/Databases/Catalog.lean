import Daisy.Databases.Types

/-!
# The catalog's UUID map

`DatabaseWithOwnTablesBase` registers every table that has a UUID with the global
`DatabaseCatalog`, through `addUUIDMapping` and `removeUUIDMapping`.  The catalog itself is not
among the modelled sources; its UUID map is modelled by what the database layer relies on: a
partial map from UUIDs to a database and a table, where an entry may also be *empty* (mapped to
no table).  Adding fails when the UUID is already mapped to a table and fills an empty entry;
removing fails when there is no entry at all, and otherwise empties it.

What the database layer is judged by is `mappedTable`, the UUID → table mapping: it forgets the
difference between a missing entry and an empty one.
-/

namespace Daisy.Databases

/-- Modelled from the spec: `DatabaseCatalog`'s UUID map.  `uuidMap u` is `none` when `u` has no
entry, `some none` for an empty entry, and `some (some (db, t))` when `u` is mapped to table `t`
of database `db`. -/
structure DatabaseCatalog where
  /-- The entry of each UUID. -/
  uuidMap : UUID → Option (Option (DatabasePtr × StoragePtr))

namespace DatabaseCatalog

/-- The catalog with the entry of `uuid` replaced by `e`. -/
def set (c : DatabaseCatalog) (uuid : UUID) (e : Option (DatabasePtr × StoragePtr)) :
    DatabaseCatalog :=
  ⟨Function.update c.uuidMap uuid (some e)⟩

/-- Modelled from the spec: `addUUIDMapping(uuid, database, table)`; `none` when it throws,
which it does when `uuid` is already mapped to a table. -/
def addUUIDMapping (c : DatabaseCatalog) (uuid : UUID) (database : DatabasePtr)
    (table : StoragePtr) : Option DatabaseCatalog :=
  match c.uuidMap uuid with
  | some (some _) => none
  | _ => some (c.set uuid (some (database, table)))

/-- Modelled from the spec: `removeUUIDMapping(uuid)`; `none` when it throws, which it does when
`uuid` has no entry.  Otherwise the entry is left mapped to no table. -/
def removeUUIDMapping (c : DatabaseCatalog) (uuid : UUID) : Option DatabaseCatalog :=
  match c.uuidMap uuid with
  | none => none
  | some _ => some (c.set uuid none)

/-- The UUID → table mapping: the database and table `uuid` is mapped to, if any. -/
def mappedTable (c : DatabaseCatalog) (uuid : UUID) : Option (DatabasePtr × StoragePtr) :=
  (c.uuidMap uuid).join

/-! ## The mapping through each operation -/

@[simp] theorem uuidMap_set (c : DatabaseCatalog) (u u' : UUID)
    (e : Option (DatabasePtr × StoragePtr)) :
    (c.set u e).uuidMap u' = if u' = u then some e else c.uuidMap u' := by
  simp [set, Function.update_apply]

@[simp] theorem mappedTable_set (c : DatabaseCatalog) (u u' : UUID)
    (e : Option (DatabasePtr × StoragePtr)) :
    (c.set u e).mappedTable u' = if u' = u then e else c.mappedTable u' := by
  by_cases h : u' = u <;> simp [mappedTable, h]

/-- The mapping after setting the entry of `u` only when `b` holds. -/
theorem mappedTable_ite_set (c : DatabaseCatalog) (b : Bool) (u u' : UUID)
    (e : Option (DatabasePtr × StoragePtr)) :
    (if b then c.set u e else c).mappedTable u' = if b ∧ u' = u then e else c.mappedTable u' := by
  cases b <;> simp

@[simp] theorem set_set (c : DatabaseCatalog) (u : UUID)
    (e e' : Option (DatabasePtr × StoragePtr)) : (c.set u e).set u e' = c.set u e' := by
  simp [set]

/-- Setting an entry keeps every entry there was. -/
theorem isSome_uuidMap_set {c : DatabaseCatalog} {v : UUID} (h : (c.uuidMap v).isSome) (u : UUID)
    (e : Option (DatabasePtr × StoragePtr)) : ((c.set u e).uuidMap v).isSome := by
  by_cases hv : v = u <;> simp [hv, h]

/-- Mapping a UUID to what it is already mapped to changes nothing. -/
theorem set_of_mappedTable {c : DatabaseCatalog} {u : UUID} {p : DatabasePtr × StoragePtr}
    (h : c.mappedTable u = some p) : c.set u (some p) = c := by
  have : c.uuidMap u = some (some p) := by
    rcases hu : c.uuidMap u with _ | _ | _ <;> simp_all [mappedTable]
  cases c
  simp only [set, DatabaseCatalog.mk.injEq]
  exact Function.update_eq_self_iff.mpr this.symm

/-- Adding succeeds exactly when the UUID is mapped to no table, and then maps it. -/
theorem addUUIDMapping_eq_some {c c' : DatabaseCatalog} {u : UUID} {d : DatabasePtr}
    {t : StoragePtr} :
    c.addUUIDMapping u d t = some c' ↔ c.mappedTable u = none ∧ c' = c.set u (some (d, t)) := by
  rcases hu : c.uuidMap u with _ | _ | _ <;> simp [addUUIDMapping, mappedTable, hu, eq_comm]

theorem addUUIDMapping_eq_none {c : DatabaseCatalog} {u : UUID} {d : DatabasePtr}
    {t : StoragePtr} : c.addUUIDMapping u d t = none ↔ (c.mappedTable u).isSome := by
  rcases hu : c.uuidMap u with _ | _ | _ <;> simp [addUUIDMapping, mappedTable, hu]

/-- Removing succeeds exactly when the UUID has an entry, and then empties it. -/
theorem removeUUIDMapping_eq_some {c c' : DatabaseCatalog} {u : UUID} :
    c.removeUUIDMapping u = some c' ↔ (c.uuidMap u).isSome ∧ c' = c.set u none := by
  rcases hu : c.uuidMap u with _ | _ <;> simp [removeUUIDMapping, hu, eq_comm]

theorem removeUUIDMapping_eq_none {c : DatabaseCatalog} {u : UUID} :
    c.removeUUIDMapping u = none ↔ c.uuidMap u = none := by
  rcases hu : c.uuidMap u with _ | _ <;> simp [removeUUIDMapping, hu]

/-- A UUID mapped to a table has an entry, so removing it cannot fail. -/
theorem isSome_uuidMap_of_mappedTable {c : DatabaseCatalog} {u : UUID}
    {p : DatabasePtr × StoragePtr} (h : c.mappedTable u = some p) : (c.uuidMap u).isSome := by
  rcases hu : c.uuidMap u with _ | _ <;> simp_all [mappedTable]

/-! ## Unmapping a list of tables -/

/-- The catalog once the tables of `l` that have a UUID are unmapped, one after the other. -/
def unmapTables (c : DatabaseCatalog) (l : List TableEntry) : DatabaseCatalog :=
  l.foldl (fun c kv ↦ if kv.2.getStorageID.hasUUID then c.set kv.2.getStorageID.uuid none else c) c

@[simp] theorem unmapTables_nil (c : DatabaseCatalog) : c.unmapTables [] = c := rfl

theorem unmapTables_cons (c : DatabaseCatalog) (kv : TableEntry) (l : List TableEntry) :
    c.unmapTables (kv :: l) =
      (if kv.2.getStorageID.hasUUID then c.set kv.2.getStorageID.uuid none else c).unmapTables l :=
  rfl

/-- After unmapping, a UUID is mapped as before unless a table of `l` carries it. -/
theorem mappedTable_unmapTables (c : DatabaseCatalog) (l : List TableEntry) (u : UUID) :
    (c.unmapTables l).mappedTable u =
      if ∃ kv ∈ l, kv.2.getStorageID.hasUUID ∧ kv.2.getStorageID.uuid = u then none
      else c.mappedTable u := by
  induction l generalizing c with
  | nil => simp
  | cons kv l ih =>
    rw [unmapTables_cons, ih]
    by_cases hl : ∃ kv ∈ l, kv.2.getStorageID.hasUUID ∧ kv.2.getStorageID.uuid = u
    · simp [hl]
    · by_cases hu : kv.2.getStorageID.hasUUID <;> by_cases he : kv.2.getStorageID.uuid = u <;>
        simp [hl, hu, he, Ne.symm]

end DatabaseCatalog

end Daisy.Databases
