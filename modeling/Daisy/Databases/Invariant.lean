import Daisy.Databases.Common

/-!
# The UUID-mapping invariant

A database and the catalog agree on which of its tables are registered: the catalog maps a
non-Nil UUID to this database and a table exactly when that table is attached under some name
and carries the UUID; no two attached tables share a non-Nil UUID; and every attached table
names this database.  This file proves that every run of whole calls from a fresh database keeps
the invariant (`reachable_uuidMappingInv`), and what it buys: the calls fail exactly at their
checks and leave nothing behind when they do (`calls_throw_iff_and_leave_state`), and `DETACH`
and `ATTACH` of the same handle undo each other (`attach_detach_roundtrip`).

A failed attach can leave an *empty* catalog entry where there was none; the invariant looks
only at the UUID → table mapping `mappedTable`, which does not tell an empty entry from a missing
one.
-/

namespace Daisy.Databases

/-- The state a call leaves, whether it returns or throws. -/
def stateAfter {α : Type} : EStateM.Result Exception State α → State
  | .ok _ s => s
  | .error _ s => s

@[simp] theorem stateAfter_ok {α : Type} (a : α) (s : State) : stateAfter (.ok a s) = s := rfl

@[simp] theorem stateAfter_error {α : Type} (e : Exception) (s : State) :
    stateAfter (.error e s : EStateM.Result Exception State α) = s := rfl

namespace Database

variable (db : Database)

/-- The UUID-mapping invariant of `db` in state `s`. -/
structure UUIDMappingInv (s : State) : Prop where
  /-- The catalog maps a non-Nil UUID to this database and `t` exactly when `t` is attached
  and carries that UUID. -/
  mapped_iff : ∀ u, u ≠ UUIDHelpers.Nil → ∀ t, s.catalog.mappedTable u = some (db.self, t) ↔
    (∃ n, s.tables.find n = some t) ∧ t.getStorageID.uuid = u
  /-- No two entries carry the same non-Nil UUID. -/
  uuid_unique : ∀ n₁ n₂ t₁ t₂, s.tables.find n₁ = some t₁ → s.tables.find n₂ = some t₂ →
    t₁.getStorageID.uuid = t₂.getStorageID.uuid → t₁.getStorageID.uuid ≠ UUIDHelpers.Nil →
    n₁ = n₂
  /-- Every attached table names this database. -/
  databaseName_eq : ∀ n t, s.tables.find n = some t →
    t.getStorageID.databaseName = db.databaseName

/-- States reachable from a fresh database by whole calls: `attachTable` and `detachTable`,
returning or throwing, and `shutdown` calls that return. -/
inductive Reachable : State → Prop
  | /-- No table attached, and no catalog entry names the database. -/
    init (c : DatabaseCatalog) (hc : ∀ u t, c.mappedTable u ≠ some (db.self, t)) :
      Reachable ⟨StdMap.empty, c⟩
  | attachTable {s : State} (n : String) (t : StoragePtr) :
      Reachable s → Reachable (stateAfter (db.attachTable n t s))
  | detachTable {s : State} (n : String) :
      Reachable s → Reachable (stateAfter (db.detachTable n s))
  | shutdown {s s' : State} (calls : StorageCalls) :
      Reachable s → shutdown calls s = .ok () s' → Reachable s'

/-- A fresh database satisfies the invariant. -/
theorem uuidMappingInv_init {db : Database} (c : DatabaseCatalog)
    (hc : ∀ u t, c.mappedTable u ≠ some (db.self, t)) : db.UUIDMappingInv ⟨StdMap.empty, c⟩ where
  mapped_iff u _ t := by simpa using hc u t
  uuid_unique := by simp
  databaseName_eq := by simp

end Database

/-! ## A database and two tables to run the calls on -/

/-- A database named `db`. -/
def db₀ : Database := ⟨⟨0⟩, "db"⟩

/-- A table `db.a` with UUID 1. -/
def table₁ : StoragePtr := ⟨1, ⟨"db", "a", ⟨1⟩⟩⟩

/-- A table `db.b` with UUID 2. -/
def table₂ : StoragePtr := ⟨2, ⟨"db", "b", ⟨2⟩⟩⟩

/-- No table attached, and an empty catalog. -/
def emptyState : State := ⟨StdMap.empty, ⟨fun _ ↦ none⟩⟩

/-- `a` attached to `table₁` and `b` to `table₂`. -/
def tables₁₂ : Tables :=
  ⟨[⟨"a", table₁⟩, ⟨"b", table₂⟩], by simp [String.lt_iff_toList_lt]; decide⟩

/-- The catalog with both tables mapped to `db₀`. -/
def catalog₁₂ : DatabaseCatalog :=
  ⟨fun u ↦ if u = table₁.getStorageID.uuid then some (some (db₀.self, table₁))
    else if u = table₂.getStorageID.uuid then some (some (db₀.self, table₂)) else none⟩

theorem reachable_emptyState {db : Database} : db.Reachable emptyState :=
  .init _ fun _ _ ↦ by simp [DatabaseCatalog.mappedTable]

theorem uuidMappingInv_emptyState {db : Database} : db.UUIDMappingInv emptyState :=
  Database.uuidMappingInv_init _ fun _ _ ↦ by simp [DatabaseCatalog.mappedTable]

theorem find_tables₁₂ {n : String} {t : StoragePtr} :
    tables₁₂.find n = some t ↔ n = "a" ∧ t = table₁ ∨ n = "b" ∧ t = table₂ := by
  rw [← StdMap.mem_entries]
  simp [tables₁₂, eq_comm]

theorem uuidMappingInv_tables₁₂ : db₀.UUIDMappingInv ⟨tables₁₂, catalog₁₂⟩ where
  mapped_iff u _ t := by
    have : (∃ n, tables₁₂.find n = some t) ↔ t = table₁ ∨ t = table₂ := by
      simp only [find_tables₁₂]; aesop
    rw [this]
    constructor
    · intro h
      simp only [DatabaseCatalog.mappedTable, catalog₁₂] at h
      split_ifs at h <;> cases h <;> simp [*]
    · rintro ⟨rfl | rfl, rfl⟩ <;> rfl
  uuid_unique n₁ n₂ t₁ t₂ h₁ h₂ := by
    rw [find_tables₁₂] at h₁ h₂
    rcases h₁ with ⟨rfl, rfl⟩ | ⟨rfl, rfl⟩ <;> rcases h₂ with ⟨rfl, rfl⟩ | ⟨rfl, rfl⟩ <;>
      simp [table₁, table₂, StoragePtr.getStorageID]
  databaseName_eq n t h := by
    rw [find_tables₁₂] at h
    rcases h with ⟨-, rfl⟩ | ⟨-, rfl⟩ <;> rfl

namespace Database

/-! ## What a call can do

Inversion lemmas, read off the spec lemmas of `Daisy.Databases.Common`. -/

variable {db : Database}

/-- A returning attach passed its three checks and inserted the table, mapping its UUID. -/
theorem attachTable_ok {n : String} {t : StoragePtr} {s s' : State} {u : Unit}
    (h : db.attachTable n t s = .ok u s') :
    t.getStorageID.databaseName = db.databaseName ∧
      (t.getStorageID.hasUUID → s.catalog.mappedTable t.getStorageID.uuid = none) ∧
      s.tables.find n = none ∧
      s' = ⟨s.tables.insert n t, if t.getStorageID.hasUUID then
        s.catalog.set t.getStorageID.uuid (some (db.self, t)) else s.catalog⟩ := by
  rw [attachTable, attachTableUnlocked_eq] at h
  split_ifs at h with h₁ h₂ h₃ hu <;> cases h <;>
    simp_all [StdMap.contains_eq_isSome, Option.isNone_iff_eq_none]

/-- A failed attach leaves `tables` and the UUID → table mapping as they were. -/
theorem attachTable_error {n : String} {t : StoragePtr} {s s' : State} {e : Exception}
    (h : db.attachTable n t s = .error e s') :
    s'.tables = s.tables ∧ s'.catalog.mappedTable = s.catalog.mappedTable := by
  rw [attachTable, attachTableUnlocked_eq] at h
  split_ifs at h with h₁ h₂ h₃ hu <;> cases h <;> refine ⟨rfl, funext fun u ↦ ?_⟩
  all_goals try rfl
  have : s.catalog.mappedTable t.getStorageID.uuid = none := by simpa [hu] using h₂
  by_cases he : u = t.getStorageID.uuid <;> simp [he, this]

/-- `attachTable` throws exactly when one of its three checks fails. -/
theorem attachTable_error_iff {n : String} {t : StoragePtr} {s : State} :
    (∃ e s', db.attachTable n t s = .error e s') ↔
      t.getStorageID.databaseName ≠ db.databaseName ∨
      (t.getStorageID.hasUUID ∧ (s.catalog.mappedTable t.getStorageID.uuid).isSome) ∨
      s.tables.contains n := by
  rw [attachTable, attachTableUnlocked_eq]
  split_ifs <;> simp_all

/-- Detaching an absent name throws and changes nothing. -/
theorem detachTable_of_find_none {n : String} {s : State} (hf : s.tables.find n = none) :
    db.detachTable n s = .error (tableDoesntExist db.databaseName n) s := by
  simp [detachTable, detachTableUnlocked_eq, hf]

namespace UUIDMappingInv

variable {s : State}

/-- An attached table with a UUID is mapped to this database. -/
theorem mappedTable_of_find (hinv : db.UUIDMappingInv s) {n : String} {t : StoragePtr}
    (hf : s.tables.find n = some t) (hu : t.getStorageID.hasUUID) :
    s.catalog.mappedTable t.getStorageID.uuid = some (db.self, t) :=
  (hinv.mapped_iff _ ((StorageID.hasUUID_iff _).mp hu) t).mpr ⟨⟨n, hf⟩, rfl⟩

/-- The invariant reads only `tables` and the UUID → table mapping. -/
theorem congr (hinv : db.UUIDMappingInv s) {s' : State} (ht : s'.tables = s.tables)
    (hc : s'.catalog.mappedTable = s.catalog.mappedTable) : db.UUIDMappingInv s' where
  mapped_iff u hu t := by rw [ht, hc]; exact hinv.mapped_iff u hu t
  uuid_unique := ht ▸ hinv.uuid_unique
  databaseName_eq := ht ▸ hinv.databaseName_eq

end UUIDMappingInv

/-- Under the invariant, detaching an attached name returns its table: the entry is erased and
the table unmapped, and the unmapping cannot fail. -/
theorem detachTable_of_find {n : String} {t : StoragePtr} {s : State}
    (hinv : db.UUIDMappingInv s) (hf : s.tables.find n = some t) :
    db.detachTable n s = .ok t ⟨s.tables.erase n, if t.getStorageID.hasUUID then
      s.catalog.set t.getStorageID.uuid none else s.catalog⟩ := by
  by_cases hu : t.getStorageID.hasUUID
  · obtain ⟨c, hc⟩ := Option.isSome_iff_exists.mp
      (DatabaseCatalog.isSome_uuidMap_of_mappedTable (hinv.mappedTable_of_find hf hu))
    simp [detachTable, detachTableUnlocked_eq, hf, hu, DatabaseCatalog.removeUUIDMapping, hc]
  · simp [detachTable, detachTableUnlocked_eq, hf, hu]

/-! ## Each call keeps the invariant -/

/-- A returning attach keeps the invariant: the new entry is the only one with its UUID,
because the catalog had it mapped to no table. -/
theorem UUIDMappingInv.attachTable_ok {n : String} {t : StoragePtr} {s s' : State} {u : Unit}
    (hinv : db.UUIDMappingInv s) (h : db.attachTable n t s = .ok u s') : db.UUIDMappingInv s' := by
  obtain ⟨hdb, hfree, hn, rfl⟩ := Database.attachTable_ok h
  -- an old entry carrying `t`'s UUID would have kept that UUID mapped
  have hold : ∀ n' t', s.tables.find n' = some t' →
      t'.getStorageID.uuid = t.getStorageID.uuid → ¬ t.getStorageID.hasUUID := by
    intro n' t' hf' he ht
    have := hinv.mappedTable_of_find hf' (by rwa [StorageID.hasUUID, he])
    rw [he, hfree ht] at this
    cases this
  constructor
  · intro v hv t'
    rw [StdMap.exists_find_insert hn, DatabaseCatalog.mappedTable_ite_set]
    split_ifs with hc
    · obtain ⟨ht, rfl⟩ := hc
      simp only [Option.some.injEq, Prod.mk.injEq, true_and]
      constructor
      · rintro rfl; exact ⟨.inl rfl, rfl⟩
      · rintro ⟨rfl | ⟨n', hf'⟩, he⟩
        · rfl
        · exact absurd ht (hold n' t' hf' he)
    · rw [hinv.mapped_iff v hv]
      constructor
      · rintro ⟨ho, he⟩; exact ⟨.inr ho, he⟩
      · rintro ⟨rfl | ho, he⟩
        · exact absurd ⟨(StorageID.hasUUID_iff _).mpr (he ▸ hv), he.symm⟩ hc
        · exact ⟨ho, he⟩
  · intro n₁ n₂ t₁ t₂ hf₁ hf₂ he hne
    simp only [StdMap.find_insert] at hf₁ hf₂
    split_ifs at hf₁ hf₂ with h₁ h₂ h₂
    · exact h₁.trans h₂.symm
    · cases hf₁
      exact absurd ((StorageID.hasUUID_iff _).mpr hne) (hold n₂ t₂ hf₂ he.symm)
    · cases hf₂
      exact absurd ((StorageID.hasUUID_iff _).mpr (he ▸ hne)) (hold n₁ t₁ hf₁ he)
    · exact hinv.uuid_unique n₁ n₂ t₁ t₂ hf₁ hf₂ he hne
  · intro n' t' hf'
    simp only [StdMap.find_insert] at hf'
    split_ifs at hf'
    · cases hf'; exact hdb
    · exact hinv.databaseName_eq n' t' hf'

/-- A returning detach keeps the invariant: the erased entry was the only one with its UUID. -/
theorem UUIDMappingInv.detachTable_of_find {n : String} {t : StoragePtr} {s : State}
    (hinv : db.UUIDMappingInv s) (hf : s.tables.find n = some t) :
    db.UUIDMappingInv ⟨s.tables.erase n, if t.getStorageID.hasUUID then
      s.catalog.set t.getStorageID.uuid none else s.catalog⟩ := by
  -- an entry carrying `t`'s non-Nil UUID is `n` itself
  have hsame : ∀ n' t', s.tables.find n' = some t' → t'.getStorageID.uuid = t.getStorageID.uuid →
      t.getStorageID.hasUUID → n' = n := fun n' t' hf' he ht ↦
    hinv.uuid_unique n' n t' t hf' hf he (he ▸ (StorageID.hasUUID_iff _).mp ht)
  constructor
  · intro v hv t'
    simp only [StdMap.exists_find_erase, DatabaseCatalog.mappedTable_ite_set]
    split_ifs with hc
    · obtain ⟨ht, rfl⟩ := hc
      simp only [reduceCtorEq, false_iff]
      rintro ⟨⟨n', hn', hf'⟩, he⟩
      exact hn' (hsame n' t' hf' he ht)
    · rw [hinv.mapped_iff v hv]
      constructor
      · rintro ⟨⟨n', hf'⟩, he⟩
        refine ⟨⟨n', fun hn ↦ hc ?_, hf'⟩, he⟩
        subst hn; rw [hf] at hf'; cases hf'
        exact ⟨(StorageID.hasUUID_iff _).mpr (he ▸ hv), he.symm⟩
      · rintro ⟨⟨n', -, hf'⟩, he⟩; exact ⟨⟨n', hf'⟩, he⟩
  · intro n₁ n₂ t₁ t₂ hf₁ hf₂
    simp only [StdMap.find_erase] at hf₁ hf₂
    split_ifs at hf₁ hf₂
    exact hinv.uuid_unique n₁ n₂ t₁ t₂ hf₁ hf₂
  · intro n' t' hf'
    simp only [StdMap.find_erase] at hf'
    split_ifs at hf'
    exact hinv.databaseName_eq n' t' hf'

/-- Under the invariant, every attached table with a UUID has a catalog entry, so `shutdown`'s
unmappings cannot fail. -/
theorem UUIDMappingInv.isSome_uuidMap {s : State} (hinv : db.UUIDMappingInv s) :
    ∀ kv ∈ s.tables.entries, kv.2.getStorageID.hasUUID →
      (s.catalog.uuidMap kv.2.getStorageID.uuid).isSome := by
  rintro ⟨n, t⟩ hkv hu
  exact DatabaseCatalog.isSome_uuidMap_of_mappedTable
    (hinv.mappedTable_of_find (StdMap.mem_entries.mp hkv) hu)

/-- Under the invariant, a returning `shutdown` leaves no table attached and every mapping of
its tables emptied. -/
theorem shutdown_ok {calls : StorageCalls} {s s' : State} {u : Unit} (hinv : db.UUIDMappingInv s)
    (h : shutdown calls s = .ok u s') :
    s' = ⟨StdMap.empty, s.catalog.unmapTables s.tables.entries⟩ := by
  rw [shutdown_eq calls s hinv.isSome_uuidMap] at h
  split at h
  · cases h
  · split at h <;> cases h; rfl

/-- A returning `shutdown` keeps the invariant: it unmaps every table that was mapped to the
database. -/
theorem UUIDMappingInv.shutdown_ok {calls : StorageCalls} {s s' : State} {u : Unit}
    (hinv : db.UUIDMappingInv s) (h : shutdown calls s = .ok u s') : db.UUIDMappingInv s' := by
  rw [Database.shutdown_ok hinv h]
  constructor
  · intro v hv t'
    simp only [StdMap.find_empty, reduceCtorEq, exists_const, false_and, iff_false,
      DatabaseCatalog.mappedTable_unmapTables]
    split_ifs with hl
    · simp
    · intro hm
      obtain ⟨⟨n, hf⟩, he⟩ := (hinv.mapped_iff v hv t').mp hm
      exact hl ⟨⟨n, t'⟩, StdMap.mem_entries.mpr hf, (StorageID.hasUUID_iff _).mpr (he ▸ hv), he⟩
  · simp
  · simp

/-- From a state satisfying the invariant, a returning `shutdown` leaves the database as fresh
as it started: no table attached, and no non-Nil UUID mapped to it.  This is the whole-call
setting of `Daisy.Databases.Common`, where no call re-enters the database while `shutdown` runs;
a table's `flush()` that attaches a table is an interleaving, and that table keeps its mapping
(`Daisy.Databases.ShutdownRace`). -/
theorem shutdown_ok_leaves_fresh {calls : StorageCalls} {s s' : State} {u : Unit}
    (hinv : db.UUIDMappingInv s) (h : shutdown calls s = .ok u s') :
    s'.tables = StdMap.empty ∧
      ∀ v, v ≠ UUIDHelpers.Nil → ∀ t, s'.catalog.mappedTable v ≠ some (db.self, t) := by
  have hinv' := hinv.shutdown_ok h
  rw [Database.shutdown_ok hinv h] at hinv' ⊢
  exact ⟨rfl, fun v hv t hm ↦ by simpa using (hinv'.mapped_iff v hv t).mp hm⟩

/-- Shutting down `a` and `b` with every storage call returning. -/
theorem shutdown_tables₁₂_fresh :
    db₀.UUIDMappingInv ⟨tables₁₂, catalog₁₂⟩ ∧
      ∃ s', shutdown ⟨fun _ ↦ .ok (), fun _ ↦ .ok ()⟩ ⟨tables₁₂, catalog₁₂⟩ = .ok () s' ∧
        s'.tables = StdMap.empty ∧
        ∀ v, v ≠ UUIDHelpers.Nil → ∀ t, s'.catalog.mappedTable v ≠ some (db₀.self, t) :=
  have h : shutdown ⟨fun _ ↦ .ok (), fun _ ↦ .ok ()⟩ ⟨tables₁₂, catalog₁₂⟩ =
      .ok () ⟨StdMap.empty, catalog₁₂.unmapTables tables₁₂.entries⟩ := rfl
  ⟨uuidMappingInv_tables₁₂, _, h, shutdown_ok_leaves_fresh uuidMappingInv_tables₁₂ h⟩

/-! ## Every reachable state satisfies the invariant -/

/-- Every state reached from a fresh database by `attachTable` and `detachTable` calls, returning
or throwing, and returning `shutdown` calls satisfies the UUID-mapping invariant. -/
theorem reachable_uuidMappingInv {s : State} (h : db.Reachable s) : db.UUIDMappingInv s := by
  induction h with
  | init c hc => exact uuidMappingInv_init c hc
  | @attachTable s n t _ ih =>
    cases hr : db.attachTable n t s with
    | ok u s' => exact ih.attachTable_ok hr
    | error e s' =>
      obtain ⟨ht, hc⟩ := attachTable_error hr
      exact ih.congr ht hc
  | @detachTable s n _ ih =>
    cases hf : s.tables.find n with
    | none => simpa [detachTable_of_find_none hf] using ih
    | some t => simpa [detachTable_of_find ih hf] using ih.detachTable_of_find hf
  | shutdown calls _ hs ih => exact ih.shutdown_ok hs

/-- Attaching `table₁` as `a` to a fresh `db₀` reaches a state satisfying the invariant. -/
theorem attach_a_uuidMappingInv :
    db₀.Reachable (stateAfter (db₀.attachTable "a" table₁ emptyState)) ∧
      db₀.UUIDMappingInv (stateAfter (db₀.attachTable "a" table₁ emptyState)) :=
  have h : db₀.Reachable (stateAfter (db₀.attachTable "a" table₁ emptyState)) :=
    .attachTable "a" table₁ reachable_emptyState
  ⟨h, reachable_uuidMappingInv h⟩

/-! ## Failing calls change nothing -/

/-- Under the invariant, `detachTable` throws exactly when the name is not attached. -/
theorem detachTable_error_iff {n : String} {s : State} (hinv : db.UUIDMappingInv s) :
    (∃ e s', db.detachTable n s = .error e s') ↔ s.tables.contains n = false := by
  cases hf : s.tables.find n with
  | none => simp [detachTable_of_find_none hf, StdMap.contains_eq_isSome, hf]
  | some t => simp [detachTable_of_find hinv hf, StdMap.contains_eq_isSome, hf]

/-- Under the invariant, a throwing `detachTable` changes nothing. -/
theorem detachTable_error {n : String} {s s' : State} {e : Exception}
    (hinv : db.UUIDMappingInv s) (h : db.detachTable n s = .error e s') : s' = s := by
  cases hf : s.tables.find n with
  | none => rw [detachTable_of_find_none hf] at h; cases h; rfl
  | some t => rw [detachTable_of_find hinv hf] at h; cases h

/-- From a state satisfying the UUID-mapping invariant, `attachTable` throws exactly when the
table names another database, carries a non-Nil UUID the catalog already maps to a table, or
its name is taken; `detachTable` throws exactly when the name is not attached; and a throwing
call leaves `tables` and the UUID → table mapping as they were. -/
theorem calls_throw_iff_and_leave_state {s : State} (hinv : db.UUIDMappingInv s) (n : String)
    (t : StoragePtr) :
    ((∃ e s', db.attachTable n t s = .error e s') ↔
        t.getStorageID.databaseName ≠ db.databaseName ∨
        (t.getStorageID.hasUUID ∧ (s.catalog.mappedTable t.getStorageID.uuid).isSome) ∨
        s.tables.contains n) ∧
    ((∃ e s', db.detachTable n s = .error e s') ↔ s.tables.contains n = false) ∧
    (∀ e s', db.attachTable n t s = .error e s' →
        s'.tables = s.tables ∧ s'.catalog.mappedTable = s.catalog.mappedTable) ∧
    (∀ e s', db.detachTable n s = .error e s' →
        s'.tables = s.tables ∧ s'.catalog.mappedTable = s.catalog.mappedTable) :=
  ⟨attachTable_error_iff, detachTable_error_iff hinv, fun _ _ h ↦ attachTable_error h,
    fun _ _ h ↦ by rw [detachTable_error hinv h]; exact ⟨rfl, rfl⟩⟩

/-- The characterisation for `table₁` as `a` on `db₀` holding `a` and `b`, where attaching `a`
again throws because the name is taken. -/
theorem calls_throw_on_tables₁₂ :
    db₀.UUIDMappingInv ⟨tables₁₂, catalog₁₂⟩ ∧
    (∃ e s', db₀.attachTable "a" table₁ ⟨tables₁₂, catalog₁₂⟩ = .error e s') ∧
    (((∃ e s', db₀.attachTable "a" table₁ ⟨tables₁₂, catalog₁₂⟩ = .error e s') ↔
        table₁.getStorageID.databaseName ≠ db₀.databaseName ∨
        (table₁.getStorageID.hasUUID ∧
          (catalog₁₂.mappedTable table₁.getStorageID.uuid).isSome) ∨
        tables₁₂.contains "a") ∧
    ((∃ e s', db₀.detachTable "a" ⟨tables₁₂, catalog₁₂⟩ = .error e s') ↔
      tables₁₂.contains "a" = false) ∧
    (∀ e s', db₀.attachTable "a" table₁ ⟨tables₁₂, catalog₁₂⟩ = .error e s' →
        s'.tables = tables₁₂ ∧ s'.catalog.mappedTable = catalog₁₂.mappedTable) ∧
    (∀ e s', db₀.detachTable "a" ⟨tables₁₂, catalog₁₂⟩ = .error e s' →
        s'.tables = tables₁₂ ∧ s'.catalog.mappedTable = catalog₁₂.mappedTable)) :=
  ⟨uuidMappingInv_tables₁₂, ⟨_, _, rfl⟩,
    calls_throw_iff_and_leave_state uuidMappingInv_tables₁₂ "a" table₁⟩

/-! ## `DETACH` and `ATTACH` undo each other -/

/-- From a state satisfying the UUID-mapping invariant: a returning `attachTable n t` followed by
`detachTable n` returns `t` and restores `tables` and the UUID → table mapping; and when `n` is
attached to `t`, `detachTable n` followed by `attachTable n t` returns and restores the whole
state. -/
theorem attach_detach_roundtrip {s : State} (hinv : db.UUIDMappingInv s) (n : String)
    (t : StoragePtr) :
    (∀ u s', db.attachTable n t s = .ok u s' →
      ∃ s'', db.detachTable n s' = .ok t s'' ∧ s''.tables = s.tables ∧
        s''.catalog.mappedTable = s.catalog.mappedTable) ∧
    (s.tables.find n = some t →
      ∃ s', db.detachTable n s = .ok t s' ∧ db.attachTable n t s' = .ok () s) := by
  constructor
  · intro u s' h
    have hinv' := hinv.attachTable_ok h
    obtain ⟨-, hfree, hn, rfl⟩ := attachTable_ok h
    refine ⟨_, detachTable_of_find hinv' (by simp), StdMap.erase_insert t hn, funext fun v ↦ ?_⟩
    by_cases ht : t.getStorageID.hasUUID
    · by_cases hv : v = t.getStorageID.uuid <;> simp [ht, hv, hfree ht]
    · simp [ht]
  · intro hf
    refine ⟨_, detachTable_of_find hinv hf, ?_⟩
    rw [attachTable, attachTableUnlocked_eq]
    by_cases ht : t.getStorageID.hasUUID
    · simp [ht, hinv.databaseName_eq n t hf, StdMap.contains_eq_isSome, StdMap.insert_erase hf,
        DatabaseCatalog.set_of_mappedTable (hinv.mappedTable_of_find hf ht)]
    · simp [ht, hinv.databaseName_eq n t hf, StdMap.contains_eq_isSome, StdMap.insert_erase hf]

/-- The round trip for `table₁` as `a` on `db₀` holding `a` and `b`, where `a` is attached to
`table₁`, so that detaching and attaching it again restores the state. -/
theorem attach_detach_on_tables₁₂ :
    db₀.UUIDMappingInv ⟨tables₁₂, catalog₁₂⟩ ∧ tables₁₂.find "a" = some table₁ ∧
    (∀ u s', db₀.attachTable "a" table₁ ⟨tables₁₂, catalog₁₂⟩ = .ok u s' →
      ∃ s'', db₀.detachTable "a" s' = .ok table₁ s'' ∧ s''.tables = tables₁₂ ∧
        s''.catalog.mappedTable = catalog₁₂.mappedTable) ∧
    (tables₁₂.find "a" = some table₁ →
      ∃ s', db₀.detachTable "a" ⟨tables₁₂, catalog₁₂⟩ = .ok table₁ s' ∧
        db₀.attachTable "a" table₁ s' = .ok () ⟨tables₁₂, catalog₁₂⟩) :=
  ⟨uuidMappingInv_tables₁₂, find_tables₁₂.mpr (.inl ⟨rfl, rfl⟩),
    attach_detach_roundtrip uuidMappingInv_tables₁₂ "a" table₁⟩

end Database

end Daisy.Databases
