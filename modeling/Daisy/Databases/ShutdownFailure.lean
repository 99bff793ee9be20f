import Daisy.Databases.Invariant

/-!
# When `shutdown` throws

`shutdown` drops each table's UUID mapping right after that table's `flushAndShutdown()`, and
clears `tables` only at the very end.  When a `flushAndShutdown()` throws part-way through the
second loop, the tables before it in the snapshot have already lost their mappings but are still
attached.  `shutdown_throw_unmaps_shut_down_tables` says exactly what a throwing `shutdown` leaves
behind; `shutdown_throw_breaks_uuidMappingInv` is a state where that breaks the UUID-mapping
invariant.  The destructor swallows the exception, so nothing in the code observes this state
except a later use of the database.
-/

namespace Daisy.Databases

namespace Database

/-- The snapshot entries whose `flushAndShutdown()` returned before `shutdown` threw: none when
a `flush()` threw, and otherwise those before the first `flushAndShutdown()` that threw. -/
def shutDownBeforeThrow (calls : StorageCalls) (l : List TableEntry) : List TableEntry :=
  match l.forM calls.flush with
  | .error _ => []
  | .ok () => l.takeWhile fun kv ↦ (calls.flushAndShutdown kv).isOk

variable {db : Database}

/-- Under the invariant, a table with a UUID has no other entry carrying its UUID, so it is
unmapped by a list of entries exactly when it is among them. -/
theorem UUIDMappingInv.unmapped_iff_mem {s : State} (hinv : db.UUIDMappingInv s)
    {l : List TableEntry} (hl : l ⊆ s.tables.entries) {n : String} {t : StoragePtr}
    (hf : s.tables.find n = some t) (hu : t.getStorageID.hasUUID) :
    (∃ kv ∈ l, kv.2.getStorageID.hasUUID ∧ kv.2.getStorageID.uuid = t.getStorageID.uuid) ↔
      ⟨n, t⟩ ∈ l := by
  constructor
  · rintro ⟨⟨n', t'⟩, hkv, hu', he⟩
    have hf' := StdMap.mem_entries.mp (hl hkv)
    obtain rfl := hinv.uuid_unique n' n t' t hf' hf he (he ▸ (StorageID.hasUUID_iff _).mp hu)
    rw [hf] at hf'
    cases hf'
    exact hkv
  · exact fun h ↦ ⟨⟨n, t⟩, h, hu, rfl⟩

/-- From a state satisfying the UUID-mapping invariant, a throwing `shutdown` leaves `tables`
as it was, and an attached table with a UUID is still mapped exactly when its
`flushAndShutdown()` did not return before the throw.  So the invariant survives a throwing
`flush()` or a throwing first `flushAndShutdown()`, and breaks once an earlier table with a UUID
was shut down. -/
theorem shutdown_throw_unmaps_shut_down_tables {s s' : State} {calls : StorageCalls}
    {e : Exception} (hinv : db.UUIDMappingInv s) (h : shutdown calls s = .error e s') :
    s'.tables = s.tables ∧ ∀ n t, s.tables.find n = some t → t.getStorageID.hasUUID →
      (s'.catalog.mappedTable t.getStorageID.uuid = some (db.self, t) ↔
        ⟨n, t⟩ ∉ shutDownBeforeThrow calls s.tables.entries) := by
  rw [shutdown_eq calls s hinv.isSome_uuidMap] at h
  unfold shutDownBeforeThrow
  rcases h₁ : s.tables.entries.forM calls.flush with _ | ⟨⟨⟩⟩
  · simp only [h₁] at h
    cases h
    exact ⟨rfl, fun n t hf hu ↦ by simp [hinv.mappedTable_of_find hf hu]⟩
  · rcases h₂ : s.tables.entries.forM calls.flushAndShutdown with _ | ⟨⟨⟩⟩ <;>
      simp only [h₁, h₂] at h <;> cases h
    refine ⟨rfl, fun n t hf hu ↦ ?_⟩
    simp only [DatabaseCatalog.mappedTable_unmapTables,
      hinv.unmapped_iff_mem (List.takeWhile_sublist _).subset hf hu]
    split_ifs <;> simp_all [hinv.mappedTable_of_find hf hu]

end Database

/-! ## A throw that leaves unmapped tables attached -/

/-- Every `flush()` returns, and `flushAndShutdown()` of `b` throws. -/
def calls₂ : StorageCalls :=
  ⟨fun _ ↦ .ok (), fun kv ↦ if kv.1 = "b" then .error (.storage "b") else .ok ()⟩

/-- The invariant does not survive every throwing `shutdown`: with `a` and `b` attached, a
`flushAndShutdown()` of `b` that throws leaves `a` attached with its UUID unmapped. -/
theorem shutdown_throw_breaks_uuidMappingInv :
    ¬ ∀ (db : Database) (s s' : State) (calls : StorageCalls) (e : Exception),
      db.UUIDMappingInv s → Database.shutdown calls s = .error e s' → db.UUIDMappingInv s' := by
  intro h
  have hs : Database.shutdown calls₂ ⟨tables₁₂, catalog₁₂⟩ =
      .error (.storage "b") ⟨tables₁₂, catalog₁₂.set table₁.getStorageID.uuid none⟩ := rfl
  have hinv := h db₀ _ _ calls₂ _ uuidMappingInv_tables₁₂ hs
  have := (hinv.mapped_iff table₁.getStorageID.uuid (by decide) table₁).mpr
    ⟨⟨"a", find_tables₁₂.mpr (.inl ⟨rfl, rfl⟩)⟩, rfl⟩
  simp [DatabaseCatalog.mappedTable] at this

/-- The characterisation at that state: `a`, shut down before the throw, has lost its
mapping. -/
theorem shutdown_throw_unmaps_a :
    Database.shutdown calls₂ ⟨tables₁₂, catalog₁₂⟩ =
        .error (.storage "b") ⟨tables₁₂, catalog₁₂.set table₁.getStorageID.uuid none⟩ ∧
      ((catalog₁₂.set table₁.getStorageID.uuid none).mappedTable table₁.getStorageID.uuid =
          some (db₀.self, table₁) ↔
        ⟨"a", table₁⟩ ∉ Database.shutDownBeforeThrow calls₂ tables₁₂.entries) := by
  have hs : Database.shutdown calls₂ ⟨tables₁₂, catalog₁₂⟩ =
      .error (.storage "b") ⟨tables₁₂, catalog₁₂.set table₁.getStorageID.uuid none⟩ := rfl
  exact ⟨hs, (Database.shutdown_throw_unmaps_shut_down_tables uuidMappingInv_tables₁₂ hs).2 "a"
    table₁ (find_tables₁₂.mpr (.inl ⟨rfl, rfl⟩)) (by decide)⟩

end Daisy.Databases
