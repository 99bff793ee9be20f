import Daisy.Databases.Interleaving

/-!
# What a racing `shutdown` leaves behind

The final clear does not only remove tables `shutdown` has dealt with: a table attached after the
snapshot is removed too, neither shut down nor unmapped (`clear_may_drop_unshut_table`).  What does
hold, whatever the interleaving, is that every other table the clear removes was shut down and is
no longer mapped to the database (`clear_removes_only_shut_down_tables`), and that the racing
attach is the only way a mapping to the database outlives its table
(`mapped_only_attached_or_late`).  Nor can a concurrent detach make shutdown's own unmappings
throw: shutdown throws only what a table's storage calls threw
(`shutdown_throws_only_storage_errors`).
-/

namespace Daisy.Databases

/-! ## A table attached after the snapshot escapes shutdown -/

/-- `shutdown` copies an empty `tables`; another thread attaches `table₁` as `a`; `shutdown` runs
its two empty loops and reaches the clear. -/
def racingAttach : List Event :=
  [.shutdown (.ok ()), .attachTable "a" table₁, .shutdown (.ok ()), .shutdown (.ok ())]

namespace Database

variable (db : Database)

/-- What holds of every world of a run from `World.start`: an attached table was attached after
the snapshot, or is accounted for by where shutdown stands. -/
def WindowInv (w : World) : Prop :=
  ∀ n t, w.state.tables.find n = some t → t ∈ w.attachedSince ∨
    match w.pc with
    | .flushing tablesSnapshot _ => ⟨n, t⟩ ∈ tablesSnapshot
    | .shuttingDown rest => ⟨n, t⟩ ∈ rest ∨ (t ∈ w.shutDown ∧ ¬ db.Mapped w.state.catalog t)
    | .clearing => t ∈ w.shutDown ∧ ¬ db.Mapped w.state.catalog t
    | _ => True

variable {db}

/-- Steps that only shrink the state keep the invariant. -/
theorem WindowInv.shrink {w : World} (h : db.WindowInv w) {s' : State} (hs : Shrinks w.state s') :
    db.WindowInv { w with state := s' } := by
  intro n t hf
  obtain ⟨s, pc, sd, late⟩ := w
  refine (h n t (hs.tables n t hf)).imp_right fun h' ↦ ?_
  cases pc <;> simp only at h' ⊢
  · exact h'
  · exact h'.imp_right fun ⟨hsd, hm⟩ ↦ ⟨hsd, hs.not_mapped hm⟩
  · exact ⟨h'.1, hs.not_mapped h'.2⟩

/-- A returning attach keeps the invariant: its table is recorded as attached late if shutdown
has taken its snapshot, and it is the only table whose mapping it can restore. -/
theorem WindowInv.attachTable_ok {w : World} (h : db.WindowInv w) {n : String} {t : StoragePtr}
    {x : Unit} {s' : State} (hr : db.attachTable n t w.state = .ok x s') :
    db.WindowInv { w with
      state := s'
      attachedSince := if w.pc.inWindow then t :: w.attachedSince else w.attachedSince } := by
  obtain ⟨s, pc, sd, late⟩ := w
  have hm : ∀ t', ¬ db.Mapped s.catalog t' → t' = t ∨ ¬ db.Mapped s'.catalog t' := fun t' hnm ↦
    (em (t' = t)).imp_right fun ht hmap ↦ hnm ((mapped_of_attachTable_ok hr hmap).resolve_left ht)
  obtain ⟨-, -, -, rfl⟩ := Database.attachTable_ok hr
  intro n' t' hf'
  simp only [StdMap.find_insert] at hf'
  split_ifs at hf' with hn'
  · cases hf'
    cases pc <;> simp [ShutdownPc.inWindow]
  · rcases h n' t' hf' with hat | h'
    · cases pc <;> simp [ShutdownPc.inWindow, hat]
    · cases pc <;> simp only [ShutdownPc.inWindow, ↓reduceIte, List.mem_cons, or_true] at h' ⊢
      · exact .inr h'
      · exact h'.elim (.inr ∘ .inl) fun ⟨hsd, hnm⟩ ↦ (hm t' hnm).imp .inl fun h ↦ .inr ⟨hsd, h⟩
      · exact (hm t' h'.2).imp .inl fun h ↦ ⟨h'.1, h⟩

/-- A pass of the second loop keeps the invariant: the table it handles moves from the loop's
rest to the shut-down tables, unmapped. -/
theorem WindowInv.shutdownTable_ok {s : State} {kv : TableEntry} {rest : List TableEntry}
    {sd late : List StoragePtr} (h : db.WindowInv ⟨s, .shuttingDown (kv :: rest), sd, late⟩)
    {r : Except Exception Unit} {x : Unit} {s' : State} (hr : shutdownTable kv r s = .ok x s') :
    db.WindowInv ⟨s', .shuttingDown rest, if r.isOk then kv.2 :: sd else sd, late⟩ := by
  cases r with
  | error e => cases hr
  | ok u =>
    have hs := shrinks_shutdownTable kv (.ok u) s
    rw [hr] at hs
    intro n t hf
    refine (h n t (hs.tables n t hf)).imp_right fun h' ↦ ?_
    simp only [List.mem_cons, Except.isOk, Except.toBool, if_true] at h' ⊢
    rcases h' with (rfl | hrest) | ⟨hsd, hnm⟩
    · exact .inr ⟨.inl rfl, not_mapped_shutdownTable hr⟩
    · exact .inl hrest
    · exact .inr ⟨.inr hsd, hs.not_mapped hnm⟩

/-- Every step keeps the invariant. -/
theorem WindowInv.step {w : World} (h : db.WindowInv w) (e : Event) :
    db.WindowInv (db.step w e) := by
  cases e with
  | attachTable n t =>
    cases hr : db.attachTable n t w.state with
    | ok x s' => simpa only [Database.step, hr] using h.attachTable_ok hr
    | error e s' => simpa only [Database.step, hr] using h.shrink (shrinks_attachTable_error hr)
  | detachTable n => exact h.shrink (shrinks_detachTable n w.state)
  | shutdown r =>
    obtain ⟨s, pc, sd, late⟩ := w
    cases pc with
    | snapshot => exact fun n t hf ↦ .inr (StdMap.mem_entries.mpr hf)
    | flushing snap rest =>
      rcases rest with _ | ⟨kv, rest⟩
      · exact fun n t hf ↦ (h n t hf).imp_right .inl
      · cases r
        · exact fun _ _ _ ↦ .inr trivial
        · exact h
    | shuttingDown rest =>
      rcases rest with _ | ⟨kv, rest⟩
      · intro n t hf
        simpa using h n t hf
      · cases hr : shutdownTable kv r s with
        | ok x s' => simpa only [Database.step, hr] using h.shutdownTable_ok hr
        | error e s' => simp only [Database.step, hr]; exact fun _ _ _ ↦ .inr trivial
    | clearing => exact fun n t hf ↦ by simp [Database.step, StdMap.find_empty] at hf
    | returned => exact h
    | threw e => exact h

/-- Shutdown about to start: nothing to account for yet. -/
theorem windowInv_start (s : State) : db.WindowInv (World.start s) :=
  fun _ _ _ ↦ .inr trivial

/-- A whole run keeps the invariant. -/
theorem WindowInv.run {w : World} (h : db.WindowInv w) (evs : List Event) :
    db.WindowInv (db.run w evs) := by
  induction evs generalizing w with
  | nil => exact h
  | cons e evs ih => exact ih (h.step e)

end Database

/-! ## Mappings left behind

From a state satisfying the UUID-mapping invariant, the catalog maps a UUID to the database only
for a table that is attached, or that an `attachTable` attached between shutdown's snapshot and
its clear: the racing attach of `clear_may_drop_unshut_table` is the only way a mapping outlives
its table. -/

namespace Database

variable (db : Database)

/-- Every table mapped to the database is attached, or was attached late. -/
def MappedAttached (w : World) : Prop :=
  ∀ t, db.Mapped w.state.catalog t → (∃ n, w.state.tables.find n = some t) ∨ t ∈ w.attachedSince

variable {db}

/-- A table still mapped after a detach keeps every name it had: detaching one of its names
unmaps it, or throws because it had no mapping. -/
theorem find_detachTable_of_mapped {n n' : String} {s : State} {t : StoragePtr}
    (hm : db.Mapped (stateAfter (db.detachTable n s)).catalog t)
    (hf : s.tables.find n' = some t) :
    (stateAfter (db.detachTable n s)).tables.find n' = some t := by
  rw [detachTable, detachTableUnlocked_eq] at hm ⊢
  cases hfn : s.tables.find n with
  | none => simpa [hfn] using hf
  | some t' =>
    by_cases hn : n' = n
    · subst hn
      obtain rfl : t' = t := Option.some.inj (hfn.symm.trans hf)
      obtain ⟨hu, hmap⟩ := hm
      simp only [hfn, hu, if_true] at hmap
      split at hmap
      · rename_i c hc
        obtain ⟨-, rfl⟩ := DatabaseCatalog.removeUUIDMapping_eq_some.mp hc
        simp at hmap
      · rename_i hc
        simp [DatabaseCatalog.mappedTable, DatabaseCatalog.removeUUIDMapping_eq_none.mp hc] at hmap
    · simp only [hfn]
      split_ifs
      · split <;> simp [hn, hf]
      · simp [hn, hf]

/-- Every step keeps `MappedAttached`; the clear keeps it by the window invariant. -/
theorem MappedAttached.step {w : World} (h : db.MappedAttached w) (hw : db.WindowInv w)
    (e : Event) : db.MappedAttached (db.step w e) := by
  cases e with
  | attachTable n t =>
    cases hr : db.attachTable n t w.state with
    | ok x s' =>
      simp only [Database.step, hr]
      intro t' hm
      have hmt := mapped_of_attachTable_ok hr hm
      obtain ⟨-, -, hn, rfl⟩ := Database.attachTable_ok hr
      rcases hmt with rfl | hm'
      · exact .inl ⟨n, by simp⟩
      · rcases h t' hm' with ⟨n', hf⟩ | hl
        · have : n' ≠ n := by rintro rfl; simp [hf] at hn
          exact .inl ⟨n', by simp [this, hf]⟩
        · exact .inr (by split_ifs <;> simp [hl])
    | error e s' =>
      simp only [Database.step, hr]
      obtain ⟨ht, hc⟩ := attachTable_error hr
      intro t' hm
      exact (h t' ⟨hm.1, hc ▸ hm.2⟩).imp_left fun ⟨n', hf⟩ ↦ ⟨n', ht ▸ hf⟩
  | detachTable n =>
    exact fun t hm ↦ (h t ((shrinks_detachTable n w.state).of_mapped hm)).imp_left
      fun ⟨n', hf⟩ ↦ ⟨n', find_detachTable_of_mapped hm hf⟩
  | shutdown r =>
    obtain ⟨s, pc, sd, late⟩ := w
    cases pc with
    | snapshot => exact h
    | flushing snap rest =>
      rcases rest with _ | ⟨kv, rest⟩
      · exact h
      · cases r <;> exact h
    | shuttingDown rest =>
      rcases rest with _ | ⟨kv, rest⟩
      · exact h
      · have hs := shrinks_shutdownTable kv r s
        have ht := tables_shutdownTable kv r s
        cases hr : shutdownTable kv r s <;> rw [hr] at hs ht <;> simp only [Database.step, hr] <;>
          exact fun t hm ↦ (h t (hs.of_mapped hm)).imp_left fun hf ↦ ht ▸ hf
    | clearing =>
      intro t hm
      rcases h t hm with ⟨n, hf⟩ | hl
      · rcases hw n t hf with hl | ⟨-, hnm⟩
        · exact .inr hl
        · exact absurd hm hnm
      · exact .inr hl
    | returned => exact h
    | threw e => exact h

/-- A whole run keeps `MappedAttached` together with the window invariant. -/
theorem MappedAttached.run {w : World} (h : db.MappedAttached w) (hw : db.WindowInv w)
    (evs : List Event) : db.MappedAttached (db.run w evs) := by
  induction evs generalizing w with
  | nil => exact h
  | cons e evs ih => exact ih (h.step hw e) (hw.step e)

/-- Whatever the interleaving, from a state satisfying the UUID-mapping invariant, a table the
catalog maps to the database is attached, or was attached between shutdown's snapshot and its
clear. -/
theorem mapped_only_attached_or_late (s : State) (hinv : db.UUIDMappingInv s) (evs : List Event) :
    ∀ t, db.Mapped (db.run (World.start s) evs).state.catalog t →
      (∃ n, (db.run (World.start s) evs).state.tables.find n = some t) ∨
        t ∈ (db.run (World.start s) evs).attachedSince :=
  MappedAttached.run (fun t ⟨hu, hm⟩ ↦ .inl ((hinv.mapped_iff _
    ((StorageID.hasUUID_iff _).mp hu) t).mp hm).1) (windowInv_start s) evs

/-- At the racing attach, the mapping of `a` that outlives the clear is of a table attached
late. -/
theorem racingAttach_mapped_late :
    db₀.UUIDMappingInv emptyState ∧
      ∀ t, db₀.Mapped (db₀.run (World.start emptyState) racingAttach).state.catalog t →
        (∃ n, (db₀.run (World.start emptyState) racingAttach).state.tables.find n = some t) ∨
          t ∈ (db₀.run (World.start emptyState) racingAttach).attachedSince :=
  ⟨uuidMappingInv_emptyState,
    mapped_only_attached_or_late emptyState uuidMappingInv_emptyState racingAttach⟩

end Database

/-! ## The catalog never makes shutdown throw

From a state satisfying the UUID-mapping invariant, each table shutdown is about to unmap still
has its catalog entry, whatever other threads detach in between: the calls only fill and empty
entries.  So shutdown throws only where a table's `flush()` or `flushAndShutdown()` threw. -/

/-- The snapshot entries shutdown has still to unmap. -/
def ShutdownPc.pending : ShutdownPc → List TableEntry
  | .flushing tablesSnapshot _ => tablesSnapshot
  | .shuttingDown rest => rest
  | _ => []

/-- Whether shutdown's next step calls a table's `flush()` or `flushAndShutdown()`. -/
def ShutdownPc.callsStorage : ShutdownPc → Bool
  | .flushing _ (_ :: _) | .shuttingDown (_ :: _) => true
  | _ => false

/-- Every attached table with a UUID, and every snapshot entry shutdown has still to unmap, has a
catalog entry. -/
def EntryInv (w : World) : Prop :=
  (∀ n t, w.state.tables.find n = some t → t.getStorageID.hasUUID →
      (w.state.catalog.uuidMap t.getStorageID.uuid).isSome) ∧
    ∀ kv ∈ w.pc.pending, kv.2.getStorageID.hasUUID →
      (w.state.catalog.uuidMap kv.2.getStorageID.uuid).isSome

/-- A step that keeps the catalog's entries, attaches nothing new and leaves shutdown no new
entry to unmap keeps `EntryInv`. -/
theorem EntryInv.mono {w w' : World} (h : EntryInv w) (hk : KeepsEntries w.state w'.state)
    (ht : ∀ n t, w'.state.tables.find n = some t → w.state.tables.find n = some t)
    (hp : w'.pc.pending ⊆ w.pc.pending) : EntryInv w' :=
  ⟨fun n t hf hu ↦ hk _ (h.1 n t (ht n t hf) hu), fun kv hkv hu ↦ hk _ (h.2 kv (hp hkv) hu)⟩

/-- Every step keeps `EntryInv`. -/
theorem EntryInv.step {db : Database} {w : World} (h : EntryInv w) (e : Event) :
    EntryInv (db.step w e) := by
  cases e with
  | attachTable n t =>
    have hk : KeepsEntries w.state (stateAfter (db.attachTable n t w.state)) :=
      Database.keepsEntries_attachTable n t w.state
    cases hr : db.attachTable n t w.state with
    | ok x s' =>
      have hnew := Database.isSome_uuidMap_of_attachTable_ok hr
      rw [hr] at hk
      obtain ⟨-, -, -, rfl⟩ := Database.attachTable_ok hr
      simp only [Database.step, hr]
      refine ⟨fun n' t' hf hu ↦ ?_, fun kv hkv hu ↦ hk _ (h.2 kv hkv hu)⟩
      simp only [StdMap.find_insert] at hf
      split_ifs at hf
      · cases hf
        exact hnew hu
      · exact hk _ (h.1 n' t' hf hu)
    | error e s' =>
      rw [hr] at hk
      simp only [Database.step, hr]
      exact h.mono hk (fun n t hf ↦ (Database.attachTable_error hr).1 ▸ hf) (List.Subset.refl _)
  | detachTable n =>
    exact h.mono (Database.keepsEntries_detachTable n w.state)
      (Database.shrinks_detachTable n w.state).tables (List.Subset.refl _)
  | shutdown r =>
    obtain ⟨s, pc, sd, late⟩ := w
    cases pc with
    | snapshot => exact ⟨h.1, fun ⟨n, t⟩ hkv hu ↦ h.1 n t (StdMap.mem_entries.mp hkv) hu⟩
    | flushing snap rest =>
      rcases rest with _ | ⟨kv, rest⟩
      · exact h
      · cases r
        · exact h.mono (KeepsEntries.refl s) (fun _ _ ↦ id) (List.nil_subset _)
        · exact h
    | shuttingDown rest =>
      rcases rest with _ | ⟨kv, rest⟩
      · exact h.mono (KeepsEntries.refl s) (fun _ _ ↦ id) (List.nil_subset _)
      · have hk := Database.keepsEntries_shutdownTable kv r s
        have ht := Database.tables_shutdownTable kv r s
        cases hr : Database.shutdownTable kv r s <;> rw [hr] at hk ht <;>
          simp only [Database.step, hr]
        · exact h.mono hk (fun _ _ hf ↦ ht ▸ hf) (List.subset_cons_self _ _)
        · exact h.mono hk (fun _ _ hf ↦ ht ▸ hf) (List.nil_subset _)
    | clearing =>
      exact h.mono (KeepsEntries.refl s) (fun _ _ hf ↦ by simp [Database.step] at hf)
        (List.nil_subset _)
    | returned => exact h
    | threw e => exact h

/-- Under the UUID-mapping invariant every attached table with a UUID is mapped, so it has an
entry. -/
theorem entryInv_start {db : Database} {s : State} (hinv : db.UUIDMappingInv s) :
    EntryInv (World.start s) :=
  ⟨fun n t hf ↦ hinv.isSome_uuidMap ⟨n, t⟩ (StdMap.mem_entries.mpr hf), fun _ h ↦ nomatch h⟩

namespace Database

variable {db : Database}

/-- Under `EntryInv`, shutdown comes to throw only at a step that calls a table's `flush()` or
`flushAndShutdown()`, with the exception that call threw. -/
theorem pc_step_threw {w : World} (h : EntryInv w) {e : Event} {ex : Exception}
    (hs : (db.step w e).pc = .threw ex) :
    w.pc = .threw ex ∨ e = .shutdown (.error ex) ∧ w.pc.callsStorage := by
  cases e with
  | attachTable n t =>
    left
    simp only [Database.step] at hs
    split at hs <;> exact hs
  | detachTable n => exact .inl hs
  | shutdown r =>
    obtain ⟨s, pc, sd, late⟩ := w
    cases pc with
    | flushing snap rest =>
      rcases rest with _ | ⟨kv, rest⟩
      · cases hs
      · cases r <;> simp only [Database.step] at hs <;> cases hs
        exact .inr ⟨rfl, rfl⟩
    | shuttingDown rest =>
      rcases rest with _ | ⟨kv, rest⟩
      · cases hs
      · cases r with
        | error e' =>
          simp only [Database.step, shutdownTable_error] at hs
          cases hs
          exact .inr ⟨rfl, rfl⟩
        | ok u =>
          obtain ⟨s', hs'⟩ := shutdownTable_ok_of_isSome kv u (h.2 kv (List.mem_cons_self _ _))
          simp only [Database.step, hs'] at hs
          cases hs
    | threw e' => exact .inl hs
    | snapshot | clearing | returned => cases hs

/-- Under `EntryInv`, a run ends thrown only when it started thrown, or when one of its steps
called a table's `flush()` or `flushAndShutdown()` and that call threw the exception. -/
theorem pc_run_threw {w : World} (h : EntryInv w) (evs : List Event) {ex : Exception}
    (hs : (db.run w evs).pc = .threw ex) :
    w.pc = .threw ex ∨ ∃ evs₁ evs₂, evs = evs₁ ++ .shutdown (.error ex) :: evs₂ ∧
      (db.run w evs₁).pc.callsStorage := by
  induction evs generalizing w with
  | nil => exact .inl hs
  | cons e evs ih =>
    rcases ih (h.step e) hs with h' | ⟨evs₁, evs₂, rfl, hc⟩
    · exact (pc_step_threw h h').imp_right fun ⟨he, hc⟩ ↦ ⟨[], evs, by rw [he]; rfl, hc⟩
    · exact .inr ⟨e :: evs₁, evs₂, rfl, hc⟩

/-- Whatever the interleaving, from a state satisfying the UUID-mapping invariant, shutdown
throws only at a step where a table's `flush()` or `flushAndShutdown()` threw, and throws what
that call threw: its `removeUUIDMapping` calls never throw, even when other threads detach the
tables it is shutting down. -/
theorem shutdown_throws_only_storage_errors (s : State) (hinv : db.UUIDMappingInv s)
    (evs : List Event) {e : Exception} (h : (db.run (World.start s) evs).pc = .threw e) :
    ∃ evs₁ evs₂, evs = evs₁ ++ .shutdown (.error e) :: evs₂ ∧
      (db.run (World.start s) evs₁).pc.callsStorage :=
  (pc_run_threw (entryInv_start hinv) evs h).resolve_left nofun

/-- Shutdown of `a` and `b` whose first `flush()` throws. -/
def flushThrows : List Event := [.shutdown (.ok ()), .shutdown (.error (.storage "a"))]

/-- There shutdown throws at the `flush()` of `a`, the first step that calls storage. -/
theorem flushThrows_threw_at_flush :
    db₀.UUIDMappingInv ⟨tables₁₂, catalog₁₂⟩ ∧
      (db₀.run (World.start ⟨tables₁₂, catalog₁₂⟩) flushThrows).pc = .threw (.storage "a") ∧
      ∃ evs₁ evs₂, flushThrows = evs₁ ++ .shutdown (.error (.storage "a")) :: evs₂ ∧
        (db₀.run (World.start ⟨tables₁₂, catalog₁₂⟩) evs₁).pc.callsStorage :=
  have h : (db₀.run (World.start ⟨tables₁₂, catalog₁₂⟩) flushThrows).pc =
      .threw (.storage "a") := rfl
  ⟨uuidMappingInv_tables₁₂, h,
    shutdown_throws_only_storage_errors _ uuidMappingInv_tables₁₂ flushThrows h⟩

end Database

end Daisy.Databases
