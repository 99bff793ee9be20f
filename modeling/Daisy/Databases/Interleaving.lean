import Daisy.Databases.Invariant

/-!
# `shutdown` as steps among concurrent `attachTable` and `detachTable`

`shutdown` cannot hold `mutex` throughout: a table's `flushAndShutdown()` may call back into the
database, and the mutex is not recursive.  It takes the lock twice, to copy `tables` and to clear
it, and runs its two loops in between.  Other threads' `attachTable` and `detachTable` hold the
lock for their whole call, so each is one atomic step.

We run the system as a trace of `Event`s: a whole call of another thread, or the next step of
the thread running `shutdown`.  Two ghost records follow the run: the tables this shutdown has
seen `flushAndShutdown()` return for, and the tables an `attachTable` attached after the snapshot.
When no other thread runs, the steps compute `Database.shutdown` (`run_shutdownEvents`).  The
last section says what each step can do to `tables` and the catalog; what follows from it for
every interleaving is in `Daisy.Databases.ShutdownRace`.
-/
namespace Daisy.Databases

/-- Where the thread running `shutdown` stands. -/
inductive ShutdownPc
  | /-- About to take `mutex` and copy `tables`. -/
    snapshot
  | /-- In the first loop, with `rest` still to `flush()`. -/
    flushing (tablesSnapshot rest : List TableEntry)
  | /-- In the second loop, with `rest` still to shut down and unmap. -/
    shuttingDown (rest : List TableEntry)
  | /-- About to take `mutex` and clear `tables`. -/
    clearing
  | /-- Returned. -/
    returned
  | /-- Threw. -/
    threw (e : Exception)
deriving DecidableEq, Repr

/-- Whether shutdown is between its snapshot and its clear. -/
def ShutdownPc.inWindow : ShutdownPc → Bool
  | .flushing _ _ | .shuttingDown _ | .clearing => true
  | _ => false

/-- The database, the catalog and the shutdown thread. -/
structure World where
  /-- `tables` and the catalog. -/
  state : State
  /-- The shutdown thread. -/
  pc : ShutdownPc
  /-- Ghost: the tables whose `flushAndShutdown()` this shutdown has seen return. -/
  shutDown : List StoragePtr
  /-- Ghost: the tables attached by an `attachTable` that returned after the snapshot. -/
  attachedSince : List StoragePtr

/-- Shutdown about to start, from state `s`. -/
def World.start (s : State) : World := ⟨s, .snapshot, [], []⟩

/-- What the call of `shutdown` has come to, once it has returned or thrown. -/
def World.result (w : World) : Option (EStateM.Result Exception State Unit) :=
  match w.pc with
  | .returned => some (.ok () w.state)
  | .threw e => some (.error e w.state)
  | _ => none

/-- One step of the system. -/
inductive Event
  | /-- Another thread's whole `attachTable` call. -/
    attachTable (tableName : String) (table : StoragePtr)
  | /-- Another thread's whole `detachTable` call. -/
    detachTable (tableName : String)
  | /-- The next step of `shutdown`; a storage call made in it returns `result`. -/
    shutdown (result : Except Exception Unit)

namespace Database

variable (db : Database)

/-- The effect of one event. -/
def step (w : World) : Event → World
  | .attachTable n t =>
    match db.attachTable n t w.state with
    | .ok _ s => { w with
        state := s
        attachedSince := if w.pc.inWindow then t :: w.attachedSince else w.attachedSince }
    | .error _ s => { w with state := s }
  | .detachTable n => { w with state := stateAfter (db.detachTable n w.state) }
  | .shutdown r =>
    match w.pc with
    | .snapshot => { w with pc := .flushing w.state.tables.entries w.state.tables.entries }
    | .flushing snap [] => { w with pc := .shuttingDown snap }
    | .flushing snap (_ :: rest) =>
      match r with
      | .ok () => { w with pc := .flushing snap rest }
      | .error e => { w with pc := .threw e }
    | .shuttingDown [] => { w with pc := .clearing }
    | .shuttingDown (kv :: rest) =>
      let shutDown := if r.isOk then kv.2 :: w.shutDown else w.shutDown
      match shutdownTable kv r w.state with
      | .ok _ s => { w with state := s, pc := .shuttingDown rest, shutDown := shutDown }
      | .error e s => { w with state := s, pc := .threw e, shutDown := shutDown }
    | .clearing => { w with state := { w.state with tables := StdMap.empty }, pc := .returned }
    | .returned | .threw _ => w

/-- The world after a trace of events. -/
def run (w : World) (evs : List Event) : World := evs.foldl db.step w

@[simp] theorem run_nil (w : World) : db.run w [] = w := rfl

@[simp] theorem run_cons (w : World) (e : Event) (evs : List Event) :
    db.run w (e :: evs) = db.run (db.step w e) evs := rfl

/-- The catalog maps `t`'s UUID to `db` and `t`: the mapping a shut-down table must not keep. -/
def Mapped (c : DatabaseCatalog) (t : StoragePtr) : Prop :=
  t.getStorageID.hasUUID ∧ c.mappedTable t.getStorageID.uuid = some (db.self, t)

end Database

/-! ## Without other threads, the steps are `shutdown`

Run on its own, the shutdown thread computes `Database.shutdown`: the step model refines the
sequential call. -/

/-- The events of a `shutdown` of the snapshot `l` that no other thread interrupts: the
snapshot, a `flush()` per table, the end of the first loop, a `flushAndShutdown()` per table,
the end of the second loop and the clear. -/
def shutdownEvents (calls : StorageCalls) (l : List TableEntry) : List Event :=
  .shutdown (.ok ()) :: l.map (fun kv ↦ .shutdown (calls.flush kv)) ++
    .shutdown (.ok ()) :: l.map (fun kv ↦ .shutdown (calls.flushAndShutdown kv)) ++
    [.shutdown (.ok ()), .shutdown (.ok ())]

namespace Database

variable (db : Database)

theorem run_append (w : World) (evs evs' : List Event) :
    db.run w (evs ++ evs') = db.run (db.run w evs) evs' :=
  List.foldl_append _ _ _ _

/-- Once shutdown has thrown, its own later steps do nothing. -/
@[simp] theorem step_threw (s : State) (e : Exception) (sd late : List StoragePtr)
    (r : Except Exception Unit) :
    db.step ⟨s, .threw e, sd, late⟩ (.shutdown r) = ⟨s, .threw e, sd, late⟩ := rfl

@[simp] theorem run_threw {α : Type} (s : State) (e : Exception) (sd late : List StoragePtr)
    (f : α → Except Exception Unit) (l : List α) :
    db.run ⟨s, .threw e, sd, late⟩ (l.map fun x ↦ .shutdown (f x)) = ⟨s, .threw e, sd, late⟩ := by
  induction l with
  | nil => rfl
  | cons x l ih => exact ih

/-- The first loop, uninterrupted: it reaches its end, or throws the first exception of a
`flush()`, and changes nothing else. -/
theorem run_flushing (calls : StorageCalls) (s : State) (snap l : List TableEntry)
    (sd late : List StoragePtr) :
    db.run ⟨s, .flushing snap l, sd, late⟩ (l.map fun kv ↦ .shutdown (calls.flush kv)) =
      match l.forM calls.flush with
      | .ok () => ⟨s, .flushing snap [], sd, late⟩
      | .error e => ⟨s, .threw e, sd, late⟩ := by
  induction l with
  | nil => rfl
  | cons kv l ih =>
    cases h : calls.flush kv with
    | ok u => simpa [step, h] using ih
    | error e => simp [step, h]

/-- The second loop, uninterrupted: it ends, or throws, in the state the loop's `forM` does. -/
theorem run_shuttingDown (calls : StorageCalls) (s : State) (l : List TableEntry)
    (sd late : List StoragePtr) : ∃ sd',
    db.run ⟨s, .shuttingDown l, sd, late⟩
        (l.map fun kv ↦ .shutdown (calls.flushAndShutdown kv)) =
      match (l.forM fun kv ↦ shutdownTable kv (calls.flushAndShutdown kv)) s with
      | .ok _ s' => ⟨s', .shuttingDown [], sd', late⟩
      | .error e s' => ⟨s', .threw e, sd', late⟩ := by
  induction l generalizing s sd with
  | nil => exact ⟨sd, rfl⟩
  | cons kv l ih =>
    cases h : shutdownTable kv (calls.flushAndShutdown kv) s with
    | ok u s₁ =>
      obtain ⟨sd', h'⟩ := ih s₁ (if (calls.flushAndShutdown kv).isOk then kv.2 :: sd else sd)
      exact ⟨sd', by simpa [step, h] using h'⟩
    | error e s₁ =>
      exact ⟨if (calls.flushAndShutdown kv).isOk then kv.2 :: sd else sd, by simp [step, h]⟩

/-- **Refinement.** Uninterrupted, the shutdown thread computes `shutdown`: it ends returned or
thrown, with the result and the state of the sequential call. -/
theorem run_shutdownEvents (calls : StorageCalls) (s : State) :
    (db.run (World.start s) (shutdownEvents calls s.tables.entries)).result =
      some (shutdown calls s) := by
  have h₀ : db.step (World.start s) (.shutdown (.ok ())) =
      ⟨s, .flushing s.tables.entries s.tables.entries, [], []⟩ := rfl
  simp only [shutdownEvents, List.cons_append, List.append_assoc, run_cons, run_append, h₀,
    run_flushing]
  rcases h₁ : s.tables.entries.forM calls.flush with e | ⟨⟨⟩⟩
  · simp [h₁, World.result, shutdown, forM_ofExcept]
  · obtain ⟨sd', h₂⟩ := db.run_shuttingDown calls s s.tables.entries [] []
    have h₃ : db.step ⟨s, .flushing s.tables.entries [], [], []⟩ (.shutdown (.ok ())) =
        ⟨s, .shuttingDown s.tables.entries, [], []⟩ := rfl
    simp only [h₁, h₃, h₂]
    cases h₄ : (s.tables.entries.forM fun kv ↦ shutdownTable kv (calls.flushAndShutdown kv)) s <;>
      simp [h₁, h₄, World.result, step, shutdown, forM_ofExcept]

end Database

/-! ## What each step does to `tables` and the mapping

Apart from a returning `attachTable`, every step only erases entries and empties mappings. -/

/-- `s'` holds no entry and no mapping that `s` does not. -/
structure Shrinks (s s' : State) : Prop where
  /-- Every entry of `s'` is one of `s`. -/
  tables : ∀ n t, s'.tables.find n = some t → s.tables.find n = some t
  /-- Every mapping of `s'` is one of `s`. -/
  mapped : ∀ u p, s'.catalog.mappedTable u = some p → s.catalog.mappedTable u = some p

theorem Shrinks.refl (s : State) : Shrinks s s := ⟨fun _ _ ↦ id, fun _ _ ↦ id⟩

theorem Shrinks.trans {s₁ s₂ s₃ : State} (h₁ : Shrinks s₁ s₂) (h₂ : Shrinks s₂ s₃) :
    Shrinks s₁ s₃ :=
  ⟨fun n t h ↦ h₁.tables n t (h₂.tables n t h), fun u p h ↦ h₁.mapped u p (h₂.mapped u p h)⟩

theorem shrinks_erase (s : State) (n : String) :
    Shrinks s { s with tables := s.tables.erase n } := by
  refine ⟨fun n' t h ↦ ?_, fun _ _ ↦ id⟩
  simp only [StdMap.find_erase] at h
  split_ifs at h
  exact h

theorem shrinks_unmap {s : State} {u : UUID} {c : DatabaseCatalog}
    (hc : s.catalog.removeUUIDMapping u = some c) : Shrinks s { s with catalog := c } := by
  obtain ⟨-, rfl⟩ := DatabaseCatalog.removeUUIDMapping_eq_some.mp hc
  refine ⟨fun _ _ ↦ id, fun u' p hp ↦ ?_⟩
  simp only [DatabaseCatalog.mappedTable_set] at hp
  split_ifs at hp
  exact hp

/-- `removeUUIDMapping`, returning or throwing, only empties a mapping. -/
theorem shrinks_removeUUIDMapping (u : UUID) (s : State) :
    Shrinks s (stateAfter (removeUUIDMapping u s)) := by
  unfold removeUUIDMapping
  split
  · exact shrinks_unmap ‹_›
  · exact Shrinks.refl s

/-- A table mapped to the database afterwards was mapped to it before. -/
theorem Shrinks.of_mapped {db : Database} {s s' : State} (hs : Shrinks s s') {t : StoragePtr}
    (h : db.Mapped s'.catalog t) : db.Mapped s.catalog t :=
  ⟨h.1, hs.mapped _ _ h.2⟩

/-- A table that was not mapped to the database stays unmapped. -/
theorem Shrinks.not_mapped {db : Database} {s s' : State} (hs : Shrinks s s') {t : StoragePtr}
    (h : ¬ db.Mapped s.catalog t) : ¬ db.Mapped s'.catalog t :=
  mt hs.of_mapped h

namespace Database

variable {db : Database}

/-- A detach, returning or throwing, only erases its entry and empties its table's mapping. -/
theorem shrinks_detachTable (n : String) (s : State) :
    Shrinks s (stateAfter (db.detachTable n s)) := by
  rw [detachTable, detachTableUnlocked_eq]
  cases hf : s.tables.find n with
  | none => exact Shrinks.refl s
  | some t =>
    simp only
    split_ifs
    · refine (shrinks_erase s n).trans ?_
      have := shrinks_removeUUIDMapping t.getStorageID.uuid { s with tables := s.tables.erase n }
      unfold removeUUIDMapping at this
      split at this <;> simp_all
    · exact shrinks_erase s n

/-- A throwing attach leaves `tables` and the mapping as they were. -/
theorem shrinks_attachTable_error {n : String} {t : StoragePtr} {s s' : State} {e : Exception}
    (h : db.attachTable n t s = .error e s') : Shrinks s s' := by
  obtain ⟨ht, hc⟩ := attachTable_error h
  exact ⟨fun _ _ h ↦ ht ▸ h, fun _ _ h ↦ hc ▸ h⟩

/-- A pass of the second loop, returning or throwing, only empties its table's mapping. -/
theorem shrinks_shutdownTable (kv : TableEntry) (r : Except Exception Unit) (s : State) :
    Shrinks s (stateAfter (shutdownTable kv r s)) := by
  cases r with
  | error e => exact Shrinks.refl s
  | ok u =>
    rw [shutdownTable_ok]
    split_ifs
    · exact shrinks_removeUUIDMapping _ s
    · exact Shrinks.refl s

/-- A pass of the second loop leaves `tables` alone. -/
theorem tables_shutdownTable (kv : TableEntry) (r : Except Exception Unit) (s : State) :
    (stateAfter (shutdownTable kv r s)).tables = s.tables := by
  cases r with
  | error e => rfl
  | ok u =>
    rw [shutdownTable_ok]
    split_ifs
    · unfold removeUUIDMapping
      split <;> rfl
    · rfl

/-- A returning pass of the second loop leaves its table unmapped. -/
theorem not_mapped_shutdownTable {kv : TableEntry} {r : Except Exception Unit} {s s' : State}
    {x : Unit} (h : shutdownTable kv r s = .ok x s') : ¬ db.Mapped s'.catalog kv.2 := by
  rintro ⟨hu, hm⟩
  cases r with
  | error e => cases h
  | ok u =>
    rw [shutdownTable_ok, if_pos hu] at h
    unfold removeUUIDMapping at h
    split at h <;> cases h
    rename_i c hc
    obtain ⟨-, rfl⟩ := DatabaseCatalog.removeUUIDMapping_eq_some.mp hc
    simp at hm

/-- After a returning attach, a table mapped to the database is the attached one or was
mapped before. -/
theorem mapped_of_attachTable_ok {n : String} {t t' : StoragePtr} {s s' : State} {x : Unit}
    (h : db.attachTable n t s = .ok x s') (hm : db.Mapped s'.catalog t') :
    t' = t ∨ db.Mapped s.catalog t' := by
  obtain ⟨-, -, -, rfl⟩ := attachTable_ok h
  obtain ⟨hu', hm'⟩ := hm
  rw [DatabaseCatalog.mappedTable_ite_set] at hm'
  split_ifs at hm'
  · exact .inl (by simpa [eq_comm] using hm')
  · exact .inr ⟨hu', hm'⟩

/-- A table with a UUID attached by a returning attach has a catalog entry. -/
theorem isSome_uuidMap_of_attachTable_ok {n : String} {t : StoragePtr} {s s' : State} {x : Unit}
    (h : db.attachTable n t s = .ok x s') (hu : t.getStorageID.hasUUID) :
    (s'.catalog.uuidMap t.getStorageID.uuid).isSome := by
  obtain ⟨-, -, -, rfl⟩ := attachTable_ok h
  simp [hu]

end Database

/-! ## No step deletes a catalog entry

The calls fill and empty entries of the catalog but never delete one. -/

/-- `s'` keeps every catalog entry of `s`. -/
def KeepsEntries (s s' : State) : Prop :=
  ∀ u, (s.catalog.uuidMap u).isSome → (s'.catalog.uuidMap u).isSome

theorem KeepsEntries.refl (s : State) : KeepsEntries s s := fun _ ↦ id

theorem keepsEntries_set (s : State) (tables : Tables) (u : UUID)
    (e : Option (DatabasePtr × StoragePtr)) : KeepsEntries s ⟨tables, s.catalog.set u e⟩ :=
  fun _ hv ↦ DatabaseCatalog.isSome_uuidMap_set hv u e

theorem keepsEntries_removeUUIDMapping (u : UUID) (s : State) :
    KeepsEntries s (stateAfter (removeUUIDMapping u s)) := by
  unfold removeUUIDMapping
  split
  · rename_i c hc
    obtain ⟨-, rfl⟩ := DatabaseCatalog.removeUUIDMapping_eq_some.mp hc
    exact keepsEntries_set s s.tables u none
  · exact KeepsEntries.refl s

namespace Database

variable {db : Database}

theorem keepsEntries_attachTable (n : String) (t : StoragePtr) (s : State) :
    KeepsEntries s (stateAfter (db.attachTable n t s)) := by
  rw [attachTable, attachTableUnlocked_eq]
  split_ifs <;> first | exact KeepsEntries.refl _ | exact keepsEntries_set s _ _ _

theorem keepsEntries_detachTable (n : String) (s : State) :
    KeepsEntries s (stateAfter (db.detachTable n s)) := by
  rw [detachTable, detachTableUnlocked_eq]
  cases s.tables.find n with
  | none => exact KeepsEntries.refl s
  | some t =>
    simp only
    split_ifs
    · split
      · rename_i c hc
        obtain ⟨-, rfl⟩ := DatabaseCatalog.removeUUIDMapping_eq_some.mp hc
        exact keepsEntries_set s _ _ none
      · exact KeepsEntries.refl s
    · exact KeepsEntries.refl s

theorem keepsEntries_shutdownTable (kv : TableEntry) (r : Except Exception Unit) (s : State) :
    KeepsEntries s (stateAfter (shutdownTable kv r s)) := by
  cases r with
  | error e => exact KeepsEntries.refl s
  | ok u =>
    rw [shutdownTable_ok]
    split_ifs
    · exact keepsEntries_removeUUIDMapping _ s
    · exact KeepsEntries.refl s

/-- A pass of the second loop whose `flushAndShutdown()` returned returns too when its table has
a catalog entry. -/
theorem shutdownTable_ok_of_isSome (kv : TableEntry) (u : Unit) {s : State}
    (h : kv.2.getStorageID.hasUUID → (s.catalog.uuidMap kv.2.getStorageID.uuid).isSome) :
    ∃ s', shutdownTable kv (.ok u) s = .ok () s' := by
  rw [shutdownTable_ok]
  split_ifs with hu
  · exact ⟨_, removeUUIDMapping_of_isSome (h hu)⟩
  · exact ⟨_, rfl⟩

end Database

end Daisy.Databases
