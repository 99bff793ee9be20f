import Daisy.Interpreters.DropQuery

/-!
# The rights a query needs

What `InterpreterDropQuery` checks of its user before it changes anything.  Every change a query
makes to the database's tables or to the catalog comes after `checkAccess` returned for the right
the source asks for it: the access type for what the found table is (`drop_storage`) on the
table the query names, or `DROP DATABASE` on the database for a query that names no table
(`execute_changes_only_if_granted`).  It holds in every context, whatever the database engine's own
`dropTable` and `detachTablePermanently` do, since the interpreter calls them only after the check.

`Guarded G` relates two states when they are equal or `G` holds; it is reflexive and transitive,
so the combinators of `Respects` carry it through a query, and `Respects.guard` introduces it at
a `checkAccess`.  A query sent `ON CLUSTER` changes nothing here; it is checked against the rights
of `getRequiredAccessForDDLOnCluster` before it is sent.
-/

namespace Daisy.Interpreters

open Daisy.Databases (State Database StorageID StoragePtr db₀ tables₁₂ catalog₁₂ table₁)

/-! ## Changes made only under a right -/

/-- The step from `s` to `s'` left the state alone, or `G` holds. -/
def Guarded (G : Prop) (s s' : State) : Prop := s' = s ∨ G

instance (G : Prop) : IsRefl State (Guarded G) := ⟨fun _ ↦ .inl rfl⟩

instance (G : Prop) : IsTrans State (Guarded G) :=
  ⟨fun _ _ _ h₁ h₂ ↦ h₂.elim (fun h ↦ by rw [h]; exact h₁) .inr⟩

/-- A stateless call that returns only when `G` holds, followed by anything: the whole changes the
state only when `G` holds. -/
theorem Respects.guard {α β : Type} {G : Prop} {x : Interp α} (hx : Stateless x)
    (hG : ∀ s a s', x s = .ok a s' → G) (f : α → Interp β) : Respects (Guarded G) (x >>= f) :=
  fun s ↦ by
    rcases hx.bind_cases f s with ⟨e, he⟩ | ⟨a, ha, -⟩
    · rw [he]
      exact .inl rfl
    · exact .inr (hG s a s ha)

section Access

variable (db : Database) (env : Env) (queryPtr : ASTDropQuery)

/-- Run here, the query's branch changes the state only after the user was granted the access
type for what the table is, on the table's database and name. -/
theorem guarded_executeHere (q : ASTDropQuery) (tableId : StorageID) (t : StoragePtr) :
    Respects (Guarded (env.granted (dropStorage env t) tableId.databaseName
        (some tableId.tableName))) (executeHere db env q tableId t) := by
  unfold executeHere
  dsimp only
  split
  · exact .guard (stateless_checkAccess env _ _ _) (fun _ _ _ h ↦ checkAccess_ok env h) _
  · exact .of_stateless (.bind (.ite (.throw _) (.pure _)) fun _ ↦
      .bind (stateless_checkAccess env _ _ _) fun _ ↦ .bind (.ofExcept _) fun _ ↦
        .bind (.ofExcept _) fun _ ↦ .ofExcept _)
  · exact .guard (stateless_checkAccess env _ _ _) (fun _ _ _ h ↦ checkAccess_ok env h) _

/-- Once the table is found, the state changes only after the user was granted the access type
for what the table is: here, or before the query is handed to a replicated database, which runs
the same branch on this replica. -/
theorem guarded_executeToFoundTable (q : ASTDropQuery) (tableId : StorageID) (t : StoragePtr) :
    Respects (Guarded (env.granted (dropStorage env t) tableId.databaseName
        (some tableId.tableName))) (executeToFoundTable db env queryPtr q tableId t) := by
  have hhere := guarded_executeHere db env q tableId t
  unfold executeToFoundTable
  refine .bind (.of_stateless (.ite (.throw _) (.pure _))) fun _ ↦
    .bind (.of_stateless (.ite (.throw _) (.pure _))) fun _ ↦ ?_
  dsimp only
  refine .ite ?_ hhere
  cases hk : q.kind with
  | truncate =>
    exact .of_stateless (.bind (stateless_checkAccess env _ _ _) fun _ ↦
      .bind (.ofExcept _) fun _ ↦ stateless_executeHere_truncate db env hk tableId t)
  | drop | detach =>
    exact .guard (stateless_checkAccess env _ _ _) (fun _ _ _ h ↦ checkAccess_ok env h) _

/-- From `s`, `executeToTableImpl` either leaves the state (a temporary table, a missing one), or
goes on with `executeToFoundTable` on the table `s` has attached under the query's name, in the
modelled database. -/
theorem executeToTableImpl_cases (q : ASTDropQuery) (s : State) :
    stateAfter (executeToTableImpl db env queryPtr q s) = s ∨
      ∃ tableId t, tableId.databaseName = db.databaseName ∧ tableId.tableName = q.table ∧
        Database.tryGetTable s q.table = some t ∧
        executeToTableImpl db env queryPtr q s =
          executeToFoundTable db env queryPtr q tableId t s := by
  unfold executeToTableImpl
  dsimp only
  split
  · exact .inl ((stateless_executeToTemporaryTable env _ _).stateAfter_eq s)
  · split
    · exact .inl ((Stateless.ite (.pure _) (.throw _)).stateAfter_eq s)
    · have htn : (if (q.temporary || q.database.isEmpty) = true then
          (⟨env.currentDatabase, q.table, Databases.UUIDHelpers.Nil⟩ : StorageID)
        else ⟨q.database, q.table, Databases.UUIDHelpers.Nil⟩).tableName = q.table := by
        split <;> rfl
      generalize (if (q.temporary || q.database.isEmpty) = true then
          (⟨env.currentDatabase, q.table, Databases.UUIDHelpers.Nil⟩ : StorageID)
        else ⟨q.database, q.table, Databases.UUIDHelpers.Nil⟩) = tableId at htn ⊢
      by_cases hdb : tableId.databaseName = db.databaseName
      · cases hf : Database.tryGetTable s tableId.tableName with
        | none => cases q.ifExists <;> simp [getDatabaseAndTable, tryGetDatabaseAndTable, hdb, hf]
        | some t =>
          refine .inr ⟨tableId, t, hdb, htn, htn ▸ hf, ?_⟩
          cases q.ifExists <;> simp [getDatabaseAndTable, tryGetDatabaseAndTable, hdb, hf]
      · cases q.ifExists <;> simp [getDatabaseAndTable, tryGetDatabaseAndTable, hdb]

/-- `executeToDatabaseImpl` changes the state only after the user was granted `DROP DATABASE` on
the modelled database. -/
theorem guarded_executeToDatabaseImpl (q : ASTDropQuery) :
    Respects (Guarded (q.database = db.databaseName ∧ env.granted .dropDatabase q.database none))
      (executeToDatabaseImpl db env queryPtr q) := by
  unfold executeToDatabaseImpl
  dsimp only
  split
  · exact .of_stateless (.ite (.pure _) (.throw _))
  · next hne =>
    split
    · exact .of_stateless (.throw _)
    · split
      · exact .guard (stateless_checkAccess env _ _ _)
          (fun _ _ _ h ↦ ⟨not_not.mp hne, checkAccess_ok env h⟩) _
      · exact .of_stateless (.pure _)

/-- No query changes the modelled database's tables or the catalog's UUID map unless the user was
granted the right the source checks for the change: for a query naming a table, the access type
for what the table attached under that name is (`DROP TABLE`, `DROP VIEW` or `DROP DICTIONARY`),
on the modelled database and the table; for a query naming only a database, `DROP DATABASE` on
it.  A query sent `ON CLUSTER` changes nothing here.  This holds whatever the context answers and
whatever the database engine's `dropTable` and `detachTablePermanently` do.  The session's
temporary tables, which live in a database of their own, are outside the model: a drop of one
changes nothing here. -/
theorem execute_changes_only_if_granted (s : State)
    (h : stateAfter (execute db env queryPtr s) ≠ s) :
    queryPtr.cluster = "" ∧
      ((queryPtr.table ≠ "" ∧ ∃ t, Database.tryGetTable s queryPtr.table = some t ∧
          env.granted (dropStorage env t) db.databaseName (some queryPtr.table)) ∨
        (queryPtr.table = "" ∧ queryPtr.database = db.databaseName ∧
          env.granted .dropDatabase db.databaseName none)) := by
  unfold execute at h
  split_ifs at h with hc ht hd
  · exact absurd ((Stateless.ofExcept _).stateAfter_eq s) h
  · refine ⟨by simpa [String.isEmpty_iff] using hc,
      .inl ⟨fun h' ↦ absurd ht (by rw [h']; decide), ?_⟩⟩
    unfold executeToTable at h
    rcases (stateless_deleteTableDistributed env queryPtr).bind_cases _ s with
      ⟨e, he⟩ | ⟨b, -, he⟩
    · exact absurd (by rw [he]; rfl) h
    rw [he] at h
    cases b
    · rcases executeToTableImpl_cases db env queryPtr queryPtr s with
        h₀ | ⟨tableId, t, hdb, htn, hf, he'⟩
      · exact absurd h₀ h
      rw [if_neg Bool.false_ne_true, he'] at h
      have hg := (guarded_executeToFoundTable db env queryPtr queryPtr tableId t s).resolve_left h
      exact ⟨t, hf, hdb ▸ htn ▸ hg⟩
    · exact absurd rfl h
  · have hg := (respects_executeToDatabase db env queryPtr queryPtr
      (guarded_executeToDatabaseImpl db env queryPtr queryPtr) s).resolve_left h
    exact ⟨by simpa [String.isEmpty_iff] using hc, .inr ⟨by simpa [String.isEmpty_iff] using ht,
      hg.1, hg.1 ▸ hg.2⟩⟩
  · exact absurd rfl h

theorem detachA_changes_under_drop_table :
    stateAfter (execute db₀ permissive detachA ⟨tables₁₂, catalog₁₂⟩) ≠ ⟨tables₁₂, catalog₁₂⟩ ∧
      detachA.cluster = "" ∧
      ((detachA.table ≠ "" ∧
          ∃ t, Database.tryGetTable ⟨tables₁₂, catalog₁₂⟩ detachA.table = some t ∧
          permissive.granted (dropStorage permissive t) db₀.databaseName (some detachA.table)) ∨
        (detachA.table = "" ∧ detachA.database = db₀.databaseName ∧
          permissive.granted .dropDatabase db₀.databaseName none)) :=
  have hne : stateAfter (execute db₀ permissive detachA ⟨tables₁₂, catalog₁₂⟩) ≠
      ⟨tables₁₂, catalog₁₂⟩ := fun h ↦ by
    have h₁ : (stateAfter (execute db₀ permissive detachA ⟨tables₁₂, catalog₁₂⟩)).tables.find "a" =
        none := rfl
    rw [h, Databases.find_tables₁₂.mpr (.inl ⟨rfl, rfl⟩)] at h₁
    cases h₁
  ⟨hne, execute_changes_only_if_granted db₀ permissive detachA _ hne⟩

end Access

end Daisy.Interpreters
