import Mathlib.Data.List.Sigma
import Mathlib.Data.List.Sort

/-!
# `std::map` as a key-sorted association list

The database layer keeps its tables in a `std::map<String, StoragePtr>`, copies it whole for
`shutdown`'s snapshot, and iterates it in key order.  We represent such a map by its entries,
sorted strictly by key.  Iteration is then the list itself, and the representation is canonical:
two maps with the same lookups are equal (`StdMap.ext`), which is what lets later files state that
an operation restores a map *exactly*.

Lookup and erasure are Mathlib's `List.dlookup` and `List.kerase`; only sorted insertion is ours.
-/

namespace Daisy

/-- A `std::map`: its entries in iteration order, with strictly increasing keys. -/
structure StdMap (K : Type) [LinearOrder K] (V : Type) where
  /-- The entries, in the order iteration visits them. -/
  entries : List ((_ : K) × V)
  /-- Keys increase strictly along the entries. -/
  sorted : entries.Pairwise (fun a b ↦ a.1 < b.1)

namespace StdMap

variable {K V : Type} [LinearOrder K] [DecidableEq K]

/-! ## Operations -/

/-- Insertion into a key-sorted list, replacing an entry with the same key. -/
def insertSorted (k : K) (v : V) : List ((_ : K) × V) → List ((_ : K) × V)
  | [] => [⟨k, v⟩]
  | e :: es =>
    if k < e.1 then ⟨k, v⟩ :: e :: es
    else if k = e.1 then ⟨k, v⟩ :: es
    else e :: insertSorted k v es

theorem mem_insertSorted {k : K} {v : V} {a : (_ : K) × V} {l : List ((_ : K) × V)}
    (h : a ∈ insertSorted k v l) : a = ⟨k, v⟩ ∨ a ∈ l := by
  induction l with
  | nil => simpa [insertSorted] using h
  | cons e es ih =>
    simp only [insertSorted] at h
    split_ifs at h <;> simp only [List.mem_cons] at h ⊢ <;> aesop

theorem insertSorted_sorted (k : K) (v : V) {l : List ((_ : K) × V)}
    (hl : l.Pairwise (fun a b ↦ a.1 < b.1)) :
    (insertSorted k v l).Pairwise (fun a b ↦ a.1 < b.1) := by
  induction l with
  | nil => exact List.pairwise_singleton _ _
  | cons e es ih =>
    have he : ∀ a ∈ es, e.1 < a.1 := fun _ ↦ List.rel_of_pairwise_cons hl
    simp only [insertSorted]
    split_ifs with hlt heq
    · exact hl.cons fun a ha ↦ (List.mem_cons.mp ha).elim (· ▸ hlt) (hlt.trans <| he a ·)
    · exact hl.of_cons.cons fun a ha ↦ heq ▸ he a ha
    · refine (ih hl.of_cons).cons fun a ha ↦ (mem_insertSorted ha).elim ?_ (he a)
      rintro rfl
      exact lt_of_le_of_ne (not_lt.mp hlt) (Ne.symm heq)

/-- The empty map. -/
def empty : StdMap K V := ⟨[], .nil⟩

/-- `m.find(k)`: the value stored under `k`. -/
def find (m : StdMap K V) (k : K) : Option V := m.entries.dlookup k

/-- Whether the map has an entry under `k`. -/
def contains (m : StdMap K V) (k : K) : Bool := (m.find k).isSome

/-- `m[k] = v`: store `v` under `k`, replacing what was there. -/
def insert (m : StdMap K V) (k : K) (v : V) : StdMap K V :=
  ⟨insertSorted k v m.entries, insertSorted_sorted k v m.sorted⟩

/-- `m.emplace(k, v)`: insert only if `k` is absent; the flag says whether it inserted. -/
def emplace (m : StdMap K V) (k : K) (v : V) : StdMap K V × Bool :=
  if m.contains k then (m, false) else (m.insert k v, true)

/-- `m.erase(k)`. -/
def erase (m : StdMap K V) (k : K) : StdMap K V :=
  ⟨m.entries.kerase k, m.sorted.sublist (List.kerase_sublist k _)⟩

/-- `m.empty()`. -/
def isEmpty (m : StdMap K V) : Bool := m.entries.isEmpty

/-- The entries whose keys satisfy `p`, as a map. -/
def filter (m : StdMap K V) (p : K → Bool) : StdMap K V :=
  ⟨m.entries.filter fun kv ↦ p kv.1, m.sorted.sublist (List.filter_sublist _)⟩

/-! ## Lookup through each operation -/

omit [DecidableEq K] in
theorem nodupKeys (m : StdMap K V) : m.entries.NodupKeys :=
  List.nodupKeys_iff_pairwise.mpr (m.sorted.imp ne_of_lt)

/-- An entry is in the map exactly when lookup finds it. -/
theorem mem_entries {m : StdMap K V} {k : K} {v : V} : ⟨k, v⟩ ∈ m.entries ↔ m.find k = some v :=
  (List.mem_dlookup_iff m.nodupKeys).symm

@[simp] theorem find_empty (k : K) : (empty : StdMap K V).find k = none := rfl

omit [DecidableEq K] in
@[simp] theorem entries_empty : (empty : StdMap K V).entries = [] := rfl

theorem contains_eq_isSome (m : StdMap K V) (k : K) : m.contains k = (m.find k).isSome := rfl

omit [LinearOrder K] in
theorem dlookup_cons (k k' : K) (v : V) (l : List ((_ : K) × V)) :
    (⟨k, v⟩ :: l).dlookup k' = if k' = k then some v else l.dlookup k' := by
  by_cases h : k' = k
  · subst h; simp
  · simp [List.dlookup_cons_ne l ⟨k, v⟩ h, h]

theorem find_insertSorted (k k' : K) (v : V) (l : List ((_ : K) × V)) :
    (insertSorted k v l).dlookup k' = if k' = k then some v else l.dlookup k' := by
  induction l with
  | nil => simp [insertSorted, dlookup_cons]
  | cons e es ih =>
    obtain ⟨k₀, v₀⟩ := e
    by_cases hlt : k < k₀
    · simp only [insertSorted, if_pos hlt, dlookup_cons]
    by_cases heq : k = k₀
    · subst heq
      simp only [insertSorted, if_neg hlt, if_true, dlookup_cons]
      split_ifs <;> rfl
    · simp only [insertSorted, if_neg hlt, if_neg heq, dlookup_cons, ih]
      split_ifs <;> simp_all

@[simp] theorem find_insert (m : StdMap K V) (k k' : K) (v : V) :
    (m.insert k v).find k' = if k' = k then some v else m.find k' :=
  find_insertSorted k k' v m.entries

@[simp] theorem find_erase (m : StdMap K V) (k k' : K) :
    (m.erase k).find k' = if k' = k then none else m.find k' := by
  by_cases h : k' = k
  · subst h; simp [find, erase, List.dlookup_kerase k' m.nodupKeys]
  · simp [find, erase, h, List.dlookup_kerase_ne h]

theorem emplace_of_find_none {m : StdMap K V} {k : K} (v : V) (h : m.find k = none) :
    m.emplace k v = (m.insert k v, true) := by
  simp [emplace, contains, h]

theorem emplace_of_find_some {m : StdMap K V} {k : K} {w : V} (v : V) (h : m.find k = some w) :
    m.emplace k v = (m, false) := by
  simp [emplace, contains, h]

/-- `emplace` keeps the value already stored under its key. -/
theorem find_emplace (m : StdMap K V) (k k' : K) (v : V) :
    (m.emplace k v).1.find k' = (m.find k').or (if k' = k then some v else none) := by
  cases hk : m.find k with
  | none => rw [emplace_of_find_none v hk]; by_cases h : k' = k <;> simp [h, hk, Option.or_none]
  | some w => rw [emplace_of_find_some v hk]; by_cases h : k' = k <;> simp [h, hk, Option.or_none]

omit [LinearOrder K] in
theorem dlookup_filter (p : K → Bool) (k : K) (l : List ((_ : K) × V)) :
    (l.filter fun kv ↦ p kv.1).dlookup k = if p k then l.dlookup k else none := by
  induction l with
  | nil => simp
  | cons kv l ih =>
    obtain ⟨k', v⟩ := kv
    by_cases hk : k = k'
    · subst hk
      by_cases hp : p k <;> simp [List.filter_cons, dlookup_cons, hp, ih]
    · by_cases hp : p k' <;> simp [List.filter_cons, dlookup_cons, hp, hk, ih]

@[simp] theorem find_filter (m : StdMap K V) (p : K → Bool) (k : K) :
    (m.filter p).find k = if p k then m.find k else none :=
  dlookup_filter p k m.entries

/-- Inserting under an absent key adds exactly one value to those the map holds. -/
theorem exists_find_insert {m : StdMap K V} {k : K} {v w : V} (h : m.find k = none) :
    (∃ k', (m.insert k v).find k' = some w) ↔ v = w ∨ ∃ k', m.find k' = some w := by
  constructor
  · rintro ⟨k', hk'⟩
    by_cases hk : k' = k
    · simp_all
    · exact .inr ⟨k', by simpa [hk] using hk'⟩
  · rintro (rfl | ⟨k', hk'⟩)
    · exact ⟨k, by simp⟩
    · exact ⟨k', by rw [find_insert, if_neg (by rintro rfl; simp_all)]; exact hk'⟩

/-- After erasing `k`, the map holds what it held under every other key. -/
theorem exists_find_erase {m : StdMap K V} {k : K} {w : V} :
    (∃ k', (m.erase k).find k' = some w) ↔ ∃ k', k' ≠ k ∧ m.find k' = some w := by
  constructor
  · rintro ⟨k', hk'⟩
    by_cases hk : k' = k
    · simp_all
    · exact ⟨k', hk, by simpa [hk] using hk'⟩
  · rintro ⟨k', hk, hk'⟩
    exact ⟨k', by simpa [hk] using hk'⟩

/-! ## Extensionality -/

/-- Maps are determined by their lookups: the sorted representation is canonical. -/
theorem ext {m m' : StdMap K V} (h : ∀ k, m.find k = m'.find k) : m = m' := by
  have : IsAntisymm ((_ : K) × V) (fun a b ↦ a.1 < b.1) :=
    ⟨fun _ _ h₁ h₂ ↦ absurd (h₁.trans h₂) (lt_irrefl _)⟩
  have hperm := List.lookup_ext m.nodupKeys m'.nodupKeys fun k v ↦ by
    change m.find k = some v ↔ m'.find k = some v
    rw [h]
  cases m; cases m'
  simpa using List.eq_of_perm_of_sorted hperm ‹_› ‹_›

/-- Erasing a key that was just inserted gives back the map. -/
theorem erase_insert {m : StdMap K V} {k : K} (v : V) (h : m.find k = none) :
    (m.insert k v).erase k = m :=
  ext fun k' ↦ by by_cases hk : k' = k <;> simp [hk, h]

/-- Re-inserting the value stored under a key after erasing it gives back the map. -/
theorem insert_erase {m : StdMap K V} {k : K} {v : V} (h : m.find k = some v) :
    (m.erase k).insert k v = m :=
  ext fun k' ↦ by by_cases hk : k' = k <;> simp [hk, h]

end StdMap

end Daisy
