import Mathlib.Data.Finset.Basic
import Mathlib.Data.List.DropRight

/-!
# The idempotent-key cache of a shard

`StorageDistributedMergeTree` drops a consumed block whose idempotent key it has seen recently
(`dedupBlock`).  It remembers keys in a deque `idempotent_keys`, oldest first, with a hash index
`idempotent_keys_index` over the same strings for the membership test; `addIdempotentKey` pushes a
key at the back and, past the configured capacity `maxKeys`, evicts the oldest from both.  The
header declares the two containers and the two methods, but their bodies are in the storage's
implementation file, which is not among the repository's files: they are modelled from the spec's
description of the idempotency index, on the header's containers.

Above the cache stands what it is for, a `Window`: every key admitted so far, of which a record's
key is a duplicate exactly when it is among the last `maxKeys`.  The window carries its invariant,
that no key is admitted twice among `maxKeys + 1` consecutive admissions (`Spaced`), so an invalid
window cannot be built.  `Abstracts` relates a cache to a window, and every run of `dedupBlock` is
simulated by the window's run: the same answers, with the cache holding the window's last `maxKeys`
keys (`Abstracts.run`).  From it: a record is dropped exactly when its key is among the last
`maxKeys` keys admitted before it (`IdempotentKeys.dedupBlocks_drops_iff`); any `maxKeys + 1`
consecutive keys a run admits are distinct (`IdempotentKeys.admitted_window_nodup`), so a block is
committed at most once while its key is in the window and may be committed again once `maxKeys`
later keys have pushed it out; and the cache stays bounded, duplicate-free and in agreement with its
index over every run (`IdempotentKeys.dedupBlocks_inv`).

`buildIdempotentKeysIndex`, which rebuilds the index from a deque handed to it, has neither a body
nor a description and is left out, as is the sharing of each string between the deque and the
index (`std::shared_ptr` and `StringRef`).
-/

namespace Daisy.Storages

/-- Modelled from the spec: the idempotent-key cache, `idempotent_keys` and
`idempotent_keys_index`. -/
structure IdempotentKeys where
  /-- `idempotent_keys`: the remembered keys, oldest at the front. -/
  idempotentKeys : List String
  /-- `idempotent_keys_index`: the keys the membership test looks up. -/
  idempotentKeysIndex : Finset String

/-- Taking the last `n` entries keeps everything a later look at the last `n` needs. -/
theorem rtake_append_rtake {α : Type} (l₁ l₂ : List α) (n : Nat) :
    (l₁.rtake n ++ l₂).rtake n = (l₁ ++ l₂).rtake n := by
  simp only [List.rtake, List.length_append, List.length_drop, List.drop_append_eq_append_drop,
    List.drop_drop]
  congr 2 <;> omega

theorem rtake_of_length_le {α : Type} {l : List α} {n : Nat} (h : l.length ≤ n) :
    l.rtake n = l := by
  simp [List.rtake, Nat.sub_eq_zero_of_le h]

namespace IdempotentKeys

/-- The cache of a shard that has consumed nothing. -/
def empty : IdempotentKeys := ⟨[], ∅⟩

/-- `idempotent_keys.push_back(key)`, with the key added to the index. -/
def pushBack (c : IdempotentKeys) (key : String) : IdempotentKeys :=
  ⟨c.idempotentKeys ++ [key], insert key c.idempotentKeysIndex⟩

/-- `idempotent_keys.pop_front()`, with the popped key erased from the index. -/
def popFront (c : IdempotentKeys) : IdempotentKeys :=
  match c.idempotentKeys with
  | [] => c
  | oldest :: rest => ⟨rest, c.idempotentKeysIndex.erase oldest⟩

@[simp] theorem pushBack_idempotentKeys (c : IdempotentKeys) (key : String) :
    (c.pushBack key).idempotentKeys = c.idempotentKeys ++ [key] := rfl

@[simp] theorem pushBack_idempotentKeysIndex (c : IdempotentKeys) (key : String) :
    (c.pushBack key).idempotentKeysIndex = insert key c.idempotentKeysIndex := rfl

@[simp] theorem popFront_idempotentKeys (c : IdempotentKeys) :
    c.popFront.idempotentKeys = c.idempotentKeys.tail := by
  unfold popFront
  split <;> simp_all

/-- Popping the front of a duplicate-free deque keeps the index in agreement with it. -/
theorem popFront_index {c : IdempotentKeys} (hn : c.idempotentKeys.Nodup)
    (hi : c.idempotentKeysIndex = c.idempotentKeys.toFinset) :
    c.popFront.idempotentKeysIndex = c.popFront.idempotentKeys.toFinset := by
  unfold popFront
  split
  · exact hi
  · next oldest rest h =>
    rw [h, List.nodup_cons] at hn
    rw [h, List.toFinset_cons] at hi
    show c.idempotentKeysIndex.erase oldest = rest.toFinset
    rw [hi]
    exact Finset.erase_insert (by simpa using hn.1)

section Cache

variable (maxKeys : Nat)

/-- Modelled from the spec: `addIdempotentKey(key)`.  The key goes to the back of the deque and
into the index; when the deque then holds more than `maxKeys` keys, the oldest leaves both. -/
def addIdempotentKey (c : IdempotentKeys) (key : String) : IdempotentKeys :=
  let c := c.pushBack key
  if maxKeys < c.idempotentKeys.length then c.popFront else c

/-- Modelled from the spec: `dedupBlock(record)` for a consumed record with idempotent key `key`
(`none` for a record without one): whether the record is a duplicate to drop, and the cache after
it.  A key the index holds is a duplicate and changes nothing; any other key is admitted. -/
def dedupBlock (c : IdempotentKeys) : Option String → Bool × IdempotentKeys
  | none => (false, c)
  | some key =>
    if key ∈ c.idempotentKeysIndex then (true, c) else (false, c.addIdempotentKey maxKeys key)

/-- Modelled from the spec: the records of a consumed batch through `dedupBlock`, in order:
whether each is dropped, and the cache after the last. -/
def dedupBlocks : IdempotentKeys → List (Option String) → List Bool × IdempotentKeys
  | c, [] => ([], c)
  | c, key :: keys =>
    let r := c.dedupBlock maxKeys key
    let rs := dedupBlocks r.2 keys
    (r.1 :: rs.1, rs.2)

/-- The keys of the records a run let through, in order: each record not dropped that has a
key. -/
def admittedKeys : List (Option String) → List Bool → List String
  | key :: keys, dup :: dups => (if dup then [] else key.toList) ++ admittedKeys keys dups
  | _, _ => []

/-- A cache `dedupBlock` can work with: no key twice in the deque, the index holding exactly the
deque's keys, and at most `maxKeys` of them. -/
structure Inv (c : IdempotentKeys) : Prop where
  /-- No key is remembered twice. -/
  nodup : c.idempotentKeys.Nodup
  /-- The index holds the deque's keys. -/
  index : c.idempotentKeysIndex = c.idempotentKeys.toFinset
  /-- The memory is bounded. -/
  length_le : c.idempotentKeys.length ≤ maxKeys

theorem inv_empty : empty.Inv maxKeys := ⟨.nil, rfl, Nat.zero_le _⟩

variable {maxKeys}

/-- Admitting a key the cache does not hold keeps it valid. -/
theorem Inv.addIdempotentKey {c : IdempotentKeys} {key : String} (hc : c.Inv maxKeys)
    (hk : key ∉ c.idempotentKeys) : (c.addIdempotentKey maxKeys key).Inv maxKeys := by
  have hn : (c.pushBack key).idempotentKeys.Nodup := by
    simpa using hc.nodup.concat hk
  have hi : (c.pushBack key).idempotentKeysIndex = (c.pushBack key).idempotentKeys.toFinset := by
    ext; simp [hc.index, or_comm]
  dsimp only [IdempotentKeys.addIdempotentKey]
  split
  · refine ⟨?_, popFront_index hn hi, by simpa using hc.length_le⟩
    rw [popFront_idempotentKeys]
    exact hn.sublist (List.tail_sublist _)
  · exact ⟨hn, hi, by omega⟩

/-- Admitting a key to a cache within its capacity leaves the deque holding the last `maxKeys`
keys with the new one at the back. -/
theorem addIdempotentKey_idempotentKeys {c : IdempotentKeys} (key : String)
    (hc : c.idempotentKeys.length ≤ maxKeys) :
    (c.addIdempotentKey maxKeys key).idempotentKeys =
      (c.idempotentKeys ++ [key]).rtake maxKeys := by
  dsimp only [IdempotentKeys.addIdempotentKey, List.rtake]
  split
  · next h =>
    simp only [pushBack_idempotentKeys, List.length_append, List.length_singleton] at h ⊢
    rw [popFront_idempotentKeys, pushBack_idempotentKeys,
      show c.idempotentKeys.length + 1 - maxKeys = 1 by omega, List.drop_one]
  · next h =>
    simp only [pushBack_idempotentKeys, List.length_append, List.length_singleton] at h ⊢
    rw [show c.idempotentKeys.length + 1 - maxKeys = 0 by omega, List.drop_zero]

end Cache

end IdempotentKeys

/-! ## What the cache is for -/

section Window

variable (maxKeys : Nat)

/-- No key occurs twice among `maxKeys + 1` consecutive admissions: each key admitted was not
among the last `maxKeys` admitted before it. -/
inductive Spaced : List String → Prop
  | /-- Nothing admitted. -/
    nil : Spaced []
  | /-- A key admitted while it is not among the last `maxKeys`. -/
    snoc {admitted : List String} {key : String} :
      Spaced admitted → key ∉ admitted.rtake maxKeys → Spaced (admitted ++ [key])

/-- What the cache is for: every key admitted so far, oldest first.  A record's key is a duplicate
exactly when it is among the last `maxKeys` admitted. -/
structure Window where
  /-- Every key admitted so far, oldest first. -/
  admitted : List String
  /-- No key twice among `maxKeys + 1` consecutive admissions. -/
  spaced : Spaced maxKeys admitted

variable {maxKeys}

/-- Any `maxKeys + 1` consecutive keys of a spaced history are distinct. -/
theorem Spaced.window_nodup {l : List String} (h : Spaced maxKeys l) (n : Nat) :
    ((l.drop n).take (maxKeys + 1)).Nodup := by
  induction h generalizing n with
  | nil => simp
  | @snoc admitted key _ hk ih =>
    by_cases hn : n ≤ admitted.length
    · rw [List.drop_append_of_le_length hn]
      by_cases hlen : maxKeys + 1 ≤ (admitted.drop n).length
      · rw [List.take_append_of_le_length hlen]
        exact ih n
      · rw [List.length_drop] at hlen
        rw [List.take_of_length_le (by simp; omega)]
        have hd : (admitted.drop n).Nodup := by
          have : (admitted.drop n).length ≤ maxKeys + 1 := by simp; omega
          simpa [List.take_of_length_le this] using ih n
        have hk' : key ∉ admitted.drop n := fun h ↦
          hk ((List.drop_sublist_drop_left admitted (by omega)).subset h)
        simpa using hd.concat hk'
    · rw [List.drop_eq_nil_of_le (by simp; omega)]
      simp

/-- The last `maxKeys` keys of a spaced history are distinct. -/
theorem Spaced.rtake_nodup {l : List String} (h : Spaced maxKeys l) : (l.rtake maxKeys).Nodup := by
  simpa [List.rtake, List.take_of_length_le (show (l.drop (l.length - maxKeys)).length ≤ maxKeys + 1
    by simp; omega)] using h.window_nodup (l.length - maxKeys)

/-- A duplicate-free history no longer than `maxKeys` is spaced. -/
theorem spaced_of_nodup {l : List String} (hn : l.Nodup) (hl : l.length ≤ maxKeys) :
    Spaced maxKeys l := by
  induction l using List.reverseRecOn with
  | nil => exact .nil
  | append_singleton l key ih =>
    obtain ⟨hn', -, hd⟩ := List.nodup_append.mp hn
    simp only [List.length_append, List.length_singleton] at hl
    refine .snoc (ih hn' (by omega)) ?_
    rw [rtake_of_length_le (by omega)]
    exact fun h ↦ hd h (List.mem_singleton_self key)

namespace Window

/-- A record reaching the window: a duplicate when its key is among the last `maxKeys` admitted;
otherwise its key, if it has one, is admitted. -/
def offer (w : Window maxKeys) : Option String → Bool × Window maxKeys
  | none => (false, w)
  | some key =>
    if h : key ∈ w.admitted.rtake maxKeys then (true, w)
    else (false, ⟨w.admitted ++ [key], w.spaced.snoc h⟩)

/-- The records of a batch reaching the window in order. -/
def offerAll : Window maxKeys → List (Option String) → List Bool × Window maxKeys
  | w, [] => ([], w)
  | w, key :: keys =>
    let r := w.offer key
    let rs := r.2.offerAll keys
    (r.1 :: rs.1, rs.2)

/-- The window a valid cache stands for: its keys, taken as everything admitted so far. -/
def ofInv {c : IdempotentKeys} (hc : c.Inv maxKeys) : Window maxKeys :=
  ⟨c.idempotentKeys, spaced_of_nodup hc.nodup hc.length_le⟩

@[simp] theorem ofInv_admitted {c : IdempotentKeys} (hc : c.Inv maxKeys) :
    (ofInv hc).admitted = c.idempotentKeys := rfl

/-- What one record adds to the history: its key, unless it is dropped or has none. -/
theorem offer_admitted (w : Window maxKeys) (key : Option String) :
    (w.offer key).2.admitted =
      w.admitted ++ IdempotentKeys.admittedKeys [key] [(w.offer key).1] := by
  cases key with
  | none => simp [offer, IdempotentKeys.admittedKeys]
  | some key =>
    by_cases h : key ∈ w.admitted.rtake maxKeys <;> simp [offer, h, IdempotentKeys.admittedKeys]

/-- A run's history is the start's followed by the keys the run admitted. -/
theorem offerAll_admitted (w : Window maxKeys) (keys : List (Option String)) :
    (w.offerAll keys).2.admitted =
      w.admitted ++ IdempotentKeys.admittedKeys keys (w.offerAll keys).1 := by
  induction keys generalizing w with
  | nil => simp [offerAll, IdempotentKeys.admittedKeys]
  | cons key keys ih =>
    simp only [offerAll, IdempotentKeys.admittedKeys, ih, offer_admitted, List.append_assoc]
    simp [IdempotentKeys.admittedKeys]

/-- The record at position `i` of a run is dropped exactly when it has a key that is among the last
`maxKeys` of the history as it stood when the record arrived. -/
theorem offerAll_drops_iff (w : Window maxKeys) (keys : List (Option String)) (i : Nat) :
    (w.offerAll keys).1[i]? = some true ↔ ∃ key, keys[i]? = some (some key) ∧
      key ∈ (w.admitted ++ IdempotentKeys.admittedKeys (keys.take i) (w.offerAll keys).1).rtake
        maxKeys := by
  induction keys generalizing w i with
  | nil => simp [offerAll]
  | cons key keys ih =>
    cases i with
    | zero =>
      cases key with
      | none => simp [offerAll, offer]
      | some key =>
        by_cases h : key ∈ w.admitted.rtake maxKeys <;>
          simp [offerAll, offer, h, IdempotentKeys.admittedKeys]
    | succ i =>
      simp only [offerAll, List.getElem?_cons_succ, List.take_succ_cons,
        IdempotentKeys.admittedKeys, ih, offer_admitted, List.append_assoc]
      simp [IdempotentKeys.admittedKeys]

end Window

end Window

/-! ## The cache refines the window -/

namespace IdempotentKeys

variable {maxKeys : Nat}

/-- The cache holds the window's last `maxKeys` keys, and its index the same keys. -/
structure Abstracts (c : IdempotentKeys) (w : Window maxKeys) : Prop where
  /-- The deque is the window's memory. -/
  keys : c.idempotentKeys = w.admitted.rtake maxKeys
  /-- The index agrees with the deque. -/
  index : c.idempotentKeysIndex = c.idempotentKeys.toFinset

theorem Inv.abstracts {c : IdempotentKeys} (hc : c.Inv maxKeys) : Abstracts c (Window.ofInv hc) :=
  ⟨(rtake_of_length_le hc.length_le).symm, hc.index⟩

/-- A cache that stands for a window is valid. -/
theorem Abstracts.inv {c : IdempotentKeys} {w : Window maxKeys} (h : Abstracts c w) :
    c.Inv maxKeys :=
  ⟨h.keys ▸ w.spaced.rtake_nodup, h.index, by rw [h.keys]; simp [List.rtake]; omega⟩

/-- One record: the cache answers as the window does, and still stands for it. -/
theorem Abstracts.dedupBlock {c : IdempotentKeys} {w : Window maxKeys} (h : Abstracts c w)
    (key : Option String) :
    (c.dedupBlock maxKeys key).1 = (w.offer key).1 ∧
      Abstracts (c.dedupBlock maxKeys key).2 (w.offer key).2 := by
  cases key with
  | none => exact ⟨rfl, h⟩
  | some key =>
    have hmem : key ∈ c.idempotentKeysIndex ↔ key ∈ w.admitted.rtake maxKeys := by
      rw [h.index, List.mem_toFinset, h.keys]
    by_cases hk : key ∈ w.admitted.rtake maxKeys
    · have hc : c.dedupBlock maxKeys (some key) = (true, c) := if_pos (hmem.mpr hk)
      have hw : w.offer (some key) = (true, w) := dif_pos hk
      rw [hc, hw]
      exact ⟨rfl, h⟩
    · have hc : c.dedupBlock maxKeys (some key) = (false, c.addIdempotentKey maxKeys key) :=
        if_neg (mt hmem.mp hk)
      have hw : w.offer (some key) = (false, ⟨w.admitted ++ [key], w.spaced.snoc hk⟩) := dif_neg hk
      rw [hc, hw]
      have hinv := h.inv
      refine ⟨rfl, ?_, (hinv.addIdempotentKey (h.keys ▸ hk)).index⟩
      rw [addIdempotentKey_idempotentKeys _ hinv.length_le, h.keys, rtake_append_rtake]

/-- A whole run: the cache answers every record as the window does, and ends standing for the
window's end. -/
theorem Abstracts.run {c : IdempotentKeys} {w : Window maxKeys} (h : Abstracts c w)
    (keys : List (Option String)) :
    (c.dedupBlocks maxKeys keys).1 = (w.offerAll keys).1 ∧
      Abstracts (c.dedupBlocks maxKeys keys).2 (w.offerAll keys).2 := by
  induction keys generalizing c w with
  | nil => exact ⟨rfl, h⟩
  | cons key keys ih =>
    obtain ⟨h₁, h₂⟩ := h.dedupBlock key
    obtain ⟨ih₁, ih₂⟩ := ih h₂
    exact ⟨by simp [dedupBlocks, Window.offerAll, h₁, ih₁], ih₂⟩

/-! ## Runs of the cache -/

/-- A redelivery: `a`, `b`, `a` again, then `c`, then `a` once more. -/
def redelivery : List (Option String) := [some "a", some "b", some "a", some "c", some "a"]

/-- In every run from a valid cache, the record at position `i` is dropped exactly when it has a
key that is among the last `maxKeys` keys admitted before it, the cache's own keys counting as
admitted first.  So a key comes back fresh once `maxKeys` later keys have been admitted. -/
theorem dedupBlocks_drops_iff {c : IdempotentKeys} (hc : c.Inv maxKeys)
    (keys : List (Option String)) (i : Nat) :
    (c.dedupBlocks maxKeys keys).1[i]? = some true ↔ ∃ key, keys[i]? = some (some key) ∧
      key ∈ (c.idempotentKeys ++ admittedKeys (keys.take i) (c.dedupBlocks maxKeys keys).1).rtake
        maxKeys := by
  rw [(hc.abstracts.run keys).1]
  exact (Window.ofInv hc).offerAll_drops_iff keys i

theorem redelivery_drops_second_a :
    empty.Inv 2 ∧ (empty.dedupBlocks 2 redelivery).1 = [false, false, true, false, false] ∧
      ((empty.dedupBlocks 2 redelivery).1[2]? = some true ↔ ∃ key,
        redelivery[2]? = some (some key) ∧ key ∈ (empty.idempotentKeys ++
          admittedKeys (redelivery.take 2) (empty.dedupBlocks 2 redelivery).1).rtake 2) :=
  ⟨inv_empty 2, by decide, dedupBlocks_drops_iff (inv_empty 2) redelivery 2⟩

/-- In every run from a valid cache, any `maxKeys + 1` consecutive keys it admits are distinct: a
block is committed at most once while its key is among the last `maxKeys` admitted. -/
theorem admitted_window_nodup {c : IdempotentKeys} (hc : c.Inv maxKeys)
    (keys : List (Option String)) (n : Nat) :
    (((admittedKeys keys (c.dedupBlocks maxKeys keys).1).drop n).take (maxKeys + 1)).Nodup := by
  have h := ((Window.ofInv hc).offerAll keys).2.spaced.window_nodup (c.idempotentKeys.length + n)
  rwa [Window.offerAll_admitted, ← (hc.abstracts.run keys).1, Window.ofInv_admitted,
    List.drop_append] at h

theorem redelivery_admits_a_twice :
    empty.Inv 2 ∧
      admittedKeys redelivery (empty.dedupBlocks 2 redelivery).1 = ["a", "b", "c", "a"] ∧
      (((admittedKeys redelivery (empty.dedupBlocks 2 redelivery).1).drop 1).take 3).Nodup :=
  ⟨inv_empty 2, by decide, admitted_window_nodup (inv_empty 2) redelivery 1⟩

/-- Every run from a valid cache leaves it valid: at most `maxKeys` keys remembered, none twice,
and the index holding exactly the deque's keys. -/
theorem dedupBlocks_inv {c : IdempotentKeys} (hc : c.Inv maxKeys) (keys : List (Option String)) :
    (c.dedupBlocks maxKeys keys).2.Inv maxKeys :=
  (hc.abstracts.run keys).2.inv

theorem redelivery_keeps_inv :
    empty.Inv 2 ∧ (empty.dedupBlocks 2 redelivery).2.idempotentKeys = ["c", "a"] ∧
      (empty.dedupBlocks 2 redelivery).2.Inv 2 :=
  ⟨inv_empty 2, by decide, dedupBlocks_inv (inv_empty 2) redelivery⟩

end IdempotentKeys

end Daisy.Storages
