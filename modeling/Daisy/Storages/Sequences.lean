import Mathlib.Data.List.Sort
import Mathlib.Data.List.Perm.Basic

/-!
# The committed-sequence tracker of a shard

`StorageDistributedMergeTree` consumes its shard's write-ahead-log partition and commits the
records in batches, each covering a `SequencePair` of sequence numbers (SNs).  Batches may finish
out of order, so the shard keeps two things under `sns_mutex`: `local_sn`, the SN up to which every
record is committed, and `local_committed_sns`, a `std::set` of the pairs committed beyond a gap.
`progressSequences` adds a committed pair and then moves `local_sn` over every pair that has become
contiguous with it.

The header declares this state and `progressSequences`, but the storage's implementation file is
not among the repository's files: `progressSequences` and `missingRanges` are modelled from the
spec's description of the sequence tracker, on the header's data structures.

The invariant `Sequences.Inv` says what shape `progressSequences` keeps: the pending pairs are
well formed, chained and separated from `local_sn` by a missing SN.  It holds on every reachable
state, and from it: after a run of batches from a checkpoint, `local_sn` is exactly the end of the
prefix of the SN space that the checkpoint and the delivered batches cover
(`Sequences.run_watermark_iff`), so it never passes an SN no batch delivered and stands right below
the first one; the state depends only on which batches were committed, not on the order they
finished in, and commits exactly their SNs (`Sequences.run_perm`); a tracker restarted from an earlier checkpoint that replays the rest
ends where the uninterrupted one is (`Sequences.restart_replay`); and `missingRanges` reports
exactly the SNs still missing below the last pending batch (`Sequences.missingRanges_iff`).
-/

namespace Daisy.Storages

/-- `SequencePair`, a `std::pair` of `DWAL::RecordSN`s: a batch of records committed together,
from `first` to `second` inclusive.  An SN is a record's sequence number in its log partition:
records have non-negative SNs and `-1` stands for none.  The code's `RecordSN` is a signed 64-bit
integer, whose overflow the SNs of a log partition never reach, so SNs are integers here. -/
structure SequencePair where
  /-- The SN of the batch's first record. -/
  first : Int
  /-- The SN of the batch's last record. -/
  second : Int
deriving DecidableEq, Repr

namespace SequencePair

/-- `std::pair`'s `<`: by `first`, then by `second`. -/
def Lt (p q : SequencePair) : Prop :=
  p.first < q.first ∨ p.first = q.first ∧ p.second < q.second

instance (p q : SequencePair) : Decidable (p.Lt q) := inferInstanceAs (Decidable (_ ∨ _))

/-- The SNs of the batch. -/
def Covers (p : SequencePair) (n : Int) : Prop := p.first ≤ n ∧ n ≤ p.second

instance (p : SequencePair) (n : Int) : Decidable (p.Covers n) :=
  inferInstanceAs (Decidable (_ ∧ _))

theorem Lt.trans {p q r : SequencePair} (h₁ : p.Lt q) (h₂ : q.Lt r) : p.Lt r := by
  unfold Lt at *; omega

theorem Lt.irrefl (p : SequencePair) : ¬ p.Lt p := by
  unfold Lt; omega

/-- The batches share no SN. -/
def Disjoint (p q : SequencePair) : Prop := ∀ n, p.Covers n → ¬ q.Covers n

theorem Disjoint.symm {p q : SequencePair} (h : p.Disjoint q) : q.Disjoint p :=
  fun n hq hp ↦ h n hp hq

theorem lt_or_gt_of_ne {p q : SequencePair} (h : p ≠ q) : p.Lt q ∨ q.Lt p := by
  obtain ⟨a, b⟩ := p
  obtain ⟨c, d⟩ := q
  simp only [Lt, ne_eq, mk.injEq] at *
  omega

end SequencePair

/-! ## `std::set<SequencePair>` -/

/-- Insertion into a sorted list of pairs; a pair already there is not inserted again. -/
def insertPair (p : SequencePair) : List SequencePair → List SequencePair
  | [] => [p]
  | q :: l => if p.Lt q then p :: q :: l else if p = q then q :: l else q :: insertPair p l

@[simp] theorem mem_insertPair {p x : SequencePair} {l : List SequencePair} :
    x ∈ insertPair p l ↔ x = p ∨ x ∈ l := by
  induction l with
  | nil => simp [insertPair]
  | cons q l ih =>
    simp only [insertPair]
    split_ifs with h₁ h₂
    · simp
    · subst h₂; simp
    · simp only [List.mem_cons, ih]; tauto

theorem insertPair_sorted (p : SequencePair) {l : List SequencePair}
    (hl : l.Pairwise SequencePair.Lt) : (insertPair p l).Pairwise SequencePair.Lt := by
  induction l with
  | nil => exact List.pairwise_singleton _ _
  | cons q l ih =>
    have hq : ∀ x ∈ l, q.Lt x := fun _ ↦ List.rel_of_pairwise_cons hl
    simp only [insertPair]
    split_ifs with hlt heq
    · exact hl.cons fun x hx ↦ (List.mem_cons.mp hx).elim (· ▸ hlt) (hlt.trans <| hq x ·)
    · exact hl
    · have hqp : q.Lt p := (SequencePair.lt_or_gt_of_ne heq).resolve_left hlt
      exact (ih hl.of_cons).cons fun x hx ↦
        (mem_insertPair.mp hx).elim (fun h ↦ h ▸ hqp) (hq x)

/-- `std::set<SequencePair>`: its pairs in increasing order, each once. -/
structure SNSet where
  /-- The pairs, in the order iteration visits them. -/
  elems : List SequencePair
  /-- Pairs increase strictly along the list. -/
  sorted : elems.Pairwise SequencePair.Lt

namespace SNSet

/-- The empty set. -/
def empty : SNSet := ⟨[], List.Pairwise.nil⟩

/-- `insert(p)`. -/
def insert (m : SNSet) (p : SequencePair) : SNSet :=
  ⟨insertPair p m.elems, insertPair_sorted p m.sorted⟩

/-- Two sets with the same pairs are equal: the sorted representation is canonical. -/
theorem ext {m m' : SNSet} (h : ∀ p, p ∈ m.elems ↔ p ∈ m'.elems) : m = m' := by
  have : IsAntisymm SequencePair SequencePair.Lt :=
    ⟨fun p _ h₁ h₂ ↦ absurd (h₁.trans h₂) (SequencePair.Lt.irrefl p)⟩
  have : IsIrrefl SequencePair SequencePair.Lt := ⟨SequencePair.Lt.irrefl⟩
  have hnd : ∀ m : SNSet, m.elems.Nodup := fun m ↦ m.sorted.nodup
  have hperm := (List.perm_ext_iff_of_nodup (hnd m) (hnd m')).mpr h
  obtain ⟨l, hl⟩ := m
  obtain ⟨l', hl'⟩ := m'
  simpa using List.eq_of_perm_of_sorted hperm hl hl'

end SNSet

/-! ## `progressSequences` -/

/-- The SN bookkeeping of a shard that `progressSequences` maintains, under `sns_mutex`. -/
structure Sequences where
  /-- `local_sn`: every record up to this SN is committed. -/
  localSn : Int
  /-- `local_committed_sns`: the pairs committed beyond a gap above `local_sn`. -/
  localCommittedSns : SNSet

/-- The loop of `progressSequences`: while the least pair of the set starts right after
`local_sn`, move `local_sn` to its end and erase it. -/
def collapse (localSn : Int) : List SequencePair → Int × List SequencePair
  | [] => (localSn, [])
  | p :: rest => if p.first = localSn + 1 then collapse p.second rest else (localSn, p :: rest)

theorem collapse_suffix (n : Int) (l : List SequencePair) : (collapse n l).2 <:+ l := by
  induction l generalizing n with
  | nil => exact List.suffix_refl _
  | cons p rest ih =>
    simp only [collapse]
    split_ifs
    · exact (ih _).trans (List.suffix_cons _ _)
    · exact List.suffix_refl _

/-! ## The collapse loop -/

/-- The shape of a list of pending pairs above watermark `n`: each pair well formed and beyond
`n`, and each ending before the next begins. -/
structure Pending (n : Int) (l : List SequencePair) : Prop where
  wf : ∀ p ∈ l, p.first ≤ p.second
  above : ∀ p ∈ l, n < p.first
  chain : l.Pairwise fun p q ↦ p.second < q.first

theorem Pending.tail {n : Int} {p : SequencePair} {l : List SequencePair}
    (h : Pending n (p :: l)) : Pending p.second l :=
  ⟨fun q hq ↦ h.wf q (.tail _ hq), fun _ ↦ List.rel_of_pairwise_cons h.chain,
    h.chain.of_cons⟩

theorem Pending.of_cons {n : Int} {p : SequencePair} {l : List SequencePair}
    (h : Pending n (p :: l)) : Pending n l :=
  ⟨fun q hq ↦ h.wf q (.tail _ hq), fun q hq ↦ h.above q (.tail _ hq), h.chain.of_cons⟩

theorem collapse_cons_next {n : Int} {p : SequencePair} {rest : List SequencePair}
    (h : p.first = n + 1) : collapse n (p :: rest) = collapse p.second rest := by
  rw [collapse, if_pos h]

theorem collapse_cons_gap {n : Int} {p : SequencePair} {rest : List SequencePair}
    (h : ¬ p.first = n + 1) : collapse n (p :: rest) = (n, p :: rest) := by
  rw [collapse, if_neg h]

section Collapse

variable {n : Int} {l : List SequencePair}

/-- The watermark only moves up. -/
theorem le_collapse (h : Pending n l) : n ≤ (collapse n l).1 := by
  induction n, l using collapse.induct with
  | case1 => exact le_rfl
  | case2 n p rest hp ih =>
    rw [collapse_cons_next hp]
    have := h.wf p (List.mem_cons_self _ _)
    have := ih h.tail
    omega
  | case3 n p rest hp => rw [collapse_cons_gap hp]

/-- Collapsing commits nothing new and forgets nothing. -/
theorem collapse_committed (h : Pending n l) (m : Int) :
    (m ≤ (collapse n l).1 ∨ ∃ q ∈ (collapse n l).2, q.Covers m) ↔
      m ≤ n ∨ ∃ q ∈ l, q.Covers m := by
  induction n, l using collapse.induct with
  | case1 => simp [collapse]
  | case2 n p rest hp ih =>
    have := h.wf p (List.mem_cons_self _ _)
    have hp' : m ≤ p.second ↔ m ≤ n ∨ p.Covers m := by unfold SequencePair.Covers; omega
    rw [collapse_cons_next hp, ih h.tail, List.exists_mem_cons_iff, hp', or_assoc]
  | case3 n p rest hp => rw [collapse_cons_gap hp]

/-- A pair stays pending exactly when the watermark stopped below it. -/
theorem mem_collapse (h : Pending n l) (q : SequencePair) :
    q ∈ (collapse n l).2 ↔ q ∈ l ∧ (collapse n l).1 < q.first := by
  induction n, l using collapse.induct with
  | case1 => simp [collapse]
  | case2 n p rest hp ih =>
    rw [collapse_cons_next hp, ih h.tail]
    have := h.wf p (List.mem_cons_self _ _)
    have := le_collapse h.tail
    constructor
    · exact fun h ↦ ⟨.tail _ h.1, h.2⟩
    · rintro ⟨_ | ⟨_, hq⟩, hlt⟩
      · omega
      · exact ⟨hq, hlt⟩
  | case3 n p rest hp =>
    rw [collapse_cons_gap hp]
    exact ⟨fun hq ↦ ⟨hq, h.above q hq⟩, And.left⟩

/-- After collapsing, a gap separates the watermark from every pending pair. -/
theorem collapse_gap (h : Pending n l) :
    ∀ q ∈ (collapse n l).2, (collapse n l).1 + 1 < q.first := by
  induction n, l using collapse.induct with
  | case1 => simp [collapse]
  | case2 n p rest hp ih => rw [collapse_cons_next hp]; exact ih h.tail
  | case3 n p rest hp =>
    rw [collapse_cons_gap hp]
    have := h.wf p (List.mem_cons_self _ _)
    have := h.above p (List.mem_cons_self _ _)
    rintro q (_ | ⟨_, hq⟩)
    · omega
    · have := List.rel_of_pairwise_cons h.chain hq; omega

end Collapse

/-- Inserting a pair that lies beyond the watermark and overlaps no pending pair keeps the
pending pairs' shape. -/
theorem Pending.insertPair {n : Int} {p : SequencePair} {l : List SequencePair}
    (h : Pending n l) (hp : p.first ≤ p.second) (hn : n < p.first)
    (hd : ∀ q ∈ l, p.second < q.first ∨ q.second < p.first) : Pending n (insertPair p l) := by
  refine ⟨?_, ?_, ?_⟩
  · simpa using ⟨hp, h.wf⟩
  · simpa using ⟨hn, h.above⟩
  induction l with
  | nil => exact List.pairwise_singleton _ _
  | cons q l ih =>
    have hq := h.wf q (List.mem_cons_self _ _)
    have hdq := hd q (List.mem_cons_self _ _)
    have hql : ∀ x ∈ l, q.second < x.first := fun _ ↦ List.rel_of_pairwise_cons h.chain
    simp only [Daisy.Storages.insertPair]
    split_ifs with hlt heq
    · have : p.second < q.first := by unfold SequencePair.Lt at hlt; omega
      refine h.chain.cons fun x hx ↦ ?_
      rcases List.mem_cons.mp hx with rfl | hx
      · exact this
      · have := hql x hx; omega
    · exact h.chain
    · have : q.second < p.first := by
        have := (SequencePair.lt_or_gt_of_ne heq).resolve_left hlt
        unfold SequencePair.Lt at this; omega
      refine (ih h.of_cons fun x hx ↦ hd x (.tail _ hx)).cons fun x hx ↦ ?_
      rcases mem_insertPair.mp hx with rfl | hx
      · exact this
      · exact hql x hx

/-! ## The tracker's state -/

/-- Modelled from the spec: `progressSequences(seq)`, whose body is not in the repository's
files.  It inserts `seq` into `local_committed_sns`, then collapses into `local_sn` every pair that
has become contiguous with it. -/
def Sequences.progressSequences (s : Sequences) (seq : SequencePair) : Sequences :=
  let pending := s.localCommittedSns.insert seq
  ⟨(collapse s.localSn pending.elems).1, ⟨(collapse s.localSn pending.elems).2,
    pending.sorted.sublist (collapse_suffix _ _).sublist⟩⟩

/-- The state after committing the batches `ps` in turn. -/
def Sequences.run (s : Sequences) (ps : List SequencePair) : Sequences :=
  ps.foldl Sequences.progressSequences s

namespace Sequences

variable {s : Sequences} {p q : SequencePair} {ps : List SequencePair}

theorem progressSequences_localSn (s : Sequences) (p : SequencePair) :
    (s.progressSequences p).localSn = (collapse s.localSn (s.localCommittedSns.insert p).elems).1 :=
  rfl

theorem progressSequences_elems (s : Sequences) (p : SequencePair) :
    (s.progressSequences p).localCommittedSns.elems =
      (collapse s.localSn (s.localCommittedSns.insert p).elems).2 :=
  rfl

theorem run_cons (s : Sequences) (p : SequencePair) (ps : List SequencePair) :
    s.run (p :: ps) = (s.progressSequences p).run ps :=
  rfl

/-- A state is its watermark and its set of pending pairs. -/
theorem ext {s t : Sequences} (h₁ : s.localSn = t.localSn)
    (h₂ : ∀ q, q ∈ s.localCommittedSns.elems ↔ q ∈ t.localCommittedSns.elems) :
    s = t := by
  obtain ⟨n, m⟩ := s
  obtain ⟨n', m'⟩ := t
  cases h₁
  exact congrArg _ (SNSet.ext h₂)

/-- SN `n` is committed: at most `local_sn`, or in a pair of `local_committed_sns`. -/
def Committed (s : Sequences) (n : Int) : Prop :=
  n ≤ s.localSn ∨ ∃ p ∈ s.localCommittedSns.elems, p.Covers n

/-- The shape `progressSequences` keeps: the pending pairs are well formed, each ends before the
next begins, and a missing SN separates them from `local_sn`. -/
structure Inv (s : Sequences) : Prop where
  wf : ∀ p ∈ s.localCommittedSns.elems, p.first ≤ p.second
  gap : ∀ p ∈ s.localCommittedSns.elems, s.localSn + 1 < p.first
  chain : s.localCommittedSns.elems.Pairwise fun p q ↦ p.second < q.first

theorem Inv.pending (hs : s.Inv) : Pending s.localSn s.localCommittedSns.elems :=
  ⟨hs.wf, fun p hp ↦ by have := hs.gap p hp; omega, hs.chain⟩

/-- A batch the consumer may commit: well formed, and covering no committed SN. -/
def Fresh (s : Sequences) (p : SequencePair) : Prop :=
  p.first ≤ p.second ∧ ∀ n, p.Covers n → ¬ s.Committed n

theorem Fresh.localSn_lt (hp : s.Fresh p) : s.localSn < p.first :=
  not_le.mp fun h ↦ hp.2 _ ⟨le_rfl, hp.1⟩ (.inl h)

/-- A fresh batch ends before, or starts after, each pending pair. -/
theorem Fresh.apart (hs : s.Inv) (hp : s.Fresh p) :
    ∀ q ∈ s.localCommittedSns.elems, p.second < q.first ∨ q.second < p.first := by
  intro q hq
  have := hs.wf q hq
  by_contra h
  rcases le_total p.first q.first with hle | hle
  · exact hp.2 q.first ⟨hle, by omega⟩ (.inr ⟨q, hq, le_rfl, this⟩)
  · exact hp.2 p.first ⟨le_rfl, hp.1⟩ (.inr ⟨q, hq, hle, by omega⟩)

theorem Fresh.pending_insert (hs : s.Inv) (hp : s.Fresh p) :
    Pending s.localSn (s.localCommittedSns.insert p).elems :=
  hs.pending.insertPair hp.1 hp.localSn_lt (hp.apart hs)

/-- `progressSequences` keeps the tracker's shape. -/
theorem Inv.progressSequences (hs : s.Inv) (hp : s.Fresh p) : (s.progressSequences p).Inv := by
  have h := hp.pending_insert hs
  have hsub := (collapse_suffix s.localSn (s.localCommittedSns.insert p).elems).sublist
  exact ⟨fun q hq ↦ h.wf q (hsub.subset hq), collapse_gap h, h.chain.sublist hsub⟩

/-- `progressSequences` commits the batch's SNs and nothing else. -/
theorem progressSequences_committed (hs : s.Inv) (hp : s.Fresh p) (n : Int) :
    (s.progressSequences p).Committed n ↔ s.Committed n ∨ p.Covers n := by
  refine (collapse_committed (hp.pending_insert hs) n).trans ?_
  simp only [Committed, SNSet.insert, mem_insertPair, or_and_right, exists_or, exists_eq_left]
  exact (or_congr_right or_comm).trans or_assoc.symm

theorem localSn_le_progressSequences (hs : s.Inv) (hp : s.Fresh p) :
    s.localSn ≤ (s.progressSequences p).localSn :=
  le_collapse (hp.pending_insert hs)

/-- A pair is pending after `progressSequences` when it was pending or is the batch, and the
watermark stopped below it. -/
theorem mem_progressSequences (hs : s.Inv) (hp : s.Fresh p) (q : SequencePair) :
    q ∈ (s.progressSequences p).localCommittedSns.elems ↔
      (q = p ∨ q ∈ s.localCommittedSns.elems) ∧
        (s.progressSequences p).localSn < q.first := by
  rw [progressSequences_elems, mem_collapse (hp.pending_insert hs)]
  simp only [SNSet.insert, mem_insertPair, progressSequences_localSn]

/-- `local_sn` is the end of the committed prefix: an SN is at most `local_sn` exactly when it
and every SN below it are committed. -/
theorem Inv.le_localSn_iff (hs : s.Inv) (n : Int) :
    n ≤ s.localSn ↔ ∀ m ≤ n, s.Committed m := by
  refine ⟨fun h m hm ↦ .inl (hm.trans h), fun h ↦ ?_⟩
  by_contra hn
  rcases h (s.localSn + 1) (by omega) with h | ⟨q, hq, hcov⟩
  · omega
  · have := hs.gap q hq
    unfold SequencePair.Covers at hcov
    omega

/-- Two well-shaped states that commit the same SNs have the same `local_sn`. -/
theorem Inv.localSn_eq {t : Sequences} (hs : s.Inv) (ht : t.Inv)
    (h : ∀ n, s.Committed n ↔ t.Committed n) : s.localSn = t.localSn := by
  have h₁ := (hs.le_localSn_iff s.localSn).mp le_rfl
  have h₂ := (ht.le_localSn_iff t.localSn).mp le_rfl
  have := (ht.le_localSn_iff s.localSn).mpr fun m hm ↦ (h m).mp (h₁ m hm)
  have := (hs.le_localSn_iff t.localSn).mpr fun m hm ↦ (h m).mpr (h₂ m hm)
  omega

/-- Modelled from the spec: on restart the tracker is seeded with the watermark read from the
checkpoint, and nothing pending. -/
def loaded (sn : Int) : Sequences := ⟨sn, SNSet.empty⟩

@[simp] theorem committed_loaded {c n : Int} : (loaded c).Committed n ↔ n ≤ c := by
  simp [Committed, loaded, SNSet.empty]

/-- The states the tracker goes through: seeded from a checkpoint, then changed only by
`progressSequences` on batches that cover no committed SN. -/
inductive Reachable : Sequences → Prop
  | loaded (sn : Int) : Reachable (loaded sn)
  | progress {s p} : Reachable s → s.Fresh p → Reachable (s.progressSequences p)

theorem Reachable.inv (h : s.Reachable) : s.Inv := by
  induction h with
  | loaded => exact ⟨nofun, nofun, .nil⟩
  | progress _ hp ih => exact ih.progressSequences hp

/-! ## Runs -/

/-- Batches the consumer may commit from `s`, in whatever order they finish: each fresh in `s`,
and no two sharing an SN. -/
structure FreshBatches (s : Sequences) (ps : List SequencePair) : Prop where
  fresh : ∀ p ∈ ps, s.Fresh p
  disjoint : ps.Pairwise SequencePair.Disjoint

theorem FreshBatches.head (h : s.FreshBatches (p :: ps)) : s.Fresh p :=
  h.fresh p (List.mem_cons_self _ _)

/-- After the first batch, the others are still fresh. -/
theorem FreshBatches.tail (hs : s.Inv) (h : s.FreshBatches (p :: ps)) :
    (s.progressSequences p).FreshBatches ps := by
  refine ⟨fun q hq ↦ ⟨(h.fresh q (.tail _ hq)).1, fun n hn hc ↦ ?_⟩, h.disjoint.of_cons⟩
  rcases (progressSequences_committed hs h.head n).mp hc with hc | hc
  · exact (h.fresh q (.tail _ hq)).2 n hn hc
  · exact List.rel_of_pairwise_cons h.disjoint hq n hc hn

theorem FreshBatches.perm {ps' : List SequencePair} (h : s.FreshBatches ps) (hp : ps.Perm ps') :
    s.FreshBatches ps' :=
  ⟨fun q hq ↦ h.fresh q (hp.mem_iff.mpr hq),
    (hp.pairwise_iff @SequencePair.Disjoint.symm).mp h.disjoint⟩

theorem Reachable.run (hs : s.Reachable) (h : s.FreshBatches ps) : (s.run ps).Reachable := by
  induction ps generalizing s with
  | nil => exact hs
  | cons p ps ih => exact ih (hs.progress h.head) (h.tail hs.inv)

/-- Batches beyond the checkpoint that do not overlap may be committed from the loaded state. -/
theorem freshBatches_loaded {c : Int} (h : ∀ p ∈ ps, c < p.first ∧ p.first ≤ p.second)
    (hd : ps.Pairwise fun p q ↦ p.second < q.first ∨ q.second < p.first) :
    (loaded c).FreshBatches ps := by
  refine ⟨fun p hp ↦ ⟨(h p hp).2, fun n hn hc ↦ ?_⟩, hd.imp fun hpq n hp hq ↦ ?_⟩
  · rcases hc with hc | ⟨_, hq, _⟩
    · have : n ≤ c := hc
      have := (h p hp).1
      unfold SequencePair.Covers at hn
      omega
    · exact nomatch hq
  · unfold SequencePair.Covers at hp hq
    omega

/-- Gap healing: the batches `[1, 2]` and `[4, 5]` are committed from a tracker seeded at `0`. -/
def healing : Sequences := (loaded 0).run [⟨1, 2⟩, ⟨4, 5⟩]

theorem reachable_healing : healing.Reachable :=
  (Reachable.loaded 0).run (freshBatches_loaded (by decide) (by decide))

theorem Inv.run (hs : s.Inv) (h : s.FreshBatches ps) : (s.run ps).Inv := by
  induction ps generalizing s with
  | nil => exact hs
  | cons p ps ih => exact ih (hs.progressSequences h.head) (h.tail hs)

theorem localSn_le_run (hs : s.Inv) (h : s.FreshBatches ps) : s.localSn ≤ (s.run ps).localSn := by
  induction ps generalizing s with
  | nil => exact le_rfl
  | cons p ps ih =>
    exact (localSn_le_progressSequences hs h.head).trans
      (ih (hs.progressSequences h.head) (h.tail hs))

/-- A run commits exactly its batches' SNs. -/
theorem run_committed (hs : s.Inv) (h : s.FreshBatches ps) (n : Int) :
    (s.run ps).Committed n ↔ s.Committed n ∨ ∃ p ∈ ps, p.Covers n := by
  induction ps generalizing s with
  | nil => simp [Sequences.run]
  | cons p ps ih =>
    rw [run_cons, ih (hs.progressSequences h.head) (h.tail hs),
      progressSequences_committed hs h.head, List.exists_mem_cons_iff, or_assoc]

/-- After a run, a pair is pending when it was pending or is one of the batches, and the
watermark stopped below it. -/
theorem mem_run (hs : s.Inv) (h : s.FreshBatches ps) (q : SequencePair) :
    q ∈ (s.run ps).localCommittedSns.elems ↔
      (q ∈ s.localCommittedSns.elems ∨ q ∈ ps) ∧ (s.run ps).localSn < q.first := by
  induction ps generalizing s with
  | nil => simpa [Sequences.run] using hs.pending.above q
  | cons p ps ih =>
    have hs' := hs.progressSequences h.head
    have hle := localSn_le_run hs' (h.tail hs)
    rw [run_cons, ih hs' (h.tail hs), mem_progressSequences hs h.head, List.mem_cons]
    refine and_congr_left fun hlt ↦ ?_
    simp only [hle.trans_lt hlt, and_true]
    tauto

/-- From a tracker seeded at checkpoint `c`, after any run of fresh, pairwise disjoint batches,
`local_sn` is exactly the end of the prefix of the SN space that the checkpoint and the delivered
batches cover: `n` is at most `local_sn` exactly when every SN up to `n` is at most `c` or in a
delivered batch.  So `local_sn` never passes an SN no batch delivered, and it stands right below
the first one. -/
theorem run_watermark_iff {c : Int} (h : (loaded c).FreshBatches ps) (n : Int) :
    n ≤ ((loaded c).run ps).localSn ↔ ∀ m ≤ n, m ≤ c ∨ ∃ p ∈ ps, p.Covers m := by
  have hl := (Reachable.loaded c).inv
  simp only [(hl.run h).le_localSn_iff, run_committed hl h, committed_loaded]

theorem healing_stops_below_gap :
    (loaded 0).FreshBatches [⟨1, 2⟩, ⟨4, 5⟩] ∧ healing.localSn = 2 ∧
      (3 ≤ healing.localSn ↔
        ∀ m ≤ 3, m ≤ 0 ∨ ∃ p ∈ [(⟨1, 2⟩ : SequencePair), ⟨4, 5⟩], p.Covers m) :=
  have h := freshBatches_loaded (by decide) (by decide)
  ⟨h, rfl, run_watermark_iff h 3⟩

/-- The tracker's state depends only on which batches were committed, not on the order in which
they finished: any reordering of a run of fresh, pairwise disjoint batches ends in the same
`local_sn` and the same pending set, which commits exactly the SNs committed before and the
batches' SNs. -/
theorem run_perm {ps' : List SequencePair} (hs : s.Reachable) (h : s.FreshBatches ps)
    (hp : ps.Perm ps') :
    s.run ps = s.run ps' ∧ ∀ n, (s.run ps).Committed n ↔ s.Committed n ∨ ∃ p ∈ ps, p.Covers n := by
  replace hs := hs.inv
  have h' := h.perm hp
  have hc : ∀ n, (s.run ps).Committed n ↔ (s.run ps').Committed n := fun n ↦ by
    rw [run_committed hs h, run_committed hs h']
    simp only [hp.mem_iff]
  have hl := (hs.run h).localSn_eq (hs.run h') hc
  exact ⟨Sequences.ext hl fun q ↦ by rw [mem_run hs h, mem_run hs h', hl, hp.mem_iff],
    run_committed hs h⟩

theorem batches_any_order_same_state :
    (loaded 0).Reachable ∧ (loaded 0).FreshBatches [⟨4, 5⟩, ⟨1, 2⟩, ⟨3, 3⟩] ∧
      List.Perm [(⟨4, 5⟩ : SequencePair), ⟨1, 2⟩, ⟨3, 3⟩]
        [⟨1, 2⟩, ⟨3, 3⟩, ⟨4, 5⟩] ∧
      ((loaded 0).run [⟨4, 5⟩, ⟨1, 2⟩, ⟨3, 3⟩] =
        (loaded 0).run [⟨1, 2⟩, ⟨3, 3⟩, ⟨4, 5⟩] ∧
      ∀ n, ((loaded 0).run [⟨4, 5⟩, ⟨1, 2⟩, ⟨3, 3⟩]).Committed n ↔
        (loaded 0).Committed n ∨ ∃ p ∈ [(⟨4, 5⟩ : SequencePair), ⟨1, 2⟩, ⟨3, 3⟩], p.Covers n) :=
  have h : (loaded 0).FreshBatches [⟨4, 5⟩, ⟨1, 2⟩, ⟨3, 3⟩] :=
    freshBatches_loaded (by decide) (by decide)
  ⟨.loaded 0, h, by decide, run_perm (.loaded 0) h (by decide)⟩

/-- Restarting from a checkpoint: seeded with a watermark `c` no later than the current one, a
tracker that replays the SNs committed after `c`, in batches of any shape and order, commits the
same SNs and reaches the same `local_sn` as the tracker that never stopped. -/
theorem restart_replay {c : Int} (hs : s.Reachable) (hc : c ≤ s.localSn)
    (h : (loaded c).FreshBatches ps)
    (hps : ∀ n, c < n → (s.Committed n ↔ ∃ p ∈ ps, p.Covers n)) :
    ((loaded c).run ps).localSn = s.localSn ∧
      ∀ n, ((loaded c).run ps).Committed n ↔ s.Committed n := by
  have hl : (loaded c).Inv := (Reachable.loaded c).inv
  have hcomm : ∀ n, ((loaded c).run ps).Committed n ↔ s.Committed n := fun n ↦ by
    rw [run_committed hl h]
    rcases le_or_lt n c with hn | hn
    · exact iff_of_true (.inl (.inl hn)) (.inl (hn.trans hc))
    · simp [← hps n hn, not_le.mpr hn]
  exact ⟨(hl.run h).localSn_eq hs.inv hcomm, hcomm⟩

/-- Without the crash: the batches `[1, 7]` and `[8, 10]` committed from a tracker seeded at `0`,
with a checkpoint taken at `7` between them. -/
def uninterrupted : Sequences := (loaded 0).run [⟨1, 7⟩, ⟨8, 10⟩]

theorem replay_after_checkpoint :
    uninterrupted.Reachable ∧ 7 ≤ uninterrupted.localSn ∧
      (loaded 7).FreshBatches [⟨8, 10⟩] ∧
      (∀ n, 7 < n →
        (uninterrupted.Committed n ↔ ∃ p ∈ [(⟨8, 10⟩ : SequencePair)], p.Covers n)) ∧
      ((loaded 7).run [⟨8, 10⟩]).localSn = uninterrupted.localSn ∧
        ∀ n, ((loaded 7).run [⟨8, 10⟩]).Committed n ↔ uninterrupted.Committed n :=
  have hs := (Reachable.loaded 0).run (freshBatches_loaded (by decide) (by decide))
  have hr := freshBatches_loaded (by decide) (by decide)
  have hps : ∀ n, 7 < n →
      (uninterrupted.Committed n ↔ ∃ p ∈ [(⟨8, 10⟩ : SequencePair)], p.Covers n) :=
    fun n hn ↦ by
      rw [show uninterrupted = loaded 10 from rfl]
      simp only [Committed, loaded, SNSet.empty, List.not_mem_nil, false_and, exists_false,
        or_false, List.mem_singleton, exists_eq_left, SequencePair.Covers]
      omega
  ⟨hs, by decide, hr, hps, restart_replay hs (by decide) hr hps⟩

/-! ## `missingRanges` -/

/-- The SN ranges missing between watermark `prev` and each of the pairs `l` in turn. -/
def gaps (prev : Int) : List SequencePair → List SequencePair
  | [] => []
  | p :: rest =>
    if prev + 1 < p.first then ⟨prev + 1, p.first - 1⟩ :: gaps p.second rest
    else gaps p.second rest

/-- Modelled from the spec: `missingRanges()`, the gaps between `local_sn` and the least pending
pair and between consecutive pending pairs, which recovery asks the log to replay. -/
def missingRanges (s : Sequences) : List SequencePair :=
  gaps s.localSn s.localCommittedSns.elems

/-- Past the start of the first pair, the SNs the later gaps cover are those the rest of the
pairs leave missing. -/
theorem gaps_cons_beyond {prev n : Int} {p : SequencePair} {rest : List SequencePair}
    (h : Pending prev (p :: rest)) (hn : p.first ≤ n) :
    (p.second < n ∧ (¬ ∃ q ∈ rest, q.Covers n) ∧ ∃ q ∈ rest, n < q.first) ↔
      prev < n ∧ (¬ (p.Covers n ∨ ∃ q ∈ rest, q.Covers n)) ∧
        (n < p.first ∨ ∃ q ∈ rest, n < q.first) := by
  have := h.above p (List.mem_cons_self _ _)
  by_cases hp : p.second < n
  · have : ¬ p.Covers n := by unfold SequencePair.Covers; omega
    rw [or_iff_right (not_lt.mpr hn), or_iff_right this]
    simp only [hp, (by omega : prev < n), true_and]
  · exact iff_of_false (fun h ↦ hp h.1) fun ⟨_, hc, _⟩ ↦ hc (.inl ⟨hn, by omega⟩)

/-- The gaps cover exactly the SNs above `prev` that no pair covers and some pair lies beyond. -/
theorem covers_gaps_iff {prev n : Int} {l : List SequencePair} (h : Pending prev l) :
    (∃ r ∈ gaps prev l, r.Covers n) ↔
      prev < n ∧ (¬ ∃ p ∈ l, p.Covers n) ∧ ∃ p ∈ l, n < p.first := by
  induction prev, l using gaps.induct with
  | case1 => simp [gaps]
  | case2 prev p rest hgap ih =>
    have hp := h.wf p (List.mem_cons_self _ _)
    rw [gaps, if_pos hgap, List.exists_mem_cons_iff, ih h.tail, List.exists_mem_cons_iff,
      List.exists_mem_cons_iff]
    rcases lt_or_le n p.first with hn | hn
    · have hrest : ¬ ∃ q ∈ rest, q.Covers n := fun ⟨q, hq, hc⟩ ↦ by
        have := List.rel_of_pairwise_cons h.chain hq
        unfold SequencePair.Covers at hc
        omega
      simp only [hrest, (by omega : ¬ p.second < n), hn, false_and, or_false, true_or, and_true]
      simp only [SequencePair.Covers]
      omega
    · have : ¬ (⟨prev + 1, p.first - 1⟩ : SequencePair).Covers n := by
        simp only [SequencePair.Covers]; omega
      rw [or_iff_right this, gaps_cons_beyond h hn]
  | case3 prev p rest hgap ih =>
    have hp := h.wf p (List.mem_cons_self _ _)
    have := h.above p (List.mem_cons_self _ _)
    rw [gaps, if_neg hgap, ih h.tail, List.exists_mem_cons_iff, List.exists_mem_cons_iff]
    rcases lt_or_le n p.first with hn | hn
    · exact iff_of_false (fun h ↦ by omega) fun h ↦ by omega
    · exact gaps_cons_beyond h hn

/-- On every reachable state `missingRanges` lists exactly the SNs still missing below the last
pending pair: an SN lies in a reported range if and only if it is not committed and some batch
beyond it already is. -/
theorem missingRanges_iff (hs : s.Reachable) (n : Int) :
    (∃ r ∈ s.missingRanges, r.Covers n) ↔
      ¬ s.Committed n ∧ ∃ p ∈ s.localCommittedSns.elems, n < p.first := by
  rw [missingRanges, covers_gaps_iff hs.inv.pending, Committed, not_or, not_le, and_assoc]

theorem healing_reports_three_missing :
    healing.Reachable ∧ healing.missingRanges = [⟨3, 3⟩] ∧
      ((∃ r ∈ healing.missingRanges, r.Covers 3) ↔
        ¬ healing.Committed 3 ∧ ∃ p ∈ healing.localCommittedSns.elems, 3 < p.first) :=
  ⟨reachable_healing, rfl, missingRanges_iff reachable_healing 3⟩

end Sequences

end Daisy.Storages
