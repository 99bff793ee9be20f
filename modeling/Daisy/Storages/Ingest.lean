import Mathlib.Data.List.Perm.Basic
import Mathlib.Algebra.Group.Nat.Basic

/-!
# The ingest path's acknowledgement counters

`DistributedMergeTreeBlockOutputStream::write` splits a block into shard blocks, appends each of
them to the log asynchronously and waits for the acknowledgements.  Its callback counts them in
three atomics the header declares: `committed` (appends that succeeded), `outstanding` (appends
not yet acknowledged) and `errcode` (the first error an acknowledgement reported).  The bodies of
`write` and `writeCallback` are not among the repository's files, so they are modelled from the
spec's description of the ingest pipeline, one atomic action a step.  The writer increments
`outstanding` and then appends the shard block; once every shard block is appended it waits
until it reads `outstanding` as zero, then reads `errcode` and returns or throws it.  The log
calls each append's callback once, on its own thread: `writeCallback` records the result in
`committed` or `errcode`, and then decrements `outstanding`.

A call of `write` is run as a trace of `WriteEvent`s, each one step of the writer or of one
callback, in any interleaving their program counters allow.  Nothing in the state records the
trace: `Write.Inv` relates the three counters to the program counters and to the
acknowledgements the trace delivered, and every step keeps it (`Write.Inv.run`).  From it,
`write` returns only after every callback has returned, with `committed` counting the trace's
successful acknowledgements and the first failed one's code as its result
(`Write.write_returns_after_every_ack`); and no interleaving gets stuck before `write` returns,
or runs longer than `4 n + 3` steps (`Write.write_cannot_hang`).
-/

namespace Daisy.Storages

/-! ## Fixed-width counters -/

/-- An increment of a `std::atomic_uint32_t` that does not wrap. -/
theorem uint32_toNat_add_one {a : UInt32} (h : a.toNat + 1 < 2 ^ 32) :
    (a + 1).toNat = a.toNat + 1 := by
  simp only [UInt32.toNat, UInt32.add_def, BitVec.toNat_add]
  exact Nat.mod_eq_of_lt h

/-- A decrement of a positive `std::atomic_uint32_t`. -/
theorem uint32_toNat_sub_one {a : UInt32} (h : 0 < a.toNat) : (a - 1).toNat = a.toNat - 1 :=
  UInt32.toNat_sub_of_le _ _ (by simpa [UInt32.le_def, BitVec.le_def] using h)

/-- A `std::atomic_uint32_t` reads zero exactly when its value is zero. -/
theorem uint32_eq_zero_iff {a : UInt32} : a = 0 ↔ a.toNat = 0 :=
  ⟨fun h ↦ h ▸ rfl, fun h ↦ UInt32.toNat.inj (h.trans UInt32.toNat_zero.symm)⟩

/-! ## The stream's counters -/

/-- Modelled from the spec: the members of `DistributedMergeTreeBlockOutputStream` that `write`
and `writeCallback` use, with the header's initial values. -/
structure OutputStream where
  /-- `committed`: appends acknowledged as successful. -/
  committed : UInt32 := 0
  /-- `outstanding`: appends issued and not yet acknowledged. -/
  outstanding : UInt32 := 0
  /-- `errcode`: the first non-zero error code an acknowledgement reported. -/
  errcode : Int := 0
deriving DecidableEq, Repr

namespace OutputStream

/-- Modelled from the spec: the first atomic action of `writeCallback(result)`, which records
the log's code `err` for one append (`0` for success): a success is counted in `committed`, and
`errcode` keeps the first non-zero code. -/
def writeCallbackRecord (o : OutputStream) (err : Int) : OutputStream :=
  if err = 0 then { o with committed := o.committed + 1 }
  else if o.errcode = 0 then { o with errcode := err } else o

/-- Modelled from the spec: the last atomic action of `writeCallback(result)`,
`--outstanding`. -/
def writeCallbackRelease (o : OutputStream) : OutputStream :=
  { o with outstanding := o.outstanding - 1 }

/-- Modelled from the spec: what `write` does once it has read `outstanding` as zero: it throws
`errcode` if it is set. -/
def outcome (o : OutputStream) : Except Int Unit :=
  if o.errcode = 0 then .ok () else .error o.errcode

end OutputStream

/-- The code of the first failed acknowledgement in `acks`, `0` if none failed. -/
def firstError : List (Nat × Int) → Int
  | [] => 0
  | a :: acks => if a.2 = 0 then firstError acks else a.2

/-- `firstError` of a longer history: the new code counts only if none failed before. -/
theorem firstError_append_singleton (acks : List (Nat × Int)) (a : Nat × Int) :
    firstError (acks ++ [a]) = if firstError acks = 0 then a.2 else firstError acks := by
  induction acks with
  | nil => by_cases ha : a.2 = 0 <;> simp [firstError, ha]
  | cons b acks ih => by_cases hb : b.2 = 0 <;> simp [firstError, hb, ih]

/-- No acknowledgement failed exactly when `firstError` is `0`. -/
theorem firstError_eq_zero_iff {acks : List (Nat × Int)} :
    firstError acks = 0 ↔ ∀ a ∈ acks, a.2 = 0 := by
  induction acks with
  | nil => simp [firstError]
  | cons b acks ih => by_cases hb : b.2 = 0 <;> simp [firstError, hb, ih]

/-- A non-zero `firstError` is the code of a failed acknowledgement all of whose predecessors
succeeded. -/
theorem firstError_spec {acks : List (Nat × Int)} (h : firstError acks ≠ 0) :
    ∃ pre i post, acks = pre ++ (i, firstError acks) :: post ∧ ∀ a ∈ pre, a.2 = 0 := by
  induction acks with
  | nil => exact absurd rfl h
  | cons b acks ih =>
    by_cases hb : b.2 = 0
    · simp only [firstError, hb, if_true] at h ⊢
      obtain ⟨pre, i, post, he, hpre⟩ := ih h
      exact ⟨b :: pre, i, post, congrArg (List.cons b) he, by simpa [hb] using hpre⟩
    · simp only [firstError, hb, if_false]
      exact ⟨[], b.1, acks, rfl, by simp⟩

/-- Recording an acknowledgement keeps `errcode` the first failure's code. -/
theorem errcode_writeCallbackRecord {o : OutputStream} {acks : List (Nat × Int)}
    (h : o.errcode = firstError acks) (i : Nat) (err : Int) :
    (o.writeCallbackRecord err).errcode = firstError (acks ++ [(i, err)]) := by
  rw [firstError_append_singleton, ← h]
  unfold OutputStream.writeCallbackRecord
  split_ifs <;> simp_all

/-! ## The writer and the callbacks -/

/-- Where the writer is in `write`, for a block split into `n` shard blocks. -/
inductive Writer
  | /-- At the head of the append loop, with the shard blocks below `k` appended. -/
    loop (k : Nat)
  | /-- `outstanding` incremented for shard block `k`, whose append is next. -/
    append (k : Nat)
  | /-- Every shard block appended: waiting to read `outstanding` as zero. -/
    wait
  | /-- `outstanding` read zero: `errcode` is read next. -/
    check
  | /-- `write` returned (`.ok ()`) or threw an error code. -/
    done (r : Except Int Unit)
deriving Repr

namespace Writer

/-- How many shard blocks the writer has appended. -/
def appended (n : Nat) : Writer → Nat
  | loop k | append k => k
  | _ => n

/-- `1` between the writer's increment of `outstanding` for an append and that append. -/
def incremented : Writer → Nat
  | append _ => 1
  | _ => 0

/-- The writer has read `outstanding` as zero. -/
def pastWait : Writer → Bool
  | check | done _ => true
  | _ => false

/-- How many steps the writer has taken. -/
def progress (n : Nat) : Writer → Nat
  | loop k => 2 * k
  | append k => 2 * k + 1
  | wait => 2 * n + 1
  | check => 2 * n + 2
  | done _ => 2 * n + 3

end Writer

/-- Where the callback of one shard block's append is. -/
inductive Callback
  | /-- The shard block is not appended yet. -/
    idle
  | /-- Appended; the log has not called back. -/
    pending
  | /-- `writeCallback` has recorded the code `err` and not yet decremented `outstanding`. -/
    recorded (err : Int)
  | /-- `writeCallback` has returned, after recording `err`. -/
    finished (err : Int)
deriving DecidableEq, Repr

namespace Callback

/-- The shard block is appended and its callback has not decremented `outstanding`. -/
def isLive : Callback → Bool
  | pending | recorded _ => true
  | _ => false

/-- The callback has recorded the log's code. -/
def hasRecorded : Callback → Bool
  | recorded _ | finished _ => true
  | _ => false

/-- The callback has returned. -/
def isFinished : Callback → Bool
  | finished _ => true
  | _ => false

end Callback

/-- The callbacks with the one of shard block `i` moved to `c`. -/
def setCallback (cbs : Nat → Callback) (i : Nat) (c : Callback) : Nat → Callback :=
  fun j ↦ if j = i then c else cbs j

@[simp] theorem setCallback_same (cbs : Nat → Callback) (i : Nat) (c : Callback) :
    setCallback cbs i c i = c := if_pos rfl

@[simp] theorem setCallback_of_ne {cbs : Nat → Callback} {i j : Nat} (c : Callback) (h : j ≠ i) :
    setCallback cbs i c j = cbs j := if_neg h

/-- How many of the callbacks of shard blocks `0` to `n - 1` satisfy `p`. -/
def countOf (n : Nat) (p : Callback → Bool) (cbs : Nat → Callback) : Nat :=
  (List.range n).countP fun i ↦ p (cbs i)

section CountOf

variable {p : Callback → Bool} {cbs : Nat → Callback}

@[simp] theorem countOf_zero : countOf 0 p cbs = 0 := rfl

theorem countOf_succ (n : Nat) :
    countOf (n + 1) p cbs = countOf n p cbs + (p (cbs n)).toNat := by
  cases h : p (cbs n) <;> simp [countOf, List.range_succ, h]

theorem countOf_le (p : Callback → Bool) (cbs : Nat → Callback) (n : Nat) :
    countOf n p cbs ≤ n :=
  (List.countP_le_length _).trans (List.length_range n).le

theorem countOf_eq_zero {n : Nat} : countOf n p cbs = 0 ↔ ∀ i < n, p (cbs i) = false := by
  simp [countOf, List.countP_eq_zero]

/-- Moving one callback changes the count by what it changes for that callback. -/
theorem countOf_set (p : Callback → Bool) (cbs : Nat → Callback) (c : Callback) {i n : Nat}
    (hi : i < n) :
    countOf n p (setCallback cbs i c) + (p (cbs i)).toNat = countOf n p cbs + (p c).toNat := by
  induction n with
  | zero => omega
  | succ n ih =>
    simp only [countOf_succ]
    rcases Nat.lt_succ_iff_lt_or_eq.mp hi with hi | rfl
    · rw [setCallback_of_ne c (Nat.ne_of_gt hi)]
      have := ih hi
      omega
    · have : countOf i p (setCallback cbs i c) = countOf i p cbs :=
        List.countP_congr fun j hj ↦ by
          rw [setCallback_of_ne c (Nat.ne_of_lt (List.mem_range.mp hj))]
      rw [this, setCallback_same]
      omega

/-- Callbacks that only those below `k` can satisfy number at most `k`. -/
theorem countOf_le_of_ge (p : Callback → Bool) (cbs : Nat → Callback) (k : Nat)
    (hp : ∀ i, k ≤ i → p (cbs i) = false) (n : Nat) :
    countOf n p cbs ≤ k := by
  induction n with
  | zero => exact Nat.zero_le _
  | succ n ih =>
    rw [countOf_succ]
    by_cases hn : k ≤ n
    · simpa [hp n hn] using ih
    · have := countOf_le p cbs n
      cases p (cbs n) <;> simp <;> omega

end CountOf

/-- One call of `write` on a block split into shard blocks, with the callbacks of its appends. -/
structure Write where
  /-- The stream's counters. -/
  stream : OutputStream
  /-- The writer's program counter. -/
  writer : Writer
  /-- The program counter of each shard block's callback. -/
  callbacks : Nat → Callback

/-- One atomic action of the writer or of a callback. -/
inductive WriteEvent
  | /-- The writer takes its next step. -/
    writer
  | /-- The log calls back for shard block `i` with code `err`, and `writeCallback` records it. -/
    record (i : Nat) (err : Int)
  | /-- The callback of shard block `i` decrements `outstanding` and returns. -/
    release (i : Nat)
deriving DecidableEq, Repr

/-- The acknowledgement an event delivers: its shard block and code. -/
def WriteEvent.ackOf : WriteEvent → Option (Nat × Int)
  | record i err => some (i, err)
  | _ => none

/-- The acknowledgements a trace delivers, in order. -/
def acks (evs : List WriteEvent) : List (Nat × Int) := evs.filterMap WriteEvent.ackOf

@[simp] theorem acks_cons (ev : WriteEvent) (evs : List WriteEvent) :
    acks (ev :: evs) = ev.ackOf.toList ++ acks evs := by
  cases ev <;> rfl

namespace Write

variable (n : Nat)

/-- `write` about to enter its append loop, on a fresh stream. -/
def start : Write := ⟨{}, .loop 0, fun _ ↦ .idle⟩

/-- Modelled from the spec: the writer's next atomic action in `write` on `n` shard blocks, or
`none` while it waits on a non-zero `outstanding` and once it has returned. -/
def writerStep (w : Write) : Option Write :=
  match w.writer with
  | .loop k =>
    if k < n then
      some { w with
        stream := { w.stream with outstanding := w.stream.outstanding + 1 }
        writer := .append k }
    else some { w with writer := .wait }
  | .append k =>
    some { w with writer := .loop (k + 1), callbacks := setCallback w.callbacks k .pending }
  | .wait => if w.stream.outstanding = 0 then some { w with writer := .check } else none
  | .check => some { w with writer := .done w.stream.outcome }
  | .done _ => none

/-- One event, or `none` when it cannot happen now: a callback runs only for an append made, and
each of its actions once. -/
def step (w : Write) : WriteEvent → Option Write
  | .writer => writerStep n w
  | .record i err =>
    if w.callbacks i = .pending then
      some { w with
        stream := w.stream.writeCallbackRecord err
        callbacks := setCallback w.callbacks i (.recorded err) }
    else none
  | .release i =>
    match w.callbacks i with
    | .recorded err =>
      some { w with
        stream := w.stream.writeCallbackRelease
        callbacks := setCallback w.callbacks i (.finished err) }
    | _ => none

/-- A trace of events from `w`, or `none` if one of them cannot happen. -/
def run (w : Write) : List WriteEvent → Option Write
  | [] => some w
  | ev :: evs => (step n w ev).bind fun w' ↦ run w' evs

/-- The writer blocks on `outstanding` while an append is unacknowledged. -/
example : (run 1 start [.writer, .writer, .writer, .writer]).isNone = true := rfl

/-- How many steps the writer and the callbacks have taken. -/
def progress (w : Write) : Nat :=
  w.writer.progress n + countOf n Callback.hasRecorded w.callbacks +
    countOf n Callback.isFinished w.callbacks

/-- What holds at every point of every interleaving, of the state and of the acknowledgements
`acks` delivered so far. -/
structure Inv (w : Write) (acks : List (Nat × Int)) : Prop where
  /-- The writer appends at most `n` shard blocks. -/
  appended_le : w.writer.appended n + w.writer.incremented ≤ n
  /-- The callbacks of exactly the shard blocks appended have left `idle`. -/
  idle_iff : ∀ i, w.callbacks i = .idle ↔ w.writer.appended n ≤ i
  /-- `outstanding` counts the callbacks that have not decremented it, and the writer's
  increment for the append it is about to make. -/
  outstanding :
    w.stream.outstanding.toNat = countOf n Callback.isLive w.callbacks + w.writer.incremented
  /-- Once the writer has read `outstanding` as zero, every callback has returned. -/
  finished : w.writer.pastWait = true → ∀ i < n, (w.callbacks i).isFinished = true
  /-- `write` returns the outcome of the counters. -/
  result : ∀ r, w.writer = .done r → r = w.stream.outcome
  /-- No shard block is acknowledged twice. -/
  nodup : (acks.map Prod.fst).Nodup
  /-- The shard blocks acknowledged are those whose callback has recorded. -/
  mem_acks : ∀ i, i ∈ acks.map Prod.fst ↔ (w.callbacks i).hasRecorded = true
  /-- `committed` counts the successful acknowledgements. -/
  committed : w.stream.committed.toNat = acks.countP (·.2 = 0)
  /-- `errcode` is the first failed acknowledgement's code. -/
  errcode : w.stream.errcode = firstError acks

variable {n}

theorem inv_start : Inv n start [] where
  appended_le := by simp [start, Writer.appended, Writer.incremented]
  idle_iff _ := by simp [start, Writer.appended]
  outstanding := by simp [start, Writer.incremented, countOf, Callback.isLive]
  finished := nofun
  result := nofun
  nodup := List.nodup_nil
  mem_acks _ := by simp [start, Callback.hasRecorded]
  committed := rfl
  errcode := rfl

section Inv

variable {w w' : Write} {a : List (Nat × Int)}

/-- A callback that has left `idle` belongs to a shard block below `n`. -/
theorem Inv.lt_of_ne_idle (hw : Inv n w a) {i : Nat} (hi : w.callbacks i ≠ .idle) : i < n := by
  have := hw.appended_le
  have := (not_congr (hw.idle_iff i)).mp hi
  omega

/-- A live callback means the writer has not read `outstanding` as zero. -/
theorem Inv.not_pastWait (hw : Inv n w a) {i : Nat} (hi : (w.callbacks i).isLive = true) :
    w.writer.pastWait = false := by
  have hne : w.callbacks i ≠ .idle := fun h ↦ by simp [h, Callback.isLive] at hi
  cases hp : w.writer.pastWait
  · rfl
  · have := hw.finished hp i (hw.lt_of_ne_idle hne)
    cases hc : w.callbacks i <;> simp_all [Callback.isLive, Callback.isFinished]

/-- The acknowledgements so far number fewer than `n` while shard block `i` is unrecorded. -/
theorem Inv.length_lt (hw : Inv n w a) {i : Nat} (hi : w.callbacks i ≠ .idle)
    (hr : (w.callbacks i).hasRecorded = false) : a.length < n := by
  have hsub : (i :: a.map Prod.fst).Subperm (List.range n) := by
    refine List.subperm_of_subset (List.nodup_cons.mpr ⟨?_, hw.nodup⟩) fun j hj ↦ ?_
    · rw [hw.mem_acks, hr]; exact Bool.false_ne_true
    · rw [List.mem_range]
      rcases List.mem_cons.mp hj with rfl | hj
      · exact hw.lt_of_ne_idle hi
      · have := (hw.mem_acks j).mp hj
        exact hw.lt_of_ne_idle fun h ↦ by simp [h, Callback.hasRecorded] at this
  simpa using hsub.length_le

/-- Moving a callback that has left `idle` to a state other than `idle` keeps `idle_iff`. -/
theorem Inv.idle_iff_set (hw : Inv n w a) {i : Nat} {c : Callback} (hi : w.callbacks i ≠ .idle)
    (hc : c ≠ .idle) (j : Nat) : setCallback w.callbacks i c j = .idle ↔ w.writer.appended n ≤ j := by
  by_cases hj : j = i
  · subst hj; rw [setCallback_same]; exact iff_of_false hc ((not_congr (hw.idle_iff j)).mp hi)
  · rw [setCallback_of_ne c hj, hw.idle_iff]

/-- Moving one callback changes `progress` by what it changes for that callback. -/
theorem progress_setCallback (w : Write) (o : OutputStream) (wr : Writer) (c : Callback)
    {i : Nat} (hi : i < n) :
    progress n ⟨o, wr, setCallback w.callbacks i c⟩ + (w.callbacks i).hasRecorded.toNat +
        (w.callbacks i).isFinished.toNat =
      wr.progress n + countOf n Callback.hasRecorded w.callbacks +
        countOf n Callback.isFinished w.callbacks + c.hasRecorded.toNat + c.isFinished.toNat := by
  have := countOf_set Callback.hasRecorded w.callbacks c hi
  have := countOf_set Callback.isFinished w.callbacks c hi
  simp only [progress]
  omega

theorem Inv.writerStep (hn : n < 2 ^ 32) (hw : Inv n w a) (h : writerStep n w = some w') :
    Inv n w' a := by
  have hle := hw.appended_le
  have hout := hw.outstanding
  unfold Write.writerStep at h
  split at h
  case h_1 k hk =>
    have hlive := countOf_le_of_ge Callback.isLive w.callbacks k
      (fun i hi ↦ by simp [(hw.idle_iff i).mpr (by simpa [hk, Writer.appended] using hi),
        Callback.isLive]) n
    simp only [hk, Writer.appended, Writer.incremented] at hle hout
    split at h <;> cases h
    case isTrue hlt =>
      refine { hw with
        appended_le := by simp only [Writer.appended, Writer.incremented]; omega
        idle_iff := by simpa [hk, Writer.appended] using hw.idle_iff
        outstanding := ?_
        finished := fun h ↦ by simp [Writer.pastWait] at h
        result := fun r h ↦ by simp at h }
      simp only [Writer.incremented]
      rw [uint32_toNat_add_one (by omega), hout]
    case isFalse hge =>
      obtain rfl : k = n := by omega
      exact { hw with
        appended_le := by simp [Writer.appended, Writer.incremented]
        idle_iff := by simpa [hk, Writer.appended] using hw.idle_iff
        outstanding := by simpa [Writer.incremented] using hout
        finished := fun h ↦ by simp [Writer.pastWait] at h
        result := fun r h ↦ by simp at h }
  case h_2 k hk =>
    cases h
    simp only [hk, Writer.appended, Writer.incremented] at hle hout
    have hidle : w.callbacks k = .idle := (hw.idle_iff k).mpr (by simp [hk, Writer.appended])
    have hcount := countOf_set Callback.isLive w.callbacks .pending
      (show k < n by omega)
    simp only [hidle, Callback.isLive, Bool.toNat_false, Bool.toNat_true] at hcount
    refine { hw with
      appended_le := by simp only [Writer.appended, Writer.incremented]; omega
      idle_iff := fun i ↦ ?_
      outstanding := by simp only [hout, Writer.incremented]; omega
      finished := fun h ↦ by simp [Writer.pastWait] at h
      result := fun r h ↦ by simp at h
      mem_acks := fun i ↦ ?_ }
    · by_cases hi : i = k
      · subst hi; simp [Writer.appended]
      · simp only [setCallback_of_ne _ hi, hw.idle_iff, hk, Writer.appended]; omega
    · by_cases hi : i = k
      · subst hi; simp [hw.mem_acks, hidle, Callback.hasRecorded]
      · simp [setCallback_of_ne _ hi, hw.mem_acks]
  case h_3 hk =>
    split at h <;> cases h
    case isTrue hzero =>
      have hlive : countOf n Callback.isLive w.callbacks = 0 := by
        simpa [hk, Writer.incremented, uint32_eq_zero_iff.mp hzero] using hout.symm
      refine { hw with
        appended_le := by simp [Writer.appended, Writer.incremented]
        idle_iff := by simpa [hk, Writer.appended] using hw.idle_iff
        outstanding := by simpa [hk, Writer.incremented] using hout
        finished := fun _ i hi ↦ ?_
        result := fun r h ↦ by simp at h }
      have hidle := (not_congr (hw.idle_iff i)).mpr (by simpa [hk, Writer.appended] using hi)
      have := countOf_eq_zero.mp hlive i hi
      cases hc : w.callbacks i <;> simp_all [Callback.isLive, Callback.isFinished]
  case h_4 hk =>
    cases h
    exact { hw with
      appended_le := by simp [Writer.appended, Writer.incremented]
      idle_iff := by simpa [hk, Writer.appended] using hw.idle_iff
      outstanding := by simpa [hk, Writer.incremented] using hout
      finished := fun _ ↦ hw.finished (by simp [hk, Writer.pastWait])
      result := fun r hr ↦ (Writer.done.inj hr).symm }
  case h_5 => cases h

theorem Inv.record (hn : n < 2 ^ 32) (hw : Inv n w a) {i : Nat} {err : Int}
    (h : step n w (.record i err) = some w') : Inv n w' (a ++ [(i, err)]) := by
  simp only [step] at h
  split at h <;> cases h
  case isTrue hi =>
    have hne : w.callbacks i ≠ .idle := by simp [hi]
    have hpast := hw.not_pastWait (i := i) (by simp [hi, Callback.isLive])
    have hlen := hw.length_lt hne (by simp [hi, Callback.hasRecorded])
    have hcount := countOf_set Callback.isLive w.callbacks (.recorded err)
      (hw.lt_of_ne_idle hne)
    simp only [hi, Callback.isLive] at hcount
    refine ⟨hw.appended_le, hw.idle_iff_set hne (by simp), ?_, fun h ↦ by simp [hpast] at h,
      fun r hr ↦ by simp only at hr; simp [hr, Writer.pastWait] at hpast, ?_, fun j ↦ ?_, ?_,
      errcode_writeCallbackRecord hw.errcode i err⟩
    · have := hw.outstanding
      unfold OutputStream.writeCallbackRecord
      split_ifs <;> simp only <;> omega
    · simp only [List.map_append, List.map_cons, List.map_nil]
      refine List.pairwise_append.mpr ⟨hw.nodup, List.pairwise_singleton _ _, fun j hj k hk ↦ ?_⟩
      rw [List.mem_singleton.mp hk]
      rintro rfl
      simpa [hi, Callback.hasRecorded] using (hw.mem_acks j).mp hj
    · by_cases hj : j = i
      · subst hj; simp [Callback.hasRecorded]
      · simp [setCallback_of_ne _ hj, hw.mem_acks, hj]
    · have := List.countP_le_length (·.2 = 0) (l := a)
      have := hw.committed
      unfold OutputStream.writeCallbackRecord
      split_ifs with he
      · rw [uint32_toNat_add_one (by omega), hw.committed]; simp [he]
      all_goals simp [he, hw.committed]

theorem Inv.release (hw : Inv n w a) {i : Nat} (h : step n w (.release i) = some w') :
    Inv n w' a := by
  simp only [step] at h
  split at h <;> cases h
  case h_1 err hi =>
    have hne : w.callbacks i ≠ .idle := by simp [hi]
    have hpast := hw.not_pastWait (i := i) (by simp [hi, Callback.isLive])
    have hcount := countOf_set Callback.isLive w.callbacks (.finished err)
      (hw.lt_of_ne_idle hne)
    simp only [hi, Callback.isLive, Bool.toNat_true, Bool.toNat_false] at hcount
    refine { hw with
      idle_iff := hw.idle_iff_set hne (by simp)
      outstanding := ?_
      finished := fun h ↦ by simp [hpast] at h
      result := fun r hr ↦ by simp only at hr; simp [hr, Writer.pastWait] at hpast
      mem_acks := fun j ↦ ?_ }
    · simp only [OutputStream.writeCallbackRelease]
      rw [uint32_toNat_sub_one (by rw [hw.outstanding]; omega), hw.outstanding]
      omega
    · by_cases hj : j = i
      · subst hj; simp [hw.mem_acks, hi, Callback.hasRecorded]
      · simp [setCallback_of_ne _ hj, hw.mem_acks]

/-- Every event keeps `Inv`, with the acknowledgement it delivers. -/
theorem Inv.step (hn : n < 2 ^ 32) (hw : Inv n w a) {ev : WriteEvent}
    (h : Write.step n w ev = some w') : Inv n w' (a ++ ev.ackOf.toList) := by
  cases ev with
  | writer => simpa [WriteEvent.ackOf] using hw.writerStep hn h
  | record i err => exact hw.record hn h
  | release i => simpa [WriteEvent.ackOf] using hw.release h

/-- Every trace keeps `Inv`, with the acknowledgements it delivers. -/
theorem Inv.run (hn : n < 2 ^ 32) (hw : Inv n w a) {evs : List WriteEvent}
    (h : Write.run n w evs = some w') : Inv n w' (a ++ acks evs) := by
  induction evs generalizing w a with
  | nil => cases h; simpa [acks] using hw
  | cons ev evs ih =>
    obtain ⟨w₁, h₁, h⟩ := Option.bind_eq_some.mp h
    simpa using ih (hw.step hn h₁) h

/-- Every event is one more step of the writer or of a callback. -/
theorem Inv.progress_step (hw : Inv n w a) {ev : WriteEvent} (h : Write.step n w ev = some w') :
    progress n w' = progress n w + 1 := by
  have hle := hw.appended_le
  cases ev with
  | writer =>
    change Write.writerStep n w = some w' at h
    unfold Write.writerStep at h
    split at h
    case h_1 k hk =>
      simp only [hk, Writer.appended, Writer.incremented] at hle
      split at h <;> cases h <;> simp only [progress, hk, Writer.progress] <;> omega
    case h_2 k hk =>
      cases h
      have hk' : k < n := by simpa [hk, Writer.appended, Writer.incremented] using hle
      have hidle : w.callbacks k = .idle := (hw.idle_iff k).mpr (by simp [hk, Writer.appended])
      have := progress_setCallback w w.stream (.loop (k + 1)) .pending hk'
      simp only [hidle, Callback.hasRecorded, Callback.isFinished, Bool.toNat_false,
        Writer.progress] at this
      simp only [progress, hk, Writer.progress] at this ⊢
      omega
    case h_3 hk => split at h <;> cases h; simp only [progress, hk, Writer.progress]; omega
    case h_4 hk => cases h; simp only [progress, hk, Writer.progress]; omega
    case h_5 => cases h
  | record i err =>
    simp only [Write.step] at h
    split at h <;> cases h
    next hi =>
      have hi' : i < n := hw.lt_of_ne_idle (by simp [hi])
      have := progress_setCallback w (w.stream.writeCallbackRecord err) w.writer (.recorded err)
        hi'
      simp only [hi, Callback.hasRecorded, Callback.isFinished, Bool.toNat_false,
        Bool.toNat_true] at this
      simp only [progress] at this ⊢
      omega
  | release i =>
    simp only [Write.step] at h
    split at h <;> cases h
    next err hi =>
      have hi' : i < n := hw.lt_of_ne_idle (by simp [hi])
      have := progress_setCallback w w.stream.writeCallbackRelease w.writer (.finished err) hi'
      simp only [hi, Callback.hasRecorded, Callback.isFinished, Bool.toNat_false,
        Bool.toNat_true] at this
      simp only [progress] at this ⊢
      omega

/-- The writer takes at most `2 n + 3` steps and each callback two. -/
theorem Inv.progress_le (hw : Inv n w a) : progress n w ≤ 4 * n + 3 := by
  have := hw.appended_le
  have := countOf_le Callback.hasRecorded w.callbacks n
  have := countOf_le Callback.isFinished w.callbacks n
  unfold progress
  cases hk : w.writer <;>
    simp only [hk, Writer.progress, Writer.appended, Writer.incremented] at * <;> omega

/-- A trace of `k` events is `k` more steps. -/
theorem Inv.progress_run (hn : n < 2 ^ 32) (hw : Inv n w a) {evs : List WriteEvent}
    (h : Write.run n w evs = some w') : progress n w' = progress n w + evs.length := by
  induction evs generalizing w a with
  | nil => cases h; rfl
  | cons ev evs ih =>
    obtain ⟨w₁, h₁, h⟩ := Option.bind_eq_some.mp h
    rw [ih (hw.step hn h₁) h, hw.progress_step h₁, List.length_cons]
    omega

/-- A write that has not returned can always take a step: the writer's, or, while the writer
waits on a non-zero `outstanding`, the next action of a callback that has not decremented it. -/
theorem Inv.enabled (hw : Inv n w a) (hd : ∀ r, w.writer ≠ .done r) :
    ∃ ev, Write.step n w ev ≠ none := by
  cases hk : w.writer with
  | loop k => exact ⟨.writer, by simp only [Write.step, Write.writerStep, hk]; split <;> simp⟩
  | append k => exact ⟨.writer, by simp [Write.step, Write.writerStep, hk]⟩
  | wait =>
    by_cases hz : w.stream.outstanding = 0
    · exact ⟨.writer, by simp [Write.step, Write.writerStep, hk, hz]⟩
    · have hout := hw.outstanding
      simp only [hk, Writer.incremented, Nat.add_zero] at hout
      have hlive : countOf n Callback.isLive w.callbacks ≠ 0 := fun h0 ↦
        hz (uint32_eq_zero_iff.mpr (hout.trans h0))
      simp only [ne_eq, countOf_eq_zero, not_forall, Bool.not_eq_false] at hlive
      obtain ⟨i, -, hlive⟩ := hlive
      cases hc : w.callbacks i with
      | pending => exact ⟨.record i 0, by simp [Write.step, hc]⟩
      | recorded err => exact ⟨.release i, by simp [Write.step, hc]⟩
      | idle | finished _ => simp [hc, Callback.isLive] at hlive
  | check => exact ⟨.writer, by simp [Write.step, Write.writerStep, hk]⟩
  | done r => exact absurd hk (hd r)

end Inv

/-- Whatever the interleaving of the writer and the callbacks, `write` returns only once every
shard block's callback has returned, each shard block acknowledged exactly once; `committed` then
counts the successful acknowledgements, and `write` succeeds exactly when every append did, and
otherwise throws the code of the first failed acknowledgement. -/
theorem write_returns_after_every_ack (hn : n < 2 ^ 32) (evs : List WriteEvent) {w : Write}
    {r : Except Int Unit} (h : run n start evs = some w) (hr : w.writer = .done r) :
    (∀ i < n, ∃ err, w.callbacks i = .finished err) ∧
      ((acks evs).map Prod.fst).Perm (List.range n) ∧
      w.stream.committed.toNat = (acks evs).countP (·.2 = 0) ∧
      (r = .ok () ↔ ∀ a ∈ acks evs, a.2 = 0) ∧
      ∀ e, r = .error e → e ≠ 0 ∧ ∃ pre i post,
        acks evs = pre ++ (i, e) :: post ∧ ∀ a ∈ pre, a.2 = 0 := by
  have hw : Inv n w (acks evs) := by simpa using inv_start.run hn h
  have hfin : ∀ i < n, ∃ err, w.callbacks i = .finished err := fun i hi ↦ by
    have := hw.finished (by simp [hr, Writer.pastWait]) i hi
    cases hc : w.callbacks i <;> simp_all [Callback.isFinished]
  obtain rfl := hw.result r hr
  refine ⟨hfin, (List.perm_ext_iff_of_nodup hw.nodup (List.nodup_range n)).mpr fun i ↦ ?_,
    hw.committed, ?_, fun e he ↦ ?_⟩
  · rw [hw.mem_acks, List.mem_range]
    refine ⟨fun hrec ↦ Nat.lt_of_not_le fun hge ↦ ?_, fun hi ↦ ?_⟩
    · have := (hw.idle_iff i).mpr (by simpa [hr, Writer.appended] using hge)
      simp [this, Callback.hasRecorded] at hrec
    · obtain ⟨err, he⟩ := hfin i hi
      simp [he, Callback.hasRecorded]
  · simp only [OutputStream.outcome, hw.errcode, ← firstError_eq_zero_iff]
    split <;> simp [*]
  · simp only [OutputStream.outcome, hw.errcode] at he
    split at he <;> cases he
    exact ⟨‹_›, firstError_spec ‹_›⟩

/-- The spec's example: three shard blocks, the append of shard block `1` fails; the log calls
back for shard block `0` before the writer appends the next one. -/
def shard1Failure : List WriteEvent :=
  [.writer, .writer, .record 0 0, .writer, .writer, .writer, .writer, .record 1 7, .release 1,
    .writer, .record 2 0, .release 0, .release 2, .writer, .writer]

theorem shard1Failure_fails_write :
    ∃ w, run 3 start shard1Failure = some w ∧ w.writer = .done (.error 7) ∧
      w.stream.committed = 2 ∧
      (∀ i < 3, ∃ err, w.callbacks i = .finished err) ∧
      ((acks shard1Failure).map Prod.fst).Perm (List.range 3) ∧
      w.stream.committed.toNat = (acks shard1Failure).countP (·.2 = 0) ∧
      (.error 7 = (.ok () : Except Int Unit) ↔ ∀ a ∈ acks shard1Failure, a.2 = 0) ∧
      ∀ e, (.error 7 : Except Int Unit) = .error e → e ≠ 0 ∧ ∃ pre i post,
        acks shard1Failure = pre ++ (i, e) :: post ∧ ∀ a ∈ pre, a.2 = 0 :=
  ⟨_, rfl, rfl, rfl, write_returns_after_every_ack (by decide) shard1Failure rfl rfl⟩

/-- No interleaving gets stuck before `write` returns: while it has not, the writer or a callback
can always take a step; and none runs longer than `4 n + 3` steps.  So every interleaving of the
writer and the callbacks ends with `write` returned. -/
theorem write_cannot_hang (hn : n < 2 ^ 32) (evs : List WriteEvent) {w : Write}
    (h : run n start evs = some w) :
    evs.length ≤ 4 * n + 3 ∧ ((∀ ev, step n w ev = none) → ∃ r, w.writer = .done r) := by
  have hw := inv_start.run hn h
  refine ⟨?_, fun hstuck ↦ ?_⟩
  · have h₀ : progress n start = 0 := by
      simp [progress, start, Writer.progress, countOf, Callback.hasRecorded, Callback.isFinished]
    have := inv_start.progress_run hn h
    have := hw.progress_le
    omega
  · by_contra hd
    obtain ⟨ev, hev⟩ := hw.enabled fun r hr ↦ hd ⟨r, hr⟩
    exact hev (hstuck ev)

/-- Three appends acknowledged in the reverse order of their issue. -/
def reverseAcks : List WriteEvent :=
  [.writer, .writer, .writer, .writer, .writer, .writer, .writer, .record 2 0, .release 2,
    .record 1 0, .release 1, .record 0 0, .release 0, .writer, .writer]

theorem reverseAcks_returns :
    ∃ w, run 3 start reverseAcks = some w ∧ w.writer = .done (.ok ()) ∧
      reverseAcks.length ≤ 4 * 3 + 3 ∧ ((∀ ev, step 3 w ev = none) → ∃ r, w.writer = .done r) :=
  ⟨_, rfl, rfl, write_cannot_hang (by decide) reverseAcks rfl⟩

end Write

end Daisy.Storages
