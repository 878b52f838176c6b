import Xsan.Common.Hashtable

/-!
# Iterating over a hash table

A model of `xsan_hashtable_iter_init` and `xsan_hashtable_iter_next`
(`src/common/hashtable.c`, lines 192–224) over a table that no call changes
while it is iterated. The iterator's `current_entry` points into a chain; it
is modelled as the rest of that chain from the entry on, `[]` standing for
`NULL`. The `key` and `value` out-parameters are the entry returned, `none`
when the call returns `false`.

Each call advances the entry pointer lazily (to `next`, when it is not
`NULL`) and then the bucket index eagerly, reading buckets until it finds a
non-empty one. What the iterator has still to return is the rest of the
current chain followed by the buckets from `current_bucket_index` on
(`iterPending`): one call returns the head of that list and leaves its tail.

Results:
* `iterNext_head`, `iterNext_pending`: the step lemma.
* `iterRun_pending`: the run lemma; from any iterator state, the calls return
  the pending entries in order, then `false` at every further call.
* `hashtable_iter_visits_each_entry`: from `iter_init` on a table reached by
  any run of calls, the first `xsan_hashtable_size` calls return the table's
  entries bucket by bucket, and every later call returns `false`.
-/

namespace Xsan

variable {κ β : Type}

/-- `xsan_hashtable_iter_t` (`xsan_hashtable.h`) over a fixed table. -/
structure XsanHashtableIter (κ β : Type) where
  currentBucketIndex : ℕ
  currentEntry : List (κ × β)

/-- `xsan_hashtable_iter_init` (lines 192–200). -/
def xsanHashtableIterInit : XsanHashtableIter κ β := ⟨0, []⟩

/-- The `while (iter->current_entry == NULL)` loop of `iter_next`
(lines 210–216), on `(current_bucket_index, current_entry)`. -/
def iterSeek (t : XsanHashtable κ β) (index : ℕ) (entry : List (κ × β)) : ℕ × List (κ × β) :=
  match entry with
  | _ :: _ => (index, entry)
  | [] => if index ≥ t.capacity then (index, []) else iterSeek t (index + 1) (t.buckets index)
termination_by t.capacity - index

/-- `xsan_hashtable_iter_next` (lines 203–224): the iterator after the call,
and the entry it returns (`none` for `false`). -/
def xsanHashtableIterNext (t : XsanHashtable κ β) (iter : XsanHashtableIter κ β) :
    XsanHashtableIter κ β × Option (κ × β) :=
  -- `if (iter->current_entry) iter->current_entry = iter->current_entry->next;`
  let r := iterSeek t iter.currentBucketIndex iter.currentEntry.tail
  (⟨r.1, r.2⟩, r.2.head?)

/-- `n` calls of `xsan_hashtable_iter_next`, with what each returned. -/
def iterRun (t : XsanHashtable κ β) : ℕ → XsanHashtableIter κ β → List (Option (κ × β))
  | 0, _ => []
  | n + 1, iter =>
    (xsanHashtableIterNext t iter).2 :: iterRun t n (xsanHashtableIterNext t iter).1

/-! ## What is left to return -/

/-- The entries of the buckets from `index` up to `capacity - 1`. -/
def bucketsFrom (t : XsanHashtable κ β) (index : ℕ) : List (κ × β) :=
  (List.range' index (t.capacity - index)).flatMap t.buckets

/-- The entries the iterator has still to return: the rest of the current
chain after the current entry, then the buckets not yet read. -/
def iterPending (t : XsanHashtable κ β) (iter : XsanHashtableIter κ β) : List (κ × β) :=
  iter.currentEntry.tail ++ bucketsFrom t iter.currentBucketIndex

theorem bucketsFrom_of_le {t : XsanHashtable κ β} {index : ℕ} (h : t.capacity ≤ index) :
    bucketsFrom t index = [] := by
  rw [bucketsFrom, Nat.sub_eq_zero_of_le h, List.range'_zero, List.flatMap_nil]

theorem bucketsFrom_of_lt {t : XsanHashtable κ β} {index : ℕ} (h : index < t.capacity) :
    bucketsFrom t index = t.buckets index ++ bucketsFrom t (index + 1) := by
  have hn : t.capacity - index = t.capacity - (index + 1) + 1 := by omega
  rw [bucketsFrom, hn, List.range'_succ, List.flatMap_cons, bucketsFrom]

/-- From `iter_init`, every entry of the table is pending. -/
theorem iterPending_init (t : XsanHashtable κ β) :
    iterPending t xsanHashtableIterInit = tableEntries t := by
  rw [iterPending, xsanHashtableIterInit, List.tail_nil, List.nil_append, bucketsFrom,
    Nat.sub_zero, tableEntries, List.range_eq_range']

/-- The seek loop moves the buckets it reads into the entry pointer: the
entries from the pointer on, followed by the unread buckets, do not change. -/
theorem iterSeek_pending (t : XsanHashtable κ β) (index : ℕ) (entry : List (κ × β)) :
    (iterSeek t index entry).2 ++ bucketsFrom t (iterSeek t index entry).1 =
      entry ++ bucketsFrom t index := by
  induction index, entry using iterSeek.induct t with
  | case1 index e rest => rw [iterSeek]
  | case2 index hge => rw [iterSeek, if_pos hge]
  | case3 index hlt ih =>
    rw [iterSeek, if_neg hlt, ih, List.nil_append, bucketsFrom_of_lt (Nat.lt_of_not_le hlt)]

/-- The loop ends on `NULL` only once every bucket is read. -/
theorem iterSeek_nil (t : XsanHashtable κ β) (index : ℕ) (entry : List (κ × β))
    (h : (iterSeek t index entry).2 = []) : bucketsFrom t (iterSeek t index entry).1 = [] := by
  induction index, entry using iterSeek.induct t with
  | case1 index e rest =>
    rw [iterSeek] at h
    cases h
  | case2 index hge => rw [iterSeek, if_pos hge, bucketsFrom_of_le hge]
  | case3 index hlt ih =>
    rw [iterSeek, if_neg hlt] at h ⊢
    exact ih h

/-! ## One call, and a run of calls -/

/-- The step lemma, returned value: one call returns the first pending
entry, or `false` when nothing is pending. -/
theorem iterNext_head (t : XsanHashtable κ β) (iter : XsanHashtableIter κ β) :
    (xsanHashtableIterNext t iter).2 = (iterPending t iter).head? := by
  have hseek := iterSeek_pending t iter.currentBucketIndex iter.currentEntry.tail
  rw [xsanHashtableIterNext, iterPending, ← hseek]
  cases hr : (iterSeek t iter.currentBucketIndex iter.currentEntry.tail).2 with
  | nil =>
    -- `false`: the loop read every bucket, and they were all empty
    rw [iterSeek_nil t _ _ hr]
    rfl
  | cons e rest => rfl

/-- The step lemma, iterator: after one call the tail of what was pending is
pending. -/
theorem iterNext_pending (t : XsanHashtable κ β) (iter : XsanHashtableIter κ β) :
    iterPending t (xsanHashtableIterNext t iter).1 = (iterPending t iter).tail := by
  have hseek := iterSeek_pending t iter.currentBucketIndex iter.currentEntry.tail
  rw [xsanHashtableIterNext, iterPending, iterPending, ← hseek]
  dsimp only
  cases hr : (iterSeek t iter.currentBucketIndex iter.currentEntry.tail).2 with
  | nil =>
    rw [iterSeek_nil t _ _ hr]
    rfl
  | cons e rest => rfl

/-- Once nothing is pending, every call returns `false`. -/
theorem iterRun_of_iterPending_nil (t : XsanHashtable κ β) (m : ℕ) (iter : XsanHashtableIter κ β)
    (h : iterPending t iter = []) : iterRun t m iter = List.replicate m none := by
  induction m generalizing iter with
  | zero => rfl
  | succ m ih =>
    rw [iterRun, iterNext_head, h, ih _ (by rw [iterNext_pending, h]; rfl)]
    rfl

/-- The run lemma: from any iterator, the calls return the pending entries
in order, one per call, and then `false` at every further call. -/
theorem iterRun_pending (t : XsanHashtable κ β) (m : ℕ) (iter : XsanHashtableIter κ β) :
    iterRun t ((iterPending t iter).length + m) iter =
      (iterPending t iter).map some ++ List.replicate m none := by
  -- induction on what is pending, the iterator following along
  generalize hp : iterPending t iter = p
  induction p generalizing iter with
  | nil =>
    rw [List.length_nil, Nat.zero_add, List.map_nil, List.nil_append]
    exact iterRun_of_iterPending_nil t m iter hp
  | cons e p ih =>
    have hnext : iterPending t (xsanHashtableIterNext t iter).1 = p := by
      rw [iterNext_pending, hp]
      rfl
    rw [List.length_cons, Nat.add_right_comm, iterRun, iterNext_head, hp, ih _ hnext]
    rfl

/-- For a table reached from `xsan_hashtable_create` by any run of puts,
gets, removes and clears, and not changed while it is iterated: after
`xsan_hashtable_iter_init`, the first `xsan_hashtable_size` calls of
`xsan_hashtable_iter_next` return the table's entries, each once, bucket by
bucket and along each chain, and every later call returns `false`. -/
theorem hashtable_iter_visits_each_entry (hashFunc : κ → UInt32) (compareFunc : κ → κ → ℤ)
    (initialCapacity : ℕ) (ops : List (HashOp κ β)) (m : ℕ) :
    let t := (htRun hashFunc compareFunc (xsanHashtableCreate initialCapacity) ops).1
    t.size = (tableEntries t).length ∧
      iterRun t (t.size + m) xsanHashtableIterInit =
        (tableEntries t).map some ++ List.replicate m none := by
  intro t
  have hsize : t.size = (tableEntries t).length :=
    (htRun_create_sizeInv hashFunc compareFunc initialCapacity ops).size_eq
  refine ⟨hsize, ?_⟩
  have hrun := iterRun_pending t m xsanHashtableIterInit
  rw [iterPending_init] at hrun
  rw [hsize, hrun]

end Xsan
