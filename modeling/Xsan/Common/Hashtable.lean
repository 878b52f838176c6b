import Xsan.Lib.AssocList
import Xsan.Common.Error
import Mathlib.Data.List.Basic

/-!
# The chained hash table `xsan_hashtable_t`

A model of `src/common/hashtable.c`. The bucket array is a function from
indices to chains, each chain the list of its entries from the head (an
entry is a `(key, value)` pair; the `next` pointers are the list order). A
key or value pointer is an element of `κ` or `β`; `NULL` keys are `none`.
The table's `hash_func` and `compare_func` are fixed for its lifetime and
are parameters of every operation. `XSAN_MALLOC` in `put` is its argument
`allocOk`. Destructors act on keys and values only and are left out.

The table stands for the history of calls made on it: `recentValue hist k`
is the value of the most recent put with a key equal to `k` since `k` was
last removed or the table cleared, where a put counts only if it returned
`XSAN_OK`.

Results:
* `put_inv`, `remove_inv`, `clear_inv`, `get_inv`: one call keeps
  `TableInv` (placement, unique keys, size, lookups follow the history)
  and returns what the history says.
* `hashtable_refines_history`: the same over every run from `create`.
-/

namespace Xsan

open AssocList

/-- `XSAN_HASHTABLE_DEFAULT_CAPACITY` (hashtable.c line 7). -/
def xsanHashtableDefaultCapacity : ℕ := 16

/-- `struct xsan_hashtable` (lines 19–27) without its function pointers. -/
structure XsanHashtable (κ β : Type) where
  buckets : ℕ → List (κ × β)
  capacity : ℕ
  size : ℕ

variable {κ β : Type} (hashFunc : κ → UInt32) (compareFunc : κ → κ → ℤ)

/-- Two keys the table treats as equal: `compare_func` returns 0. -/
def KeyEq (a b : κ) : Prop := compareFunc a b = 0

instance : DecidableRel (KeyEq compareFunc) := fun a b =>
  inferInstanceAs (Decidable (compareFunc a b = 0))

/-- `xsan_hashtable_create` (lines 29–58) once its allocations succeed. -/
def xsanHashtableCreate (initialCapacity : ℕ) : XsanHashtable κ β where
  buckets := fun _ => []
  capacity := if initialCapacity > 0 then initialCapacity else xsanHashtableDefaultCapacity
  size := 0

/-- `hash % ht->capacity`: the bucket of a key. -/
def bucketIndex (t : XsanHashtable κ β) (k : κ) : ℕ := (hashFunc k).toNat % t.capacity

@[simp] theorem bucketIndex_with (t : XsanHashtable κ β) (b : ℕ → List (κ × β)) (size : ℕ) (k : κ) :
    bucketIndex hashFunc { t with buckets := b, size := size } k = bucketIndex hashFunc t k := rfl

/-- `xsan_hashtable_put` (lines 70–109): update the first entry with an
equal key, or link a new entry at the head of the chain. -/
def xsanHashtablePut (t : XsanHashtable κ β) (key : Option κ) (value : β) (allocOk : Bool) :
    XsanHashtable κ β × ℤ :=
  match key with
  | none => (t, xsanErrorInvalidParam)
  | some k =>
    let index := bucketIndex hashFunc t k
    match setVal (KeyEq compareFunc) k value (t.buckets index) with
    | some chain => ({ t with buckets := Function.update t.buckets index chain }, xsanOk)
    | none =>
      if allocOk then
        ({ t with
          buckets := Function.update t.buckets index ((k, value) :: t.buckets index)
          size := t.size + 1 }, xsanOk)
      else (t, xsanErrorNoMemory)

/-- `xsan_hashtable_get` (lines 111–128). -/
def xsanHashtableGet (t : XsanHashtable κ β) (key : Option κ) : Option β :=
  match key with
  | none => none
  | some k => findVal (KeyEq compareFunc) k (t.buckets (bucketIndex hashFunc t k))

/-- `xsan_hashtable_remove` (lines 130–159). -/
def xsanHashtableRemove (t : XsanHashtable κ β) (key : Option κ) : XsanHashtable κ β × ℤ :=
  match key with
  | none => (t, xsanErrorInvalidParam)
  | some k =>
    let index := bucketIndex hashFunc t k
    match eraseKey (KeyEq compareFunc) k (t.buckets index) with
    | some chain =>
      ({ t with buckets := Function.update t.buckets index chain, size := t.size - 1 }, xsanOk)
    | none => (t, xsanErrorNotFound)

/-- `xsan_hashtable_clear` (lines 169–190): every bucket below `capacity`
is emptied, one after the other. -/
def xsanHashtableClear (t : XsanHashtable κ β) : XsanHashtable κ β where
  buckets := (List.range t.capacity).foldl (fun b i => Function.update b i []) t.buckets
  capacity := t.capacity
  size := 0

/-! ## Calls and the history they make -/

/-- A call on the table; `allocOk` is whether `XSAN_MALLOC` succeeds in a
put that needs a new entry. -/
inductive HashOp (κ β : Type) where
  | put (key : Option κ) (value : β) (allocOk : Bool)
  | get (key : Option κ)
  | remove (key : Option κ)
  | clear

/-- What a call returns. -/
inductive HashResult (β : Type) where
  | status (e : ℤ)
  | value (v : Option β)
  | done
  deriving DecidableEq

/-- One call of the code. -/
def htStep (t : XsanHashtable κ β) : HashOp κ β → XsanHashtable κ β × HashResult β
  | .put key value allocOk =>
    let r := xsanHashtablePut hashFunc compareFunc t key value allocOk
    (r.1, .status r.2)
  | .get key => (t, .value (xsanHashtableGet hashFunc compareFunc t key))
  | .remove key =>
    let r := xsanHashtableRemove hashFunc compareFunc t key
    (r.1, .status r.2)
  | .clear => (xsanHashtableClear t, .done)

/-- A run of calls, with what each returned. -/
def htRun (t : XsanHashtable κ β) : List (HashOp κ β) → XsanHashtable κ β × List (HashResult β)
  | [] => (t, [])
  | op :: ops =>
    let r := htStep hashFunc compareFunc t op
    let rest := htRun r.1 ops
    (rest.1, r.2 :: rest.2)

/-- The value of the most recent put with a key equal to `k` since `k` was
last removed or the table last cleared, or `none`; `hist` lists the calls
made, most recent first. A put counts when it returned `XSAN_OK`: it
updated a present key, or its allocation succeeded. -/
def recentValue : List (HashOp κ β) → κ → Option β
  | [], _ => none
  | .put (some k') v allocOk :: older, k =>
    if KeyEq compareFunc k' k then
      (if (recentValue older k).isSome || allocOk then some v else none)
    else recentValue older k
  | .remove (some k') :: older, k =>
    if KeyEq compareFunc k' k then none else recentValue older k
  | .clear :: _, _ => none
  | .put none _ _ :: older, k | .get _ :: older, k | .remove none :: older, k =>
    recentValue older k

/-- What a call returns after the history `hist`, as the history says: a put
succeeds unless its key is new and the allocation fails, a get returns the
recent value, a remove succeeds exactly when the key is present. -/
def histResult (hist : List (HashOp κ β)) : HashOp κ β → HashResult β
  | .put none _ _ | .remove none => .status xsanErrorInvalidParam
  | .put (some k) _ allocOk =>
    .status (if (recentValue compareFunc hist k).isSome || allocOk then xsanOk
      else xsanErrorNoMemory)
  | .get none => .value none
  | .get (some k) => .value (recentValue compareFunc hist k)
  | .remove (some k) =>
    .status (if (recentValue compareFunc hist k).isSome then xsanOk else xsanErrorNotFound)
  | .clear => .done

/-- The results of a run as the history says, `hist` being the calls made
before it. -/
def histResults (hist : List (HashOp κ β)) : List (HashOp κ β) → List (HashResult β)
  | [] => []
  | op :: ops => histResult compareFunc hist op :: histResults (op :: hist) ops

/-! ## The invariant -/

/-- What the claim assumes of the table's two functions: `compare_func`
returning 0 is an equivalence, and `hash_func` agrees on equal keys. -/
structure KeyLaws : Prop where
  equiv : Equivalence (KeyEq compareFunc)
  hash_eq : ∀ a b, KeyEq compareFunc a b → hashFunc a = hashFunc b

/-- All entries of the table, bucket by bucket. -/
def tableEntries (t : XsanHashtable κ β) : List (κ × β) := (List.range t.capacity).flatMap t.buckets

/-- The table after the history `hist`: every entry sits in the bucket of
its key, no chain holds two equal keys, `size` counts the entries, and a
lookup finds the value the history says. -/
structure TableInv (t : XsanHashtable κ β) (hist : List (HashOp κ β)) : Prop where
  cap_pos : 0 < t.capacity
  placed : ∀ i, ∀ e ∈ t.buckets i, i = bucketIndex hashFunc t e.1
  distinct : ∀ i, Distinct (KeyEq compareFunc) (t.buckets i)
  size_eq : t.size = (tableEntries t).length
  lookup : ∀ k, findVal (KeyEq compareFunc) k (t.buckets (bucketIndex hashFunc t k)) =
    recentValue compareFunc hist k

theorem length_flatMap_update {γ : Type} (f : ℕ → List γ) {i n : ℕ} (hi : i < n) (c : List γ) :
    ((List.range n).flatMap (Function.update f i c)).length + (f i).length =
      ((List.range n).flatMap f).length + c.length := by
  induction n with
  | zero => omega
  | succ n ih =>
    rw [List.range_succ, List.flatMap_append, List.flatMap_append, List.length_append,
      List.length_append]
    rcases Nat.lt_succ_iff_lt_or_eq.mp hi with hlt | rfl
    · have hne : n ≠ i := Nat.ne_of_gt hlt
      simp only [List.flatMap_singleton, Function.update_of_ne hne]
      have := ih hlt
      omega
    · -- below `i` nothing changed
      have hsame : (List.range i).flatMap (Function.update f i c) = (List.range i).flatMap f := by
        refine List.flatMap_congr fun j hj => ?_
        exact Function.update_of_ne (Nat.ne_of_lt (List.mem_range.mp hj)) c f
      simp only [hsame, List.flatMap_singleton, Function.update_self]
      omega

/-- The call `op` keeps the invariant and returns what the history says. -/
def StepInv (t : XsanHashtable κ β) (hist : List (HashOp κ β)) (op : HashOp κ β) : Prop :=
  TableInv hashFunc compareFunc (htStep hashFunc compareFunc t op).1 (op :: hist) ∧
    (htStep hashFunc compareFunc t op).2 = histResult compareFunc hist op

theorem foldl_clear_apply (f : ℕ → List (κ × β)) (n j : ℕ) :
    (List.range n).foldl (fun b i => Function.update b i []) f j = if j < n then [] else f j := by
  induction n with
  | zero => simp
  | succ n ih =>
    rw [List.range_succ, List.foldl_append, List.foldl_cons, List.foldl_nil]
    by_cases hjn : j = n
    · subst hjn; simp
    · rw [Function.update_of_ne hjn, ih]
      by_cases hlt : j < n
      · simp [hlt, Nat.lt_succ_of_lt hlt]
      · have : ¬j < n + 1 := by omega
        simp [hlt, this]

theorem create_inv (initialCapacity : ℕ) :
    TableInv hashFunc compareFunc (xsanHashtableCreate initialCapacity : XsanHashtable κ β) [] where
  cap_pos := by
    unfold xsanHashtableCreate
    split_ifs with h
    · exact h
    · show 0 < xsanHashtableDefaultCapacity
      decide
  placed _ _ he := by cases he
  distinct _ := List.Pairwise.nil
  size_eq := by simp [tableEntries, xsanHashtableCreate]
  lookup _ := rfl

/-! ## What every run keeps, whatever the key functions

Placement and unique keys need `KeyLaws`; that `size` counts the entries
does not: a put that finds an equal key keeps its chain's length, one that
links a new entry adds one to both, and a remove takes one from both. -/

/-- Replacing the chain of bucket `i` changes the entry count by the
difference of the two chains' lengths. -/
theorem length_tableEntries_update (t : XsanHashtable κ β) {i : ℕ} (hi : i < t.capacity)
    (c : List (κ × β)) (size : ℕ) :
    (tableEntries { t with buckets := Function.update t.buckets i c, size := size }).length +
        (t.buckets i).length = (tableEntries t).length + c.length :=
  length_flatMap_update t.buckets hi c

/-- A table whose bucket indices are valid and whose `size` counts its
entries. -/
structure SizeInv (t : XsanHashtable κ β) : Prop where
  cap_pos : 0 < t.capacity
  size_eq : t.size = (tableEntries t).length

/-- Replacing the chain of a bucket and moving `size` with its length keeps
`SizeInv`. -/
theorem SizeInv.update {t : XsanHashtable κ β} (hinv : SizeInv t) {i : ℕ} (hi : i < t.capacity)
    {c : List (κ × β)} {size : ℕ} (hsize : size + (t.buckets i).length = t.size + c.length) :
    SizeInv { t with buckets := Function.update t.buckets i c, size := size } := by
  have h := length_tableEntries_update t hi c size
  have h' := hinv.size_eq
  refine ⟨hinv.cap_pos, ?_⟩
  show size = _
  omega

theorem htStep_sizeInv {t : XsanHashtable κ β} (hinv : SizeInv t) (op : HashOp κ β) :
    SizeInv (htStep hashFunc compareFunc t op).1 := by
  have hi : ∀ k, bucketIndex hashFunc t k < t.capacity := fun k => Nat.mod_lt _ hinv.cap_pos
  cases op with
  | put key value allocOk =>
    cases key with
    | none => exact hinv
    | some k =>
      cases hset : setVal (KeyEq compareFunc) k value (t.buckets (bucketIndex hashFunc t k)) with
      | some c =>
        -- the entry of the equal key takes the value; the chain keeps its length
        have hlen : c.length = (t.buckets (bucketIndex hashFunc t k)).length := by
          simpa using congrArg List.length (setVal_keys hset)
        simp only [htStep, xsanHashtablePut, hset]
        exact hinv.update (hi k) (by omega)
      | none =>
        cases allocOk with
        | true =>
          simp only [htStep, xsanHashtablePut, hset, if_true]
          exact hinv.update (hi k) (by simp only [List.length_cons]; omega)
        | false =>
          simp only [htStep, xsanHashtablePut, hset, Bool.false_eq_true, if_false]
          exact hinv
  | get key => exact hinv
  | remove key =>
    cases key with
    | none => exact hinv
    | some k =>
      cases hera : eraseKey (KeyEq compareFunc) k (t.buckets (bucketIndex hashFunc t k)) with
      | some c =>
        -- the unlinked entry was counted, so `size - 1` does not stop at 0
        have hlen := eraseKey_length hera
        have hcount := length_tableEntries_update t (hi k) c (t.size - 1)
        have h' := hinv.size_eq
        simp only [htStep, xsanHashtableRemove, hera]
        exact hinv.update (hi k) (by omega)
      | none =>
        simp only [htStep, xsanHashtableRemove, hera]
        exact hinv
  | clear =>
    -- every bucket below `capacity` is emptied
    have hnil : tableEntries (xsanHashtableClear t) = [] := by
      refine List.flatMap_eq_nil_iff.mpr fun j hj => ?_
      change (List.range t.capacity).foldl (fun b i => Function.update b i []) t.buckets j = []
      rw [foldl_clear_apply, if_pos (show j < t.capacity from List.mem_range.mp hj)]
    refine ⟨hinv.cap_pos, ?_⟩
    simp only [htStep, hnil]
    rfl

/-- The run lemma for `SizeInv`. -/
theorem htRun_sizeInv {t : XsanHashtable κ β} (hinv : SizeInv t) (ops : List (HashOp κ β)) :
    SizeInv (htRun hashFunc compareFunc t ops).1 := by
  induction ops generalizing t with
  | nil => exact hinv
  | cons op ops ih => exact ih (htStep_sizeInv hashFunc compareFunc hinv op)

/-- Every table reached from `create` by any run of calls counts its
entries in `size`. -/
theorem htRun_create_sizeInv (initialCapacity : ℕ) (ops : List (HashOp κ β)) :
    SizeInv (htRun hashFunc compareFunc (xsanHashtableCreate initialCapacity) ops).1 :=
  have hinv := create_inv hashFunc compareFunc initialCapacity
  htRun_sizeInv hashFunc compareFunc ⟨hinv.cap_pos, hinv.size_eq⟩ ops

section Laws

variable {hashFunc compareFunc}

theorem TableInv.bucketIndex_lt {t : XsanHashtable κ β} {hist : List (HashOp κ β)}
    (hinv : TableInv hashFunc compareFunc t hist) (k : κ) : bucketIndex hashFunc t k < t.capacity :=
  Nat.mod_lt _ hinv.cap_pos

/-- A chain is no longer than the whole table. -/
theorem TableInv.length_le_size {t : XsanHashtable κ β} {hist : List (HashOp κ β)}
    (hinv : TableInv hashFunc compareFunc t hist) {i : ℕ} (hi : i < t.capacity) :
    (t.buckets i).length ≤ t.size := by
  have h := length_flatMap_update t.buckets hi []
  rw [List.length_nil, Nat.add_zero] at h
  rw [hinv.size_eq, tableEntries]
  omega

/-- The history a call that changes nothing leaves: lookups are unchanged. -/
theorem TableInv.of_same {t : XsanHashtable κ β} {hist hist' : List (HashOp κ β)}
    (hinv : TableInv hashFunc compareFunc t hist)
    (hsame : ∀ k, recentValue compareFunc hist' k = recentValue compareFunc hist k) :
    TableInv hashFunc compareFunc t hist' :=
  ⟨hinv.cap_pos, hinv.placed, hinv.distinct, hinv.size_eq, fun k => (hinv.lookup k).trans (hsame k).symm⟩

/-- Replacing the chain of bucket `i` keeps the invariant when the new chain
is placed and distinct, `size` moves with the chain's length, lookups in the
bucket follow the new history and the history changes nothing elsewhere. -/
theorem tableInv_update {t : XsanHashtable κ β} {hist hist' : List (HashOp κ β)}
    (hinv : TableInv hashFunc compareFunc t hist) {i : ℕ} (hi : i < t.capacity)
    {c : List (κ × β)} {size : ℕ}
    (hplaced : ∀ e ∈ c, i = bucketIndex hashFunc t e.1)
    (hdist : Distinct (KeyEq compareFunc) c)
    (hsize : size + (t.buckets i).length = t.size + c.length)
    (hsame : ∀ k, bucketIndex hashFunc t k = i →
      findVal (KeyEq compareFunc) k c = recentValue compareFunc hist' k)
    (hother : ∀ k, bucketIndex hashFunc t k ≠ i →
      recentValue compareFunc hist' k = recentValue compareFunc hist k) :
    TableInv hashFunc compareFunc
      { t with buckets := Function.update t.buckets i c, size := size } hist' where
  cap_pos := hinv.cap_pos
  placed j e he := by
    dsimp only at he
    rw [bucketIndex_with]
    by_cases hj : j = i
    · subst hj
      rw [Function.update_self] at he
      exact hplaced e he
    · rw [Function.update_of_ne hj] at he
      exact hinv.placed j e he
  distinct j := by
    dsimp only
    by_cases hj : j = i
    · subst hj
      rw [Function.update_self]
      exact hdist
    · rw [Function.update_of_ne hj]
      exact hinv.distinct j
  size_eq := (SizeInv.update ⟨hinv.cap_pos, hinv.size_eq⟩ hi hsize).size_eq
  lookup k := by
    rw [bucketIndex_with]
    dsimp only
    by_cases hki : bucketIndex hashFunc t k = i
    · rw [hki, Function.update_self]
      exact hsame k hki
    · rw [Function.update_of_ne hki, hother k hki]
      exact hinv.lookup k

theorem get_inv {t : XsanHashtable κ β} {hist : List (HashOp κ β)}
    (hinv : TableInv hashFunc compareFunc t hist) (key : Option κ) :
    StepInv hashFunc compareFunc t hist (.get key) := by
  refine ⟨hinv.of_same fun _ => rfl, ?_⟩
  cases key with
  | none => rfl
  | some k => simp [htStep, xsanHashtableGet, histResult, hinv.lookup k]

theorem clear_inv {t : XsanHashtable κ β} {hist : List (HashOp κ β)}
    (hinv : TableInv hashFunc compareFunc t hist) :
    StepInv hashFunc compareFunc t hist .clear := by
  -- every bucket at or above `capacity` is already empty, by placement
  have hempty : (htStep hashFunc compareFunc t .clear).1.buckets = fun _ => [] := by
    funext j
    change (List.range t.capacity).foldl (fun b i => Function.update b i []) t.buckets j = []
    rw [foldl_clear_apply]
    split_ifs with hj
    · rfl
    · refine List.eq_nil_iff_forall_not_mem.mpr fun e he => hj ?_
      rw [hinv.placed j e he]
      exact hinv.bucketIndex_lt e.1
  refine ⟨⟨hinv.cap_pos, fun j e he => ?_, fun j => ?_, ?_, fun k => ?_⟩, rfl⟩
  · rw [hempty] at he
    cases he
  · rw [hempty]
    exact List.Pairwise.nil
  · rw [tableEntries, hempty]
    simp [htStep, xsanHashtableClear]
  · rw [hempty]
    rfl

variable (hk : KeyLaws hashFunc compareFunc)
include hk

theorem recentValue_congr {a b : κ} (hab : KeyEq compareFunc a b) (hist : List (HashOp κ β)) :
    recentValue compareFunc hist a = recentValue compareFunc hist b := by
  have hiff : ∀ c, KeyEq compareFunc c a ↔ KeyEq compareFunc c b := fun c =>
    ⟨fun h => hk.equiv.trans h hab, fun h => hk.equiv.trans h (hk.equiv.symm hab)⟩
  induction hist with
  | nil => rfl
  | cons op older ih =>
    cases op with
    | put key v allocOk =>
      cases key with
      | none => exact ih
      | some k' => simp only [recentValue, hiff k', ih]
    | get key => exact ih
    | remove key =>
      cases key with
      | none => exact ih
      | some k' => simp only [recentValue, hiff k', ih]
    | clear => rfl

theorem bucketIndex_congr (t : XsanHashtable κ β) {a b : κ} (hab : KeyEq compareFunc a b) :
    bucketIndex hashFunc t a = bucketIndex hashFunc t b := by
  rw [bucketIndex, bucketIndex, hk.hash_eq a b hab]

theorem put_inv {t : XsanHashtable κ β} {hist : List (HashOp κ β)}
    (hinv : TableInv hashFunc compareFunc t hist) (key : Option κ) (value : β) (allocOk : Bool) :
    StepInv hashFunc compareFunc t hist (.put key value allocOk) := by
  cases key with
  | none => exact ⟨hinv.of_same fun _ => rfl, rfl⟩
  | some k =>
    have hfind := hinv.lookup k
    have hi := hinv.bucketIndex_lt k
    -- a key equal to `k` has `k`'s bucket and `k`'s history
    have hbucket : ∀ k', bucketIndex hashFunc t k' ≠ bucketIndex hashFunc t k →
        ¬KeyEq compareFunc k k' := fun k' hne hkk => hne (bucketIndex_congr hk t hkk).symm
    have hhist : ∀ k', KeyEq compareFunc k k' →
        recentValue compareFunc hist k' = recentValue compareFunc hist k := fun k' hkk =>
      (recentValue_congr hk hkk hist).symm
    have hother : ∀ k', bucketIndex hashFunc t k' ≠ bucketIndex hashFunc t k →
        recentValue compareFunc (.put (some k) value allocOk :: hist) k' =
          recentValue compareFunc hist k' := fun k' hne => by
      simp only [recentValue, if_neg (hbucket k' hne)]
    cases hset : setVal (KeyEq compareFunc) k value (t.buckets (bucketIndex hashFunc t k)) with
    | some c =>
      -- `k` is present: its entry takes the new value
      have hpresent : (recentValue compareFunc hist k).isSome := by
        rw [← hfind, Option.isSome_iff_ne_none]
        intro hnone
        rw [setVal_eq_none_iff.mpr hnone] at hset
        cases hset
      have hlen : c.length = (t.buckets (bucketIndex hashFunc t k)).length := by
        simpa using congrArg List.length (setVal_keys hset)
      refine ⟨?_, by simp [htStep, xsanHashtablePut, hset, histResult, hpresent]⟩
      simp only [htStep, xsanHashtablePut, hset]
      refine tableInv_update hinv hi ?_ (distinct_setVal (hinv.distinct _) hset) (by omega) ?_ hother
      · intro e he
        obtain ⟨e', he', hkey⟩ : ∃ e' ∈ t.buckets (bucketIndex hashFunc t k), e'.1 = e.1 := by
          have hmem : e.1 ∈ c.map Prod.fst := List.mem_map_of_mem he
          rw [setVal_keys hset] at hmem
          exact List.mem_map.mp hmem
        rw [← hkey]
        exact hinv.placed _ e' he'
      · intro k' hk'
        rw [findVal_setVal hk.equiv hset]
        by_cases hkk : KeyEq compareFunc k k'
        · simp [recentValue, hkk, hhist k' hkk, hpresent]
        · rw [if_neg hkk, ← hk', hinv.lookup k']
          simp [recentValue, hkk]
    | none =>
      have habsent : recentValue compareFunc hist k = none := by
        rw [← hfind]
        exact setVal_eq_none_iff.mp hset
      cases allocOk with
      | true =>
        -- `k` is new: an entry is linked at the head of its chain
        refine ⟨?_, by simp [htStep, xsanHashtablePut, hset, histResult]⟩
        simp only [htStep, xsanHashtablePut, hset, if_true]
        refine tableInv_update hinv hi ?_ ?_ (by simp; omega) ?_ hother
        · intro e he
          rcases List.mem_cons.mp he with rfl | he
          · rfl
          · exact hinv.placed _ e he
        · refine distinct_cons.mpr ⟨fun e he hke => ?_, hinv.distinct _⟩
          have hnone := findVal_eq_none_iff.mp (setVal_eq_none_iff.mp hset)
          exact hnone e he (hk.equiv.symm hke)
        · intro k' hk'
          rw [findVal_cons]
          by_cases hkk : KeyEq compareFunc k k'
          · simp [recentValue, hkk]
          · rw [if_neg hkk, ← hk', hinv.lookup k']
            simp [recentValue, hkk]
      | false =>
        -- the allocation fails: nothing changes, and `k` stays absent
        refine ⟨?_, by simp [htStep, xsanHashtablePut, hset, histResult, habsent]⟩
        simp only [htStep, xsanHashtablePut, hset, Bool.false_eq_true, if_false]
        refine ⟨hinv.cap_pos, hinv.placed, hinv.distinct, hinv.size_eq, fun k' => ?_⟩
        by_cases hkk : KeyEq compareFunc k k'
        · rw [← bucketIndex_congr hk t hkk, ← findVal_congr hk.equiv hkk, hfind]
          simp [recentValue, hkk, hhist k' hkk, habsent]
        · rw [hinv.lookup k']
          simp [recentValue, hkk]

theorem remove_inv {t : XsanHashtable κ β} {hist : List (HashOp κ β)}
    (hinv : TableInv hashFunc compareFunc t hist) (key : Option κ) :
    StepInv hashFunc compareFunc t hist (.remove key) := by
  cases key with
  | none => exact ⟨hinv.of_same fun _ => rfl, rfl⟩
  | some k =>
    have hfind := hinv.lookup k
    have hi := hinv.bucketIndex_lt k
    cases hera : eraseKey (KeyEq compareFunc) k (t.buckets (bucketIndex hashFunc t k)) with
    | some c =>
      -- `k` is present: its entry is unlinked
      have hpresent : (recentValue compareFunc hist k).isSome := by
        rw [← hfind, Option.isSome_iff_ne_none]
        intro hnone
        rw [eraseKey_eq_none_iff.mpr hnone] at hera
        cases hera
      have hlen := eraseKey_length hera
      have hle := hinv.length_le_size hi
      refine ⟨?_, by simp [htStep, xsanHashtableRemove, hera, histResult, hpresent]⟩
      simp only [htStep, xsanHashtableRemove, hera]
      refine tableInv_update hinv hi (fun e he => hinv.placed _ e ((eraseKey_sublist hera).subset he))
        (distinct_eraseKey (hinv.distinct _) hera) (by omega) ?_ ?_
      · intro k' hk'
        rw [findVal_eraseKey hk.equiv (hinv.distinct _) hera]
        by_cases hkk : KeyEq compareFunc k k'
        · simp [recentValue, hkk]
        · rw [if_neg hkk, ← hk', hinv.lookup k']
          simp [recentValue, hkk]
      · intro k' hne
        have hkk : ¬KeyEq compareFunc k k' := fun hkk => hne (bucketIndex_congr hk t hkk).symm
        simp [recentValue, hkk]
    | none =>
      -- `k` is absent: nothing changes
      have habsent : recentValue compareFunc hist k = none := by
        rw [← hfind]
        exact eraseKey_eq_none_iff.mp hera
      refine ⟨?_, by simp [htStep, xsanHashtableRemove, hera, histResult, habsent]⟩
      simp only [htStep, xsanHashtableRemove, hera]
      refine hinv.of_same fun k' => ?_
      by_cases hkk : KeyEq compareFunc k k'
      · simp [recentValue, hkk, (recentValue_congr hk hkk hist).symm, habsent]
      · simp [recentValue, hkk]

theorem step_inv {t : XsanHashtable κ β} {hist : List (HashOp κ β)}
    (hinv : TableInv hashFunc compareFunc t hist) (op : HashOp κ β) :
    StepInv hashFunc compareFunc t hist op := by
  cases op with
  | put key value allocOk => exact put_inv hk hinv key value allocOk
  | get key => exact get_inv hinv key
  | remove key => exact remove_inv hk hinv key
  | clear => exact clear_inv hinv

/-- The run lemma: from a table standing for `hist`, a run keeps the
invariant, now for the run's calls on top of `hist`, and returns what the
history says. -/
theorem htRun_inv {t : XsanHashtable κ β} {hist : List (HashOp κ β)}
    (hinv : TableInv hashFunc compareFunc t hist) (ops : List (HashOp κ β)) :
    TableInv hashFunc compareFunc (htRun hashFunc compareFunc t ops).1 (ops.reverse ++ hist) ∧
      (htRun hashFunc compareFunc t ops).2 = histResults compareFunc hist ops := by
  induction ops generalizing t hist with
  | nil => exact ⟨hinv, rfl⟩
  | cons op ops ih =>
    obtain ⟨hinv', hres⟩ := step_inv hk hinv op
    obtain ⟨hrun, hress⟩ := ih hinv'
    refine ⟨?_, ?_⟩
    · rw [List.reverse_cons, List.append_assoc]
      exact hrun
    · simp only [htRun, histResults, hres, hress]

/-- No two entries of the whole table have equal keys: within a chain by
`distinct`, across chains because equal keys hash alike. -/
theorem TableInv.pairwise_entries {t : XsanHashtable κ β} {hist : List (HashOp κ β)}
    (hinv : TableInv hashFunc compareFunc t hist) :
    (tableEntries t).Pairwise fun a b => ¬KeyEq compareFunc a.1 b.1 := by
  rw [tableEntries, List.pairwise_flatMap]
  refine ⟨fun i _ => hinv.distinct i, List.nodup_range.imp fun {i j} hij x hx y hy hxy => hij ?_⟩
  rw [hinv.placed i x hx, hinv.placed j y hy]
  exact bucketIndex_congr hk t hxy

/-- Over every run of puts, gets, removes and clears on a table created with
any capacity: every entry sits in the bucket of its key, no two entries have
equal keys, `size` counts the entries, a get returns the value of the most
recent put of an equal key since that key was last removed or the table
cleared, and every call returned what that history says (in particular a
remove returns `XSAN_OK` exactly when an equal key was present). -/
theorem hashtable_refines_history (initialCapacity : ℕ) (ops : List (HashOp κ β)) :
    let t := (htRun hashFunc compareFunc (xsanHashtableCreate initialCapacity) ops).1
    (∀ i, ∀ e ∈ t.buckets i, i = bucketIndex hashFunc t e.1) ∧
      (tableEntries t).Pairwise (fun a b => ¬KeyEq compareFunc a.1 b.1) ∧
      t.size = (tableEntries t).length ∧
      (∀ k, xsanHashtableGet hashFunc compareFunc t (some k) =
        recentValue compareFunc ops.reverse k) ∧
      (htRun hashFunc compareFunc (xsanHashtableCreate initialCapacity) ops).2 =
        histResults compareFunc [] ops := by
  obtain ⟨hinv, hres⟩ := htRun_inv hk (create_inv hashFunc compareFunc initialCapacity) ops
  rw [List.append_nil] at hinv
  exact ⟨hinv.placed, hinv.pairwise_entries hk, hinv.size_eq, hinv.lookup, hres⟩

end Laws

theorem hashtable_refines_history_collide :
    KeyLaws (fun a : ℕ => UInt32.ofNat a) (fun a b => (a : ℤ) - b) ∧
    let ops : List (HashOp ℕ ℕ) := [.put (some 3) 30 true, .put (some 7) 70 true,
      .put (some 3) 31 false, .get (some 3), .remove (some 7), .remove (some 9),
      .put (some 11) 110 false, .clear, .put (some 2) 20 true]
    let t := (htRun (fun a : ℕ => UInt32.ofNat a) (fun a b => (a : ℤ) - b)
      (xsanHashtableCreate 4) ops).1
    (∀ i, ∀ e ∈ t.buckets i, i = bucketIndex (fun a : ℕ => UInt32.ofNat a) t e.1) ∧
      (tableEntries t).Pairwise
        (fun a b => ¬KeyEq (fun a b : ℕ => (a : ℤ) - b) a.1 b.1) ∧
      t.size = (tableEntries t).length ∧
      (∀ k, xsanHashtableGet (fun a : ℕ => UInt32.ofNat a) (fun a b => (a : ℤ) - b) t (some k) =
        recentValue (fun a b : ℕ => (a : ℤ) - b) ops.reverse k) ∧
      (htRun (fun a : ℕ => UInt32.ofNat a) (fun a b => (a : ℤ) - b)
        (xsanHashtableCreate 4) ops).2 = histResults (fun a b : ℕ => (a : ℤ) - b) [] ops := by
  have hk : KeyLaws (fun a : ℕ => UInt32.ofNat a) (fun a b => (a : ℤ) - b) := by
    refine ⟨⟨fun a => ?_, fun {a b} h => ?_, fun {a b c} h₁ h₂ => ?_⟩, fun a b h => ?_⟩ <;>
      simp only [KeyEq] at * <;> first | omega | (congr 1; omega)
  exact ⟨hk, hashtable_refines_history hk 4 _⟩

end Xsan
