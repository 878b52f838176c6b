import Xsan.Common.Error
import Mathlib.Logic.Function.Basic

/-!
# The metadata store

`metadata/xsan_metadata_store.c` keeps metadata in a RocksDB database. The
model keeps the database's contents, the value under each key, and takes
whether RocksDB reports an error on a call as an input: each of `put`, `get`
and `delete` may fail on any call, and a call that fails leaves the database
as it was.

Results:
* `xsanMetadataStorePut_true`, `_false` and the same for delete: the effect
  of a write and its status, for either outcome.
* `xsanMetadataStoreGet_eq_ok_iff`: a read succeeds exactly when RocksDB and
  the copy's allocation do and the key holds a value.
* `update_none_of_update`, `update_update_none_of_update`: deleting keys
  just written restores a store that did not hold them, which is what a
  rollback relies on.
-/

namespace Xsan

/-- The contents of the database: the value under each key. -/
abbrev MetadataStore (κ ν : Type) := κ → Option ν

variable {κ ν : Type}

/-- `xsan_metadata_store_get` (metadata/xsan_metadata_store.c:115-153);
`mallocOk` is the allocation of the caller's copy of the value. -/
def xsanMetadataStoreGet (store : MetadataStore κ ν) (key : κ) (rocksdbOk mallocOk : Bool) :
    Except ℤ ν :=
  if !rocksdbOk then .error xsanErrorIo
  else
    match store key with
    | none => .error xsanErrorNotFound
    | some v => if mallocOk then .ok v else .error xsanErrorNoMemory

theorem xsanMetadataStoreGet_eq_ok_iff {store : MetadataStore κ ν} {key : κ} {ok mallocOk : Bool}
    {v : ν} : xsanMetadataStoreGet store key ok mallocOk = .ok v ↔
      ok = true ∧ mallocOk = true ∧ store key = some v := by
  unfold xsanMetadataStoreGet
  cases ok <;> cases mallocOk <;> cases store key <;> simp

variable [DecidableEq κ]


/-- `xsan_metadata_store_put` (metadata/xsan_metadata_store.c:100-113);
`rocksdbOk` is whether `rocksdb_put` leaves its error pointer unset. -/
def xsanMetadataStorePut (store : MetadataStore κ ν) (key : κ) (value : ν) (rocksdbOk : Bool) :
    MetadataStore κ ν × ℤ :=
  if rocksdbOk then (Function.update store key (some value), xsanOk) else (store, xsanErrorIo)

/-- `xsan_metadata_store_delete` (metadata/xsan_metadata_store.c:155-168).
RocksDB deletes an absent key without error. -/
def xsanMetadataStoreDelete (store : MetadataStore κ ν) (key : κ) (rocksdbOk : Bool) :
    MetadataStore κ ν × ℤ :=
  if rocksdbOk then (Function.update store key none, xsanOk) else (store, xsanErrorIo)

@[simp] theorem xsanMetadataStorePut_true (store : MetadataStore κ ν) (key : κ) (value : ν) :
    xsanMetadataStorePut store key value true = (Function.update store key (some value), xsanOk) :=
  rfl

@[simp] theorem xsanMetadataStorePut_false (store : MetadataStore κ ν) (key : κ) (value : ν) :
    xsanMetadataStorePut store key value false = (store, xsanErrorIo) := rfl

@[simp] theorem xsanMetadataStoreDelete_true (store : MetadataStore κ ν) (key : κ) :
    xsanMetadataStoreDelete store key true = (Function.update store key none, xsanOk) := rfl

@[simp] theorem xsanMetadataStoreDelete_false (store : MetadataStore κ ν) (key : κ) :
    xsanMetadataStoreDelete store key false = (store, xsanErrorIo) := rfl

/-- Writing a key and then deleting it restores a store that did not hold
the key. -/
theorem update_none_of_update {store : MetadataStore κ ν} {key : κ} (h : store key = none)
    (v : Option ν) : Function.update (Function.update store key v) key none = store := by
  rw [Function.update_idem, ← h, Function.update_eq_self]

/-- Writing two distinct keys and then deleting both restores a store that
held neither. -/
theorem update_update_none_of_update {store : MetadataStore κ ν} {a b : κ} (hab : a ≠ b)
    (ha : store a = none) (hb : store b = none) (x y : Option ν) :
    Function.update (Function.update (Function.update (Function.update store a x) b y) a none) b
      none = store := by
  funext k
  by_cases hka : k = a
  · subst hka
    simp [hab, ha]
  · by_cases hkb : k = b
    · subst hkb
      simp [hb]
    · simp [hka, hkb]

end Xsan
