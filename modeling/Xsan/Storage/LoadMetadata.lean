import Xsan.Lib.Mutex
import Xsan.Storage.VolumeManager

/-!
# Loading the volume metadata, and the manager's lock

`xsan_volume_manager_init` (volume_manager.c:96-120) ends with
`xsan_volume_manager_load_metadata` (lines 361-405), which locks `vm->lock`
and walks the store's `v:` records: each one that deserialises and is
appended to `managed_volumes` is handed to `_xsan_volume_update_overall_state`
(lines 287-316). That function locks `vm->lock` itself. The mutex is created
by `pthread_mutex_init(&vm->lock, NULL)`, a default one, so the thread that
already holds it never returns from the second lock.

The lock is modelled with `Mutex.Locking`: a run that locks a held mutex
fails. The values the store's iterator yields under the `v:` prefix, in key
order, are an input, with what `xsan_list_append` and the save of a changed
record return for each. As elsewhere the stored JSON is kept as the record
it encodes, so a volume record deserialises to itself.

Results:
* `loadEntries_run_of_not_loads`, `loadEntries_run_of_loads`: the run
  lemmas of the load loop; a turn that loads a volume locks `vm->lock` again.
* `xsanVolumeManagerLoadMetadata_run_of_not_loads`: over a store none of
  whose values loads, the load takes the lock once, gives it back and
  returns `XSAN_OK`.
* `volume_manager_init_relocks_vm_lock`: `xsan_volume_manager_init` over a
  store holding a volume that loads never returns.
-/

namespace Xsan

open Mutex

/-- `vm->lock`, the mutex the modelled functions take; `pending_ios_lock`
is taken by none of them. -/
inductive XsanMutex
  | vmLock
deriving DecidableEq, Repr

/-- What one turn of the load loop reads: the value the iterator yields
(`none` for `NULL`), and what `xsan_list_append` and, when the state
changes, the serialisation and the `put` of the record return. -/
structure LoadEntry where
  value : Option MetaValue
  appendOk : Bool
  jsonOk : Bool
  putOk : Bool
deriving DecidableEq, Repr

/-- The volume `_xsan_json_string_to_volume` reads from a stored value. -/
def MetaValue.toVolume : MetaValue → Option XsanVolume
  | .volume v => some v
  | .allocMeta _ => none

section Codes

variable (codes : UndefinedCodes)

/-- `_xsan_volume_update_overall_state` (lines 287-316) with its lock: the
manager, whose store has the record when its state changed, and the
volume with its state rewritten. -/
def volumeUpdateOverallState (vm : XsanVolumeManager) (vol : XsanVolume) (jsonOk putOk : Bool) :
    Locking XsanMutex (XsanVolumeManager × XsanVolume) := do
  acquire .vmLock
  let r := xsanVolumeUpdateOverallState vol
  release .vmLock
  -- the record is saved after the unlock, and only when its state changed
  if r.2 then pure ((xsanVolumeManagerSaveVolumeMeta codes vm r.1 jsonOk putOk).1, r.1)
  else pure (vm, r.1)

/-- One turn of the load loop (lines 376-398): a value that deserialises is
appended to `managed_volumes`, then its state is updated in place. -/
def loadEntry (vm : XsanVolumeManager) (e : LoadEntry) : Locking XsanMutex XsanVolumeManager :=
  match e.value.bind MetaValue.toVolume with
  | none => pure vm
  | some vol =>
    -- a failed append destroys the volume
    if !e.appendOk then pure vm
    else do
      let vm' := { vm with managedVolumes := vm.managedVolumes ++ [vol] }
      let r ← volumeUpdateOverallState codes vm' vol e.jsonOk e.putOk
      pure { r.1 with managedVolumes := vm.managedVolumes ++ [r.2] }

/-- The load loop over the values the iterator yields. -/
def loadEntries (vm : XsanVolumeManager) : List LoadEntry → Locking XsanMutex XsanVolumeManager
  | [] => pure vm
  | e :: es => do
    let vm ← loadEntry codes vm e
    loadEntries vm es

/-- `xsan_volume_manager_load_metadata` (lines 361-405); `iterOk` is whether
`xsan_metadata_iterator_create` succeeds. -/
def xsanVolumeManagerLoadMetadata (vm : XsanVolumeManager) (iterOk : Bool)
    (entries : List LoadEntry) : Locking XsanMutex (XsanVolumeManager × ℤ) :=
  if !vm.initialized then pure (vm, xsanErrorInvalidParam)
  else do
    acquire .vmLock
    if !iterOk then
      release .vmLock
      pure (vm, xsanErrorStorageGeneric)
    else
      let vm ← loadEntries codes vm entries
      release .vmLock
      pure (vm, xsanOk)

/-- `xsan_volume_manager_init` (lines 96-120) on its first call, once its
allocations and the opening of the store succeed: a manager over the store
as the disk holds it and the disk manager's groups, then the metadata load,
whose status it drops. -/
def xsanVolumeManagerInit (store : MetadataStore MetaKey MetaValue)
    (diskGroupStates : ℕ → Option XsanStorageState)
    (allocatedExtents : ℕ → Multiset XsanVolumeExtentMapping) (iterOk : Bool)
    (entries : List LoadEntry) : Locking XsanMutex (XsanVolumeManager × ℤ) := do
  let vm : XsanVolumeManager :=
    { initialized := true, managedVolumes := [], mdStore := store, diskGroupStates, allocatedExtents }
  let r ← xsanVolumeManagerLoadMetadata codes vm iterOk entries
  pure (r.1, xsanOk)

/-! ## Runs -/

/-- A turn that appends a volume, and so updates its state. -/
def LoadEntry.loads (e : LoadEntry) : Bool := (e.value.bind MetaValue.toVolume).isSome && e.appendOk

/-- The step lemma of the loop, for a turn that loads nothing: no lock is
taken and nothing changes. -/
theorem loadEntry_run_of_not_loads (vm : XsanVolumeManager) {e : LoadEntry} (he : e.loads = false)
    (held : List XsanMutex) : (loadEntry codes vm e).run held = some (vm, held) := by
  unfold loadEntry
  cases hv : e.value.bind MetaValue.toVolume with
  | none => rfl
  | some vol =>
    -- the value deserialised, so the append failed
    have happend : e.appendOk = false := by simpa [LoadEntry.loads, hv] using he
    rw [happend]
    rfl

/-- The step lemma of the loop, for a turn that loads a volume: with
`vm->lock` held, the state update locks it again. -/
theorem loadEntry_run_of_loads (vm : XsanVolumeManager) {e : LoadEntry} (he : e.loads = true)
    {held : List XsanMutex} (hheld : .vmLock ∈ held) : (loadEntry codes vm e).run held = none := by
  obtain ⟨hv, happend⟩ := Bool.and_eq_true_iff.mp he
  obtain ⟨vol, hvol⟩ := Option.isSome_iff_exists.mp hv
  unfold loadEntry
  rw [hvol]
  dsimp only
  rw [happend, Bool.not_true, if_neg Bool.false_ne_true]
  refine bind_run_of_none ?_
  rw [volumeUpdateOverallState]
  exact bind_run_of_none (acquire_run_of_mem hheld)

/-- The run lemma, no turn loading a volume: the loop takes no lock and
leaves the manager as it was. -/
theorem loadEntries_run_of_not_loads (vm : XsanVolumeManager) {entries : List LoadEntry}
    (h : ∀ e ∈ entries, e.loads = false) (held : List XsanMutex) :
    (loadEntries codes vm entries).run held = some (vm, held) := by
  induction entries with
  | nil => rfl
  | cons e es ih =>
    rw [loadEntries, bind_run_of_some (loadEntry_run_of_not_loads codes vm (h e List.mem_cons_self) held)]
    exact ih fun e' he' => h e' (List.mem_cons_of_mem e he')

/-- The run lemma, some turn loading a volume: with `vm->lock` held, the
loop reaches the error state at the first such turn. -/
theorem loadEntries_run_of_loads (vm : XsanVolumeManager) {entries : List LoadEntry}
    (h : ∃ e ∈ entries, e.loads = true) {held : List XsanMutex} (hheld : .vmLock ∈ held) :
    (loadEntries codes vm entries).run held = none := by
  induction entries generalizing vm with
  | nil =>
    obtain ⟨e, he, -⟩ := h
    cases he
  | cons e es ih =>
    rw [loadEntries]
    cases he : e.loads with
    | true => exact bind_run_of_none (loadEntry_run_of_loads codes vm he hheld)
    | false =>
      -- the first turn loads nothing; the volume that loads comes later
      have hes : ∃ e ∈ es, e.loads = true := by
        obtain ⟨e', he', hloads⟩ := h
        rcases List.mem_cons.mp he' with rfl | hmem
        · rw [he] at hloads
          cases hloads
        · exact ⟨e', hmem, hloads⟩
      rw [bind_run_of_some (loadEntry_run_of_not_loads codes vm he held)]
      exact ih vm hes

/-- The load over a store none of whose values loads returns `XSAN_OK`,
holding nothing, with the manager unchanged. -/
theorem xsanVolumeManagerLoadMetadata_run_of_not_loads {vm : XsanVolumeManager}
    (hinit : vm.initialized = true) {entries : List LoadEntry} (h : ∀ e ∈ entries, e.loads = false) :
    (xsanVolumeManagerLoadMetadata codes vm true entries).run [] = some ((vm, xsanOk), []) := by
  simp only [xsanVolumeManagerLoadMetadata, hinit, Bool.not_true, Bool.false_eq_true, if_false]
  exact critical_run List.not_mem_nil (loadEntries_run_of_not_loads codes vm h _) (·, xsanOk)

/-- A restart whose one volume record fails to append: the load gives the
lock back and returns `XSAN_OK`. -/
theorem xsanVolumeManagerLoadMetadata_run_of_not_loads_append_fails :
    emptyVolumeManager.initialized = true ∧
      (∀ e ∈ [LoadEntry.mk (some (.volume (newVolumeRecord 1 ['v'] 4096 7 512 true 0))) false true true],
        e.loads = false) ∧
      (xsanVolumeManagerLoadMetadata UndefinedCodes.fresh emptyVolumeManager true
          [LoadEntry.mk (some (.volume (newVolumeRecord 1 ['v'] 4096 7 512 true 0))) false true true]).run [] =
        some ((emptyVolumeManager, xsanOk), []) := by
  have h : ∀ e ∈ [LoadEntry.mk (some (.volume (newVolumeRecord 1 ['v'] 4096 7 512 true 0))) false true true],
      e.loads = false := by
    intro e he
    rw [List.mem_singleton] at he
    subst he
    rfl
  exact ⟨rfl, h, xsanVolumeManagerLoadMetadata_run_of_not_loads UndefinedCodes.fresh rfl h⟩

/-- The load over a store with a value that loads never returns: the state
update of that volume locks `vm->lock`, which the load holds. -/
theorem xsanVolumeManagerLoadMetadata_run_of_loads {vm : XsanVolumeManager}
    (hinit : vm.initialized = true) {entries : List LoadEntry} (h : ∃ e ∈ entries, e.loads = true) :
    (xsanVolumeManagerLoadMetadata codes vm true entries).run [] = none := by
  simp only [xsanVolumeManagerLoadMetadata, hinit, Bool.not_true, Bool.false_eq_true, if_false]
  rw [bind_run_of_some (acquire_run_of_not_mem List.not_mem_nil)]
  exact bind_run_of_none (loadEntries_run_of_loads codes vm h List.mem_cons_self)

/-- Over any store and disk groups: an `xsan_volume_manager_init` whose
metadata load meets a volume record that deserialises and is appended never
returns, since the load holds `vm->lock` when the state update of that
volume locks it. -/
theorem volume_manager_init_relocks_vm_lock (store : MetadataStore MetaKey MetaValue)
    (diskGroupStates : ℕ → Option XsanStorageState)
    (allocatedExtents : ℕ → Multiset XsanVolumeExtentMapping) {entries : List LoadEntry}
    (h : ∃ e ∈ entries, e.loads = true) :
    (xsanVolumeManagerInit codes store diskGroupStates allocatedExtents true entries).run [] = none :=
  bind_run_of_none (xsanVolumeManagerLoadMetadata_run_of_loads codes rfl h)

end Codes

/-- The volume a restart finds in the store: a thin 4 KiB volume with id `1`. -/
def storedVolume : XsanVolume := newVolumeRecord 1 ['v'] 4096 7 512 true 0

/-- A restart over a store holding that one volume, whose load appends it. -/
theorem volume_manager_init_relocks_vm_lock_one_volume :
    (∃ e ∈ [LoadEntry.mk (some (.volume storedVolume)) true true true], e.loads = true) ∧
      (xsanVolumeManagerInit UndefinedCodes.fresh
          (Function.update (fun _ => none) (.volume 1) (some (.volume storedVolume)))
          emptyVolumeManager.diskGroupStates emptyVolumeManager.allocatedExtents true
          [LoadEntry.mk (some (.volume storedVolume)) true true true]).run [] = none :=
  have h : ∃ e ∈ [LoadEntry.mk (some (.volume storedVolume)) true true true], e.loads = true :=
    ⟨_, List.mem_singleton_self _, rfl⟩
  ⟨h, volume_manager_init_relocks_vm_lock _ _ _ _ h⟩

end Xsan
