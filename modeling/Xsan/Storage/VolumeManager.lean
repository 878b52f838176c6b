import Xsan.Storage.Volume
import Xsan.Metadata.Store
import Mathlib.Data.Multiset.AddSub

/-!
# Creating and deleting volumes

`xsan_volume_create` and `xsan_volume_delete` (storage/volume_manager.c:407-689)
over the state they act on: the managed volume list, the metadata store, and
the extents each disk group has given out.

Every call they make to another component is an input: the store calls may
fail on any call (`Xsan.Metadata.Store`), the disk-group calls (declared in
include/xsan_disk_manager.h but not defined in the tree) return whatever
status and extents the input says, and so do the cluster queries, the
allocator and `spdk_uuid_generate`. The JSON text the store holds is kept as
the record it encodes.

Results:
* `createPersist_cases`, `xsanVolumeCreate_cases`, `xsanVolumeDelete_cases`:
  everything each call can do to the state.
* `volume_create_delete_atomic_up_to_rollback`: a create that fails leaves
  the list as it was, and the store and the extents too when the rollback
  calls succeed; one that succeeds adds one volume, its two records and its
  extents. A delete fails exactly when no volume has the id and then changes
  nothing; otherwise it unlinks the volume and returns `XSAN_OK` whatever the
  store and the disk group answer (`volume_create_delete_leave_keys`).
* `nameTaken_iff`: the duplicate check compares the first
  `XSAN_MAX_NAME_LEN` characters while the stored name keeps one fewer,
  so a long name is accepted twice (`volume_create_duplicates_long_name`).
-/

namespace Xsan

/-- `xsan_node_t` as the manager reads it: id and storage address. -/
structure XsanNode where
  id : ℕ
  storageIp : List Char
  storagePort : ℕ
deriving DecidableEq, Repr

/-- The keys the manager writes: `"v:<uuid>"` (`XSAN_VOLUME_META_PREFIX`) and
`"volalloc:<uuid>"` (`XSAN_VOL_ALLOC_META_PREFIX`). -/
inductive MetaKey
  | volume (id : ℕ)
  | volAlloc (id : ℕ)
deriving DecidableEq, Repr

/-- `xsan_volume_allocation_meta_t`. -/
structure XsanVolumeAllocationMeta where
  volumeId : ℕ
  diskGroupId : ℕ
  numExtents : ℕ
  totalVolumeBlocksLogical : ℕ
  volumeLogicalBlockSize : ℕ
  extents : List XsanVolumeExtentMapping
deriving DecidableEq, Repr

/-- A value in the store: the JSON of a volume or of an allocation record. -/
inductive MetaValue
  | volume (v : XsanVolume)
  | allocMeta (a : XsanVolumeAllocationMeta)
deriving DecidableEq, Repr

/-- The volume manager's state that create and delete act on. -/
structure XsanVolumeManager where
  initialized : Bool
  managedVolumes : List XsanVolume
  mdStore : MetadataStore MetaKey MetaValue
  /-- The state of each disk group the disk manager knows, by id. -/
  diskGroupStates : ℕ → Option XsanStorageState
  /-- The extents each disk group has given out, by group id. -/
  allocatedExtents : ℕ → Multiset XsanVolumeExtentMapping

/-! ## The disk-group calls -/

/-- The effect of `xsan_disk_group_allocate_extents`: on `XSAN_OK` the group
has given out the extents it returned. -/
def diskGroupAllocateExtents (alloc : ℕ → Multiset XsanVolumeExtentMapping) (groupId : ℕ)
    (status : ℤ) (extents : List XsanVolumeExtentMapping) : ℕ → Multiset XsanVolumeExtentMapping :=
  if status = xsanOk then Function.update alloc groupId (alloc groupId + extents) else alloc

/-- The effect of `xsan_disk_group_free_extents`: on `XSAN_OK` the group has
taken the extents back. -/
def diskGroupFreeExtents (alloc : ℕ → Multiset XsanVolumeExtentMapping) (groupId : ℕ)
    (extents : List XsanVolumeExtentMapping) (status : ℤ) : ℕ → Multiset XsanVolumeExtentMapping :=
  if status = xsanOk then Function.update alloc groupId (alloc groupId - extents) else alloc

theorem diskGroupFreeExtents_allocate {alloc : ℕ → Multiset XsanVolumeExtentMapping}
    {groupId : ℕ} {extents : List XsanVolumeExtentMapping} :
    diskGroupFreeExtents (diskGroupAllocateExtents alloc groupId xsanOk extents) groupId extents
      xsanOk = alloc := by
  unfold diskGroupFreeExtents diskGroupAllocateExtents
  rw [if_pos rfl, if_pos rfl, Function.update_self, Multiset.add_sub_cancel_right,
    Function.update_idem, Function.update_eq_self]

@[simp] theorem diskGroupAllocateExtents_nil (alloc : ℕ → Multiset XsanVolumeExtentMapping)
    (groupId : ℕ) (status : ℤ) : diskGroupAllocateExtents alloc groupId status [] = alloc := by
  unfold diskGroupAllocateExtents
  split_ifs
  · rw [Multiset.coe_nil, Multiset.add_zero, Function.update_eq_self]
  · rfl

theorem diskGroupAllocateExtents_of_ne {alloc : ℕ → Multiset XsanVolumeExtentMapping}
    {groupId : ℕ} {status : ℤ} (h : status ≠ xsanOk) (extents : List XsanVolumeExtentMapping) :
    diskGroupAllocateExtents alloc groupId status extents = alloc := by
  unfold diskGroupAllocateExtents
  rw [if_neg h]

/-! ## Volume metadata -/

section Codes

variable (codes : UndefinedCodes)

/-- `xsan_volume_manager_save_volume_meta` (volume_manager.c:318-341):
serialise the volume (`jsonOk` is the copy of the text) and put it under
`v:<id>`. -/
def xsanVolumeManagerSaveVolumeMeta (vm : XsanVolumeManager) (vol : XsanVolume)
    (jsonOk putOk : Bool) : XsanVolumeManager × ℤ :=
  if !jsonOk then (vm, codes.outOfMemory)
  else
    let r := xsanMetadataStorePut vm.mdStore (.volume vol.id) (.volume vol) putOk
    ({ vm with mdStore := r.1 }, r.2)

/-- `xsan_volume_manager_delete_volume_meta` (volume_manager.c:343-359). -/
def xsanVolumeManagerDeleteVolumeMeta (vm : XsanVolumeManager) (volumeId : ℕ) (deleteOk : Bool) :
    XsanVolumeManager × ℤ :=
  if volumeId = 0 then (vm, xsanErrorInvalidParam)
  else
    let r := xsanMetadataStoreDelete vm.mdStore (.volume volumeId) deleteOk
    ({ vm with mdStore := r.1 }, if r.2 = xsanErrorNotFound then xsanOk else r.2)

theorem xsanVolumeManagerDeleteVolumeMeta_fst (vm : XsanVolumeManager) (volumeId : ℕ)
    (deleteOk : Bool) :
    (xsanVolumeManagerDeleteVolumeMeta vm volumeId deleteOk).1 =
      { vm with
        mdStore := if volumeId = 0 then vm.mdStore else
          (xsanMetadataStoreDelete vm.mdStore (.volume volumeId) deleteOk).1 } := by
  unfold xsanVolumeManagerDeleteVolumeMeta
  split_ifs <;> rfl

/-! ## `xsan_volume_create` -/

/-- What the calls `xsan_volume_create` makes outside this file return, in
call order. A status with its data is the call's return value and what it
wrote through its out-pointers. -/
structure CreateEnv where
  volumeMallocOk : Bool
  newId : ℕ
  localNodeInfo : ℤ × XsanNode
  nowUs : ℕ
  knownNodes : ℤ × List XsanNode
  allocateExtents : ℤ × List XsanVolumeExtentMapping
  allocMetaMallocOk : Bool
  allocMetaJsonOk : Bool
  putAllocMetaOk : Bool
  volumeJsonOk : Bool
  putVolumeMetaOk : Bool
  /-- The rollback delete of `volalloc:<id>`; at most one runs. -/
  deleteAllocMetaOk : Bool
  listAppendOk : Bool
  /-- The rollback delete of `v:<id>`. -/
  deleteVolumeMetaOk : Bool
  freeExtentsStatus : ℤ

/-- The new record as `xsan_volume_create` fills it before placing replicas
(volume_manager.c:446-465); sizes are `uint64_t`. -/
def newVolumeRecord (id : ℕ) (name : List Char) (sizeBytes groupId logicalBlockSizeBytes : ℕ)
    (thin : Bool) (ftt : ℕ) : XsanVolume :=
  let numBlocks := (sizeBytes + logicalBlockSizeBytes - 1) % 2 ^ 64 / logicalBlockSizeBytes
  let vol : XsanVolume :=
    { id
      name := (xsanStrcpySafe [] name xsanMaxNameLen).1
      sizeBytes := numBlocks * logicalBlockSizeBytes % 2 ^ 64
      blockSizeBytes := logicalBlockSizeBytes
      numBlocks
      state := .unknown
      sourceGroupId := groupId
      thinProvisioned := thin
      allocatedBytes := 0
      ftt
      actualReplicaCount := ftt + 1
      replicaNodes := List.replicate xsanMaxReplicas .zero }
  if vol.actualReplicaCount > xsanMaxReplicas then
    { vol with
      actualReplicaCount := xsanMaxReplicas
      ftt := if xsanMaxReplicas > 0 then xsanMaxReplicas - 1 else 0 }
  else vol

/-- The loop over the known nodes (volume_manager.c:489-501): every node
other than the local one takes the next free slot until `FTT` remote
replicas are placed. Returns the volume and `remote_assigned`. -/
def assignRemoteReplicas (localId : ℕ) : List XsanNode → XsanVolume × ℕ → XsanVolume × ℕ
  | [], acc => acc
  | node :: nodes, (vol, remoteAssigned) =>
    if remoteAssigned < vol.ftt then
      if node.id ≠ localId ∧ remoteAssigned + 1 < xsanMaxReplicas then
        let slot := vol.replicaNodes.getD (remoteAssigned + 1) .zero
        let slot : XsanReplicaLocation :=
          { slot with
            nodeId := node.id
            nodeIpAddr := (xsanStrcpySafe slot.nodeIpAddr node.storageIp inet6Addrstrlen).1
            nodeCommPort := node.storagePort
            state := .initializing }
        assignRemoteReplicas localId nodes
          ({ vol with replicaNodes := vol.replicaNodes.set (remoteAssigned + 1) slot },
            remoteAssigned + 1)
      else assignRemoteReplicas localId nodes (vol, remoteAssigned)
    else (vol, remoteAssigned)

/-- Place the replicas (volume_manager.c:467-508): the local node in slot 0,
then remote nodes; `FTT` and `actual_replica_count` drop to what was
placed. -/
def placeReplicas (env : CreateEnv) (vol : XsanVolume) : Except ℤ XsanVolume :=
  if env.localNodeInfo.1 ≠ xsanOk then .error env.localNodeInfo.1
  else
    let localNode := env.localNodeInfo.2
    let slot0 : XsanReplicaLocation :=
      { nodeId := localNode.id
        nodeIpAddr := (xsanStrcpySafe [] localNode.storageIp inet6Addrstrlen).1
        nodeCommPort := localNode.storagePort
        state := .online
        lastSuccessfulContactTimeUs := env.nowUs }
    let vol := { vol with replicaNodes := vol.replicaNodes.set 0 slot0 }
    if vol.actualReplicaCount > 1 then
      if env.knownNodes.1 ≠ xsanOk then
        -- the cluster query failed: fall back to FTT = 0
        .ok { vol with actualReplicaCount := 1, ftt := 0 }
      else
        let r := assignRemoteReplicas localNode.id env.knownNodes.2 (vol, 0)
        if r.2 < r.1.ftt then .ok { r.1 with actualReplicaCount := r.2 + 1, ftt := r.2 }
        else .ok r.1
    else .ok vol

/-- The failure cleanup of `xsan_volume_create` that returns the extents
(volume_manager.c:586-591); the status of the free is ignored. -/
def createReleaseExtents (vm : XsanVolumeManager) (groupId : ℕ)
    (extents : List XsanVolumeExtentMapping) (freeStatus : ℤ) : XsanVolumeManager :=
  if extents = [] then vm
  else { vm with allocatedExtents := diskGroupFreeExtents vm.allocatedExtents groupId extents freeStatus }

/-- Thick provisioning (volume_manager.c:510-523): the extents the group gave
out, or the error with the state it leaves. -/
def createAllocate (vm : XsanVolumeManager) (groupId : ℕ) (thin : Bool) (vol : XsanVolume)
    (env : CreateEnv) :
    Except (XsanVolumeManager × ℤ) (XsanVolumeManager × XsanVolume × List XsanVolumeExtentMapping) :=
  if thin then .ok (vm, vol, [])
  else
    let vm := { vm with
      allocatedExtents := diskGroupAllocateExtents vm.allocatedExtents groupId
        env.allocateExtents.1 env.allocateExtents.2 }
    if env.allocateExtents.1 ≠ xsanOk then .error (vm, env.allocateExtents.1)
    else if env.allocateExtents.2 = [] then .error (vm, codes.internal)
    else .ok (vm, { vol with allocatedBytes := vol.sizeBytes }, env.allocateExtents.2)

/-- The allocation record `xsan_volume_create` stores (volume_manager.c:527-541):
`num_extents` is the number of extents, `0` for a thin volume. -/
def createAllocMeta (vol : XsanVolume) (groupId : ℕ) (extents : List XsanVolumeExtentMapping) :
    XsanVolumeAllocationMeta :=
  { volumeId := vol.id
    diskGroupId := groupId
    numExtents := extents.length
    totalVolumeBlocksLogical := vol.numBlocks
    volumeLogicalBlockSize := vol.blockSizeBytes
    extents }

/-- The allocation record, its store entry, the volume's own entry and the
list append (volume_manager.c:525-577), with the rollback of each failure.
The allocation failure at line 526 jumps to a label the file does not
define; it is read as the cleanup that frees the extents, which its name
describes. -/
def createPersist (vm : XsanVolumeManager) (groupId : ℕ) (vol : XsanVolume)
    (extents : List XsanVolumeExtentMapping) (env : CreateEnv) : XsanVolumeManager × ℤ :=
  let fail (vm : XsanVolumeManager) (err : ℤ) :=
    (createReleaseExtents vm groupId extents env.freeExtentsStatus, err)
  if !env.allocMetaMallocOk then fail vm codes.outOfMemory
  else if extents.length > xsanMaxExtentsPerVolume then fail vm codes.tooManyExtents
  else if !env.allocMetaJsonOk then fail vm codes.outOfMemory
  else
    let put := xsanMetadataStorePut vm.mdStore (.volAlloc vol.id)
      (.allocMeta (createAllocMeta vol groupId extents)) env.putAllocMetaOk
    let vm := { vm with mdStore := put.1 }
    if put.2 ≠ xsanOk then fail vm put.2
    else
      let vol := { vol with state := volumeCreateInitialState vol }
      let saved := xsanVolumeManagerSaveVolumeMeta codes vm vol env.volumeJsonOk env.putVolumeMetaOk
      if saved.2 ≠ xsanOk then
        let del := xsanMetadataStoreDelete saved.1.mdStore (.volAlloc vol.id) env.deleteAllocMetaOk
        fail { saved.1 with mdStore := del.1 } saved.2
      else if !env.listAppendOk then
        let del := xsanMetadataStoreDelete saved.1.mdStore (.volAlloc vol.id) env.deleteAllocMetaOk
        let delVol := xsanVolumeManagerDeleteVolumeMeta { saved.1 with mdStore := del.1 } vol.id
          env.deleteVolumeMetaOk
        fail delVol.1 codes.outOfMemory
      else ({ saved.1 with managedVolumes := saved.1.managedVolumes ++ [vol] }, xsanOk)

/-- The duplicate-name check (volume_manager.c:422-429): `strncmp` of each
stored name with the requested one over `XSAN_MAX_NAME_LEN` bytes. -/
def nameTaken (vm : XsanVolumeManager) (name : List Char) : Bool :=
  vm.managedVolumes.any fun v => strncmp v.name name xsanMaxNameLen = 0

/-- `xsan_volume_create` (volume_manager.c:407-605): the manager after the
call and the status; on `XSAN_OK` the new id, written to `vol_id_out`, is
`env.newId`. `name` is `none` for `NULL`. -/
def xsanVolumeCreate (vm : XsanVolumeManager) (name : Option (List Char))
    (sizeBytes groupId logicalBlockSizeBytes : ℕ) (thin : Bool) (ftt : ℕ) (env : CreateEnv) :
    XsanVolumeManager × ℤ :=
  match name with
  | none => (vm, xsanErrorInvalidParam)
  | some name =>
    if !vm.initialized ∨ sizeBytes = 0 ∨ groupId = 0 ∨
        (logicalBlockSizeBytes ≠ 512 ∧ logicalBlockSizeBytes ≠ 4096) ∨ ftt ≥ xsanMaxReplicas then
      (vm, xsanErrorInvalidParam)
    else if nameTaken vm name then (vm, xsanErrorAlreadyExists)
    else
      match vm.diskGroupStates groupId with
      | none => (vm, xsanErrorNotFound)
      | some dgState =>
        if dgState ≠ .online then (vm, codes.resourceUnavailable)
        else if !env.volumeMallocOk then (vm, codes.outOfMemory)
        else
          match placeReplicas env
              (newVolumeRecord env.newId name sizeBytes groupId logicalBlockSizeBytes thin ftt) with
          | .error err => (vm, err)
          | .ok vol =>
            match createAllocate codes vm groupId thin vol env with
            | .error r => r
            | .ok (vm, vol, extents) => createPersist codes vm groupId vol extents env

/-! ## `xsan_volume_delete` -/

/-- What the calls `xsan_volume_delete` makes outside this file return. -/
structure DeleteEnv where
  getAllocMetaOk : Bool
  getAllocMetaMallocOk : Bool
  parseAllocMetaOk : Bool
  freeExtentsStatus : ℤ
  deleteAllocMetaOk : Bool
  deleteVolumeMetaOk : Bool

/-- The allocation record `xsan_volume_delete` reads back (volume_manager.c:633-651),
if the read and the parse succeed. -/
def readAllocMeta (vm : XsanVolumeManager) (volumeId : ℕ) (env : DeleteEnv) :
    Option XsanVolumeAllocationMeta :=
  match xsanMetadataStoreGet vm.mdStore (.volAlloc volumeId) env.getAllocMetaOk
      env.getAllocMetaMallocOk with
  | .ok (.allocMeta a) => if env.parseAllocMetaOk then some a else none
  | _ => none

/-- The extent release of `xsan_volume_delete` (volume_manager.c:653-665):
the extents the allocation record lists go back to its disk group. -/
def deleteReleaseExtents (vm : XsanVolumeManager) (volumeId : ℕ) (env : DeleteEnv) :
    XsanVolumeManager :=
  match readAllocMeta vm volumeId env with
  | some a =>
    if a.numExtents > 0 then
      { vm with
        allocatedExtents := diskGroupFreeExtents vm.allocatedExtents a.diskGroupId
          (a.extents.take a.numExtents) env.freeExtentsStatus }
    else vm
  | none => vm

@[simp] theorem deleteReleaseExtents_managedVolumes (vm : XsanVolumeManager) (volumeId : ℕ)
    (env : DeleteEnv) : (deleteReleaseExtents vm volumeId env).managedVolumes = vm.managedVolumes := by
  unfold deleteReleaseExtents
  split <;> (try split_ifs) <;> rfl

@[simp] theorem deleteReleaseExtents_mdStore (vm : XsanVolumeManager) (volumeId : ℕ)
    (env : DeleteEnv) : (deleteReleaseExtents vm volumeId env).mdStore = vm.mdStore := by
  unfold deleteReleaseExtents
  split <;> (try split_ifs) <;> rfl

/-- `xsan_volume_delete` (volume_manager.c:607-689). -/
def xsanVolumeDelete (vm : XsanVolumeManager) (volumeId : ℕ) (env : DeleteEnv) :
    XsanVolumeManager × ℤ :=
  if !vm.initialized ∨ volumeId = 0 then (vm, xsanErrorInvalidParam)
  else if vm.managedVolumes.any (·.id = volumeId) then
    -- every failure below is logged and passed over
    let vm := deleteReleaseExtents vm volumeId env
    let del := xsanMetadataStoreDelete vm.mdStore (.volAlloc volumeId) env.deleteAllocMetaOk
    let delVol := xsanVolumeManagerDeleteVolumeMeta { vm with mdStore := del.1 } volumeId
      env.deleteVolumeMetaOk
    ({ delVol.1 with managedVolumes := delVol.1.managedVolumes.eraseP (·.id = volumeId) }, xsanOk)
  else (vm, xsanErrorNotFound)

/-! ## Sequences of calls -/

/-- A call on the manager, with what its outside calls return. -/
inductive VolumeCall
  | create (name : Option (List Char)) (sizeBytes groupId logicalBlockSizeBytes : ℕ) (thin : Bool)
      (ftt : ℕ) (env : CreateEnv)
  | delete (volumeId : ℕ) (env : DeleteEnv)

/-- One call: the manager after it and its status. -/
def volumeCallStep (vm : XsanVolumeManager) : VolumeCall → XsanVolumeManager × ℤ
  | .create name sizeBytes groupId lbs thin ftt env =>
    xsanVolumeCreate codes vm name sizeBytes groupId lbs thin ftt env
  | .delete volumeId env => xsanVolumeDelete vm volumeId env

/-- A sequence of calls: the final manager and every call's status. -/
def volumeCallRun (vm : XsanVolumeManager) : List VolumeCall → XsanVolumeManager × List ℤ
  | [] => (vm, [])
  | call :: calls =>
    let r := volumeCallStep codes vm call
    let rest := volumeCallRun r.1 calls
    (rest.1, r.2 :: rest.2)

/-! ## What create does to the state -/

@[simp] theorem createReleaseExtents_managedVolumes (vm : XsanVolumeManager) (groupId : ℕ)
    (extents : List XsanVolumeExtentMapping) (st : ℤ) :
    (createReleaseExtents vm groupId extents st).managedVolumes = vm.managedVolumes := by
  unfold createReleaseExtents
  split_ifs <;> rfl

@[simp] theorem createReleaseExtents_mdStore (vm : XsanVolumeManager) (groupId : ℕ)
    (extents : List XsanVolumeExtentMapping) (st : ℤ) :
    (createReleaseExtents vm groupId extents st).mdStore = vm.mdStore := by
  unfold createReleaseExtents
  split_ifs <;> rfl

/-- The store after a create that succeeds: the allocation record under
`volalloc:<id>`, then the volume with its initial state under `v:<id>`. -/
def createdStore (vm : XsanVolumeManager) (groupId : ℕ) (vol : XsanVolume)
    (extents : List XsanVolumeExtentMapping) : MetadataStore MetaKey MetaValue :=
  Function.update
    (Function.update vm.mdStore (.volAlloc vol.id) (some (.allocMeta (createAllocMeta vol groupId extents))))
    (.volume vol.id) (some (.volume { vol with state := volumeCreateInitialState vol }))

/-- The three stores a failed `createPersist` can leave: the old one, the
one whose allocation record was rolled back, and the one whose two records
were. -/
def createRolledBack (vm : XsanVolumeManager) (groupId : ℕ) (vol : XsanVolume)
    (extents : List XsanVolumeExtentMapping) (env : CreateEnv) (store : MetadataStore MetaKey MetaValue) :
    Prop :=
  store = vm.mdStore ∨
    store = (xsanMetadataStoreDelete
      (Function.update vm.mdStore (.volAlloc vol.id) (some (.allocMeta (createAllocMeta vol groupId extents))))
      (.volAlloc vol.id) env.deleteAllocMetaOk).1 ∨
    store = (xsanVolumeManagerDeleteVolumeMeta
      { vm with mdStore := (xsanMetadataStoreDelete (createdStore vm groupId vol extents)
          (.volAlloc vol.id) env.deleteAllocMetaOk).1 }
      vol.id env.deleteVolumeMetaOk).1.mdStore

/-- Everything `createPersist` can do: succeed with both records stored and
the volume appended, or fail with the extents released and one of the
stores of `createRolledBack`. -/
theorem createPersist_cases (vm : XsanVolumeManager) (groupId : ℕ) (vol : XsanVolume)
    (extents : List XsanVolumeExtentMapping) (env : CreateEnv) :
    ((createPersist codes vm groupId vol extents env).2 = xsanOk ∧
      (createPersist codes vm groupId vol extents env).1 =
        { vm with
          mdStore := createdStore vm groupId vol extents
          managedVolumes := vm.managedVolumes ++ [{ vol with state := volumeCreateInitialState vol }] }) ∨
    ((createPersist codes vm groupId vol extents env).2 ≠ xsanOk ∧
      ∃ store, createRolledBack vm groupId vol extents env store ∧
        (createPersist codes vm groupId vol extents env).1 =
          createReleaseExtents { vm with mdStore := store } groupId extents env.freeExtentsStatus) := by
  unfold createPersist createRolledBack
  -- each outside call either fails, taking its rollback path, or lets the next one run
  cases env.allocMetaMallocOk
  · exact .inr ⟨by simp, vm.mdStore, .inl rfl, by simp⟩
  by_cases hlen : extents.length > xsanMaxExtentsPerVolume
  · exact .inr ⟨by simp [hlen], vm.mdStore, .inl rfl, by simp [hlen]⟩
  cases env.allocMetaJsonOk
  · exact .inr ⟨by simp [hlen], vm.mdStore, .inl rfl, by simp [hlen]⟩
  cases env.putAllocMetaOk
  · exact .inr ⟨by simp [hlen], vm.mdStore, .inl rfl, by simp [hlen]⟩
  cases env.volumeJsonOk
  · exact .inr ⟨by simp [hlen, xsanVolumeManagerSaveVolumeMeta],
      _, .inr (.inl rfl), by simp [hlen, xsanVolumeManagerSaveVolumeMeta]⟩
  cases env.putVolumeMetaOk
  · exact .inr ⟨by simp [hlen, xsanVolumeManagerSaveVolumeMeta],
      _, .inr (.inl rfl), by simp [hlen, xsanVolumeManagerSaveVolumeMeta]⟩
  cases env.listAppendOk
  · exact .inr ⟨by simp [hlen, xsanVolumeManagerSaveVolumeMeta], _, .inr (.inr rfl),
      by simp [hlen, xsanVolumeManagerSaveVolumeMeta, xsanVolumeManagerDeleteVolumeMeta_fst, createdStore]⟩
  · exact .inl ⟨by simp [hlen, xsanVolumeManagerSaveVolumeMeta],
      by simp [hlen, xsanVolumeManagerSaveVolumeMeta, createdStore]⟩

/-- A generated id: not the null UUID, and neither of its keys is in the
store. -/
def FreshId (vm : XsanVolumeManager) (id : ℕ) : Prop :=
  id ≠ 0 ∧ vm.mdStore (.volume id) = none ∧ vm.mdStore (.volAlloc id) = none

/-- When the id is fresh and the rollback deletes succeed, a failed
`createPersist` leaves the store as it found it. -/
theorem createRolledBack_eq {vm : XsanVolumeManager} {groupId : ℕ} {vol : XsanVolume}
    {extents : List XsanVolumeExtentMapping} {env : CreateEnv} {store : MetadataStore MetaKey MetaValue}
    (hfresh : FreshId vm vol.id) (hA : env.deleteAllocMetaOk = true)
    (hV : env.deleteVolumeMetaOk = true) (h : createRolledBack vm groupId vol extents env store) :
    store = vm.mdStore := by
  obtain ⟨hid, hvol, halloc⟩ := hfresh
  rcases h with rfl | rfl | rfl
  · rfl
  · rw [hA, xsanMetadataStoreDelete_true]
    exact update_none_of_update halloc _
  · rw [xsanVolumeManagerDeleteVolumeMeta_fst, if_neg hid, hA, hV, xsanMetadataStoreDelete_true,
      xsanMetadataStoreDelete_true]
    exact update_update_none_of_update (by simp) halloc hvol _ _

/-- A failed `createPersist` gives back the extents it was handed when the
disk group takes them. -/
theorem createReleaseExtents_allocate {vm : XsanVolumeManager} {groupId : ℕ}
    {extents : List XsanVolumeExtentMapping} (store : MetadataStore MetaKey MetaValue) :
    (createReleaseExtents
      { vm with
        mdStore := store
        allocatedExtents := diskGroupAllocateExtents vm.allocatedExtents groupId xsanOk extents }
      groupId extents xsanOk).allocatedExtents = vm.allocatedExtents := by
  unfold createReleaseExtents
  split_ifs with h
  · subst h
    simp
  · exact diskGroupFreeExtents_allocate

/-- `assignRemoteReplicas` only fills replica slots and counts. -/
theorem assignRemoteReplicas_id (localId : ℕ) (nodes : List XsanNode) (acc : XsanVolume × ℕ) :
    (assignRemoteReplicas localId nodes acc).1.id = acc.1.id := by
  induction nodes generalizing acc with
  | nil => rfl
  | cons node nodes ih =>
    obtain ⟨vol, remoteAssigned⟩ := acc
    unfold assignRemoteReplicas
    split_ifs
    · exact ih _
    · exact ih _
    · rfl

theorem placeReplicas_error {env : CreateEnv} {vol : XsanVolume} {err : ℤ}
    (h : placeReplicas env vol = .error err) : err ≠ xsanOk := by
  unfold placeReplicas at h
  dsimp only at h
  split_ifs at h with hst
  · cases h
    exact hst

theorem placeReplicas_id {env : CreateEnv} {vol vol' : XsanVolume}
    (h : placeReplicas env vol = .ok vol') : vol'.id = vol.id := by
  unfold placeReplicas at h
  dsimp only at h
  split_ifs at h with hst hcount hknown hremote <;> cases h
  · rfl
  · exact assignRemoteReplicas_id _ _ _
  · exact assignRemoteReplicas_id _ _ _
  · rfl

theorem newVolumeRecord_id (id : ℕ) (name : List Char) (sizeBytes groupId lbs : ℕ) (thin : Bool)
    (ftt : ℕ) : (newVolumeRecord id name sizeBytes groupId lbs thin ftt).id = id := by
  unfold newVolumeRecord
  dsimp only
  split_ifs <;> rfl

/-- What thick provisioning can do: fail with the state unchanged, or hand
on the extents the group gave out (none for a thin volume). -/
theorem createAllocate_cases (vm : XsanVolumeManager) (groupId : ℕ) (thin : Bool)
    (vol : XsanVolume) (env : CreateEnv) :
    (∃ err, createAllocate codes vm groupId thin vol env = .error (vm, err) ∧ err ≠ xsanOk) ∨
    (∃ vol' extents, createAllocate codes vm groupId thin vol env =
        .ok ({ vm with allocatedExtents := diskGroupAllocateExtents vm.allocatedExtents groupId xsanOk extents },
          vol', extents) ∧
      vol'.id = vol.id ∧ (thin = true → extents = [])) := by
  unfold createAllocate
  cases thin
  · obtain ⟨st, extents⟩ := env.allocateExtents
    by_cases hst : st = xsanOk
    · subst hst
      by_cases hnil : extents = []
      · subst hnil
        exact .inl ⟨codes.internal, by simp, codes.internal_ne⟩
      · exact .inr ⟨{ vol with allocatedBytes := vol.sizeBytes }, extents, by simp [hnil], rfl, by simp⟩
    · exact .inl ⟨st, by simp [hst, diskGroupAllocateExtents_of_ne hst], hst⟩
  · exact .inr ⟨vol, [], by simp, rfl, fun _ => rfl⟩

/-- Everything `xsan_volume_create` can do: fail before touching the state,
or run `createPersist` on a record with the new id, after the group gave out
the extents it returned. -/
theorem xsanVolumeCreate_cases (vm : XsanVolumeManager) (name : Option (List Char))
    (sizeBytes groupId lbs : ℕ) (thin : Bool) (ftt : ℕ) (env : CreateEnv) :
    ((xsanVolumeCreate codes vm name sizeBytes groupId lbs thin ftt env).1 = vm ∧
      (xsanVolumeCreate codes vm name sizeBytes groupId lbs thin ftt env).2 ≠ xsanOk) ∨
    (∃ vol extents, vol.id = env.newId ∧ (thin = true → extents = []) ∧
      xsanVolumeCreate codes vm name sizeBytes groupId lbs thin ftt env =
        createPersist codes
          { vm with allocatedExtents := diskGroupAllocateExtents vm.allocatedExtents groupId xsanOk extents }
          groupId vol extents env) := by
  unfold xsanVolumeCreate
  rcases name with _ | name
  · exact .inl ⟨rfl, by simp⟩
  dsimp only
  -- the checks before any state is touched: parameters, name, group, allocation
  split
  · exact .inl ⟨rfl, by simp⟩
  split
  · exact .inl ⟨rfl, by simp⟩
  split
  · exact .inl ⟨rfl, by simp⟩
  split
  · exact .inl ⟨rfl, by simp⟩
  split
  · exact .inl ⟨rfl, by simp⟩
  split
  · rename_i err hplace
    exact .inl ⟨rfl, placeReplicas_error hplace⟩
  rename_i vol hplace
  have hid : vol.id = env.newId := (placeReplicas_id hplace).trans (newVolumeRecord_id ..)
  rcases createAllocate_cases codes vm groupId thin vol env with
    ⟨err, halloc, herr⟩ | ⟨vol', extents, halloc, hid', hthin⟩
  · rw [halloc]
    exact .inl ⟨rfl, herr⟩
  · rw [halloc]
    exact .inr ⟨vol', extents, hid'.trans hid, hthin, rfl⟩

/-! ## What delete does to the state -/

/-- Everything `xsan_volume_delete` can do: fail with nothing changed when
the manager is not initialised, the id is null or no volume has it; else
unlink the first volume with the id and delete what the store and the disk
group let it delete, and return `XSAN_OK` in every case. -/
theorem xsanVolumeDelete_cases (vm : XsanVolumeManager) (volumeId : ℕ) (env : DeleteEnv) :
    ((xsanVolumeDelete vm volumeId env).1 = vm ∧ (xsanVolumeDelete vm volumeId env).2 ≠ xsanOk ∧
      ¬(vm.initialized = true ∧ volumeId ≠ 0 ∧ ∃ v ∈ vm.managedVolumes, v.id = volumeId)) ∨
    (vm.initialized = true ∧ volumeId ≠ 0 ∧ (∃ v ∈ vm.managedVolumes, v.id = volumeId) ∧
      (xsanVolumeDelete vm volumeId env).2 = xsanOk ∧
      (xsanVolumeDelete vm volumeId env).1 =
        { deleteReleaseExtents vm volumeId env with
          managedVolumes := vm.managedVolumes.eraseP (·.id = volumeId)
          mdStore := (xsanMetadataStoreDelete
            (xsanMetadataStoreDelete vm.mdStore (.volAlloc volumeId) env.deleteAllocMetaOk).1
            (.volume volumeId) env.deleteVolumeMetaOk).1 }) := by
  unfold xsanVolumeDelete
  by_cases hparam : (!vm.initialized) = true ∨ volumeId = 0
  · rw [if_pos hparam]
    refine .inl ⟨rfl, by simp, ?_⟩
    rintro ⟨hinit, hid, -⟩
    rcases hparam with h | h
    · simp [hinit] at h
    · exact hid h
  rw [if_neg hparam]
  have hinit : vm.initialized = true := by simpa using (not_or.mp hparam).1
  have hid : volumeId ≠ 0 := (not_or.mp hparam).2
  by_cases hfound : vm.managedVolumes.any (·.id = volumeId)
  · have hex : ∃ v ∈ vm.managedVolumes, v.id = volumeId := by simpa using hfound
    rw [if_pos hfound]
    refine .inr ⟨hinit, hid, hex, rfl, ?_⟩
    simp [xsanVolumeManagerDeleteVolumeMeta_fst, hid]
  · rw [if_neg hfound]
    refine .inl ⟨rfl, by simp, ?_⟩
    rintro ⟨-, -, hex⟩
    exact hfound (by simpa using hex)

/-- The extents a successful delete leaves: the allocation record's extents
go back to its group when the read, the parse and the free succeed. -/
theorem deleteReleaseExtents_allocatedExtents (vm : XsanVolumeManager) (volumeId : ℕ)
    (env : DeleteEnv) :
    (deleteReleaseExtents vm volumeId env).allocatedExtents =
      match readAllocMeta vm volumeId env with
      | some a =>
        if a.numExtents > 0 then
          diskGroupFreeExtents vm.allocatedExtents a.diskGroupId (a.extents.take a.numExtents)
            env.freeExtentsStatus
        else vm.allocatedExtents
      | none => vm.allocatedExtents := by
  unfold deleteReleaseExtents
  split <;> (try split_ifs) <;> rfl

end Codes

end Xsan

namespace Xsan

/-- On names without NUL, the duplicate check finds a volume exactly when its
stored name and the request agree on their first `XSAN_MAX_NAME_LEN`
characters. -/
theorem nameTaken_iff {vm : XsanVolumeManager} {name : List Char}
    (hvm : ∀ v ∈ vm.managedVolumes, ∀ c ∈ v.name, c ≠ '\x00') (hname : ∀ c ∈ name, c ≠ '\x00') :
    nameTaken vm name = true ↔
      ∃ v ∈ vm.managedVolumes, v.name.take xsanMaxNameLen = name.take xsanMaxNameLen := by
  unfold nameTaken
  simp only [List.any_eq_true, decide_eq_true_eq]
  constructor
  · rintro ⟨v, hv, hcmp⟩
    exact ⟨v, hv, (strncmp_eq_zero_iff (hvm v hv) hname).mp hcmp⟩
  · rintro ⟨v, hv, htake⟩
    exact ⟨v, hv, (strncmp_eq_zero_iff (hvm v hv) hname).mpr htake⟩

/-- A manager with no volumes, an empty store and disk group `7` online. -/
def emptyVolumeManager : XsanVolumeManager :=
  { initialized := true
    managedVolumes := []
    mdStore := fun _ => none
    diskGroupStates := fun g => if g = 7 then some .online else none
    allocatedExtents := fun _ => 0 }

/-- Every outside call succeeds; the new volume gets id `newId`, the local
node is `1` and no other node is known. -/
def okCreateEnv (newId : ℕ) : CreateEnv :=
  { volumeMallocOk := true
    newId
    localNodeInfo := (xsanOk, ⟨1, ['1', '0', '.', '0', '.', '0', '.', '1'], 8080⟩)
    nowUs := 0
    knownNodes := (xsanOk, [])
    allocateExtents := (xsanOk, [])
    allocMetaMallocOk := true
    allocMetaJsonOk := true
    putAllocMetaOk := true
    volumeJsonOk := true
    putVolumeMetaOk := true
    deleteAllocMetaOk := true
    listAppendOk := true
    deleteVolumeMetaOk := true
    freeExtentsStatus := xsanOk }

/-- Two creates of a thin volume named by 256 `a`s, every outside call
succeeding. -/
def duplicateLongNameCalls : List VolumeCall :=
  [.create (some (List.replicate 256 'a')) 4096 7 512 true 0 (okCreateEnv 1),
    .create (some (List.replicate 256 'a')) 4096 7 512 true 0 (okCreateEnv 2)]

/-- Both creates succeed, and the two managed volumes store the same name,
the first 255 `a`s. -/
theorem volume_create_duplicates_long_name :
    (volumeCallRun UndefinedCodes.fresh emptyVolumeManager duplicateLongNameCalls).2 = [xsanOk, xsanOk] ∧
      (volumeCallRun UndefinedCodes.fresh emptyVolumeManager duplicateLongNameCalls).1.managedVolumes.map
        (·.name) = [List.replicate 255 'a', List.replicate 255 'a'] := by
  decide +kernel

/-- After the first create, the duplicate check of the second compares the
stored 255 `a`s with the 256 requested over 256 characters. -/
theorem nameTaken_iff_long_name :
    (∀ v ∈ (volumeCallRun UndefinedCodes.fresh emptyVolumeManager (duplicateLongNameCalls.take 1)).1.managedVolumes,
        ∀ c ∈ v.name, c ≠ '\x00') ∧ (∀ c ∈ List.replicate 256 'a', c ≠ '\x00') ∧
      (nameTaken (volumeCallRun UndefinedCodes.fresh emptyVolumeManager (duplicateLongNameCalls.take 1)).1
          (List.replicate 256 'a') = true ↔
        ∃ v ∈ (volumeCallRun UndefinedCodes.fresh emptyVolumeManager (duplicateLongNameCalls.take 1)).1.managedVolumes,
          v.name.take xsanMaxNameLen = (List.replicate 256 'a').take xsanMaxNameLen) := by
  have hnames : (volumeCallRun UndefinedCodes.fresh emptyVolumeManager
      (duplicateLongNameCalls.take 1)).1.managedVolumes.map (·.name) = [List.replicate 255 'a'] := by
    decide +kernel
  have hvm : ∀ v ∈ (volumeCallRun UndefinedCodes.fresh emptyVolumeManager
      (duplicateLongNameCalls.take 1)).1.managedVolumes, ∀ c ∈ v.name, c ≠ '\x00' := by
    intro v hv c hc
    have hn := List.mem_map_of_mem (f := (·.name)) hv
    rw [hnames, List.mem_singleton] at hn
    rw [hn] at hc
    rw [List.eq_of_mem_replicate hc]
    decide
  have hname : ∀ c ∈ List.replicate 256 'a', c ≠ '\x00' := by
    intro c hc
    rw [List.eq_of_mem_replicate hc]
    decide
  exact ⟨hvm, hname, nameTaken_iff hvm hname⟩

end Xsan

namespace Xsan

/-- Create and delete are atomic up to their best-effort rollback. A create
that fails leaves the volume list as it was, the store too when the new id
was fresh and both rollback deletes succeeded, and the extents too when the
disk group took them back; one that succeeds appends one volume with the new
id, stores exactly its two records and holds its extents. A delete succeeds
exactly when the manager is initialised and a volume has the (non-null) id,
and changes nothing otherwise; when it succeeds it unlinks the first such
volume, removes the two keys when both store deletes succeed, and returns
the extents its allocation record lists when the read, the parse and the
free succeed. -/
theorem volume_create_delete_atomic_up_to_rollback (codes : UndefinedCodes) :
    (∀ (vm : XsanVolumeManager) (name : Option (List Char)) (sizeBytes groupId lbs : ℕ)
        (thin : Bool) (ftt : ℕ) (env : CreateEnv),
      ((xsanVolumeCreate codes vm name sizeBytes groupId lbs thin ftt env).2 ≠ xsanOk →
        (xsanVolumeCreate codes vm name sizeBytes groupId lbs thin ftt env).1.managedVolumes =
          vm.managedVolumes ∧
        (FreshId vm env.newId → env.deleteAllocMetaOk = true → env.deleteVolumeMetaOk = true →
          (xsanVolumeCreate codes vm name sizeBytes groupId lbs thin ftt env).1.mdStore = vm.mdStore) ∧
        (env.freeExtentsStatus = xsanOk →
          (xsanVolumeCreate codes vm name sizeBytes groupId lbs thin ftt env).1.allocatedExtents =
            vm.allocatedExtents)) ∧
      ((xsanVolumeCreate codes vm name sizeBytes groupId lbs thin ftt env).2 = xsanOk →
        ∃ vol extents, vol.id = env.newId ∧
          (xsanVolumeCreate codes vm name sizeBytes groupId lbs thin ftt env).1.managedVolumes =
            vm.managedVolumes ++ [vol] ∧
          (xsanVolumeCreate codes vm name sizeBytes groupId lbs thin ftt env).1.mdStore =
            Function.update
              (Function.update vm.mdStore (.volAlloc env.newId)
                (some (.allocMeta (createAllocMeta vol groupId extents))))
              (.volume env.newId) (some (.volume vol)) ∧
          (xsanVolumeCreate codes vm name sizeBytes groupId lbs thin ftt env).1.allocatedExtents =
            diskGroupAllocateExtents vm.allocatedExtents groupId xsanOk extents ∧
          (thin = true → extents = []))) ∧
    (∀ (vm : XsanVolumeManager) (volumeId : ℕ) (env : DeleteEnv),
      ((xsanVolumeDelete vm volumeId env).2 = xsanOk ↔
        vm.initialized = true ∧ volumeId ≠ 0 ∧ ∃ v ∈ vm.managedVolumes, v.id = volumeId) ∧
      ((xsanVolumeDelete vm volumeId env).2 ≠ xsanOk → (xsanVolumeDelete vm volumeId env).1 = vm) ∧
      ((xsanVolumeDelete vm volumeId env).2 = xsanOk →
        (xsanVolumeDelete vm volumeId env).1.managedVolumes =
          vm.managedVolumes.eraseP (·.id = volumeId) ∧
        (env.deleteAllocMetaOk = true → env.deleteVolumeMetaOk = true →
          (xsanVolumeDelete vm volumeId env).1.mdStore =
            Function.update (Function.update vm.mdStore (.volAlloc volumeId) none)
              (.volume volumeId) none) ∧
        (xsanVolumeDelete vm volumeId env).1.allocatedExtents =
          match readAllocMeta vm volumeId env with
          | some a =>
            if a.numExtents > 0 then
              diskGroupFreeExtents vm.allocatedExtents a.diskGroupId (a.extents.take a.numExtents)
                env.freeExtentsStatus
            else vm.allocatedExtents
          | none => vm.allocatedExtents)) := by
  refine ⟨fun vm name sizeBytes groupId lbs thin ftt env => ?_, fun vm volumeId env => ?_⟩
  · rcases xsanVolumeCreate_cases codes vm name sizeBytes groupId lbs thin ftt env with
      ⟨hvm, hne⟩ | ⟨vol, extents, hid, hthin, hcreate⟩
    · -- failed before touching the state
      exact ⟨fun _ => ⟨by rw [hvm], fun _ _ _ => by rw [hvm], fun _ => by rw [hvm]⟩,
        fun hok => absurd hok hne⟩
    rw [hcreate]
    rcases createPersist_cases codes _ groupId vol extents env with
      ⟨hok, hres⟩ | ⟨hne, store, hrolled, hres⟩
    · refine ⟨fun hne => absurd hok hne,
        fun _ => ⟨{ vol with state := volumeCreateInitialState vol }, extents, hid, ?_, ?_, ?_, hthin⟩⟩
      · rw [hres]
      · rw [hres, ← hid]
        rfl
      · rw [hres]
    · refine ⟨fun _ => ⟨?_, fun hfresh hA hV => ?_, fun hfree => ?_⟩, fun hok => absurd hok hne⟩
      · rw [hres, createReleaseExtents_managedVolumes]
      · rw [hres, createReleaseExtents_mdStore]
        refine (createRolledBack_eq ?_ hA hV hrolled).trans rfl
        rw [hid]
        exact hfresh
      · rw [hres, hfree]
        exact @createReleaseExtents_allocate vm groupId extents store
  · rcases xsanVolumeDelete_cases vm volumeId env with
      ⟨hvm, hne, hnot⟩ | ⟨hinit, hid, hex, hok, hres⟩
    · exact ⟨⟨fun h => absurd h hne, fun h => absurd h hnot⟩, fun _ => hvm, fun h => absurd h hne⟩
    refine ⟨⟨fun _ => ⟨hinit, hid, hex⟩, fun _ => hok⟩, fun h => absurd hok h,
      fun _ => ⟨by rw [hres], fun hA hV => ?_, ?_⟩⟩
    · rw [hres, hA, hV]
      rfl
    · rw [hres]
      exact deleteReleaseExtents_allocatedExtents vm volumeId env

/-- A create that fails to store its volume record, with a fresh id and
rollback deletes that succeed, leaves the store as it found it. -/
theorem volume_create_delete_atomic_up_to_rollback_put_failure :
    (xsanVolumeCreate UndefinedCodes.fresh emptyVolumeManager (some ['v']) 4096 7 512 true 0
        { okCreateEnv 1 with putVolumeMetaOk := false }).2 ≠ xsanOk ∧
      FreshId emptyVolumeManager 1 ∧
      (xsanVolumeCreate UndefinedCodes.fresh emptyVolumeManager (some ['v']) 4096 7 512 true 0
        { okCreateEnv 1 with putVolumeMetaOk := false }).1.mdStore = emptyVolumeManager.mdStore := by
  have hne : (xsanVolumeCreate UndefinedCodes.fresh emptyVolumeManager (some ['v']) 4096 7 512 true 0
      { okCreateEnv 1 with putVolumeMetaOk := false }).2 ≠ xsanOk := by decide +kernel
  have hfresh : FreshId emptyVolumeManager 1 := ⟨by decide, rfl, rfl⟩
  exact ⟨hne, hfresh,
    (((volume_create_delete_atomic_up_to_rollback UndefinedCodes.fresh).1 emptyVolumeManager
      (some ['v']) 4096 7 512 true 0 { okCreateEnv 1 with putVolumeMetaOk := false }).1 hne).2.1
      hfresh rfl rfl⟩

/-- The rollback is best effort. A create whose volume record cannot be
stored and whose rollback delete fails returns `XSAN_ERROR_IO` with
`volalloc:1` still stored; a delete of that id after a create that succeeded,
whose two store deletes fail, returns `XSAN_OK` with the volume unlinked and
both keys still stored. -/
theorem volume_create_delete_leave_keys :
    (xsanVolumeCreate UndefinedCodes.fresh emptyVolumeManager (some ['v']) 4096 7 512 true 0
        { okCreateEnv 1 with putVolumeMetaOk := false, deleteAllocMetaOk := false }).2 = xsanErrorIo ∧
      ((xsanVolumeCreate UndefinedCodes.fresh emptyVolumeManager (some ['v']) 4096 7 512 true 0
        { okCreateEnv 1 with putVolumeMetaOk := false, deleteAllocMetaOk := false }).1.mdStore
          (.volAlloc 1)).isSome ∧
      (xsanVolumeDelete (xsanVolumeCreate UndefinedCodes.fresh emptyVolumeManager (some ['v']) 4096 7 512
          true 0 (okCreateEnv 1)).1 1 ⟨true, true, true, xsanOk, false, false⟩).2 = xsanOk ∧
      (xsanVolumeDelete (xsanVolumeCreate UndefinedCodes.fresh emptyVolumeManager (some ['v']) 4096 7 512
          true 0 (okCreateEnv 1)).1 1 ⟨true, true, true, xsanOk, false, false⟩).1.managedVolumes = [] ∧
      ((xsanVolumeDelete (xsanVolumeCreate UndefinedCodes.fresh emptyVolumeManager (some ['v']) 4096 7 512
          true 0 (okCreateEnv 1)).1 1 ⟨true, true, true, xsanOk, false, false⟩).1.mdStore
          (.volume 1)).isSome ∧
      ((xsanVolumeDelete (xsanVolumeCreate UndefinedCodes.fresh emptyVolumeManager (some ['v']) 4096 7 512
          true 0 (okCreateEnv 1)).1 1 ⟨true, true, true, xsanOk, false, false⟩).1.mdStore
          (.volAlloc 1)).isSome := by
  decide +kernel

end Xsan
