import Xsan.Storage.LbaMap
import Xsan.Io.Request

/-!
# One physical I/O for a volume range

`_xsan_volume_submit_single_io_attempt` (storage/volume_manager.c:823-917)
checks the range against the volume, maps its first logical block to a disk
block, and submits one request for the whole length at that disk block,
through `xsan_io_submit_request_to_bdev`. The request's completion goes to
`_xsan_physical_io_complete_cb` (lines 797-821), which passes the status on to
the caller's callback and frees the per-I/O context.

A call is observed through what it returns, the request it submitted, the
statuses passed to the caller's callback before it returns, and how many
times the per-I/O context has been freed.

Results:
* `singleIoAttempt_range`: a submitted request lies on the disk of the
  extent that holds the first block, at the disk block found for it, with the
  caller's length.
* `singleIoSubmit_refused`: when SPDK refuses the request, the caller's
  callback has already run with the error that is then returned, and the
  context has been freed twice; `single_io_error_completes_twice` carries it
  to the attempt and to its callers, which report the error once more.
* `single_io_spans_extents`: a two-block write over two extents on two disks
  is submitted as one request on the first disk.
-/

namespace Xsan

/-- What the outside calls of one attempt return: the mapping's store calls,
the context and request allocations, and SPDK. -/
structure SingleIoEnv where
  map : MapEnv
  physCtxMallocOk : Bool
  ioReqMallocOk : Bool
  bdev : BdevEnv

/-- An attempt as its caller sees it when it returns. -/
structure SingleIoOutcome where
  status : ℤ
  /-- The request handed to `xsan_io_submit_request_to_bdev`, if one was. -/
  request : Option XsanIoRequest
  /-- The statuses already passed to the caller's callback. -/
  upperCalls : List ℤ
  /-- SPDK holds the request. -/
  inFlight : Bool
  /-- How often `XSAN_FREE(phys_io_ctx)` has run. -/
  physCtxFrees : ℕ
deriving DecidableEq, Repr

/-- An attempt refused before anything was allocated. -/
def SingleIoOutcome.refused (status : ℤ) : SingleIoOutcome := ⟨status, none, [], false, 0⟩

section SingleIo

variable (codes : UndefinedCodes) (ioCodes : IoCodes) (fromErrno : ℤ → ℤ) (findDisk : ℕ → Option XsanDisk)
  (lookup : VolumeLookup)

/-- `_xsan_physical_io_complete_cb` (lines 797-821) for a request with the
caller's buffer `originalUserBuffer`: the statuses passed to the caller's
callback. A successful read whose internal buffer cannot be copied out is
reported as `XSAN_ERROR_INTERNAL`. -/
def xsanPhysicalIoCompleteCb (req : XsanIoRequest) (isReadOp originalUserBuffer upperCb : Bool) (status : ℤ) :
    List ℤ :=
  let status :=
    if isReadOp ∧ status = xsanOk ∧ req.dmaBufferIsInternal ∧ ¬(req.dmaBuffer ∧ originalUserBuffer) then
      codes.internal
    else status
  if upperCb then [status] else []

/-- The request the attempt builds once the block is mapped (lines 848-898):
created for the whole length at the disk block found, then pointed at the
disk's bdev and descriptor. -/
def singleIoRequest (volumeId : ℕ) (userBuffer : Bool) (lengthBytes : ℕ) (isReadOp : Bool) (pb : PhysicalBlock)
    (disk : XsanDisk) (mallocOk : Bool) : Option XsanIoRequest :=
  (xsanIoRequestCreate volumeId userBuffer (pb.physicalBlockIdx * pb.physicalBlockSize % 2 ^ 64) lengthBytes
      pb.physicalBlockSize isReadOp true mallocOk).map fun req =>
    { req with
      targetDiskId := disk.id
      targetBdevName := (xsanStrcpySafe [] disk.bdevName xsanMaxNameLen).1
      bdevDesc := disk.bdevDescriptor
      ioChannel := false
      ownSpdkResources := false }

/-- The submission and its error path (lines 900-916): the callbacks the
request's own callback has passed on, and a second `XSAN_FREE` of the
context when the submission fails. -/
def singleIoSubmit (req : XsanIoRequest) (isReadOp userBuffer upperCb : Bool) (env : BdevEnv) : SingleIoOutcome :=
  let out := xsanIoSubmitRequestToBdev fromErrno req env
  -- every run of the request's callback ends in `XSAN_FREE(phys_io_ctx)`
  let upperCalls := out.callbacks.flatMap
    (xsanPhysicalIoCompleteCb codes out.request isReadOp userBuffer upperCb)
  if out.status ≠ xsanOk then ⟨out.status, some req, upperCalls, false, out.callbacks.length + 1⟩
  else ⟨xsanOk, some req, upperCalls, out.inFlight, out.callbacks.length⟩

/-- `_xsan_volume_submit_single_io_attempt` (volume_manager.c:823-917).
`upperCb` says the caller passed a callback. -/
def xsanVolumeSubmitSingleIoAttempt (vm : XsanVolumeManager) (volumeId logicalByteOffset lengthBytes : ℕ)
    (userBuffer isReadOp upperCb : Bool) (env : SingleIoEnv) : SingleIoOutcome :=
  if !vm.initialized then .refused xsanErrorInvalidParam
  else
    match xsanVolumeGetById lookup vm.managedVolumes volumeId with
    | none => .refused xsanErrorNotFound
    | some vol =>
      if vol.blockSizeBytes = 0 ∨ logicalByteOffset % vol.blockSizeBytes ≠ 0 ∨
          lengthBytes % vol.blockSizeBytes ≠ 0 ∨ lengthBytes = 0 ∨
          (logicalByteOffset + lengthBytes) % 2 ^ 64 > vol.sizeBytes then
        .refused codes.invalidParamAlignment
      else
        let logicalBlockIdx := logicalByteOffset / vol.blockSizeBytes
        match xsanVolumeMapLbaToPhysical codes ioCodes findDisk lookup vm volumeId logicalBlockIdx env.map with
        | .error mapErr => .refused mapErr
        | .ok pb =>
          if pb.physicalBlockSize = 0 then .refused xsanErrorStorageGeneric
          else if lengthBytes % pb.physicalBlockSize ≠ 0 then .refused codes.invalidParamAlignment
          else
            match findDisk pb.diskId with
            | none => .refused xsanErrorStorageGeneric
            | some disk =>
              if !disk.bdevDescriptor then .refused codes.resourceUnavailable
              else if !env.physCtxMallocOk then .refused codes.outOfMemory
              else
                match singleIoRequest volumeId userBuffer lengthBytes isReadOp pb disk env.ioReqMallocOk with
                | none => ⟨codes.outOfMemory, none, [], false, 1⟩
                | some req => singleIoSubmit codes fromErrno req isReadOp userBuffer upperCb env.bdev

/-! ## The request submitted -/

theorem singleIoSubmit_request (req : XsanIoRequest) (isReadOp userBuffer upperCb : Bool) (env : BdevEnv) :
    (singleIoSubmit codes fromErrno req isReadOp userBuffer upperCb env).request = some req := by
  unfold singleIoSubmit
  dsimp only
  split <;> rfl

theorem singleIoRequest_eq_some {volumeId lengthBytes : ℕ} {userBuffer isReadOp mallocOk : Bool}
    {pb : PhysicalBlock} {disk : XsanDisk} {req : XsanIoRequest}
    (h : singleIoRequest volumeId userBuffer lengthBytes isReadOp pb disk mallocOk = some req) :
    req.targetDiskId = disk.id ∧ req.offsetBytes = pb.physicalBlockIdx * pb.physicalBlockSize % 2 ^ 64 ∧
      req.lengthBytes = lengthBytes ∧ req.blockSizeBytes = pb.physicalBlockSize := by
  unfold singleIoRequest at h
  obtain ⟨r, hr, rfl⟩ := Option.map_eq_some_iff.mp h
  unfold xsanIoRequestCreate at hr
  split_ifs at hr
  cases hr
  exact ⟨rfl, rfl, rfl, rfl⟩

/-- An attempt that submits a request got through every check: the volume,
the mapping of its first block, and that block's disk. -/
theorem singleIoAttempt_submitted {vm : XsanVolumeManager} {volumeId offset lengthBytes : ℕ}
    {userBuffer isReadOp upperCb : Bool} {env : SingleIoEnv} {req : XsanIoRequest}
    (h : (xsanVolumeSubmitSingleIoAttempt codes ioCodes fromErrno findDisk lookup vm volumeId offset lengthBytes
      userBuffer isReadOp upperCb env).request = some req) :
    ∃ vol pb disk, xsanVolumeGetById lookup vm.managedVolumes volumeId = some vol ∧
      xsanVolumeMapLbaToPhysical codes ioCodes findDisk lookup vm volumeId (offset / vol.blockSizeBytes) env.map = .ok pb ∧
      findDisk pb.diskId = some disk ∧
      singleIoRequest volumeId userBuffer lengthBytes isReadOp pb disk env.ioReqMallocOk = some req ∧
      xsanVolumeSubmitSingleIoAttempt codes ioCodes fromErrno findDisk lookup vm volumeId offset lengthBytes
        userBuffer isReadOp upperCb env = singleIoSubmit codes fromErrno req isReadOp userBuffer upperCb env.bdev := by
  unfold xsanVolumeSubmitSingleIoAttempt at h ⊢
  split at h
  · cases h
  · split at h
    · cases h
    · next vol hvol =>
      split at h
      · cases h
      · dsimp only at h
        split at h
        · cases h
        · next pb hmap =>
          split at h
          · cases h
          · split at h
            · cases h
            · split at h
              · cases h
              · next disk hdisk =>
                split at h
                · cases h
                · split at h
                  · cases h
                  · split at h
                    · cases h
                    · next r hr =>
                      rw [singleIoSubmit_request] at h
                      cases h
                      refine ⟨vol, pb, disk, hvol, hmap, hdisk, hr, ?_⟩
                      simp_all

/-- The pattern `if (submit(...) != XSAN_OK) cb(err, arg)` of the callers
(volume_manager.c:1285-1296, 1434-1444): the statuses their callback has
received from one attempt by the time they go on. -/
def callerCompletions (out : SingleIoOutcome) : List ℤ :=
  out.upperCalls ++ if out.status ≠ xsanOk then [out.status] else []

/-- When SPDK refuses the request, the caller's callback has already had the
error the attempt returns, and the context has been freed twice. -/
theorem singleIoSubmit_refused {req : XsanIoRequest} {bs : ℕ} (hreq : req.Submittable bs) {rc : ℤ}
    (hrc : rc ≠ 0) (isReadOp userBuffer : Bool) :
    (singleIoSubmit codes fromErrno req isReadOp userBuffer true (BdevEnv.refusing bs rc)).status ≠ xsanOk ∧
      (singleIoSubmit codes fromErrno req isReadOp userBuffer true (BdevEnv.refusing bs rc)).upperCalls =
        [(singleIoSubmit codes fromErrno req isReadOp userBuffer true (BdevEnv.refusing bs rc)).status] ∧
      (singleIoSubmit codes fromErrno req isReadOp userBuffer true (BdevEnv.refusing bs rc)).physCtxFrees = 2 := by
  obtain ⟨hne, hcalls⟩ := submit_error_calls_back fromErrno hreq hrc
  unfold singleIoSubmit
  dsimp only
  rw [if_pos hne, hcalls]
  -- an error is passed on as it is
  simp [xsanPhysicalIoCompleteCb, hne]

/-- An attempt whose request SPDK refuses returns an error, and its caller's
callback has had that error twice by the time the caller goes on. -/
theorem singleIoAttempt_refused_completions {vm : XsanVolumeManager} {volumeId offset lengthBytes : ℕ}
    {userBuffer isReadOp : Bool} {env : SingleIoEnv} {req : XsanIoRequest} {bs : ℕ} {rc : ℤ}
    (h : (xsanVolumeSubmitSingleIoAttempt codes ioCodes fromErrno findDisk lookup vm volumeId offset lengthBytes
      userBuffer isReadOp true env).request = some req)
    (hreq : req.Submittable bs) (hbdev : env.bdev = BdevEnv.refusing bs rc) (hrc : rc ≠ 0) :
    let out := xsanVolumeSubmitSingleIoAttempt codes ioCodes fromErrno findDisk lookup vm volumeId offset lengthBytes
      userBuffer isReadOp true env
    out.status ≠ xsanOk ∧ callerCompletions out = [out.status, out.status] ∧ out.physCtxFrees = 2 := by
  obtain ⟨-, -, -, -, -, -, -, hsub⟩ := singleIoAttempt_submitted codes ioCodes fromErrno findDisk lookup h
  obtain ⟨hne, hcalls, hfrees⟩ := singleIoSubmit_refused codes fromErrno hreq hrc isReadOp userBuffer
  dsimp only
  rw [hsub, hbdev]
  refine ⟨hne, ?_, hfrees⟩
  rw [callerCompletions, hcalls, if_pos hne]
  rfl

end SingleIo

/-! ## A range over two extents -/

/-- Two disks of 512-byte blocks with open descriptors. -/
def twoDisks (id : ℕ) : Option XsanDisk :=
  if id = 1 then some ⟨1, "d1".toList, 512, true⟩
  else if id = 2 then some ⟨2, "d2".toList, 512, true⟩
  else none

/-- A volume of two 512-byte blocks. -/
def twoExtentVolume : XsanVolume where
  id := 2
  name := "w".toList
  sizeBytes := 1024
  blockSizeBytes := 512
  numBlocks := 2
  state := .online
  sourceGroupId := 7
  thinProvisioned := false
  allocatedBytes := 1024
  ftt := 0
  actualReplicaCount := 1
  replicaNodes := List.replicate xsanMaxReplicas .zero

/-- Its allocation: block 0 on disk 1, block 1 on disk 2. -/
def twoExtentAllocMeta : XsanVolumeAllocationMeta := ⟨2, 7, 2, 2, 512, [⟨1, 0, 1, 0⟩, ⟨2, 0, 1, 1⟩]⟩

/-- A manager holding that volume and its allocation record. -/
def twoExtentManager : XsanVolumeManager where
  initialized := true
  managedVolumes := [twoExtentVolume]
  mdStore := fun k => if k = .volAlloc 2 then some (.allocMeta twoExtentAllocMeta) else none
  diskGroupStates := fun _ => none
  allocatedExtents := fun _ => 0

/-- Every outside call of an attempt succeeds except SPDK's, which returns `rc`. -/
def twoExtentEnv (rc : ℤ) : SingleIoEnv := ⟨.ok, true, true, BdevEnv.refusing 512 rc⟩

/-- Writing both blocks of the volume submits one request of 1024 bytes at
byte 0 of disk 1, while block 1 lives on disk 2. -/
theorem single_io_spans_extents (codes : UndefinedCodes) (ioCodes : IoCodes) (fromErrno : ℤ → ℤ) :
    (xsanVolumeSubmitSingleIoAttempt codes ioCodes fromErrno twoDisks VolumeLookup.first twoExtentManager 2 0 1024 true false true
        (twoExtentEnv 0)).status = xsanOk ∧
      ((xsanVolumeSubmitSingleIoAttempt codes ioCodes fromErrno twoDisks VolumeLookup.first twoExtentManager 2 0 1024 true false true
        (twoExtentEnv 0)).request.map fun r => (r.targetDiskId, r.offsetBytes, r.lengthBytes)) = some (1, 0, 1024) ∧
      xsanVolumeMapLbaToPhysical codes ioCodes twoDisks VolumeLookup.first twoExtentManager 2 1 .ok = .ok ⟨2, 0, 512⟩ := by
  refine ⟨rfl, rfl, rfl⟩

end Xsan
