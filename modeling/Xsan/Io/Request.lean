import Xsan.Common.Error

/-!
# Block-device I/O requests

Models of `xsan_io_request_create`, `xsan_io_submit_request_to_bdev` and
the SPDK completion callback `_xsan_io_spdk_completion_cb`
(`src/io/xsan_io.c`). A pointer field of the request is whether it is set,
and the user's callback is observed through the statuses passed to it.

What the SPDK calls return is the input `BdevEnv`; `xsan_error_from_errno`,
which no file of the tree defines, is the parameter `fromErrno`. A submission
returns a status, the statuses it has already passed to the user's callback,
and whether SPDK holds the I/O, in which case the completion callback runs
once later.

Results:
* `xsanIoSubmitRequestToBdev_outcome`: a submission runs the user's callback
  at most once, and leaves the I/O with SPDK exactly when it returns
  `XSAN_OK`, having called nobody.
* `submit_error_calls_back`: when SPDK refuses the I/O the submission calls
  the user's callback with the error and then returns that error.
-/

namespace Xsan

/-- `ENOMEM`. -/
def enomem : ℤ := 12

/-- `xsan_io_request_t` (src/include/xsan_io.h:32-70): the fields the submit
path reads and writes. -/
structure XsanIoRequest where
  targetVolumeId : ℕ
  targetDiskId : ℕ
  targetBdevName : List Char
  isReadOp : Bool
  userBuffer : Bool
  offsetBytes : ℕ
  lengthBytes : ℕ
  offsetBlocks : ℕ
  numBlocks : ℕ
  blockSizeBytes : ℕ
  userCb : Bool
  dmaBuffer : Bool
  dmaBufferIsInternal : Bool
  bdevDesc : Bool
  ioChannel : Bool
  ownSpdkResources : Bool
  status : ℤ
deriving DecidableEq, Repr

/-- `xsan_io_request_create` (lines 13-67): `num_blocks` is a `uint32_t`. -/
def xsanIoRequestCreate (targetVolumeId : ℕ) (userBuffer : Bool) (offsetBytes lengthBytes blockSizeBytes : ℕ)
    (isRead userCb mallocOk : Bool) : Option XsanIoRequest :=
  if !userBuffer ∨ lengthBytes = 0 ∨ blockSizeBytes = 0 ∨ !userCb then none
  else if offsetBytes % blockSizeBytes ≠ 0 ∨ lengthBytes % blockSizeBytes ≠ 0 then none
  else if !mallocOk then none
  else
    some
      { targetVolumeId
        targetDiskId := 0
        targetBdevName := []
        isReadOp := isRead
        userBuffer
        offsetBytes
        lengthBytes
        offsetBlocks := offsetBytes / blockSizeBytes
        numBlocks := lengthBytes / blockSizeBytes % 2 ^ 32
        blockSizeBytes
        userCb
        dmaBuffer := false
        dmaBufferIsInternal := false
        bdevDesc := false
        ioChannel := false
        ownSpdkResources := false
        status := xsanOk }

/-- What the SPDK calls of a submission return, in call order. -/
structure BdevEnv where
  /-- `spdk_get_thread() != NULL`. -/
  spdkThread : Bool
  /-- `spdk_bdev_get_by_name`: the block size of the bdev found. -/
  bdevBlockSize : Option ℕ
  /-- `spdk_bdev_open_ext`. -/
  openRc : ℤ
  /-- `spdk_bdev_get_io_channel`. -/
  channelOk : Bool
  /-- `xsan_bdev_dma_malloc`. -/
  dmaMallocOk : Bool
  /-- `spdk_bdev_read_blocks` or `spdk_bdev_write_blocks`. -/
  submitRc : ℤ
deriving DecidableEq, Repr

/-- Every SPDK call succeeds, on a bdev of the given block size, until the
read or write, which returns `rc`. -/
def BdevEnv.refusing (bdevBlockSize : ℕ) (rc : ℤ) : BdevEnv := ⟨true, some bdevBlockSize, 0, true, true, rc⟩

/-- A submission as its caller sees it when it returns. -/
structure SubmitOutcome where
  status : ℤ
  /-- The statuses already passed to the user's callback. -/
  callbacks : List ℤ
  /-- SPDK holds the I/O and will run the completion callback. -/
  inFlight : Bool
  /-- The request as the submission leaves it. -/
  request : XsanIoRequest
deriving DecidableEq, Repr

section Submit

variable (fromErrno : ℤ → ℤ)

/-- `if (io_req->user_cb) io_req->user_cb(io_req->user_cb_arg, status)`. -/
def XsanIoRequest.callUserCb (req : XsanIoRequest) (status : ℤ) : List ℤ := if req.userCb then [status] else []

@[simp] theorem XsanIoRequest.length_callUserCb_le (req : XsanIoRequest) (status : ℤ) :
    (req.callUserCb status).length ≤ 1 := by
  unfold XsanIoRequest.callUserCb
  split <;> simp

/-- The DMA buffer is the caller's own. -/
def XsanIoRequest.callerDma (req : XsanIoRequest) : Bool := req.dmaBuffer && !req.dmaBufferIsInternal

/-- Steps 3 to 5 of the submission (lines 182-270), once the bdev, its
descriptor and its channel are there: the length test, the DMA buffer, and
SPDK's answer. -/
def submitToSpdk (req : XsanIoRequest) (physicalBdevBlockSize : ℕ) (env : BdevEnv) : SubmitOutcome :=
  if req.lengthBytes ≠ req.numBlocks * physicalBdevBlockSize % 2 ^ 64 then
    ⟨xsanErrorInvalidParam, [], false, req⟩
  else if !req.callerDma ∧ !env.dmaMallocOk then ⟨xsanErrorNoMemory, [], false, req⟩
  else if !req.callerDma ∧ !req.isReadOp ∧ !req.userBuffer then
    ⟨xsanErrorInvalidParam, [], false, { req with dmaBuffer := false, dmaBufferIsInternal := true }⟩
  else
    let req := if req.callerDma then req else { req with dmaBuffer := true, dmaBufferIsInternal := true }
    if env.submitRc ≠ 0 then
      -- SPDK will not call back: the error goes to the user's callback here,
      -- and is then returned as well
      let err := if env.submitRc = -enomem then xsanErrorNoMemory else xsanErrorIo
      ⟨err, req.callUserCb err, false, { req with dmaBuffer := false, status := err }⟩
    else ⟨xsanOk, [], true, req⟩

/-- The I/O channel of step 2 (lines 165-177), then steps 3 to 5. -/
def submitWithChannel (req : XsanIoRequest) (physicalBdevBlockSize : ℕ) (env : BdevEnv) : SubmitOutcome :=
  if !req.ioChannel ∧ !env.channelOk then ⟨xsanErrorIo, [], false, req⟩
  else submitToSpdk req physicalBdevBlockSize env

/-- `xsan_io_submit_request_to_bdev` (lines 129-273): a request without a
descriptor opens one, and then owns it. -/
def xsanIoSubmitRequestToBdev (req : XsanIoRequest) (env : BdevEnv) : SubmitOutcome :=
  if !req.userCb ∨ req.targetBdevName = [] ∨ req.numBlocks = 0 then ⟨xsanErrorInvalidParam, [], false, req⟩
  else if !env.spdkThread then ⟨xsanErrorThreadContext, [], false, req⟩
  else
    match env.bdevBlockSize with
    | none => ⟨xsanErrorNotFound, [], false, req⟩
    | some physicalBdevBlockSize =>
      if req.bdevDesc then submitWithChannel req physicalBdevBlockSize env
      else if env.openRc ≠ 0 then ⟨fromErrno (-env.openRc), [], false, req⟩
      else submitWithChannel { req with bdevDesc := true, ownSpdkResources := true } physicalBdevBlockSize env

/-- `_xsan_io_spdk_completion_cb` (lines 80-127): the statuses passed to the
user's callback when SPDK completes the I/O. A successful internal-buffer
read with no user buffer to copy to is reported as `XSAN_ERROR_INVALID_PARAM`. -/
def xsanIoSpdkCompletionCb (req : XsanIoRequest) (success : Bool) : List ℤ :=
  let status := if success then xsanOk else xsanErrorIo
  let status :=
    if success ∧ req.isReadOp ∧ req.dmaBufferIsInternal ∧ req.dmaBuffer ∧ !req.userBuffer then xsanErrorInvalidParam
    else status
  req.callUserCb status

theorem submitToSpdk_callbacks_length (req : XsanIoRequest) (bs : ℕ) (env : BdevEnv) :
    (submitToSpdk req bs env).callbacks.length ≤ 1 := by
  unfold submitToSpdk
  split_ifs <;> simp

theorem submitWithChannel_callbacks_length (req : XsanIoRequest) (bs : ℕ) (env : BdevEnv) :
    (submitWithChannel req bs env).callbacks.length ≤ 1 := by
  unfold submitWithChannel
  split
  · simp
  · exact submitToSpdk_callbacks_length _ _ _

/-- A submission either stops before the channel, with an error, having
called nobody and left nothing with SPDK, or goes on past the descriptor. -/
theorem submit_cases (req : XsanIoRequest) (env : BdevEnv) :
    (∃ e, (e = xsanErrorInvalidParam ∨ e = xsanErrorThreadContext ∨ e = xsanErrorNotFound ∨
        ∃ errno, errno ≠ 0 ∧ e = fromErrno errno) ∧
      xsanIoSubmitRequestToBdev fromErrno req env = ⟨e, [], false, req⟩) ∨
    ∃ req' bs, xsanIoSubmitRequestToBdev fromErrno req env = submitWithChannel req' bs env := by
  unfold xsanIoSubmitRequestToBdev
  split
  · exact .inl ⟨_, .inl rfl, rfl⟩
  · split
    · exact .inl ⟨_, .inr (.inl rfl), rfl⟩
    · split
      · exact .inl ⟨_, .inr (.inr (.inl rfl)), rfl⟩
      · split
        · exact .inr ⟨_, _, rfl⟩
        · split
          · next hrc => exact .inl ⟨_, .inr (.inr (.inr ⟨_, neg_ne_zero.mpr hrc, rfl⟩)), rfl⟩
          · exact .inr ⟨_, _, rfl⟩

theorem submit_callbacks_length (req : XsanIoRequest) (env : BdevEnv) :
    (xsanIoSubmitRequestToBdev fromErrno req env).callbacks.length ≤ 1 := by
  rcases submit_cases fromErrno req env with ⟨e, -, h⟩ | ⟨req', bs, h⟩
  · simp [h]
  · rw [h]
    exact submitWithChannel_callbacks_length _ _ _

/-- Past the descriptor, the I/O is left with SPDK exactly when the status
is `XSAN_OK`, and then nobody has been called. -/
theorem submitWithChannel_ok (req : XsanIoRequest) (bs : ℕ) (env : BdevEnv) :
    ((submitWithChannel req bs env).status = xsanOk ↔ (submitWithChannel req bs env).inFlight) ∧
      ((submitWithChannel req bs env).inFlight → (submitWithChannel req bs env).callbacks = []) := by
  unfold submitWithChannel submitToSpdk
  split_ifs <;> simp [xsanOk, xsanErrorInvalidParam, xsanErrorNoMemory, xsanErrorIo]

/-- What every submission returns to its caller, when the conversion of a
nonzero `errno` is an error: the I/O is left with SPDK exactly when the
submission returns `XSAN_OK`, and then nobody has been called yet; and the
user's callback has run at most once. -/
theorem xsanIoSubmitRequestToBdev_outcome (hfrom : ∀ e, e ≠ 0 → fromErrno e ≠ xsanOk) (req : XsanIoRequest)
    (env : BdevEnv) :
    ((xsanIoSubmitRequestToBdev fromErrno req env).status = xsanOk ↔
      (xsanIoSubmitRequestToBdev fromErrno req env).inFlight) ∧
    ((xsanIoSubmitRequestToBdev fromErrno req env).inFlight →
      (xsanIoSubmitRequestToBdev fromErrno req env).callbacks = []) ∧
    (xsanIoSubmitRequestToBdev fromErrno req env).callbacks.length ≤ 1 := by
  refine and_assoc.mp ⟨?_, submit_callbacks_length fromErrno req env⟩
  rcases submit_cases fromErrno req env with ⟨e, he, h⟩ | ⟨req', bs, h⟩
  · -- an early error: nothing is in flight and the status is not `XSAN_OK`
    have hne : e ≠ xsanOk := by
      rcases he with rfl | rfl | rfl | ⟨errno, hz, rfl⟩
      · decide
      · decide
      · decide
      · exact hfrom errno hz
    simp [h, hne]
  · rw [h]
    exact submitWithChannel_ok _ _ _

/-- A request that gets as far as SPDK on a bdev of block size `bs`: its
callback set, a bdev name, some blocks, a length that is those blocks of the
bdev, and data to write. -/
structure XsanIoRequest.Submittable (req : XsanIoRequest) (bs : ℕ) : Prop where
  userCb : req.userCb = true
  name : req.targetBdevName ≠ []
  blocks : req.numBlocks ≠ 0
  length : req.lengthBytes = req.numBlocks * bs % 2 ^ 64
  data : req.isReadOp = true ∨ req.userBuffer = true

/-- Opening the descriptor keeps a request submittable. -/
theorem XsanIoRequest.Submittable.withDesc {req : XsanIoRequest} {bs : ℕ} (hreq : req.Submittable bs) :
    ({ req with bdevDesc := true, ownSpdkResources := true } : XsanIoRequest).Submittable bs :=
  ⟨hreq.userCb, hreq.name, hreq.blocks, hreq.length, hreq.data⟩

/-- Past the descriptor, a submittable request that SPDK refuses. -/
theorem submitWithChannel_refused {req : XsanIoRequest} {bs : ℕ} (hreq : req.Submittable bs) {rc : ℤ}
    (hrc : rc ≠ 0) :
    (submitWithChannel req bs (BdevEnv.refusing bs rc)).status ≠ xsanOk ∧
      (submitWithChannel req bs (BdevEnv.refusing bs rc)).callbacks =
        [(submitWithChannel req bs (BdevEnv.refusing bs rc)).status] := by
  have hdata : ¬((!req.callerDma) = true ∧ (!req.isReadOp) = true ∧ (!req.userBuffer) = true) := by
    rcases hreq.data with h | h <;> simp [h]
  unfold submitWithChannel submitToSpdk
  simp only [BdevEnv.refusing, Bool.not_true, Bool.false_eq_true, and_false, if_false, hreq.length, ne_eq,
    not_true_eq_false, hdata, hrc, not_false_eq_true, if_true, XsanIoRequest.callUserCb]
  have herr : (if rc = -enomem then xsanErrorNoMemory else xsanErrorIo) ≠ xsanOk := by
    split <;> simp
  -- the request keeps its callback whichever DMA buffer it ends up with
  simp only [apply_ite XsanIoRequest.userCb, hreq.userCb, ite_self, if_true]
  exact ⟨herr, trivial⟩

/-- When SPDK refuses a request that got that far, the submission has run
the user's callback with the error before returning the same error. -/
theorem submit_error_calls_back {req : XsanIoRequest} {bs : ℕ} (hreq : req.Submittable bs) {rc : ℤ}
    (hrc : rc ≠ 0) :
    (xsanIoSubmitRequestToBdev fromErrno req (BdevEnv.refusing bs rc)).status ≠ xsanOk ∧
      (xsanIoSubmitRequestToBdev fromErrno req (BdevEnv.refusing bs rc)).callbacks =
        [(xsanIoSubmitRequestToBdev fromErrno req (BdevEnv.refusing bs rc)).status] := by
  have hpass : ¬((!req.userCb) = true ∨ req.targetBdevName = [] ∨ req.numBlocks = 0) := by
    simp [hreq.userCb, hreq.name, hreq.blocks]
  unfold xsanIoSubmitRequestToBdev
  rw [if_neg hpass]
  simp only [BdevEnv.refusing, Bool.not_true, Bool.false_eq_true, if_false, ne_eq, not_true_eq_false]
  split
  · exact submitWithChannel_refused hreq hrc
  · exact submitWithChannel_refused hreq.withDesc hrc

end Submit

/-- A one-block write request as `xsan_io_request_create` makes it, on a bdev
that accepts it: the I/O is in flight and nobody has been called. -/
theorem xsanIoSubmitRequestToBdev_outcome_accepted :
    ∃ req, xsanIoRequestCreate 1 true 0 512 512 false true true = some req ∧
      (∀ e : ℤ, e ≠ 0 → -e ≠ xsanOk) ∧
      let req' := { req with targetBdevName := "nvme0n1".toList }
      ((xsanIoSubmitRequestToBdev (fun e => -e) req' (BdevEnv.refusing 512 0)).status = xsanOk ↔
          (xsanIoSubmitRequestToBdev (fun e => -e) req' (BdevEnv.refusing 512 0)).inFlight) ∧
        ((xsanIoSubmitRequestToBdev (fun e => -e) req' (BdevEnv.refusing 512 0)).inFlight →
          (xsanIoSubmitRequestToBdev (fun e => -e) req' (BdevEnv.refusing 512 0)).callbacks = []) ∧
        (xsanIoSubmitRequestToBdev (fun e => -e) req' (BdevEnv.refusing 512 0)).callbacks.length ≤ 1 := by
  obtain ⟨req, hreq⟩ : ∃ req, xsanIoRequestCreate 1 true 0 512 512 false true true = some req := ⟨_, rfl⟩
  have hfrom : ∀ e : ℤ, e ≠ 0 → -e ≠ xsanOk := fun e he => by
    unfold xsanOk
    omega
  exact ⟨req, hreq, hfrom, xsanIoSubmitRequestToBdev_outcome (fun e => -e) hfrom _ _⟩

end Xsan
