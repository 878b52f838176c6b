import Xsan.Storage.SingleIo
import Xsan.Storage.ReplicatedWrite
import Xsan.Storage.ReplicaRead
import Xsan.Network.Message

/-!
# Replica requests

The primary asks a remote replica to write or read a range of a volume with a
`XSAN_MSG_TYPE_REPLICA_WRITE_BLOCK_REQ` or `XSAN_MSG_TYPE_REPLICA_READ_BLOCK_REQ`
message, built in `xsan_volume_write_async` (volume_manager.c:1310-1320) and
in `_xsan_try_read_from_next_replica` (lines 1075-1079). The payload starts
with the packed request struct as the sender holds it in memory; a write
carries the user's data after it. The replica's handlers
(`xsan_volume_manager_handle_replica_write_req`, lines 1363-1479, and
`xsan_volume_manager_handle_replica_read_req`, lines 1482-1588) read the
struct back from the payload, turn its block address and count into a byte
range of their own copy of the volume, and hand that range to
`_xsan_volume_submit_single_io_attempt`.

Both ends are hosts of one byte order `o`. `xsan_volume_id_t` is an
`xsan_uuid_t`, a struct of sixteen bytes `data` (include/xsan_types.h:20-27),
which the code also reads as an `spdk_uuid`; an id is those sixteen bytes.

Results:
* `ofImage_image`: the struct reads back from its image.
* `handleReplicaWriteReq_image`, `handleReplicaReadReq_image`: what the
  handlers do with a message whose payload is such an image (and data).
* `replicaWriteReq_roundtrip`, `replicaReadReq_roundtrip`: when the length
  fits the message limit (a write) or the block count fits 32 bits (a read),
  the replica submits exactly the primary's range, and a write exactly its
  data.
* `replica_write_request_truncates_data`: a write of `2^32 + 512` bytes is
  sent with 512 bytes of data and refused by the replica.
* `io_admission_wraps_offset`: the range checks of the entry points and the
  replica's byte offset are computed in 64 bits and wrap.
-/

namespace Xsan

open Bytes Block

/-- `XSAN_MSG_TYPE_REPLICA_WRITE_BLOCK_REQ` (xsan_protocol.h:58). -/
def xsanMsgTypeReplicaWriteBlockReq : ℕ := 600

/-- `XSAN_MSG_TYPE_REPLICA_READ_BLOCK_REQ` (xsan_protocol.h:60). -/
def xsanMsgTypeReplicaReadBlockReq : ℕ := 602

/-- `xsan_replica_write_req_payload_t` (xsan_protocol.h:73-89), packed. -/
structure XsanReplicaWriteReqPayload where
  volumeId : ℕ
  blockLbaOnVolume : UInt64
  numBlocks : UInt32
deriving DecidableEq, Repr

/-- `xsan_replica_read_req_payload_t` (xsan_protocol.h:108-113): the same
packed fields. -/
abbrev XsanReplicaReadReqPayload := XsanReplicaWriteReqPayload

/-- The `sizeof` of either struct: 16 + 8 + 4 bytes. -/
def xsanReplicaReqPayloadSize : ℕ := 28

/-! ## The struct in memory -/

section Image

variable (o : ByteOrder)

/-- The bytes of the struct on a host of order `o`. -/
def XsanReplicaWriteReqPayload.image (p : XsanReplicaWriteReqPayload) : List UInt8 :=
  toBE 16 p.volumeId ++ o.encode 8 p.blockLbaOnVolume.toNat ++ o.encode 4 p.numBlocks.toNat

/-- The struct read through a pointer to the bytes `b`. -/
def XsanReplicaWriteReqPayload.ofImage (b : List UInt8) : XsanReplicaWriteReqPayload where
  volumeId := ofBE (bytesAt b 0 16)
  blockLbaOnVolume := UInt64.ofNat (o.decode (bytesAt b 16 8))
  numBlocks := UInt32.ofNat (o.decode (bytesAt b 24 4))

@[simp] theorem XsanReplicaWriteReqPayload.length_image (p : XsanReplicaWriteReqPayload) :
    (p.image o).length = xsanReplicaReqPayloadSize := by
  simp [XsanReplicaWriteReqPayload.image, xsanReplicaReqPayloadSize]

/-- The struct reads back from its image, whatever follows it, when the id
fits its sixteen bytes. -/
theorem XsanReplicaWriteReqPayload.ofImage_image (p : XsanReplicaWriteReqPayload) (rest : List UInt8)
    (hid : p.volumeId < 2 ^ 128) : XsanReplicaWriteReqPayload.ofImage o (p.image o ++ rest) = p := by
  have hb : ∀ off w, off + w ≤ xsanReplicaReqPayloadSize →
      bytesAt (p.image o ++ rest) off w = bytesAt (p.image o) off w := fun off w h =>
    bytesAt_append rest (by rw [length_image]; exact h)
  -- each field sits at its own offset of the image
  have hid' : bytesAt (p.image o) 0 16 = toBE 16 p.volumeId := by
    simp [bytesAt, XsanReplicaWriteReqPayload.image]
  have hlba : bytesAt (p.image o) 16 8 = o.encode 8 p.blockLbaOnVolume.toNat := by
    simp [bytesAt, XsanReplicaWriteReqPayload.image]
  have hnum : bytesAt (p.image o) 24 4 = o.encode 4 p.numBlocks.toNat := by
    simp [bytesAt, XsanReplicaWriteReqPayload.image, List.drop_append, List.drop_eq_nil_of_le]
  have hlt64 : p.blockLbaOnVolume.toNat % 256 ^ 8 = p.blockLbaOnVolume.toNat :=
    Nat.mod_eq_of_lt p.blockLbaOnVolume.toNat_lt
  have hlt32 : p.numBlocks.toNat % 256 ^ 4 = p.numBlocks.toNat := Nat.mod_eq_of_lt p.numBlocks.toNat_lt
  rw [XsanReplicaWriteReqPayload.ofImage, hb 0 16 (by decide), hb 16 8 (by decide), hb 24 4 (by decide),
    hid', hlba, hnum, ofBE_toBE, ByteOrder.decode_encode, ByteOrder.decode_encode, hlt64, hlt32,
    Nat.mod_eq_of_lt (by simpa using hid), UInt64.ofNat_toNat, UInt32.ofNat_toNat]

/-! ## The requests the primary sends -/

/-- The struct both senders fill (lines 1311-1314 and 1075-1078): the block
address and count of a byte range, narrowed to the widths of the fields. -/
def replicaReqPayloadOf (volumeId logicalByteOffset lengthBytes volBlockSize : ℕ) : XsanReplicaWriteReqPayload :=
  ⟨volumeId, UInt64.ofNat (logicalByteOffset / volBlockSize), UInt32.ofNat (lengthBytes / volBlockSize)⟩

/-- The write request for a remote replica (lines 1310-1320): the struct,
then `length_bytes` bytes from `user_buf`, whose count is passed as a
`uint32_t`. Cell `i` of the user's buffer holds `userBuf i`. -/
def replicaWriteReqMsg (volumeId logicalByteOffset lengthBytes volBlockSize : ℕ) (transactionId : UInt64)
    (userBuf : ℕ → UInt8) (alloc : MessageAlloc) : Option XsanMessage :=
  xsanProtocolMessageCreateWithData o xsanMsgTypeReplicaWriteBlockReq transactionId
    (some ((replicaReqPayloadOf volumeId logicalByteOffset lengthBytes volBlockSize).image o))
    (UInt32.ofNat xsanReplicaReqPayloadSize) (some (freshBlock userBuf lengthBytes)) (UInt32.ofNat lengthBytes) alloc

/-- The read request for a remote replica (lines 1075-1079). -/
def replicaReadReqMsg (volumeId logicalByteOffset lengthBytes volBlockSize : ℕ) (transactionId : UInt64)
    (alloc : MessageAlloc) : Option XsanMessage :=
  xsanProtocolMessageCreate o xsanMsgTypeReplicaReadBlockReq transactionId
    (some ((replicaReqPayloadOf volumeId logicalByteOffset lengthBytes volBlockSize).image o))
    (UInt32.ofNat xsanReplicaReqPayloadSize) alloc

/-- The write request of a range whose narrowed length fits the message
limit: a message of the write type whose payload is the struct followed by
the first `length_bytes mod 2^32` bytes of the user's buffer. -/
theorem replicaWriteReqMsg_eq_some (volumeId logicalByteOffset lengthBytes volBlockSize : ℕ)
    (transactionId : UInt64) (userBuf : ℕ → UInt8) {alloc : MessageAlloc} (halloc : alloc.Ok)
    (hmax : xsanReplicaReqPayloadSize + lengthBytes % 2 ^ 32 ≤ xsanProtocolMaxPayloadSize) :
    ∃ m, replicaWriteReqMsg o volumeId logicalByteOffset lengthBytes volBlockSize transactionId userBuf alloc =
        some m ∧ m.header.type.toNat = xsanMsgTypeReplicaWriteBlockReq ∧
      m.header.payloadLength.toNat = xsanReplicaReqPayloadSize + lengthBytes % 2 ^ 32 ∧
      m.payload = (replicaReqPayloadOf volumeId logicalByteOffset lengthBytes volBlockSize).image o ++
        freshBlock userBuf (lengthBytes % 2 ^ 32) := by
  obtain ⟨hmsg, hpay, hbuf⟩ := halloc
  obtain ⟨fresh, hfresh⟩ := Option.isSome_iff_exists.mp hbuf
  set img := (replicaReqPayloadOf volumeId logicalByteOffset lengthBytes volBlockSize).image o
  set data := freshBlock userBuf (lengthBytes % 2 ^ 32)
  -- only the narrowed count of the user's bytes is copied
  have hdata : (freshBlock userBuf lengthBytes).take (UInt32.ofNat lengthBytes).toNat = data := by
    rw [UInt32.toNat_ofNat', take_freshBlock _ (Nat.mod_le _ _)]
  have hlen : UInt32.ofNat lengthBytes = UInt32.ofNat ((some data).getD []).length := by
    apply UInt32.toNat_inj.mp
    simp [data]
  have hs : UInt32.ofNat xsanReplicaReqPayloadSize = UInt32.ofNat ((some img).getD []).length := by
    simp [img]
  have hfit : ((some img).getD []).length + ((some data).getD []).length ≤ xsanProtocolMaxPayloadSize := by
    simpa [img, data] using hmax
  rw [replicaWriteReqMsg, ← createWithData_take, hdata, hlen, hs, createWithData_eq o _ _ _ _ hfit,
    if_pos ⟨hmsg, Or.inr hpay⟩, hfresh]
  refine ⟨_, rfl, ?_, ?_, by simp only [payloadPtrOf_getD, Option.getD_some]⟩
  · simp [xsanProtocolHeaderInit, xsanMsgTypeReplicaWriteBlockReq]
  · have htot : ((some img).getD [] ++ (some data).getD []).length ≤ xsanProtocolMaxPayloadSize := by
      simpa using hfit
    show (UInt32.ofNat _).toNat = _
    rw [toNat_ofNat_of_le_max htot]
    simp [img, data]

/-- The read request: a message of the read type whose payload is the
struct. -/
theorem replicaReadReqMsg_eq_some (volumeId logicalByteOffset lengthBytes volBlockSize : ℕ)
    (transactionId : UInt64) {alloc : MessageAlloc} (halloc : alloc.Ok) :
    ∃ m, replicaReadReqMsg o volumeId logicalByteOffset lengthBytes volBlockSize transactionId alloc = some m ∧
      m.header.type.toNat = xsanMsgTypeReplicaReadBlockReq ∧
      m.header.payloadLength.toNat = xsanReplicaReqPayloadSize ∧
      m.payload = (replicaReqPayloadOf volumeId logicalByteOffset lengthBytes volBlockSize).image o := by
  obtain ⟨hmsg, hpay, hbuf⟩ := halloc
  obtain ⟨fresh, hfresh⟩ := Option.isSome_iff_exists.mp hbuf
  set img := (replicaReqPayloadOf volumeId logicalByteOffset lengthBytes volBlockSize).image o
  have hs : UInt32.ofNat xsanReplicaReqPayloadSize = UInt32.ofNat ((some img).getD []).length := by
    simp [img]
  have hfit : ((some img).getD []).length ≤ xsanProtocolMaxPayloadSize := by
    simp [img, xsanReplicaReqPayloadSize, xsanProtocolMaxPayloadSize]
  rw [replicaReadReqMsg, hs, create_eq o _ _ _ hfit, if_pos ⟨hmsg, Or.inr hpay⟩, hfresh]
  refine ⟨_, rfl, ?_, ?_, by simp only [payloadPtrOf_getD, Option.getD_some]⟩
  · simp [xsanProtocolHeaderInit, xsanMsgTypeReplicaReadBlockReq]
  · simp only [xsanProtocolHeaderInit, toNat_ofNat_of_le_max hfit]
    simp [img]

end Image

/-! ## The replica's handlers -/

/-- What a replica handler does with a request: an error response, with the
struct when it had been read (its fields are echoed), or the local I/O
handed to `_xsan_volume_submit_single_io_attempt`, with what that returns. -/
inductive ReplicaReqHandling
  | errorResponse (status : ℤ) (reqPayload : Option XsanReplicaWriteReqPayload)
  /-- A write of `data` at byte `logicalByteOffset` of the volume. -/
  | submittedWrite (logicalByteOffset lengthBytes : ℕ) (data : List UInt8) (attempt : SingleIoOutcome)
  | submittedRead (logicalByteOffset lengthBytes : ℕ) (attempt : SingleIoOutcome)
deriving DecidableEq, Repr

section Handlers

variable (codes : UndefinedCodes) (ioCodes : IoCodes) (fromErrno : ℤ → ℤ) (findDisk : ℕ → Option XsanDisk)
  (lookup : VolumeLookup) (o : ByteOrder)

/-- The write handler past its header checks (lines 1390-1446), given the
struct it read, the data length the header implies and the bytes after the
struct. -/
def handleReplicaWriteReqPayload (vm : XsanVolumeManager) (reqPayload : XsanReplicaWriteReqPayload)
    (actualDataLen : ℕ) (dataToWrite : List UInt8) (handlerCtxMallocOk : Bool) (env : SingleIoEnv) :
    ReplicaReqHandling :=
  match xsanVolumeGetById lookup vm.managedVolumes reqPayload.volumeId with
  | none => .errorResponse xsanErrorNotFound (some reqPayload)
  | some vol =>
    if vol.blockSizeBytes = 0 ∨ reqPayload.numBlocks = 0 then
      .errorResponse xsanErrorInvalidParam (some reqPayload)
    else if actualDataLen ≠ reqPayload.numBlocks.toNat * vol.blockSizeBytes then
      .errorResponse ioCodes.invalidParamSize (some reqPayload)
    else if !handlerCtxMallocOk then .errorResponse codes.outOfMemory (some reqPayload)
    else
      -- `block_lba_on_volume * block_size_bytes` is a `uint64_t` product
      let logicalByteOffset := reqPayload.blockLbaOnVolume.toNat * vol.blockSizeBytes % 2 ^ 64
      .submittedWrite logicalByteOffset actualDataLen dataToWrite
        (xsanVolumeSubmitSingleIoAttempt codes ioCodes fromErrno findDisk lookup vm reqPayload.volumeId
          logicalByteOffset actualDataLen true false true env)

/-- `xsan_volume_manager_handle_replica_write_req` (volume_manager.c:1363-1479)
on a message from a connection: `handlerCtxMallocOk` is the allocation of
its context. -/
def xsanVolumeManagerHandleReplicaWriteReq (vm : XsanVolumeManager) (msg : XsanMessage)
    (handlerCtxMallocOk : Bool) (env : SingleIoEnv) : ReplicaReqHandling :=
  if msg.header.type.toNat ≠ xsanMsgTypeReplicaWriteBlockReq then .errorResponse ioCodes.invalidMsgType none
  else if msg.header.payloadLength.toNat < xsanReplicaReqPayloadSize then
    .errorResponse codes.protocolGeneric none
  else
    handleReplicaWriteReqPayload codes ioCodes fromErrno findDisk lookup vm
      (XsanReplicaWriteReqPayload.ofImage o msg.payload)
      (msg.header.payloadLength.toNat - xsanReplicaReqPayloadSize) (msg.payload.drop xsanReplicaReqPayloadSize)
      handlerCtxMallocOk env

/-- The read handler past its header checks (lines 1501-1557), given the
struct it read; `dmaMallocOk` is the allocation of the buffer read into. -/
def handleReplicaReadReqPayload (vm : XsanVolumeManager) (reqPayload : XsanReplicaReadReqPayload)
    (handlerCtxMallocOk dmaMallocOk : Bool) (env : SingleIoEnv) : ReplicaReqHandling :=
  match xsanVolumeGetById lookup vm.managedVolumes reqPayload.volumeId with
  | none => .errorResponse xsanErrorNotFound (some reqPayload)
  | some vol =>
    if vol.blockSizeBytes = 0 ∨ reqPayload.numBlocks = 0 then
      .errorResponse xsanErrorInvalidParam (some reqPayload)
    else if !handlerCtxMallocOk ∨ !dmaMallocOk then .errorResponse codes.outOfMemory (some reqPayload)
    else
      let dataLenToRead := reqPayload.numBlocks.toNat * vol.blockSizeBytes
      let logicalByteOffset := reqPayload.blockLbaOnVolume.toNat * vol.blockSizeBytes % 2 ^ 64
      .submittedRead logicalByteOffset dataLenToRead
        (xsanVolumeSubmitSingleIoAttempt codes ioCodes fromErrno findDisk lookup vm reqPayload.volumeId
          logicalByteOffset dataLenToRead true true true env)

/-- `xsan_volume_manager_handle_replica_read_req` (volume_manager.c:1482-1588). -/
def xsanVolumeManagerHandleReplicaReadReq (vm : XsanVolumeManager) (msg : XsanMessage)
    (handlerCtxMallocOk dmaMallocOk : Bool) (env : SingleIoEnv) : ReplicaReqHandling :=
  if msg.header.type.toNat ≠ xsanMsgTypeReplicaReadBlockReq then .errorResponse ioCodes.invalidMsgType none
  else if msg.header.payloadLength.toNat ≠ xsanReplicaReqPayloadSize then
    .errorResponse codes.protocolGeneric none
  else
    handleReplicaReadReqPayload codes ioCodes fromErrno findDisk lookup vm
      (XsanReplicaWriteReqPayload.ofImage o msg.payload) handlerCtxMallocOk dmaMallocOk env

/-- The write handler on a message of the write type whose payload is a
struct's image and data, and whose header gives their length. -/
theorem handleReplicaWriteReq_image (vm : XsanVolumeManager) (header : XsanMessageHeader)
    (p : XsanReplicaWriteReqPayload) (data : List UInt8) (handlerCtxMallocOk : Bool) (env : SingleIoEnv)
    (htype : header.type.toNat = xsanMsgTypeReplicaWriteBlockReq)
    (hlen : header.payloadLength.toNat = xsanReplicaReqPayloadSize + data.length) (hid : p.volumeId < 2 ^ 128) :
    xsanVolumeManagerHandleReplicaWriteReq codes ioCodes fromErrno findDisk lookup o vm ⟨header, p.image o ++ data⟩
        handlerCtxMallocOk env =
      handleReplicaWriteReqPayload codes ioCodes fromErrno findDisk lookup vm p data.length data handlerCtxMallocOk env := by
  have hdrop : (p.image o ++ data).drop xsanReplicaReqPayloadSize = data :=
    List.drop_left' (p.length_image o)
  rw [xsanVolumeManagerHandleReplicaWriteReq, if_neg (by simp [htype]), if_neg (by simp only [hlen]; omega)]
  dsimp only
  rw [p.ofImage_image o data hid, hlen, Nat.add_sub_cancel_left, hdrop]

/-- The read handler on a message of the read type whose payload is a
struct's image. -/
theorem handleReplicaReadReq_image (vm : XsanVolumeManager) (header : XsanMessageHeader)
    (p : XsanReplicaReadReqPayload) (handlerCtxMallocOk dmaMallocOk : Bool) (env : SingleIoEnv)
    (htype : header.type.toNat = xsanMsgTypeReplicaReadBlockReq)
    (hlen : header.payloadLength.toNat = xsanReplicaReqPayloadSize) (hid : p.volumeId < 2 ^ 128) :
    xsanVolumeManagerHandleReplicaReadReq codes ioCodes fromErrno findDisk lookup o vm ⟨header, p.image o⟩
        handlerCtxMallocOk dmaMallocOk env =
      handleReplicaReadReqPayload codes ioCodes fromErrno findDisk lookup vm p handlerCtxMallocOk dmaMallocOk env := by
  have himg : p.image o = p.image o ++ [] := (List.append_nil _).symm
  rw [xsanVolumeManagerHandleReplicaReadReq, if_neg (by simp [htype]), if_neg (by simp [hlen])]
  dsimp only
  rw [himg, p.ofImage_image o [] hid]

omit o in
/-- A write request that passes the handler's checks is submitted at the
block address times the block size, in 64 bits, with the length and the
bytes it carries. -/
theorem handleReplicaWriteReqPayload_submitted {vm : XsanVolumeManager} {vol : XsanVolume}
    {p : XsanReplicaWriteReqPayload} {actualDataLen : ℕ} (dataToWrite : List UInt8) (env : SingleIoEnv)
    (hvol : xsanVolumeGetById lookup vm.managedVolumes p.volumeId = some vol) (hbs : vol.blockSizeBytes ≠ 0)
    (hnum : p.numBlocks ≠ 0) (hlen : actualDataLen = p.numBlocks.toNat * vol.blockSizeBytes) :
    handleReplicaWriteReqPayload codes ioCodes fromErrno findDisk lookup vm p actualDataLen dataToWrite true env =
      .submittedWrite (p.blockLbaOnVolume.toNat * vol.blockSizeBytes % 2 ^ 64) actualDataLen dataToWrite
        (xsanVolumeSubmitSingleIoAttempt codes ioCodes fromErrno findDisk lookup vm p.volumeId
          (p.blockLbaOnVolume.toNat * vol.blockSizeBytes % 2 ^ 64) actualDataLen true false true env) := by
  rw [handleReplicaWriteReqPayload, hvol]
  dsimp only
  rw [if_neg (by simp [hbs, hnum]), if_neg (by simp [hlen])]
  rfl

omit o in
/-- A read request that passes the handler's checks is submitted at the
block address times the block size, in 64 bits, for the block count times
the block size. -/
theorem handleReplicaReadReqPayload_submitted {vm : XsanVolumeManager} {vol : XsanVolume}
    {p : XsanReplicaReadReqPayload} (env : SingleIoEnv)
    (hvol : xsanVolumeGetById lookup vm.managedVolumes p.volumeId = some vol) (hbs : vol.blockSizeBytes ≠ 0)
    (hnum : p.numBlocks ≠ 0) :
    handleReplicaReadReqPayload codes ioCodes fromErrno findDisk lookup vm p true true env =
      .submittedRead (p.blockLbaOnVolume.toNat * vol.blockSizeBytes % 2 ^ 64)
        (p.numBlocks.toNat * vol.blockSizeBytes)
        (xsanVolumeSubmitSingleIoAttempt codes ioCodes fromErrno findDisk lookup vm p.volumeId
          (p.blockLbaOnVolume.toNat * vol.blockSizeBytes % 2 ^ 64) (p.numBlocks.toNat * vol.blockSizeBytes)
          true true true env) := by
  rw [handleReplicaReadReqPayload, hvol]
  dsimp only
  rw [if_neg (by simp [hbs, hnum])]
  rfl

/-! ## From the primary to the replica -/

omit codes ioCodes fromErrno findDisk lookup o in
/-- The block address of an aligned 64-bit offset is exact, and reads back
as the offset. -/
theorem blockLba_mul_eq {logicalByteOffset bs : ℕ} (hoff : bs ∣ logicalByteOffset)
    (hoff64 : logicalByteOffset < 2 ^ 64) :
    (UInt64.ofNat (logicalByteOffset / bs)).toNat * bs % 2 ^ 64 = logicalByteOffset := by
  have hlt : logicalByteOffset / bs < 2 ^ 64 := Nat.lt_of_le_of_lt (Nat.div_le_self _ _) hoff64
  rw [UInt64.toNat_ofNat', Nat.mod_eq_of_lt hlt, Nat.div_mul_cancel hoff, Nat.mod_eq_of_lt hoff64]

omit codes ioCodes fromErrno findDisk lookup o in
/-- The block count of an aligned length whose count fits 32 bits is exact,
not zero for a length that is not, and gives the length back. -/
theorem numBlocks_mul_eq {lengthBytes bs : ℕ} (hlen : bs ∣ lengthBytes) (hpos : 0 < lengthBytes)
    (hblocks : lengthBytes / bs < 2 ^ 32) :
    UInt32.ofNat (lengthBytes / bs) ≠ 0 ∧ (UInt32.ofNat (lengthBytes / bs)).toNat * bs = lengthBytes := by
  have hcount : (UInt32.ofNat (lengthBytes / bs)).toNat = lengthBytes / bs := by
    rw [UInt32.toNat_ofNat', Nat.mod_eq_of_lt hblocks]
  have hmul := Nat.div_mul_cancel hlen
  refine ⟨fun h0 => ?_, by rw [hcount, hmul]⟩
  -- a zero count would make the length zero
  have hz : lengthBytes / bs = 0 := by rw [← hcount, h0]; rfl
  rw [hz, Nat.zero_mul] at hmul
  omega

/-- Within the message limit, a remote replica that holds the volume with
the primary's block size submits exactly the primary's write: at its byte
offset, of its length, with the user's bytes. -/
theorem replicaWriteReq_roundtrip {vm : XsanVolumeManager} {vol : XsanVolume}
    {volumeId logicalByteOffset lengthBytes : ℕ} {transactionId : UInt64} {userBuf : ℕ → UInt8}
    {alloc : MessageAlloc} (env : SingleIoEnv) (hvol : xsanVolumeGetById lookup vm.managedVolumes volumeId = some vol)
    (hid : volumeId < 2 ^ 128) (hbs : 0 < vol.blockSizeBytes) (hoff : vol.blockSizeBytes ∣ logicalByteOffset)
    (hoff64 : logicalByteOffset < 2 ^ 64) (hlen : vol.blockSizeBytes ∣ lengthBytes) (hpos : 0 < lengthBytes)
    (hmax : xsanReplicaReqPayloadSize + lengthBytes ≤ xsanProtocolMaxPayloadSize) (halloc : alloc.Ok) :
    ∃ m, replicaWriteReqMsg o volumeId logicalByteOffset lengthBytes vol.blockSizeBytes transactionId userBuf
        alloc = some m ∧
      xsanVolumeManagerHandleReplicaWriteReq codes ioCodes fromErrno findDisk lookup o vm m true env =
        .submittedWrite logicalByteOffset lengthBytes (freshBlock userBuf lengthBytes)
          (xsanVolumeSubmitSingleIoAttempt codes ioCodes fromErrno findDisk lookup vm volumeId logicalByteOffset
            lengthBytes true false true env) := by
  -- the message limit keeps the length below `2^32`, so nothing is narrowed
  have hlt : lengthBytes < 2 ^ 32 := by
    unfold xsanReplicaReqPayloadSize xsanProtocolMaxPayloadSize at hmax
    omega
  have h32 : lengthBytes % 2 ^ 32 = lengthBytes := Nat.mod_eq_of_lt hlt
  obtain ⟨m, hm, htype, hplen, hpay⟩ := replicaWriteReqMsg_eq_some o volumeId logicalByteOffset lengthBytes
    vol.blockSizeBytes transactionId userBuf halloc
    (by rw [h32]; exact hmax)
  rw [h32] at hplen hpay
  obtain ⟨hnum, hcount⟩ := numBlocks_mul_eq hlen hpos
    (Nat.lt_of_le_of_lt (Nat.div_le_self _ _) hlt)
  refine ⟨m, hm, ?_⟩
  obtain ⟨header, payload⟩ := m
  dsimp only at htype hplen hpay
  subst hpay
  rw [handleReplicaWriteReq_image codes ioCodes fromErrno findDisk lookup o vm header _ _ true env htype
      (by rw [hplen, length_freshBlock]) hid, length_freshBlock,
    handleReplicaWriteReqPayload_submitted codes ioCodes fromErrno findDisk lookup _ env hvol hbs.ne' hnum hcount.symm,
    replicaReqPayloadOf, blockLba_mul_eq hoff hoff64]

/-- A remote replica that holds the volume with the primary's block size
submits exactly the primary's read, when its block count fits the struct's
32 bits. -/
theorem replicaReadReq_roundtrip {vm : XsanVolumeManager} {vol : XsanVolume}
    {volumeId logicalByteOffset lengthBytes : ℕ} {transactionId : UInt64} {alloc : MessageAlloc}
    (env : SingleIoEnv) (hvol : xsanVolumeGetById lookup vm.managedVolumes volumeId = some vol)
    (hid : volumeId < 2 ^ 128) (hbs : 0 < vol.blockSizeBytes) (hoff : vol.blockSizeBytes ∣ logicalByteOffset)
    (hoff64 : logicalByteOffset < 2 ^ 64) (hlen : vol.blockSizeBytes ∣ lengthBytes) (hpos : 0 < lengthBytes)
    (hblocks : lengthBytes / vol.blockSizeBytes < 2 ^ 32) (halloc : alloc.Ok) :
    ∃ m, replicaReadReqMsg o volumeId logicalByteOffset lengthBytes vol.blockSizeBytes transactionId alloc =
        some m ∧
      xsanVolumeManagerHandleReplicaReadReq codes ioCodes fromErrno findDisk lookup o vm m true true env =
        .submittedRead logicalByteOffset lengthBytes
          (xsanVolumeSubmitSingleIoAttempt codes ioCodes fromErrno findDisk lookup vm volumeId logicalByteOffset
            lengthBytes true true true env) := by
  obtain ⟨m, hm, htype, hplen, hpay⟩ := replicaReadReqMsg_eq_some o volumeId logicalByteOffset
    lengthBytes vol.blockSizeBytes transactionId halloc
  obtain ⟨hnum, hcount⟩ := numBlocks_mul_eq hlen hpos hblocks
  refine ⟨m, hm, ?_⟩
  obtain ⟨header, payload⟩ := m
  dsimp only at htype hplen hpay
  subst hpay
  rw [handleReplicaReadReq_image codes ioCodes fromErrno findDisk lookup o vm header _ true true env htype hplen hid,
    handleReplicaReadReqPayload_submitted codes ioCodes fromErrno findDisk lookup env hvol hbs.ne' hnum,
    replicaReqPayloadOf]
  dsimp only
  rw [hcount, blockLba_mul_eq hoff hoff64]

end Handlers

/-! ## A write of more than `2^32` bytes -/

/-- A volume of `2^33` bytes in 512-byte blocks, with a local and a remote
replica. -/
def largeVolume : XsanVolume where
  id := 3
  name := "big".toList
  sizeBytes := 2 ^ 33
  blockSizeBytes := 512
  numBlocks := 2 ^ 24
  state := .online
  sourceGroupId := 7
  thinProvisioned := false
  allocatedBytes := 2 ^ 33
  ftt := 1
  actualReplicaCount := 2
  replicaNodes := [⟨1, "10.0.0.1".toList, 8080, .online, 0⟩, ⟨2, "10.0.0.2".toList, 8080, .online, 0⟩, .zero]

/-- The remote replica's manager, holding the same volume. -/
def largeManager : XsanVolumeManager where
  initialized := true
  managedVolumes := [largeVolume]
  mdStore := fun _ => none
  diskGroupStates := fun _ => none
  allocatedExtents := fun _ => 0

/-- A write on which every outside call succeeds and each remote request is
sent whole. -/
def sentWriteEnv : WriteEnv :=
  { transactionId := 1, ctxMallocOk := true, hashtablePutOk := true, nowUs := 0
    replica := fun _ =>
      { localSubmit := ⟨xsanOk, none, [], true, 0⟩, opMallocOk := true, msgCreateOk := true, activeSock := true
        send := .sent, connectFailedErrno := none } }

/-- Message allocations that succeed, with zeroed blocks. -/
def zeroAlloc : MessageAlloc := ⟨true, some fun _ => 0, some fun _ => 0⟩

/-- A one-block write to the large volume reaches the replica whole. -/
theorem replicaWriteReq_roundtrip_block :
    xsanVolumeGetById VolumeLookup.first largeManager.managedVolumes 3 = some largeVolume ∧
      3 < 2 ^ 128 ∧ 0 < largeVolume.blockSizeBytes ∧ largeVolume.blockSizeBytes ∣ 512 ∧ 512 < 2 ^ 64 ∧
      largeVolume.blockSizeBytes ∣ 512 ∧ 0 < 512 ∧
      xsanReplicaReqPayloadSize + 512 ≤ xsanProtocolMaxPayloadSize ∧ zeroAlloc.Ok ∧
      ∃ m, replicaWriteReqMsg .little 3 512 512 largeVolume.blockSizeBytes 1 (fun _ => 0) zeroAlloc = some m ∧
        xsanVolumeManagerHandleReplicaWriteReq UndefinedCodes.fresh IoCodes.fresh id twoDisks
            VolumeLookup.first .little largeManager m true (twoExtentEnv 0) =
          .submittedWrite 512 512 (freshBlock (fun _ => 0) 512)
            (xsanVolumeSubmitSingleIoAttempt UndefinedCodes.fresh IoCodes.fresh id twoDisks VolumeLookup.first
              largeManager 3 512 512 true false true (twoExtentEnv 0)) := by
  have hvol : xsanVolumeGetById VolumeLookup.first largeManager.managedVolumes 3 = some largeVolume := rfl
  have halloc : zeroAlloc.Ok := ⟨rfl, rfl, rfl⟩
  have hmax : xsanReplicaReqPayloadSize + 512 ≤ xsanProtocolMaxPayloadSize := by decide
  exact ⟨hvol, by norm_num, by decide, by decide, by norm_num, by decide, by decide, hmax, halloc,
    replicaWriteReq_roundtrip UndefinedCodes.fresh IoCodes.fresh id twoDisks VolumeLookup.first .little
      (twoExtentEnv 0) hvol (by norm_num) (by decide) (by decide) (by norm_num) (by decide) (by decide) hmax
      halloc⟩

/-- A read of eight blocks of the large volume reaches the replica whole. -/
theorem replicaReadReq_roundtrip_blocks :
    xsanVolumeGetById VolumeLookup.first largeManager.managedVolumes 3 = some largeVolume ∧
      3 < 2 ^ 128 ∧ 0 < largeVolume.blockSizeBytes ∧ largeVolume.blockSizeBytes ∣ 1024 ∧ 1024 < 2 ^ 64 ∧
      largeVolume.blockSizeBytes ∣ 4096 ∧ 0 < 4096 ∧ 4096 / largeVolume.blockSizeBytes < 2 ^ 32 ∧
      zeroAlloc.Ok ∧
      ∃ m, replicaReadReqMsg .little 3 1024 4096 largeVolume.blockSizeBytes 1 zeroAlloc = some m ∧
        xsanVolumeManagerHandleReplicaReadReq UndefinedCodes.fresh IoCodes.fresh id twoDisks
            VolumeLookup.first .little largeManager m true true (twoExtentEnv 0) =
          .submittedRead 1024 4096
            (xsanVolumeSubmitSingleIoAttempt UndefinedCodes.fresh IoCodes.fresh id twoDisks VolumeLookup.first
              largeManager 3 1024 4096 true true true (twoExtentEnv 0)) := by
  have hvol : xsanVolumeGetById VolumeLookup.first largeManager.managedVolumes 3 = some largeVolume := rfl
  have halloc : zeroAlloc.Ok := ⟨rfl, rfl, rfl⟩
  exact ⟨hvol, by norm_num, by decide, by decide, by norm_num, by decide, by decide, by decide, halloc,
    replicaReadReq_roundtrip UndefinedCodes.fresh IoCodes.fresh id twoDisks VolumeLookup.first .little
      (twoExtentEnv 0) hvol (by norm_num) (by decide) (by decide) (by norm_num) (by decide) (by decide)
      (by decide) halloc⟩

/-- The primary accepts a write of `2^32 + 512` bytes, but its request to
the remote replica carries only the first 512 bytes of data, narrowed to a
`uint32_t`, while its struct still counts `2^23 + 1` blocks; the replica
refuses it with `XSAN_ERROR_INVALID_PARAM_SIZE`. -/
theorem replica_write_request_truncates_data (o : ByteOrder) (codes : UndefinedCodes) (ioCodes : IoCodes)
    (fromErrno : ℤ → ℤ) (findDisk : ℕ → Option XsanDisk) (check : CompletionCheck) (userBuf : ℕ → UInt8)
    (env : SingleIoEnv) :
    (xsanVolumeWriteAsync codes check fromErrno VolumeLookup.first [largeVolume] 3 0 (2 ^ 32 + 512) true true sentWriteEnv).1 =
        xsanOk ∧
      ∃ m, replicaWriteReqMsg o 3 0 (2 ^ 32 + 512) 512 1 userBuf zeroAlloc = some m ∧
        m.payload = (⟨3, 0, 2 ^ 23 + 1⟩ : XsanReplicaWriteReqPayload).image o ++ freshBlock userBuf 512 ∧
        xsanVolumeManagerHandleReplicaWriteReq codes ioCodes fromErrno findDisk VolumeLookup.first o largeManager m true env =
          .errorResponse ioCodes.invalidParamSize (some ⟨3, 0, 2 ^ 23 + 1⟩) := by
  refine ⟨rfl, ?_⟩
  obtain ⟨m, hm, htype, hplen, hpay⟩ := replicaWriteReqMsg_eq_some o 3 0 (2 ^ 32 + 512) 512 1
    userBuf (show zeroAlloc.Ok from ⟨rfl, rfl, rfl⟩) (by decide)
  -- the narrowed length is 512, while the block count is taken from the whole length
  have h512 : (2 ^ 32 + 512) % 2 ^ 32 = 512 := by norm_num
  have hpl : replicaReqPayloadOf 3 0 (2 ^ 32 + 512) 512 = ⟨3, 0, 2 ^ 23 + 1⟩ := by decide
  rw [h512] at hplen hpay
  rw [hpl] at hpay
  refine ⟨m, hm, hpay, ?_⟩
  obtain ⟨header, payload⟩ := m
  dsimp only at htype hplen hpay
  subst hpay
  rw [handleReplicaWriteReq_image codes ioCodes fromErrno findDisk VolumeLookup.first o largeManager header _ _ true env htype
    (by rw [hplen, length_freshBlock]) (by decide), length_freshBlock]
  rfl

/-! ## Ranges past `2^64` -/

/-- The range checks add offset and length in 64 bits: the write and the
read entry points accept `2^64 - 512` bytes in and 1024 bytes long on a
volume of 4096 bytes, and the single I/O path lets it through to the LBA
bound of the mapping. A replica asked for block `2^55` of 512 bytes computes
the byte offset `2^64 mod 2^64 = 0` and writes the volume's first block. -/
theorem io_admission_wraps_offset (o : ByteOrder) (codes : UndefinedCodes) (ioCodes : IoCodes)
    (fromErrno : ℤ → ℤ) (check : CompletionCheck) :
    (xsanVolumeWriteAsync codes check fromErrno VolumeLookup.first createdVolumes 1 (2 ^ 64 - 512) 1024 true true sentWriteEnv).1 =
        xsanOk ∧
      (xsanVolumeReadAsync codes fromErrno localIoErrorReadEnv VolumeLookup.first threeReplicaVolumes 1 (2 ^ 64 - 512) 1024 true true
        6000 true).1 = xsanOk ∧
      (xsanVolumeSubmitSingleIoAttempt codes ioCodes fromErrno twoDisks VolumeLookup.first twoExtentManager 2 (2 ^ 64 - 512) 1024 true
        false true (twoExtentEnv 0)).status = ioCodes.outOfBounds ∧
      xsanVolumeManagerHandleReplicaWriteReq codes ioCodes fromErrno twoDisks VolumeLookup.first o twoExtentManager
          ⟨xsanProtocolHeaderInit xsanMsgTypeReplicaWriteBlockReq 540 1,
            (⟨2, 2 ^ 55, 1⟩ : XsanReplicaWriteReqPayload).image o ++ List.replicate 512 0⟩ true (twoExtentEnv 0) =
        .submittedWrite 0 512 (List.replicate 512 0)
          (xsanVolumeSubmitSingleIoAttempt codes ioCodes fromErrno twoDisks VolumeLookup.first twoExtentManager 2 0 512 true false true
            (twoExtentEnv 0)) ∧
      (xsanVolumeSubmitSingleIoAttempt codes ioCodes fromErrno twoDisks VolumeLookup.first twoExtentManager 2 0 512 true false true
        (twoExtentEnv 0)).status = xsanOk := by
  refine ⟨rfl, rfl, rfl, ?_, rfl⟩
  rw [handleReplicaWriteReq_image codes ioCodes fromErrno twoDisks VolumeLookup.first o twoExtentManager _ _ _ true _ rfl
    (by rw [List.length_replicate]; rfl) (by decide), List.length_replicate]
  rfl

end Xsan
