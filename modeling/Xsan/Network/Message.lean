import Xsan.Network.NodeComm
import Xsan.Lib.Block

/-!
# Building and checking messages

Models of `xsan_protocol_header_init`, `xsan_protocol_calculate_checksum`,
`xsan_protocol_verify_checksum`, `xsan_protocol_message_create` and
`xsan_protocol_message_create_with_data` (`src/network/protocol.c`, lines
32–344).

The checksum is the sum of the bytes, in a `uint32_t`, of the serialized
header with its checksum field zero followed by the payload. Both
constructors and the verifier build that buffer the same way, in a fresh
block of `XSAN_MESSAGE_HEADER_SIZE + payload_length` bytes
(`checksumDataBuf`). Every `XSAN_MALLOC` is an input: `none` when it fails,
otherwise the contents the block starts with. A pointer argument that may be
`NULL` is an `Option`.

Results:
* `checksumDataBuf_eq`: the buffer is the serialized header and the payload.
* `verify_eq_isSome`, `verify_eq_false`: the verifier accepts exactly when
  the sum matches, and its buffer is allocated.
* `ChecksummedMessage.sound`: for a message whose checksum is that sum, with
  the magic set and the payload within the limit, no single byte of the
  payload or of the serialized magic, type, version or transaction id can
  change without the verifier noticing: the sum is below `2^32`, so it never
  wraps, and it is at least the 314 of the magic, so it is never zero.
* `createWithData_checksummed`, `create_checksummed`: the constructors build
  such messages, with the payload they were given.
-/

namespace Xsan

open Bytes Block

section Checksum

variable (o : ByteOrder)

/-- `xsan_protocol_header_init` (lines 32–44). -/
def xsanProtocolHeaderInit (type : ℕ) (payloadLength : UInt32) (transactionId : UInt64) :
    XsanMessageHeader where
  magic := xsanProtocolMagic
  type := UInt16.ofNat type
  version := xsanProtocolVersion
  payloadLength := payloadLength
  transactionId := transactionId
  checksum := 0

/-- One pass of the loop of `xsan_protocol_calculate_checksum`:
`checksum = (checksum + data[i]) & 0xFFFFFFFF`. -/
def checksumStep (checksum : UInt32) (b : UInt8) : UInt32 := (checksum + b.toUInt32) &&& 0xFFFFFFFF

/-- `xsan_protocol_calculate_checksum` (lines 129–158). -/
def xsanProtocolCalculateChecksum (data : List UInt8) : UInt32 :=
  if data.length = 0 then 0 else data.foldl checksumStep 0

/-- The buffer the checksum is computed over (lines 189–199, 247–258 and
323–334): a fresh block of `XSAN_MESSAGE_HEADER_SIZE + payload_length` bytes,
the serialized header at its start and, when the payload pointer is set and
the length positive, the payload after it. -/
def checksumDataBuf (header : XsanMessageHeader) (payload : Option (List UInt8)) (fresh : ℕ → UInt8) :
    List UInt8 :=
  let buf := freshBlock fresh (xsanMessageHeaderSize + header.payloadLength.toNat)
  let buf := memcpyAt buf 0 (xsanProtocolHeaderSerialize o header)
  copyIfSet buf xsanMessageHeaderSize payload header.payloadLength.toNat

/-- `xsan_protocol_verify_checksum` (lines 160–209); `checksumBuf` is the
outcome of its `XSAN_MALLOC`. A zero checksum field means "not checked". -/
def xsanProtocolVerifyChecksum (header : XsanMessageHeader) (payload : Option (List UInt8))
    (checksumBuf : Option (ℕ → UInt8)) : Bool :=
  if header.checksum = 0 then true
  else
    let tempHeaderForCalc := { header with checksum := 0 }
    match checksumBuf with
    | none => false
    | some fresh =>
      xsanProtocolCalculateChecksum (checksumDataBuf o tempHeaderForCalc payload fresh) == header.checksum

/-- The outcomes of the allocations of the two constructors: the message
record, the payload and the checksum buffer. -/
structure MessageAlloc where
  msg : Bool
  payload : Option (ℕ → UInt8)
  checksumBuf : Option (ℕ → UInt8)

/-- Every allocation succeeds. -/
def MessageAlloc.Ok (alloc : MessageAlloc) : Prop :=
  alloc.msg = true ∧ alloc.payload.isSome ∧ alloc.checksumBuf.isSome

/-- The step both constructors end with (lines 246–265 and 322–341): the
checksum of the header and the payload is stored in the header; the message
is lost when the checksum buffer cannot be allocated. -/
def messageSetChecksum (header : XsanMessageHeader) (payload : Option (List UInt8))
    (checksumBuf : Option (ℕ → UInt8)) : Option XsanMessage :=
  match checksumBuf with
  | none => none
  | some fresh =>
    some ⟨{ header with checksum := xsanProtocolCalculateChecksum (checksumDataBuf o header payload fresh) },
      payload.getD []⟩

/-- `xsan_protocol_message_create` (lines 212–268): a `NULL` payload pointer
gives a zeroed payload. -/
def xsanProtocolMessageCreate (type : ℕ) (transactionId : UInt64) (payloadData : Option (List UInt8))
    (payloadLength : UInt32) (alloc : MessageAlloc) : Option XsanMessage :=
  if payloadLength.toNat > xsanProtocolMaxPayloadSize then none
  else if !alloc.msg then none
  else
    let header := xsanProtocolHeaderInit type payloadLength transactionId
    if payloadLength.toNat > 0 then
      match alloc.payload with
      | none => none
      | some fresh =>
        let payload := match payloadData with
          | some p => memcpyAt (freshBlock fresh payloadLength.toNat) 0 (p.take payloadLength.toNat)
          | none => List.replicate payloadLength.toNat 0
        messageSetChecksum o header (some payload) alloc.checksumBuf
    else messageSetChecksum o header none alloc.checksumBuf

/-- The two copies of lines 304–313: the structured part to the start of the
payload, then the additional data at `ptr`, which moved past the structured
part only if that part was copied. -/
def copyPayloadParts (buf : List UInt8) (structuredPayload : Option (List UInt8)) (structuredPayloadLen : ℕ)
    (additionalData : Option (List UInt8)) (additionalDataLen : ℕ) : List UInt8 :=
  let ptr := if structuredPayload.isSome ∧ structuredPayloadLen > 0 then structuredPayloadLen else 0
  copyIfSet (copyIfSet buf 0 structuredPayload structuredPayloadLen) ptr additionalData additionalDataLen

/-- `xsan_protocol_message_create_with_data` (lines 279–344): the two lengths
are added in 64 bits, so the sum is exact. -/
def xsanProtocolMessageCreateWithData (type : ℕ) (transactionId : UInt64)
    (structuredPayload : Option (List UInt8)) (structuredPayloadLen : UInt32)
    (additionalData : Option (List UInt8)) (additionalDataLen : UInt32) (alloc : MessageAlloc) :
    Option XsanMessage :=
  let totalPayloadLength64 := structuredPayloadLen.toNat + additionalDataLen.toNat
  if totalPayloadLength64 > xsanProtocolMaxPayloadSize then none
  else if !alloc.msg then none
  else
    let totalPayloadLength := UInt32.ofNat totalPayloadLength64
    let header := xsanProtocolHeaderInit type totalPayloadLength transactionId
    if totalPayloadLength.toNat > 0 then
      match alloc.payload with
      | none => none
      | some fresh =>
        let payload := copyPayloadParts (freshBlock fresh totalPayloadLength.toNat) structuredPayload
          structuredPayloadLen.toNat additionalData additionalDataLen.toNat
        messageSetChecksum o header (some payload) alloc.checksumBuf
    else messageSetChecksum o header none alloc.checksumBuf

/-- The pointer a payload is held by: `NULL` when there is none. -/
def payloadPtrOf (p : List UInt8) : Option (List UInt8) := if p = [] then none else some p

/-- The message's `payload` pointer. -/
def XsanMessage.payloadPtr (m : XsanMessage) : Option (List UInt8) := payloadPtrOf m.payload

/-- The bytes the checksum covers: the serialized header with its checksum
field zero, then the payload. -/
def checksumInput (h : XsanMessageHeader) (p : List UInt8) : List UInt8 :=
  xsanProtocolHeaderSerialize o { h with checksum := 0 } ++ p

/-! ## The checksum and its buffer -/

theorem and_mask_eq (x : UInt32) : x &&& 0xFFFFFFFF = x := by
  apply UInt32.toNat_inj.mp
  have h := Nat.and_two_pow_sub_one_eq_mod x.toNat 32
  simp only [UInt32.toNat_and]
  rw [show (0xFFFFFFFF : UInt32).toNat = 2 ^ 32 - 1 from rfl, h, Nat.mod_eq_of_lt x.toNat_lt]

/-- The loop keeps the running sum modulo `2^32`. -/
theorem toNat_foldl_checksumStep (acc : UInt32) (l : List UInt8) :
    (l.foldl checksumStep acc).toNat = (acc.toNat + byteSum l) % 2 ^ 32 := by
  induction l generalizing acc with
  | nil => simp [Nat.mod_eq_of_lt acc.toNat_lt]
  | cons b l ih =>
    rw [List.foldl_cons, ih, checksumStep, and_mask_eq, UInt32.toNat_add, UInt8.toNat_toUInt32,
      byteSum_cons, Nat.mod_add_mod, Nat.add_assoc]

theorem toNat_calculateChecksum (data : List UInt8) :
    (xsanProtocolCalculateChecksum data).toNat = byteSum data % 2 ^ 32 := by
  unfold xsanProtocolCalculateChecksum
  split
  · next h => simp [List.eq_nil_of_length_eq_zero h]
  · rw [toNat_foldl_checksumStep]
    simp

omit o in
theorem payloadPtrOf_getD (p : List UInt8) : (payloadPtrOf p).getD [] = p := by
  unfold payloadPtrOf
  split
  · next h => exact h.symm
  · rfl

/-- The buffer is the serialized header followed by the payload, whatever the
block held before, when the payload has the length the header gives. -/
theorem checksumDataBuf_eq (h : XsanMessageHeader) (payload : Option (List UInt8)) (fresh : ℕ → UInt8)
    (hp : (payload.getD []).length = h.payloadLength.toNat) :
    checksumDataBuf o h payload fresh = xsanProtocolHeaderSerialize o h ++ payload.getD [] := by
  dsimp only [checksumDataBuf]
  rw [memcpyAt_zero, ← hp, copyIfSet_getD, ← length_serialize o h, memcpyAt_after_prefix,
    List.drop_eq_nil_of_le, List.append_nil]
  -- what is left of the fresh block after the header is exactly the payload's room
  simp

theorem verify_none (h : XsanMessageHeader) (payload : Option (List UInt8)) :
    xsanProtocolVerifyChecksum o h payload none = decide (h.checksum = 0) := by
  unfold xsanProtocolVerifyChecksum
  split <;> simp_all

/-- With its buffer allocated the verifier compares the byte sum of the
checksum input with the checksum field. -/
theorem verify_some (h : XsanMessageHeader) (payload : Option (List UInt8)) (fresh : ℕ → UInt8)
    (hp : (payload.getD []).length = h.payloadLength.toNat) (hc : h.checksum ≠ 0) :
    xsanProtocolVerifyChecksum o h payload (some fresh) =
      decide (byteSum (checksumInput o h (payload.getD [])) % 2 ^ 32 = h.checksum.toNat) := by
  unfold xsanProtocolVerifyChecksum
  rw [if_neg hc]
  dsimp only
  rw [checksumDataBuf_eq o { h with checksum := 0 } payload fresh hp, checksumInput, Bool.eq_iff_iff,
    beq_iff_eq, decide_eq_true_iff, ← UInt32.toNat_inj, toNat_calculateChecksum]

section Verify

variable {o} {h : XsanMessageHeader} {payload : Option (List UInt8)}

/-- A matching sum is accepted whenever the buffer is allocated. -/
theorem verify_eq_isSome (hp : (payload.getD []).length = h.payloadLength.toNat) (hc : h.checksum ≠ 0)
    (heq : byteSum (checksumInput o h (payload.getD [])) % 2 ^ 32 = h.checksum.toNat)
    (checksumBuf : Option (ℕ → UInt8)) :
    xsanProtocolVerifyChecksum o h payload checksumBuf = checksumBuf.isSome := by
  cases checksumBuf with
  | none => rw [verify_none, decide_eq_false hc]; rfl
  | some fresh => rw [verify_some o h payload fresh hp hc, decide_eq_true heq]; rfl

/-- A sum below `2^32` other than the checksum is rejected. -/
theorem verify_eq_false (hp : (payload.getD []).length = h.payloadLength.toNat) (hc : h.checksum ≠ 0)
    (hlt : byteSum (checksumInput o h (payload.getD [])) < 2 ^ 32)
    (hne : byteSum (checksumInput o h (payload.getD [])) ≠ h.checksum.toNat)
    (checksumBuf : Option (ℕ → UInt8)) :
    xsanProtocolVerifyChecksum o h payload checksumBuf = false := by
  cases checksumBuf with
  | none => rw [verify_none, decide_eq_false hc]
  | some fresh => rw [verify_some o h payload fresh hp hc, Nat.mod_eq_of_lt hlt, decide_eq_false hne]

end Verify

/-! ## Bounds of the sum -/

/-- The checksum input of a payload within the limit sums to less than
`2^32`: at most `255 * (24 + 2^24)` bytes' worth. -/
theorem byteSum_checksumInput_lt (h : XsanMessageHeader) {p : List UInt8}
    (hp : p.length ≤ xsanProtocolMaxPayloadSize) :
    byteSum (checksumInput o h p) < 2 ^ 32 := by
  have hle := byteSum_le (checksumInput o h p)
  have hlen : (checksumInput o h p).length = xsanMessageHeaderSize + p.length := by
    simp [checksumInput]
  rw [hlen] at hle
  unfold xsanMessageHeaderSize at hle
  unfold xsanProtocolMaxPayloadSize at hp
  omega

/-- The four magic bytes alone sum to 314. -/
theorem magic_le_byteSum_checksumInput {h : XsanMessageHeader} (hm : h.magic = xsanProtocolMagic)
    (p : List UInt8) : 314 ≤ byteSum (checksumInput o h p) := by
  have hmagic : byteSum (toBE 4 xsanProtocolMagic.toNat) = 314 := by decide
  simp only [checksumInput, serialize_layout, byteSum_append, hm]
  omega

/-! ## Changing one byte -/

theorem bytesAt_set_of_lt (l : List UInt8) {j off : ℕ} (w : ℕ) (hj : j < off) (b : UInt8) :
    bytesAt (l.set j b) off w = bytesAt l off w := by
  rw [bytesAt, bytesAt, List.drop_set_of_lt hj]

theorem bytesAt_set_of_le (l : List UInt8) {j off w : ℕ} (hj : off + w ≤ j) (b : UInt8) :
    bytesAt (l.set j b) off w = bytesAt l off w := by
  rw [bytesAt, bytesAt, List.drop_set, if_neg (by omega), List.take_set_of_le (by omega)]

/-- Zeroing the checksum field zeroes the last four bytes. -/
theorem serialize_checksum_zero (h : XsanMessageHeader) :
    xsanProtocolHeaderSerialize o { h with checksum := 0 } =
      (xsanProtocolHeaderSerialize o h).take 20 ++ [0, 0, 0, 0] := by
  simp only [serialize_layout]
  simp [List.take_append, List.take_of_length_le]
  rfl

/-- The first 20 bytes of the checksum input are those of the header. -/
theorem getElem?_checksumInput (h : XsanMessageHeader) (p : List UInt8) {j : ℕ} (hj : j < 20) :
    (checksumInput o h p)[j]? = (xsanProtocolHeaderSerialize o h)[j]? := by
  rw [checksumInput, serialize_checksum_zero, List.append_assoc,
    List.getElem?_append_left (by simp [xsanMessageHeaderSize]; omega), List.getElem?_take_of_lt hj]

/-- A byte of the serialized magic, type, version or transaction id changed
and read back: the checksum and the payload length are those of the original
header, and the checksum input has that one byte changed. -/
theorem headerOfBytes_set (h : XsanMessageHeader) {j : ℕ} (hj : j < 8 ∨ 12 ≤ j ∧ j < 20) (b : UInt8)
    (p : List UInt8) :
    (headerOfBytes ((xsanProtocolHeaderSerialize o h).set j b)).checksum = h.checksum ∧
      (headerOfBytes ((xsanProtocolHeaderSerialize o h).set j b)).payloadLength = h.payloadLength ∧
      checksumInput o (headerOfBytes ((xsanProtocolHeaderSerialize o h).set j b)) p =
        (checksumInput o h p).set j b := by
  have hj20 : j < 20 := by omega
  have hlen : ((xsanProtocolHeaderSerialize o h).set j b).length = xsanMessageHeaderSize := by simp
  refine ⟨?_, ?_, ?_⟩
  · conv_rhs => rw [← headerOfBytes_serialize o h]
    simp only [headerOfBytes, bytesAt_set_of_lt _ 4 (by omega : j < 20)]
  · conv_rhs => rw [← headerOfBytes_serialize o h]
    rcases hj with hj | hj
    · simp only [headerOfBytes, bytesAt_set_of_lt _ 4 (by omega : j < 8)]
    · simp only [headerOfBytes, bytesAt_set_of_le _ (by omega : 8 + 4 ≤ j)]
  · have htake : ((xsanProtocolHeaderSerialize o h).take 20).length = 20 := by simp [xsanMessageHeaderSize]
    rw [checksumInput, checksumInput, serialize_checksum_zero, serialize_checksum_zero,
      serialize_headerOfBytes o _ hlen, List.take_set, List.append_assoc, List.append_assoc,
      List.set_append_left _ _ (by omega)]

/-! ## Messages whose checksum is right -/

/-- A message as the constructors build it: the magic set, the payload of the
length the header gives and within the limit, and the checksum the byte sum
of the checksum input. -/
structure ChecksummedMessage (m : XsanMessage) : Prop where
  magic_eq : m.header.magic = xsanProtocolMagic
  length_payload : m.payload.length = m.header.payloadLength.toNat
  payload_le : m.payload.length ≤ xsanProtocolMaxPayloadSize
  checksum_eq : m.header.checksum.toNat = byteSum (checksumInput o m.header m.payload) % 2 ^ 32

/-- What the checksum of a message guarantees: the message verifies whenever
the verifier's buffer is allocated, and changing one byte of its payload or
of its serialized magic, type, version or transaction id makes it fail. -/
structure ChecksumSound (m : XsanMessage) : Prop where
  verifies : ∀ checksumBuf, xsanProtocolVerifyChecksum o m.header m.payloadPtr checksumBuf = checksumBuf.isSome
  payload_byte_changed : ∀ (i : ℕ) (hi : i < m.payload.length) (b : UInt8), b ≠ m.payload[i] →
    ∀ checksumBuf, xsanProtocolVerifyChecksum o m.header (some (m.payload.set i b)) checksumBuf = false
  header_byte_changed : ∀ j : ℕ, j < 8 ∨ 12 ≤ j ∧ j < 20 → ∀ b : UInt8,
    (xsanProtocolHeaderSerialize o m.header)[j]? ≠ some b →
    ∀ checksumBuf, xsanProtocolVerifyChecksum o (headerOfBytes ((xsanProtocolHeaderSerialize o m.header).set j b))
      m.payloadPtr checksumBuf = false

namespace ChecksummedMessage

variable {o} {m : XsanMessage}

/-- The sum never wraps, so the checksum is the sum itself. -/
theorem checksum_eq_byteSum (hm : ChecksummedMessage o m) :
    m.header.checksum.toNat = byteSum (checksumInput o m.header m.payload) := by
  rw [hm.checksum_eq, Nat.mod_eq_of_lt (byteSum_checksumInput_lt o _ hm.payload_le)]

/-- So it is never zero, which would turn verification off. -/
theorem checksum_ne_zero (hm : ChecksummedMessage o m) : m.header.checksum ≠ 0 := by
  intro h0
  have hpos := magic_le_byteSum_checksumInput o hm.magic_eq m.payload
  have hsum := hm.checksum_eq_byteSum
  rw [h0] at hsum
  simp at hsum
  omega

theorem length_payloadPtr (hm : ChecksummedMessage o m) :
    (m.payloadPtr.getD []).length = m.header.payloadLength.toNat := by
  rw [XsanMessage.payloadPtr, payloadPtrOf_getD, hm.length_payload]

theorem verifies (hm : ChecksummedMessage o m) (checksumBuf : Option (ℕ → UInt8)) :
    xsanProtocolVerifyChecksum o m.header m.payloadPtr checksumBuf = checksumBuf.isSome := by
  refine verify_eq_isSome hm.length_payloadPtr hm.checksum_ne_zero ?_ checksumBuf
  rw [XsanMessage.payloadPtr, payloadPtrOf_getD, hm.checksum_eq]

theorem payload_byte_changed (hm : ChecksummedMessage o m) (i : ℕ) (hi : i < m.payload.length) (b : UInt8)
    (hb : b ≠ m.payload[i]) (checksumBuf : Option (ℕ → UInt8)) :
    xsanProtocolVerifyChecksum o m.header (some (m.payload.set i b)) checksumBuf = false := by
  have hlen : (m.payload.set i b).length ≤ xsanProtocolMaxPayloadSize := by
    rw [List.length_set]; exact hm.payload_le
  have hlt : byteSum (checksumInput o m.header ((some (m.payload.set i b)).getD [])) < 2 ^ 32 :=
    byteSum_checksumInput_lt o _ hlen
  refine verify_eq_false ?_ hm.checksum_ne_zero hlt ?_ checksumBuf
  · rw [Option.getD_some, List.length_set, hm.length_payload]
  · -- only the payload's share of the sum moves
    have hne := byteSum_set_ne m.payload hi hb
    rw [Option.getD_some, hm.checksum_eq_byteSum, checksumInput, checksumInput, byteSum_append,
      byteSum_append]
    omega

theorem header_byte_changed (hm : ChecksummedMessage o m) (j : ℕ) (hj : j < 8 ∨ 12 ≤ j ∧ j < 20)
    (b : UInt8) (hb : (xsanProtocolHeaderSerialize o m.header)[j]? ≠ some b)
    (checksumBuf : Option (ℕ → UInt8)) :
    xsanProtocolVerifyChecksum o (headerOfBytes ((xsanProtocolHeaderSerialize o m.header).set j b))
      m.payloadPtr checksumBuf = false := by
  obtain ⟨hcs, hpl, hinput⟩ := headerOfBytes_set o m.header hj b m.payload
  have hj20 : j < 20 := by omega
  have hjlen : j < (checksumInput o m.header m.payload).length := by
    simp [checksumInput, xsanMessageHeaderSize]; omega
  -- byte `j` of the checksum input is byte `j` of the serialized header
  have hold : (checksumInput o m.header m.payload)[j] ≠ b := by
    intro heq
    apply hb
    rw [← getElem?_checksumInput o m.header m.payload hj20, List.getElem?_eq_getElem hjlen, heq]
  have hptr : m.payloadPtr.getD [] = m.payload := payloadPtrOf_getD m.payload
  refine verify_eq_false ?_ (hcs ▸ hm.checksum_ne_zero) ?_ ?_ checksumBuf
  · rw [hpl, hm.length_payloadPtr]
  · rw [hptr]; exact byteSum_checksumInput_lt o _ hm.payload_le
  · rw [hptr, hinput, hcs, hm.checksum_eq_byteSum]
    exact byteSum_set_ne _ hjlen (Ne.symm hold)

theorem sound (hm : ChecksummedMessage o m) : ChecksumSound o m where
  verifies := hm.verifies
  payload_byte_changed := hm.payload_byte_changed
  header_byte_changed := hm.header_byte_changed

end ChecksummedMessage

/-! ## The constructors -/

omit o in
theorem toNat_ofNat_of_le_max {n : ℕ} (hn : n ≤ xsanProtocolMaxPayloadSize) : (UInt32.ofNat n).toNat = n :=
  UInt32.toNat_ofNat_of_lt' (by unfold xsanProtocolMaxPayloadSize at hn; unfold UInt32.size; omega)

omit o in
/-- The two copies put the structured part and then the additional data
side by side, filling the payload, when each pointer is `NULL` only for an
empty part. -/
theorem copyPayloadParts_eq (buf : List UInt8) (structuredPayload additionalData : Option (List UInt8))
    (hbuf : buf.length = (structuredPayload.getD []).length + (additionalData.getD []).length) :
    copyPayloadParts buf structuredPayload (structuredPayload.getD []).length additionalData
        (additionalData.getD []).length =
      structuredPayload.getD [] ++ additionalData.getD [] := by
  -- `ptr` ends past the structured part whether or not it was copied
  have hptr : (if structuredPayload.isSome ∧ (structuredPayload.getD []).length > 0 then
      (structuredPayload.getD []).length else 0) = (structuredPayload.getD []).length := by
    cases structuredPayload with
    | none => rfl
    | some s =>
      simp only [Option.isSome_some, Option.getD_some, true_and]
      split <;> omega
  dsimp only [copyPayloadParts]
  rw [hptr, copyIfSet_getD, copyIfSet_getD, memcpyAt_zero, memcpyAt_after_prefix,
    List.drop_eq_nil_of_le, List.append_nil]
  simp [hbuf]

/-- What `xsan_protocol_message_create_with_data` returns for a structured part
and additional data given with their own lengths: the message
`messageSetChecksum` builds from the initialised header and the two parts
side by side, when the record and (for a non-empty payload) the payload can
be allocated. -/
theorem createWithData_eq (type : ℕ) (transactionId : UInt64) (structuredPayload additionalData : Option (List UInt8))
    (hlen : (structuredPayload.getD []).length + (additionalData.getD []).length ≤ xsanProtocolMaxPayloadSize)
    (alloc : MessageAlloc) :
    xsanProtocolMessageCreateWithData o type transactionId structuredPayload
        (UInt32.ofNat (structuredPayload.getD []).length) additionalData
        (UInt32.ofNat (additionalData.getD []).length) alloc =
      if alloc.msg = true ∧ (structuredPayload.getD [] ++ additionalData.getD [] = [] ∨ alloc.payload.isSome) then
        messageSetChecksum o
          (xsanProtocolHeaderInit type
            (UInt32.ofNat (structuredPayload.getD [] ++ additionalData.getD []).length) transactionId)
          (payloadPtrOf (structuredPayload.getD [] ++ additionalData.getD [])) alloc.checksumBuf
      else none := by
  have hs := toNat_ofNat_of_le_max (Nat.le_trans (Nat.le_add_right _ _) hlen)
  have hd := toNat_ofNat_of_le_max (Nat.le_trans (Nat.le_add_left _ _) hlen)
  have htot := toNat_ofNat_of_le_max hlen
  unfold xsanProtocolMessageCreateWithData
  simp only [hs, hd, List.length_append]
  rw [if_neg (by omega)]
  cases hmsg : alloc.msg with
  | false => simp
  | true =>
    simp only [Bool.not_true, Bool.false_eq_true, if_false, true_and, htot]
    by_cases hnil : structuredPayload.getD [] ++ additionalData.getD [] = []
    · -- an empty payload is never allocated
      have h0 : (structuredPayload.getD []).length + (additionalData.getD []).length = 0 := by
        rw [← List.length_append, hnil, List.length_nil]
      rw [if_neg (by omega), if_pos (Or.inl hnil), hnil, payloadPtrOf, if_pos rfl]
    · have hpos : (structuredPayload.getD []).length + (additionalData.getD []).length > 0 := by
        rw [← List.length_append]; exact List.length_pos_iff.mpr hnil
      rw [if_pos hpos]
      cases hpay : alloc.payload with
      | none => simp [hnil]
      | some fresh =>
        dsimp only
        rw [copyPayloadParts_eq _ _ _ (by simp), if_pos (Or.inr Option.isSome_some), payloadPtrOf, if_neg hnil]

/-- The additional data is read only up to its length. -/
theorem createWithData_take (type : ℕ) (transactionId : UInt64) (structuredPayload : Option (List UInt8))
    (structuredPayloadLen : UInt32) (d : List UInt8) (additionalDataLen : UInt32) (alloc : MessageAlloc) :
    xsanProtocolMessageCreateWithData o type transactionId structuredPayload structuredPayloadLen
        (some (d.take additionalDataLen.toNat)) additionalDataLen alloc =
      xsanProtocolMessageCreateWithData o type transactionId structuredPayload structuredPayloadLen (some d)
        additionalDataLen alloc := by
  simp only [xsanProtocolMessageCreateWithData, copyPayloadParts, copyIfSet_take]

/-- What `xsan_protocol_message_create` returns for a payload given with its
own length. -/
theorem create_eq (type : ℕ) (transactionId : UInt64) (payloadData : Option (List UInt8))
    (hlen : (payloadData.getD []).length ≤ xsanProtocolMaxPayloadSize) (alloc : MessageAlloc) :
    xsanProtocolMessageCreate o type transactionId payloadData (UInt32.ofNat (payloadData.getD []).length) alloc =
      if alloc.msg = true ∧ (payloadData.getD [] = [] ∨ alloc.payload.isSome) then
        messageSetChecksum o
          (xsanProtocolHeaderInit type (UInt32.ofNat (payloadData.getD []).length) transactionId)
          (payloadPtrOf (payloadData.getD [])) alloc.checksumBuf
      else none := by
  have hp := toNat_ofNat_of_le_max hlen
  unfold xsanProtocolMessageCreate
  rw [hp, if_neg (by omega)]
  cases hmsg : alloc.msg with
  | false => simp
  | true =>
    simp only [Bool.not_true, Bool.false_eq_true, if_false, true_and]
    cases payloadData with
    | none => simp [payloadPtrOf]
    | some p =>
      cases p with
      | nil => simp [payloadPtrOf]
      | cons x xs =>
        cases hpay : alloc.payload with
        | none => simp
        | some fresh =>
          -- the whole payload is copied over the fresh block
          simp [payloadPtrOf, memcpyAt_zero, List.drop_eq_nil_of_le]

/-- The last step builds a checksummed message carrying the payload, from an
initialised header of the payload's length. -/
theorem messageSetChecksum_checksummed {h : XsanMessageHeader} {p : List UInt8}
    {checksumBuf : Option (ℕ → UInt8)} {m : XsanMessage} (hmagic : h.magic = xsanProtocolMagic)
    (hc : h.checksum = 0) (hp : p.length = h.payloadLength.toNat) (hle : p.length ≤ xsanProtocolMaxPayloadSize)
    (hm : messageSetChecksum o h (payloadPtrOf p) checksumBuf = some m) :
    m.payload = p ∧ m.header.payloadLength = h.payloadLength ∧ ChecksummedMessage o m := by
  cases checksumBuf with
  | none => cases hm
  | some fresh =>
    cases hm
    have hptr := payloadPtrOf_getD p
    -- zeroing the stored checksum gives the initialised header back
    have hzero : ∀ c : UInt32, { ({ h with checksum := c } : XsanMessageHeader) with checksum := 0 } = h := by
      intro c
      cases h
      simp_all
    refine ⟨hptr, rfl, ⟨hmagic, ?_, ?_, ?_⟩⟩
    · rw [hptr]; exact hp
    · rw [hptr]; exact hle
    · dsimp only
      rw [checksumInput, hzero, hptr, toNat_calculateChecksum,
        checksumDataBuf_eq o h (payloadPtrOf p) fresh (by rw [hptr]; exact hp), hptr]

/-- The step both constructors end with, for the payload `p` they put
together: it returns a message when the allocations succeed, and any message
it returns carries `p`, its length and a sound checksum. -/
theorem checksummedCreate_spec (type : ℕ) (transactionId : UInt64) {p : List UInt8}
    (hlen : p.length ≤ xsanProtocolMaxPayloadSize) (alloc : MessageAlloc) :
    (alloc.Ok → (if alloc.msg = true ∧ (p = [] ∨ alloc.payload.isSome) then
        messageSetChecksum o (xsanProtocolHeaderInit type (UInt32.ofNat p.length) transactionId)
          (payloadPtrOf p) alloc.checksumBuf
      else none).isSome) ∧
    ∀ m, (if alloc.msg = true ∧ (p = [] ∨ alloc.payload.isSome) then
        messageSetChecksum o (xsanProtocolHeaderInit type (UInt32.ofNat p.length) transactionId)
          (payloadPtrOf p) alloc.checksumBuf
      else none) = some m →
      m.header.payloadLength.toNat = p.length ∧ m.payload = p ∧ ChecksumSound o m := by
  have hp := toNat_ofNat_of_le_max hlen
  refine ⟨fun ⟨hmsg, hpay, hbuf⟩ => ?_, fun m hm => ?_⟩
  · obtain ⟨fresh, hfresh⟩ := Option.isSome_iff_exists.mp hbuf
    rw [if_pos ⟨hmsg, Or.inr hpay⟩, hfresh]
    rfl
  · split at hm
    · obtain ⟨hpayload, hpl, hsum⟩ := messageSetChecksum_checksummed o rfl rfl hp.symm hlen hm
      refine ⟨?_, hpayload, hsum.sound⟩
      rw [hpl]
      exact hp
    · cases hm

/-- Both constructors build, from any type and transaction id, a message
carrying exactly the payload they are given whose checksum verifies and
catches every change of one payload byte or one byte of the serialized magic,
type, version or transaction id; and they return one whenever their
allocations succeed. A part is given as a pointer and the length of what it
points to, `NULL` standing for an empty part. -/
theorem message_create_self_consistent (type : ℕ) (transactionId : UInt64) (alloc : MessageAlloc) :
    (∀ structuredPayload additionalData : Option (List UInt8),
      (structuredPayload.getD []).length + (additionalData.getD []).length ≤ xsanProtocolMaxPayloadSize →
      (alloc.Ok → (xsanProtocolMessageCreateWithData o type transactionId structuredPayload
        (UInt32.ofNat (structuredPayload.getD []).length) additionalData
        (UInt32.ofNat (additionalData.getD []).length) alloc).isSome) ∧
      ∀ m, xsanProtocolMessageCreateWithData o type transactionId structuredPayload
          (UInt32.ofNat (structuredPayload.getD []).length) additionalData
          (UInt32.ofNat (additionalData.getD []).length) alloc = some m →
        m.header.payloadLength.toNat = (structuredPayload.getD []).length + (additionalData.getD []).length ∧
        m.payload = structuredPayload.getD [] ++ additionalData.getD [] ∧ ChecksumSound o m) ∧
    (∀ payloadData : Option (List UInt8), (payloadData.getD []).length ≤ xsanProtocolMaxPayloadSize →
      (alloc.Ok → (xsanProtocolMessageCreate o type transactionId payloadData
        (UInt32.ofNat (payloadData.getD []).length) alloc).isSome) ∧
      ∀ m, xsanProtocolMessageCreate o type transactionId payloadData
          (UInt32.ofNat (payloadData.getD []).length) alloc = some m →
        m.header.payloadLength.toNat = (payloadData.getD []).length ∧ m.payload = payloadData.getD [] ∧
          ChecksumSound o m) := by
  constructor
  · intro structuredPayload additionalData hlen
    -- the two parts are copied one after the other: one payload of their joint length
    have hlen' : (structuredPayload.getD [] ++ additionalData.getD []).length ≤ xsanProtocolMaxPayloadSize := by
      rw [List.length_append]; exact hlen
    rw [createWithData_eq o type transactionId structuredPayload additionalData hlen alloc,
      ← List.length_append]
    exact checksummedCreate_spec o type transactionId hlen' alloc
  · intro payloadData hlen
    rw [create_eq o type transactionId payloadData hlen alloc]
    exact checksummedCreate_spec o type transactionId hlen alloc

/-- A replica request's three header bytes and two data bytes, on a
little-endian host with every allocation succeeding. -/
theorem message_create_self_consistent_small :
    ∃ m, xsanProtocolMessageCreateWithData .little 600 1000 (some [1, 2, 3])
        (UInt32.ofNat ((some [1, 2, 3]).getD []).length) (some [4, 5]) (UInt32.ofNat ((some [4, 5]).getD []).length)
        ⟨true, some fun _ => 0, some fun _ => 0⟩ = some m ∧
      m.payload = [1, 2, 3, 4, 5] ∧ ChecksumSound .little m := by
  refine ⟨_, rfl, ?_⟩
  exact ((message_create_self_consistent .little 600 1000 ⟨true, some fun _ => 0, some fun _ => 0⟩).1
    (some [1, 2, 3]) (some [4, 5]) (by decide)).2 _ rfl |>.2

end Checksum

end Xsan
