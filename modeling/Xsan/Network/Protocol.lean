import Xsan.Lib.ByteOrder
import Xsan.Common.Error
import Mathlib.Tactic.NormNum

/-!
# The message header codec

Models of `xsan_protocol_header_serialize` and
`xsan_protocol_header_deserialize` (`src/network/protocol.c`, lines 47–126)
and of the 64-bit swap `local_htonll` (lines 14–30) they use for the
transaction id. The host byte order is a parameter `o`: `htons`/`htonl` are
the POSIX conversions, the identity on a big-endian host and a byte reversal
on a little-endian one, and `memcpy` of a host integer writes its memory
image `o.encode`. The null-pointer checks of both functions are left out:
the model has no null pointers.

`xsan_protocol_header_deserialize` fills the caller's header field by field
and returns as soon as a check fails, so the model takes the old header and
returns the status together with the header as the function leaves it.

Results:
* `serialize_layout`: the 24 bytes are the fields big-endian at offsets
  0/4/6/8/12/20, on either host byte order.
* `deserialize_fields`: on every buffer the decoded fields are the big-endian
  values of those slices, and the function accepts exactly when the magic is
  right and the length is at most `XSAN_PROTOCOL_MAX_PAYLOAD_SIZE`.
* `localHtonll_eq_hton`: the two-`htonl` composition is the 64-bit `hton`.
-/

namespace Xsan

open Bytes

/-- `XSAN_PROTOCOL_MAGIC`, the ASCII bytes `"XSAN"` read big-endian. -/
def xsanProtocolMagic : UInt32 := 0x5853414E

/-- `XSAN_PROTOCOL_VERSION`. -/
def xsanProtocolVersion : UInt16 := 1

/-- `XSAN_PROTOCOL_MAX_PAYLOAD_SIZE`, 16 MiB. -/
def xsanProtocolMaxPayloadSize : ℕ := 16 * 1024 * 1024

/-- `XSAN_MESSAGE_HEADER_SIZE`: the packed header is 4 + 2 + 2 + 4 + 8 + 4 bytes. -/
def xsanMessageHeaderSize : ℕ := 24

/-- `xsan_message_header_t` (`src/include/xsan_protocol.h`, lines 137–147). -/
structure XsanMessageHeader where
  magic : UInt32
  type : UInt16
  version : UInt16
  payloadLength : UInt32
  transactionId : UInt64
  checksum : UInt32
  deriving DecidableEq, Repr

/-- A header the code sends: the magic is set and the payload is within the
protocol limit. -/
def XsanMessageHeader.Valid (h : XsanMessageHeader) : Prop :=
  h.magic = xsanProtocolMagic ∧ h.payloadLength.toNat ≤ xsanProtocolMaxPayloadSize

instance (h : XsanMessageHeader) : Decidable h.Valid :=
  inferInstanceAs (Decidable (_ ∧ _))

section Codec

variable (o : ByteOrder)

/-- `htons` on a host of byte order `o`. -/
def htons (x : UInt16) : UInt16 := UInt16.ofNat (hton o 2 x.toNat)

/-- `htonl` on a host of byte order `o`. -/
def htonl (x : UInt32) : UInt32 := UInt32.ofNat (hton o 4 x.toNat)

/-- `ntohs`: the same map as `htons`. -/
def ntohs (x : UInt16) : UInt16 := htons o x

/-- `ntohl`: the same map as `htonl`. -/
def ntohl (x : UInt32) : UInt32 := htonl o x

/-- `local_htonll` (lines 17–24): on a little-endian host the two 32-bit
halves are each passed through `htonl` and exchanged; on a big-endian host it
is the identity. `ntohll` is `#define`d to the same function. -/
def localHtonll : ByteOrder → UInt64 → UInt64
  | .little, val =>
    ((htonl .little (val &&& 0xFFFFFFFF).toUInt32).toUInt64 <<< 32) |||
      (htonl .little (val >>> 32).toUInt32).toUInt64
  | .big, val => val

/-- The `w` bytes that `memcpy(&x, ptr, w)` copies when `ptr` is `off` bytes
into `buffer`. -/
def bytesAt (buffer : List UInt8) (off w : ℕ) : List UInt8 := (buffer.drop off).take w

/-- `xsan_protocol_header_serialize` (lines 47–73): each field converted to
network order and copied in declaration order. -/
def xsanProtocolHeaderSerialize (header : XsanMessageHeader) : List UInt8 :=
  o.encode 4 (htonl o header.magic).toNat ++
  o.encode 2 (htons o header.type).toNat ++
  o.encode 2 (htons o header.version).toNat ++
  o.encode 4 (htonl o header.payloadLength).toNat ++
  o.encode 8 (localHtonll o header.transactionId).toNat ++
  o.encode 4 (htonl o header.checksum).toNat

/-- `xsan_protocol_header_deserialize` (lines 75–126) on the bytes at
`buffer`, writing into `header`. The version test of lines 104–108 has an
empty body and is left out. -/
def xsanProtocolHeaderDeserialize (buffer : List UInt8) (header : XsanMessageHeader) :
    ℤ × XsanMessageHeader :=
  let header := { header with magic := ntohl o (UInt32.ofNat (o.decode (bytesAt buffer 0 4))) }
  if header.magic ≠ xsanProtocolMagic then (xsanErrorInvalidParam, header)
  else
    let header := { header with
      type := ntohs o (UInt16.ofNat (o.decode (bytesAt buffer 4 2)))
      version := ntohs o (UInt16.ofNat (o.decode (bytesAt buffer 6 2)))
      payloadLength := ntohl o (UInt32.ofNat (o.decode (bytesAt buffer 8 4))) }
    if header.payloadLength.toNat > xsanProtocolMaxPayloadSize then (xsanErrorInvalidParam, header)
    else
      (xsanOk, { header with
        transactionId := localHtonll o (UInt64.ofNat (o.decode (bytesAt buffer 12 8)))
        checksum := ntohl o (UInt32.ofNat (o.decode (bytesAt buffer 20 4))) })

/-! ## The conversions -/

theorem toNat_htons (x : UInt16) : (htons o x).toNat = hton o 2 x.toNat := by
  have h := hton_lt o 2 x.toNat
  rw [htons, UInt16.toNat_ofNat']
  exact Nat.mod_eq_of_lt (by norm_num at h ⊢; exact h)

theorem toNat_htonl (x : UInt32) : (htonl o x).toNat = hton o 4 x.toNat := by
  have h := hton_lt o 4 x.toNat
  rw [htonl, UInt32.toNat_ofNat']
  exact Nat.mod_eq_of_lt (by norm_num at h ⊢; exact h)

/-- The hand-written swap is the 64-bit `hton`: on a little-endian host the
halves `val mod 2³²` and `val / 2³²` are each reversed and exchanged, which
is `hton_little_add` at `4 + 4`. -/
theorem localHtonll_eq_hton (x : UInt64) : localHtonll o x = UInt64.ofNat (hton o 8 x.toNat) := by
  cases o with
  | big =>
    apply UInt64.toNat_inj.mp
    have hx := x.toNat_lt
    rw [localHtonll, UInt64.toNat_ofNat', hton, ByteOrder.decode, ofBE_toBE]
    norm_num at hx ⊢
  | little =>
    apply UInt64.toNat_inj.mp
    have hx := x.toNat_lt
    have hlo : ((x &&& 0xFFFFFFFF).toUInt32).toNat = x.toNat % 2 ^ 32 := by
      simp only [UInt64.toNat_toUInt32, UInt64.toNat_and]
      rw [show (0xFFFFFFFF : UInt64).toNat = 2 ^ 32 - 1 from rfl, Nat.and_two_pow_sub_one_eq_mod]
      omega
    have hhi : ((x >>> 32).toUInt32).toNat = x.toNat / 2 ^ 32 := by
      simp only [UInt64.toNat_toUInt32, UInt64.toNat_shiftRight, Nat.shiftRight_eq_div_pow,
        show (32 : UInt64).toNat = 32 from rfl]
      norm_num at hx ⊢
      omega
    have hsplit := hton_little_add 4 4 x.toNat
    have hA := hton_lt .little 4 (x.toNat % 2 ^ 32)
    have hB := hton_lt .little 4 (x.toNat / 2 ^ 32)
    have hmod : hton .little 4 (x.toNat % 2 ^ 32) = hton .little 4 x.toNat := by
      rw [show (2 : ℕ) ^ 32 = 256 ^ 4 by norm_num, hton_mod]
    rw [localHtonll, UInt64.toNat_or, UInt64.toNat_shiftLeft, UInt32.toNat_toUInt64,
      UInt32.toNat_toUInt64, toNat_htonl, toNat_htonl, hlo, hhi, UInt64.toNat_ofNat', hsplit, hmod,
      show (32 : UInt64).toNat = 32 from rfl]
    rw [hmod] at hA
    generalize hton .little 4 x.toNat = A at hA ⊢
    generalize hton .little 4 (x.toNat / 2 ^ 32) = B at hB ⊢
    norm_num at hA hB ⊢
    -- the two halves occupy disjoint bit ranges, so `|||` is `+`
    have hor : A <<< 32 ||| B = A <<< 32 + B :=
      (Nat.shiftLeft_add_eq_or_of_lt (by norm_num; exact hB) A).symm
    rw [Nat.mod_eq_of_lt (by rw [Nat.shiftLeft_eq]; omega), hor, Nat.shiftLeft_eq]
    omega

theorem toNat_localHtonll (x : UInt64) : (localHtonll o x).toNat = hton o 8 x.toNat := by
  have h := hton_lt o 8 x.toNat
  rw [localHtonll_eq_hton, UInt64.toNat_ofNat']
  exact Nat.mod_eq_of_lt (by norm_num at h ⊢; exact h)

/-- Storing a converted field writes the field big-endian. -/
theorem encode_htons (x : UInt16) : o.encode 2 (htons o x).toNat = toBE 2 x.toNat := by
  rw [toNat_htons, encode_hton]

theorem encode_htonl (x : UInt32) : o.encode 4 (htonl o x).toNat = toBE 4 x.toNat := by
  rw [toNat_htonl, encode_hton]

theorem encode_localHtonll (x : UInt64) :
    o.encode 8 (localHtonll o x).toNat = toBE 8 x.toNat := by
  rw [toNat_localHtonll, encode_hton]

/-- Reading `w` bytes and converting them gives their big-endian value. -/
theorem ntohs_decode (l : List UInt8) (hl : l.length = 2) :
    ntohs o (UInt16.ofNat (o.decode l)) = UInt16.ofNat (ofBE l) := by
  have h := o.decode_lt l
  rw [hl] at h
  have hd : (UInt16.ofNat (o.decode l)).toNat = o.decode l := by
    rw [UInt16.toNat_ofNat']; exact Nat.mod_eq_of_lt (by norm_num at h ⊢; exact h)
  rw [ntohs, htons, hd, ← hl, hton_decode]

theorem ntohl_decode (l : List UInt8) (hl : l.length = 4) :
    ntohl o (UInt32.ofNat (o.decode l)) = UInt32.ofNat (ofBE l) := by
  have h := o.decode_lt l
  rw [hl] at h
  have hd : (UInt32.ofNat (o.decode l)).toNat = o.decode l := by
    rw [UInt32.toNat_ofNat']; exact Nat.mod_eq_of_lt (by norm_num at h ⊢; exact h)
  rw [ntohl, htonl, hd, ← hl, hton_decode]

theorem localHtonll_decode (l : List UInt8) (hl : l.length = 8) :
    localHtonll o (UInt64.ofNat (o.decode l)) = UInt64.ofNat (ofBE l) := by
  have h := o.decode_lt l
  rw [hl] at h
  have hd : (UInt64.ofNat (o.decode l)).toNat = o.decode l := by
    rw [UInt64.toNat_ofNat']; exact Nat.mod_eq_of_lt (by norm_num at h ⊢; exact h)
  rw [localHtonll_eq_hton, hd, ← hl, hton_decode]

/-! ## The layout -/

/-- The header whose fields are the big-endian values of the six slices of
`b` at offsets 0/4/6/8/12/20. -/
def headerOfBytes (b : List UInt8) : XsanMessageHeader where
  magic := UInt32.ofNat (ofBE (bytesAt b 0 4))
  type := UInt16.ofNat (ofBE (bytesAt b 4 2))
  version := UInt16.ofNat (ofBE (bytesAt b 6 2))
  payloadLength := UInt32.ofNat (ofBE (bytesAt b 8 4))
  transactionId := UInt64.ofNat (ofBE (bytesAt b 12 8))
  checksum := UInt32.ofNat (ofBE (bytesAt b 20 4))

theorem length_bytesAt {b : List UInt8} {off w : ℕ} (h : off + w ≤ b.length) :
    (bytesAt b off w).length = w := by
  simp [bytesAt]; omega

/-- The serialized header is the six fields big-endian, in declaration order. -/
theorem serialize_layout (h : XsanMessageHeader) :
    xsanProtocolHeaderSerialize o h =
      toBE 4 h.magic.toNat ++ toBE 2 h.type.toNat ++ toBE 2 h.version.toNat ++
        toBE 4 h.payloadLength.toNat ++ toBE 8 h.transactionId.toNat ++ toBE 4 h.checksum.toNat := by
  simp only [xsanProtocolHeaderSerialize, encode_htonl, encode_htons, encode_localHtonll]

@[simp] theorem length_serialize (h : XsanMessageHeader) :
    (xsanProtocolHeaderSerialize o h).length = xsanMessageHeaderSize := by
  simp [serialize_layout, xsanMessageHeaderSize]

/-- On a buffer of at least 24 bytes the decoder reads `headerOfBytes`,
stopping after the magic or after the length when that field is rejected. -/
theorem deserialize_fields (b : List UInt8) (hb : xsanMessageHeaderSize ≤ b.length)
    (hdr : XsanMessageHeader) :
    xsanProtocolHeaderDeserialize o b hdr =
      if (headerOfBytes b).magic ≠ xsanProtocolMagic then
        (xsanErrorInvalidParam, { hdr with magic := (headerOfBytes b).magic })
      else if (headerOfBytes b).payloadLength.toNat > xsanProtocolMaxPayloadSize then
        (xsanErrorInvalidParam, { hdr with
          magic := (headerOfBytes b).magic, type := (headerOfBytes b).type,
          version := (headerOfBytes b).version,
          payloadLength := (headerOfBytes b).payloadLength })
      else (xsanOk, headerOfBytes b) := by
  unfold xsanMessageHeaderSize at hb
  simp only [xsanProtocolHeaderDeserialize, headerOfBytes,
    ntohl_decode o _ (length_bytesAt (by omega : 0 + 4 ≤ b.length)),
    ntohs_decode o _ (length_bytesAt (by omega : 4 + 2 ≤ b.length)),
    ntohs_decode o _ (length_bytesAt (by omega : 6 + 2 ≤ b.length)),
    ntohl_decode o _ (length_bytesAt (by omega : 8 + 4 ≤ b.length)),
    localHtonll_decode o _ (length_bytesAt (by omega : 12 + 8 ≤ b.length)),
    ntohl_decode o _ (length_bytesAt (by omega : 20 + 4 ≤ b.length))]
  rfl

theorem deserialize_ok_iff (b : List UInt8) (hb : xsanMessageHeaderSize ≤ b.length)
    (hdr : XsanMessageHeader) :
    (xsanProtocolHeaderDeserialize o b hdr).1 = xsanOk ↔ (headerOfBytes b).Valid := by
  rw [deserialize_fields o b hb, XsanMessageHeader.Valid]
  split_ifs with h1 h2 <;> simp_all [xsanOk, xsanErrorInvalidParam]

theorem deserialize_of_ok (b : List UInt8) (hb : xsanMessageHeaderSize ≤ b.length)
    (hdr : XsanMessageHeader) (hok : (xsanProtocolHeaderDeserialize o b hdr).1 = xsanOk) :
    (xsanProtocolHeaderDeserialize o b hdr).2 = headerOfBytes b := by
  rw [deserialize_fields o b hb] at hok ⊢
  split_ifs at hok ⊢ <;> simp_all [xsanOk, xsanErrorInvalidParam]

/-! ## Round trips -/

theorem toBE_ofNat16 (s : List UInt8) (hs : s.length = 2) :
    toBE 2 (UInt16.ofNat (ofBE s)).toNat = s := by
  rw [UInt16.toNat_ofNat', show (2 : ℕ) ^ 16 = 256 ^ 2 by norm_num, toBE_mod, ← hs, toBE_ofBE]

theorem toBE_ofNat32 (s : List UInt8) (hs : s.length = 4) :
    toBE 4 (UInt32.ofNat (ofBE s)).toNat = s := by
  rw [UInt32.toNat_ofNat', show (2 : ℕ) ^ 32 = 256 ^ 4 by norm_num, toBE_mod, ← hs, toBE_ofBE]

theorem toBE_ofNat64 (s : List UInt8) (hs : s.length = 8) :
    toBE 8 (UInt64.ofNat (ofBE s)).toNat = s := by
  rw [UInt64.toNat_ofNat', show (2 : ℕ) ^ 64 = 256 ^ 8 by norm_num, toBE_mod, ← hs, toBE_ofBE]

theorem bytesAt_append_bytesAt (b : List UInt8) (off m n : ℕ) :
    bytesAt b off m ++ bytesAt b (off + m) n = bytesAt b off (m + n) := by
  rw [bytesAt, bytesAt, bytesAt, List.take_add, List.drop_drop]

/-- Reading back what was written gives every field back. -/
theorem headerOfBytes_serialize (h : XsanMessageHeader) :
    headerOfBytes (xsanProtocolHeaderSerialize o h) = h := by
  have h1 := h.magic.toNat_lt
  have h2 := h.type.toNat_lt
  have h3 := h.version.toNat_lt
  have h4 := h.payloadLength.toNat_lt
  have h5 := h.transactionId.toNat_lt
  have h6 := h.checksum.toNat_lt
  simp [headerOfBytes, serialize_layout, bytesAt, List.drop_append, ofBE_toBE,
    List.drop_eq_nil_of_le, List.take_of_length_le,
    Nat.mod_eq_of_lt, *]

/-- Writing the fields read from a 24-byte buffer gives the buffer back. -/
theorem serialize_headerOfBytes (b : List UInt8) (hb : b.length = xsanMessageHeaderSize) :
    xsanProtocolHeaderSerialize o (headerOfBytes b) = b := by
  unfold xsanMessageHeaderSize at hb
  rw [serialize_layout, headerOfBytes]
  dsimp only
  rw [toBE_ofNat32 _ (length_bytesAt (by omega)), toBE_ofNat16 _ (length_bytesAt (by omega)),
    toBE_ofNat16 _ (length_bytesAt (by omega)), toBE_ofNat32 _ (length_bytesAt (by omega)),
    toBE_ofNat64 _ (length_bytesAt (by omega)), toBE_ofNat32 _ (length_bytesAt (by omega))]
  -- the six slices are adjacent and cover the whole buffer
  rw [bytesAt_append_bytesAt b 0 4 2, bytesAt_append_bytesAt b 0 6 2, bytesAt_append_bytesAt b 0 8 4,
    bytesAt_append_bytesAt b 0 12 8, bytesAt_append_bytesAt b 0 20 4, bytesAt,
    List.drop_zero, List.take_of_length_le (by omega)]

/-- The magic test on the decoded header is a test of the first four bytes. -/
theorem headerOfBytes_magic_iff (b : List UInt8) (hb : xsanMessageHeaderSize ≤ b.length) :
    (headerOfBytes b).magic = xsanProtocolMagic ↔ b.take 4 = [0x58, 0x53, 0x41, 0x4E] := by
  unfold xsanMessageHeaderSize at hb
  have hs : (bytesAt b 0 4).length = 4 := length_bytesAt (by omega)
  have htake : bytesAt b 0 4 = b.take 4 := by rw [bytesAt, List.drop_zero]
  constructor
  · intro h
    have := toBE_ofNat32 _ hs
    rw [← htake, ← this]
    simp only [headerOfBytes] at h
    rw [h]
    decide
  · intro h
    simp only [headerOfBytes]
    rw [htake, h]
    decide

theorem toNat_payloadLength_headerOfBytes (b : List UInt8) (hb : xsanMessageHeaderSize ≤ b.length) :
    (headerOfBytes b).payloadLength.toNat = ofBE (bytesAt b 8 4) := by
  unfold xsanMessageHeaderSize at hb
  have h := ofBE_lt (bytesAt b 8 4)
  rw [length_bytesAt (by omega)] at h
  simp only [headerOfBytes, UInt32.toNat_ofNat']
  exact Nat.mod_eq_of_lt (by norm_num at h ⊢; exact h)

theorem bytesAt_append {b : List UInt8} (rest : List UInt8) {off w : ℕ} (h : off + w ≤ b.length) :
    bytesAt (b ++ rest) off w = bytesAt b off w := by
  simp only [bytesAt, List.drop_append_of_le_length (by omega : off ≤ b.length)]
  rw [List.take_append_of_le_length (by simp; omega)]

/-- Only the first 24 bytes of a buffer are read. -/
theorem headerOfBytes_append (b rest : List UInt8) (hb : xsanMessageHeaderSize ≤ b.length) :
    headerOfBytes (b ++ rest) = headerOfBytes b := by
  unfold xsanMessageHeaderSize at hb
  simp only [headerOfBytes, bytesAt_append rest (by omega : 0 + 4 ≤ b.length),
    bytesAt_append rest (by omega : 4 + 2 ≤ b.length), bytesAt_append rest (by omega : 6 + 2 ≤ b.length),
    bytesAt_append rest (by omega : 8 + 4 ≤ b.length), bytesAt_append rest (by omega : 12 + 8 ≤ b.length),
    bytesAt_append rest (by omega : 20 + 4 ≤ b.length)]

/-- Each field of the serialized header sits big-endian at its offset. -/
theorem serialize_offsets (h : XsanMessageHeader) :
    (xsanProtocolHeaderSerialize o h).length = 24 ∧
    bytesAt (xsanProtocolHeaderSerialize o h) 0 4 = toBE 4 h.magic.toNat ∧
    bytesAt (xsanProtocolHeaderSerialize o h) 4 2 = toBE 2 h.type.toNat ∧
    bytesAt (xsanProtocolHeaderSerialize o h) 6 2 = toBE 2 h.version.toNat ∧
    bytesAt (xsanProtocolHeaderSerialize o h) 8 4 = toBE 4 h.payloadLength.toNat ∧
    bytesAt (xsanProtocolHeaderSerialize o h) 12 8 = toBE 8 h.transactionId.toNat ∧
    bytesAt (xsanProtocolHeaderSerialize o h) 20 4 = toBE 4 h.checksum.toNat := by
  simp [serialize_layout, bytesAt, List.drop_append, List.drop_eq_nil_of_le, List.take_of_length_le]

/-- The header codec is a bijection between valid headers and the 24-byte
buffers the decoder accepts: decoding an encoded valid header gives it back,
whatever the output header held before; the encoding puts every field
big-endian at its fixed offset; a 24-byte buffer is accepted exactly when it
starts with `"XSAN"` and its length field is within the limit; and encoding
what was accepted gives the buffer back. On either host byte order. -/
theorem header_codec_bijection (o : ByteOrder) :
    (∀ h : XsanMessageHeader, h.Valid → ∀ hdr : XsanMessageHeader,
      xsanProtocolHeaderDeserialize o (xsanProtocolHeaderSerialize o h) hdr = (xsanOk, h) ∧
      (xsanProtocolHeaderSerialize o h).length = 24 ∧
      bytesAt (xsanProtocolHeaderSerialize o h) 0 4 = toBE 4 h.magic.toNat ∧
      bytesAt (xsanProtocolHeaderSerialize o h) 4 2 = toBE 2 h.type.toNat ∧
      bytesAt (xsanProtocolHeaderSerialize o h) 6 2 = toBE 2 h.version.toNat ∧
      bytesAt (xsanProtocolHeaderSerialize o h) 8 4 = toBE 4 h.payloadLength.toNat ∧
      bytesAt (xsanProtocolHeaderSerialize o h) 12 8 = toBE 8 h.transactionId.toNat ∧
      bytesAt (xsanProtocolHeaderSerialize o h) 20 4 = toBE 4 h.checksum.toNat) ∧
    (∀ (b : Vector UInt8 24) (hdr : XsanMessageHeader),
      ((xsanProtocolHeaderDeserialize o b.toList hdr).1 = xsanOk ↔
        b.toList.take 4 = [0x58, 0x53, 0x41, 0x4E] ∧
          ofBE (bytesAt b.toList 8 4) ≤ xsanProtocolMaxPayloadSize) ∧
      ((xsanProtocolHeaderDeserialize o b.toList hdr).1 = xsanOk →
        xsanProtocolHeaderSerialize o (xsanProtocolHeaderDeserialize o b.toList hdr).2 =
          b.toList)) := by
  constructor
  · intro h hv hdr
    have hlen : xsanMessageHeaderSize ≤ (xsanProtocolHeaderSerialize o h).length := by
      rw [length_serialize]
    have hok : (xsanProtocolHeaderDeserialize o (xsanProtocolHeaderSerialize o h) hdr).1 = xsanOk := by
      rw [deserialize_ok_iff o _ hlen, headerOfBytes_serialize]
      exact hv
    refine ⟨Prod.ext hok ?_, serialize_offsets o h⟩
    rw [deserialize_of_ok o _ hlen hdr hok, headerOfBytes_serialize]
  · intro b hdr
    have hb : b.toList.length = xsanMessageHeaderSize := by simp [xsanMessageHeaderSize]
    refine ⟨?_, fun hok => ?_⟩
    · rw [deserialize_ok_iff o _ hb.ge, XsanMessageHeader.Valid, headerOfBytes_magic_iff _ hb.ge,
        toNat_payloadLength_headerOfBytes _ hb.ge]
    · rw [deserialize_of_ok o _ hb.ge hdr hok, serialize_headerOfBytes o _ hb]

/-- The header the replica write path sends, round-tripped on a little-endian
host. -/
theorem header_codec_bijection_replica_write :
    (⟨xsanProtocolMagic, 600, 1, 40, 1000, 0⟩ : XsanMessageHeader).Valid ∧
      xsanProtocolHeaderDeserialize .little
        (xsanProtocolHeaderSerialize .little ⟨xsanProtocolMagic, 600, 1, 40, 1000, 0⟩)
        ⟨0, 0, 0, 0, 0, 0⟩ = (xsanOk, ⟨xsanProtocolMagic, 600, 1, 40, 1000, 0⟩) :=
  ⟨by decide, ((header_codec_bijection .little).1 _ (by decide) _).1⟩

end Codec

end Xsan
