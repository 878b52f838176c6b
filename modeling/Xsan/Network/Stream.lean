import Xsan.Network.NodeComm
import Xsan.Common.ErrorMap

/-!
# The message stream of a connection

`xsan_node_comm_send_msg` (`src/network/xsan_node_comm.c`, lines 417–477)
writes a message as its serialized header followed by its payload, with one
`spdk_sock_writev`; `_process_received_data_for_connection` (lines 281–370,
modelled in `Xsan.Network.NodeComm`) cuts the bytes that arrive back into
messages. This module puts the two ends together.

The sender's inputs are the checks it makes before writing and what
`spdk_sock_writev` returns (`SendEnv`); the receiver's are the chunks
`spdk_sock_recv` returns. A callback is a value of a type `κ` standing for the
pair `(send_cb, cb_arg)`, and `NULL` is `none`. Nothing in the tree clears
`current_send_cb` once a partial write has stored it.

The receiver is followed through the bytes it has read and not yet handed out
(`pendingBytes`): between two recv calls they are a prefix of the rest of the
stream too short to hold the next message (`RecvIdle`), and the capacity of the
buffer is `4120 · 2^i` for some `i ≤ 11`, so a message of at most
`4120 · 2¹¹` payload bytes never makes the buffer grow past its cap.

Results:
* `recvChunks_stream_prefix`: whatever prefix of a stream of messages has
  arrived, in whatever chunks, the receiver has handed out exactly the messages
  that arrived whole, in order and each once, and holds the rest.
* `sendRun_delivers_sent`: along any run of sends in which no write is
  partial, the receiver hands out exactly the messages whose send returned
  `XSAN_OK`, however the bytes are cut.
* `sendRun_stuck_after_partial_write`: a partial write with a callback returns
  `XSAN_OK`, and from then on no send writes a byte or runs a callback.
-/

namespace Xsan

open Bytes

section Wire

variable (o : ByteOrder)

/-- The bytes `xsan_node_comm_send_msg` passes to `spdk_sock_writev`
(lines 439–451): the serialized header, then `payload_length` bytes of the
payload when `payload_length > 0` and `payload` is set. (A payload shorter than
`payload_length` would be read past its end; the model writes what there is.) -/
def xsanMessageWire (msg : XsanMessage) : List UInt8 :=
  xsanProtocolHeaderSerialize o msg.header ++
    if msg.header.payloadLength.toNat > 0 ∧ msg.payload ≠ [] then
      msg.payload.take msg.header.payloadLength.toNat
    else []

/-- The bytes of a list of messages sent one after the other. -/
def streamBytes (ms : List XsanMessage) : List UInt8 :=
  (ms.map (xsanMessageWire o)).flatten

@[simp] theorem streamBytes_nil : streamBytes o [] = [] := rfl

@[simp] theorem streamBytes_cons (m : XsanMessage) (ms : List XsanMessage) :
    streamBytes o (m :: ms) = xsanMessageWire o m ++ streamBytes o ms := rfl

@[simp] theorem streamBytes_append (ms ms' : List XsanMessage) :
    streamBytes o (ms ++ ms') = streamBytes o ms ++ streamBytes o ms' := by
  simp [streamBytes]

/-- The largest capacity the receive buffer reaches, `4120 · 2¹¹`: doubling it
once more passes `recvBufCapacityLimit`. -/
def recvBufMaxCapacity : ℕ := xsanCommInitialRecvBufSize * 2 ^ 11

/-- A message the stream carries intact: its header has the magic and
announces the payload it has, and the payload fits the largest receive buffer. -/
structure XsanMessage.Deliverable (m : XsanMessage) : Prop where
  magic : m.header.magic = xsanProtocolMagic
  length : m.header.payloadLength.toNat = m.payload.length
  fits : m.payload.length ≤ recvBufMaxCapacity

theorem XsanMessage.Deliverable.valid {m : XsanMessage} (hm : m.Deliverable) : m.header.Valid := by
  refine ⟨hm.magic, ?_⟩
  have := hm.fits
  rw [hm.length]
  unfold recvBufMaxCapacity xsanCommInitialRecvBufSize xsanMessageHeaderSize at this
  unfold xsanProtocolMaxPayloadSize
  omega

/-- The wire form of a deliverable message is its header and its payload. -/
theorem wire_of_deliverable {m : XsanMessage} (hm : m.Deliverable) :
    xsanMessageWire o m = xsanProtocolHeaderSerialize o m.header ++ m.payload := by
  rw [xsanMessageWire, hm.length]
  by_cases h0 : m.payload = []
  · rw [if_neg (by simp [h0]), h0]
  · rw [if_pos ⟨List.length_pos_of_ne_nil h0, h0⟩, List.take_length]

theorem length_wire {m : XsanMessage} (hm : m.Deliverable) :
    (xsanMessageWire o m).length = xsanMessageHeaderSize + m.payload.length := by
  rw [wire_of_deliverable o hm, List.length_append, length_serialize]

end Wire

/-! ## Prefixes of a stream -/

/-- A prefix of `l ++ r` at least as long as `l` is `l` followed by a prefix
of `r`. -/
theorem prefix_append_of_length_le {α : Type} {b l r : List α} (hp : b <+: l ++ r)
    (hlen : l.length ≤ b.length) : ∃ b', b = l ++ b' ∧ b' <+: r := by
  obtain ⟨t, ht⟩ := hp
  have htake : b.take l.length = l := by
    have := congrArg (List.take l.length) ht
    rwa [List.take_append_of_le_length hlen, List.take_left' rfl] at this
  have hdrop : b.drop l.length ++ t = r := by
    have := congrArg (List.drop l.length) ht
    rwa [List.drop_append_of_le_length hlen, List.drop_left' rfl] at this
  refine ⟨b.drop l.length, ?_, t, hdrop⟩
  conv_lhs => rw [← List.take_append_drop l.length b, htake]

section Header

variable (o : ByteOrder)

/-- Two serialized headers at the front of one stream are the same header. -/
theorem serialize_append_prefix {h h' : XsanMessageHeader} {b p : List UInt8}
    (hp : xsanProtocolHeaderSerialize o h ++ b <+: xsanProtocolHeaderSerialize o h' ++ p) :
    h = h' ∧ b <+: p := by
  obtain ⟨t, ht⟩ := hp
  rw [List.append_assoc] at ht
  obtain ⟨h1, h2⟩ := List.append_inj ht (by rw [length_serialize, length_serialize])
  refine ⟨?_, t, h2⟩
  rw [← headerOfBytes_serialize o h, h1, headerOfBytes_serialize]

end Header

/-! ## The receiver on a stream -/

section Receive

variable (o : ByteOrder) (specificHandlers : ℕ → Bool) (destroys : Dispatch → ℕ → Bool)

/-- The bytes of the stream a connection has read and not yet handed out: the
header it holds, serialized again, and its buffer. -/
def pendingBytes (c : XsanConnectionCtx) : List UInt8 :=
  (if c.headerFullyReceived then xsanProtocolHeaderSerialize o c.partialRecvHeader else []) ++
    c.recvBuf

theorem pendingBytes_of_not_pending {c : XsanConnectionCtx} (hh : c.headerFullyReceived = false) :
    pendingBytes o c = c.recvBuf := by
  simp [pendingBytes, hh]

theorem pendingBytes_of_pending {c : XsanConnectionCtx} (hh : c.headerFullyReceived = true) :
    pendingBytes o c = xsanProtocolHeaderSerialize o c.partialRecvHeader ++ c.recvBuf := by
  simp [pendingBytes, hh]

/-- Data appended to the buffer is appended to the pending bytes. -/
theorem pendingBytes_append (c : XsanConnectionCtx) (cap : ℕ) (data : List UInt8) :
    pendingBytes o { c with recvBufCapacity := cap, recvBuf := c.recvBuf ++ data } =
      pendingBytes o c ++ data := by
  simp [pendingBytes]

theorem pendingBytes_eq_nil {c : XsanConnectionCtx} (h : pendingBytes o c = []) :
    c.headerFullyReceived = false ∧ c.recvBuf = [] := by
  cases hh : c.headerFullyReceived
  · rw [pendingBytes_of_not_pending o hh] at h
    exact ⟨rfl, h⟩
  · rw [pendingBytes_of_pending o hh] at h
    have := congrArg List.length h
    rw [List.length_append, length_serialize, List.length_nil] at this
    unfold xsanMessageHeaderSize at this
    omega

/-- Where the inner loop stops: with no header held, less than a header
buffered; with one held, less than its payload. -/
def RecvParked (c : XsanConnectionCtx) : Prop :=
  if c.headerFullyReceived then c.recvBuf.length < c.partialRecvHeader.payloadLength.toNat
  else c.recvBuf.length < xsanMessageHeaderSize

/-- A connection between two passes of the outer loop. -/
structure RecvIdle (c : XsanConnectionCtx) : Prop where
  parked : RecvParked c
  capacity : ∃ i ≤ 11, c.recvBufCapacity = xsanCommInitialRecvBufSize * 2 ^ i
  fits : c.recvBuf.length ≤ c.recvBufCapacity
  live : c.useAfterFree = false

theorem recvIdle_create (appMsgHandlerCb : Bool) : RecvIdle (createConnectionCtx appMsgHandlerCb) where
  parked := by simp [RecvParked, createConnectionCtx, xsanMessageHeaderSize]
  capacity := ⟨0, le_of_lt (by norm_num), by simp [createConnectionCtx]⟩
  fits := by simp [createConnectionCtx]
  live := rfl

/-- A message with the route it is handed to. -/
def routed (c : XsanConnectionCtx) (m : XsanMessage) : Dispatch × XsanMessage :=
  (dispatchRoute specificHandlers c m.header.type, m)

/-- The route reads only whether the connection has a generic handler. -/
theorem routed_congr {c c' : XsanConnectionCtx} (h : c'.appMsgHandlerCb = c.appMsgHandlerCb) :
    routed specificHandlers c' = routed specificHandlers c := by
  funext m
  simp only [routed, dispatchRoute, h]

/-- The route `m` takes on `c` leaves it alive: the loop may read it again. -/
def Keeps (c : XsanConnectionCtx) (m : XsanMessage) : Prop :=
  destroyedByDispatch destroys (dispatchRoute specificHandlers c m.header.type) m = false

theorem keeps_congr {c c' : XsanConnectionCtx} (h : c'.appMsgHandlerCb = c.appMsgHandlerCb)
    (m : XsanMessage) : Keeps specificHandlers destroys c' m ↔ Keeps specificHandlers destroys c m := by
  simp only [Keeps, dispatchRoute, h]

/-- What a run of the inner loop did: it handed out `delivered` and stopped
parked, keeping the bytes that follow them; it never lengthens the buffer and
leaves the capacity and the handler alone. -/
structure Drained (c c' : XsanConnectionCtx) (delivered : List XsanMessage) : Prop where
  parked : RecvParked c'
  bytes : streamBytes o delivered ++ pendingBytes o c' = pendingBytes o c
  buf_le : c'.recvBuf.length ≤ c.recvBuf.length
  capacity : c'.recvBufCapacity = c.recvBufCapacity
  handler : c'.appMsgHandlerCb = c.appMsgHandlerCb
  useAfterFree : c'.useAfterFree = c.useAfterFree

theorem Drained.stop {c : XsanConnectionCtx} (h : RecvParked c) : Drained o c c [] :=
  ⟨h, by simp, le_rfl, rfl, rfl, rfl⟩

variable {o} in
/-- A run that starts from a state holding the same bytes in no more buffer. -/
theorem Drained.of_pendingBytes_eq {c c₁ c' : XsanConnectionCtx} {delivered : List XsanMessage}
    (h : Drained o c₁ c' delivered) (hpb : pendingBytes o c₁ = pendingBytes o c)
    (hbuf : c₁.recvBuf.length ≤ c.recvBuf.length) (hcap : c₁.recvBufCapacity = c.recvBufCapacity)
    (hcb : c₁.appMsgHandlerCb = c.appMsgHandlerCb) (huaf : c₁.useAfterFree = c.useAfterFree) :
    Drained o c c' delivered :=
  ⟨h.parked, h.bytes.trans hpb, h.buf_le.trans hbuf, h.capacity.trans hcap, h.handler.trans hcb,
    h.useAfterFree.trans huaf⟩

/-- The inner loop, run on a context whose pending bytes are a prefix of the
stream of `ms` and whose routes keep every message of `ms`, hands out the first
messages of `ms` and stops parked. A held header announces a payload (the loop
only leaves one held with a partial payload). -/
def DrainsStream (ms : List XsanMessage) : Prop :=
  ∀ c : XsanConnectionCtx, (∀ m ∈ ms, Keeps specificHandlers destroys c m) →
    (c.headerFullyReceived = true → 0 < c.partialRecvHeader.payloadLength.toNat) →
    pendingBytes o c <+: streamBytes o ms →
    ∃ j c', drainRecvBuf o specificHandlers destroys c =
        ((ms.take j).map (routed specificHandlers c), some c') ∧
      Drained o c c' (ms.take j)

/-- With nothing left of the stream the buffer is empty. -/
theorem drainsStream_nil : DrainsStream o specificHandlers destroys [] := by
  intro c _ _ hpre
  obtain ⟨hh, hbuf⟩ := pendingBytes_eq_nil o (List.prefix_nil.mp hpre)
  refine ⟨0, c, by rw [drain_empty o specificHandlers destroys c hbuf]; rfl, Drained.stop o ?_⟩
  simp [RecvParked, hh, hbuf, xsanMessageHeaderSize]

variable {o specificHandlers destroys}

/-- The payload half of the loop body with the payload of `m` all buffered, on
a route that keeps `m`: `m` is handed out and the loop goes on with the bytes
after it. -/
theorem deliver_stream {m : XsanMessage} {ms : List XsanMessage} (hm : m.Deliverable)
    (ih : DrainsStream o specificHandlers destroys ms) {c : XsanConnectionCtx}
    (hkeep : ∀ m' ∈ m :: ms, Keeps specificHandlers destroys c m')
    (hh : c.headerFullyReceived = true) (hhdr : c.partialRecvHeader = m.header)
    (hpre : c.recvBuf <+: m.payload ++ streamBytes o ms) (hle : m.payload.length ≤ c.recvBuf.length) :
    ∃ j c', payloadHalf o specificHandlers destroys c =
        (((m :: ms).take j).map (routed specificHandlers c), some c') ∧
      Drained o c c' ((m :: ms).take j) := by
  obtain ⟨rest, hsplit, hrest⟩ := prefix_append_of_length_le hpre hle
  have hlen : c.partialRecvHeader.payloadLength.toNat = m.payload.length := by rw [hhdr, hm.length]
  have htake : c.recvBuf.take m.payload.length = m.payload := by rw [hsplit, List.take_left' rfl]
  have hdrop : c.recvBuf.drop m.payload.length = rest := by rw [hsplit, List.drop_left' rfl]
  -- the message the loop builds is `m`, and its route keeps it
  have hmsg : (⟨c.partialRecvHeader, c.recvBuf.take c.partialRecvHeader.payloadLength.toNat⟩ :
      XsanMessage) = m := by
    rw [hlen, htake, hhdr]
  have hkept := hkeep m List.mem_cons_self
  rw [Keeps, ← hhdr, ← hmsg] at hkept
  rw [payloadHalf_kept o specificHandlers destroys c (by omega) hkept]
  dsimp only
  -- the loop goes on from the bytes after `m`, with no header held
  obtain ⟨j, c', hrun, hd⟩ := ih { c with recvBuf := rest, headerFullyReceived := false }
    (fun m' hm' => (keeps_congr specificHandlers destroys rfl m').mpr (hkeep m' (List.mem_cons_of_mem _ hm')))
    (fun h => absurd h (by simp)) (by rwa [pendingBytes_of_not_pending o rfl])
  refine ⟨j + 1, c', ?_, ?_⟩
  · rw [hlen, htake, hdrop, hrun, hhdr, routed_congr specificHandlers rfl]
    rfl
  · refine ⟨hd.parked, ?_, ?_, hd.capacity, hd.handler, hd.useAfterFree⟩
    · have hb := hd.bytes
      have hpb : pendingBytes o { c with recvBuf := rest, headerFullyReceived := false } = rest :=
        pendingBytes_of_not_pending o rfl
      rw [hpb] at hb
      rw [List.take_succ_cons, streamBytes_cons, List.append_assoc, hb, pendingBytes_of_pending o hh,
        hhdr, wire_of_deliverable o hm, hsplit, List.append_assoc]
    · have := hd.buf_le
      have hr : rest.length ≤ c.recvBuf.length := by rw [hsplit, List.length_append]; omega
      exact this.trans hr

/-- A held header is the header of the next message of the stream. -/
theorem pending_header_eq {m : XsanMessage} {ms : List XsanMessage} (hm : m.Deliverable)
    {c : XsanConnectionCtx} (hh : c.headerFullyReceived = true)
    (hpre : pendingBytes o c <+: streamBytes o (m :: ms)) :
    c.partialRecvHeader = m.header ∧ c.recvBuf <+: m.payload ++ streamBytes o ms := by
  rw [pendingBytes_of_pending o hh, streamBytes_cons, wire_of_deliverable o hm,
    List.append_assoc] at hpre
  exact serialize_append_prefix o hpre

/-- A buffer with a whole header at the front of the stream holds the header of
the next message. -/
theorem buffered_header_eq {m : XsanMessage} {ms : List XsanMessage} (hm : m.Deliverable)
    {b : List UInt8} (hpre : b <+: streamBytes o (m :: ms)) (hlen : xsanMessageHeaderSize ≤ b.length) :
    b = xsanProtocolHeaderSerialize o m.header ++ b.drop xsanMessageHeaderSize ∧
      headerOfBytes b = m.header ∧ b.drop xsanMessageHeaderSize <+: m.payload ++ streamBytes o ms := by
  rw [streamBytes_cons, wire_of_deliverable o hm, List.append_assoc] at hpre
  obtain ⟨rest, hsplit, hrest⟩ :=
    prefix_append_of_length_le hpre (by rw [length_serialize]; exact hlen)
  have hdrop : b.drop xsanMessageHeaderSize = rest := by
    rw [hsplit, List.drop_left' (length_serialize o m.header)]
  refine ⟨by rw [hdrop]; exact hsplit, ?_, by rw [hdrop]; exact hrest⟩
  rw [hsplit, headerOfBytes_append _ _ (by rw [length_serialize]), headerOfBytes_serialize]

/-- The loop body on a stream whose next message is `m`, one case per branch:
a partial header, a whole header (then its payload), a held header with an
empty, a whole or a partial payload. -/
theorem drainsStream_cons {m : XsanMessage} {ms : List XsanMessage} (hm : m.Deliverable)
    (ih : DrainsStream o specificHandlers destroys ms) :
    DrainsStream o specificHandlers destroys (m :: ms) := by
  intro c hkeep hc hpre
  cases hh : c.headerFullyReceived with
  | false =>
    rw [pendingBytes_of_not_pending o hh] at hpre
    by_cases hlen : c.recvBuf.length < xsanMessageHeaderSize
    · refine ⟨0, c, by rw [drain_partial_header o specificHandlers destroys c hh hlen]; rfl,
        Drained.stop o ?_⟩
      simpa [RecvParked, hh] using hlen
    obtain ⟨hsplit, hhdr, hrest⟩ := buffered_header_eq hm hpre (by omega)
    rw [drain_header o specificHandlers destroys c hh (by omega) (by rw [hhdr]; exact hm.valid), hhdr]
    -- the context once the header is decoded holds the same bytes
    have hpb : pendingBytes o { c with
        partialRecvHeader := m.header
        headerFullyReceived := true
        recvBuf := c.recvBuf.drop xsanMessageHeaderSize } = pendingBytes o c := by
      rw [pendingBytes_of_pending o rfl, pendingBytes_of_not_pending o hh]
      exact hsplit.symm
    have hbuf : (c.recvBuf.drop xsanMessageHeaderSize).length ≤ c.recvBuf.length := by simp
    by_cases hle : m.payload.length ≤ (c.recvBuf.drop xsanMessageHeaderSize).length
    · obtain ⟨j, c', hrun, hd⟩ := deliver_stream hm ih (c := { c with
        partialRecvHeader := m.header
        headerFullyReceived := true
        recvBuf := c.recvBuf.drop xsanMessageHeaderSize })
        (fun m' hm' => (keeps_congr specificHandlers destroys rfl m').mpr (hkeep m' hm')) rfl rfl hrest hle
      exact ⟨j, c', by rw [← routed_congr specificHandlers rfl]; exact hrun,
        hd.of_pendingBytes_eq hpb hbuf rfl rfl rfl⟩
    · rw [payloadHalf_short o specificHandlers destroys _ (by dsimp only; rw [hm.length]; omega)]
      refine ⟨0, _, rfl, (Drained.stop o ?_).of_pendingBytes_eq hpb hbuf rfl rfl rfl⟩
      simp only [RecvParked, if_true]
      rw [hm.length]
      omega
  | true =>
    obtain ⟨hhdr, hbuf⟩ := pending_header_eq hm hh hpre
    by_cases h0 : c.recvBuf = []
    · refine ⟨0, c, by rw [drain_empty o specificHandlers destroys c h0]; rfl, Drained.stop o ?_⟩
      simpa [RecvParked, hh, h0] using hc hh
    by_cases hle : m.payload.length ≤ c.recvBuf.length
    · rw [drain_of_held o specificHandlers destroys c hh h0]
      exact deliver_stream hm ih hkeep hh hhdr hbuf hle
    · have hlt : c.recvBuf.length < c.partialRecvHeader.payloadLength.toNat := by
        rw [hhdr, hm.length]; omega
      refine ⟨0, c, by rw [drain_partial_payload o specificHandlers destroys c hh hlt]; rfl,
        Drained.stop o ?_⟩
      simpa [RecvParked, hh] using hlt

/-- The inner loop on any stream of deliverable messages. -/
theorem drainsStream {ms : List XsanMessage} (hms : ∀ m ∈ ms, m.Deliverable) :
    DrainsStream o specificHandlers destroys ms := by
  induction ms with
  | nil => exact drainsStream_nil o specificHandlers destroys
  | cons m ms ih =>
    exact drainsStream_cons (hms m List.mem_cons_self)
      (ih fun m' hm' => hms m' (List.mem_cons_of_mem m hm'))

/-- A held header announces at most the largest capacity. -/
theorem pending_payload_le {ms : List XsanMessage} (hms : ∀ m ∈ ms, m.Deliverable)
    {c : XsanConnectionCtx} (hpre : pendingBytes o c <+: streamBytes o ms)
    (hh : c.headerFullyReceived = true) :
    c.partialRecvHeader.payloadLength.toNat ≤ recvBufMaxCapacity := by
  cases ms with
  | nil =>
    have := (pendingBytes_eq_nil o (List.prefix_nil.mp hpre)).1
    rw [hh] at this
    exact absurd this (by decide)
  | cons m ms =>
    have hm := hms m List.mem_cons_self
    rw [(pending_header_eq hm hh hpre).1, hm.length]
    exact hm.fits

/-- The capacity check at the top of a pass never closes an idle connection
whose held header is deliverable: a full buffer holds a header whose payload is
longer than the buffer, so the capacity is below the largest and doubles. -/
theorem growRecvBuf_idle {c : XsanConnectionCtx} (hc : RecvIdle c)
    (hpay : c.headerFullyReceived = true →
      c.partialRecvHeader.payloadLength.toNat ≤ recvBufMaxCapacity) :
    ∃ cap, growRecvBuf c = some { c with recvBufCapacity := cap } ∧
      (∃ i ≤ 11, cap = xsanCommInitialRecvBufSize * 2 ^ i) ∧ c.recvBuf.length < cap := by
  obtain ⟨i, hi, hcap⟩ := hc.capacity
  by_cases hlt : c.recvBuf.length < c.recvBufCapacity
  · exact ⟨c.recvBufCapacity, by rw [growRecvBuf_of_lt c hlt], ⟨i, hi, hcap⟩, hlt⟩
  have hfull : c.recvBuf.length = c.recvBufCapacity := le_antisymm hc.fits (by omega)
  have hpos : 0 < c.recvBufCapacity := by
    rw [hcap]; unfold xsanCommInitialRecvBufSize xsanMessageHeaderSize; positivity
  have hparked := hc.parked
  unfold RecvParked at hparked
  by_cases hh : c.headerFullyReceived = true
  · rw [if_pos hh] at hparked
    have hmax := hpay hh
    -- the payload outgrows the full buffer, so the capacity is below the largest
    have hi' : i < 11 := by
      have h2 : 2 ^ i < 2 ^ 11 := by
        unfold recvBufMaxCapacity xsanCommInitialRecvBufSize xsanMessageHeaderSize at hmax
        unfold xsanCommInitialRecvBufSize xsanMessageHeaderSize at hcap
        omega
      exact (Nat.pow_lt_pow_iff_right (by norm_num)).mp h2
    have hdouble : c.recvBufCapacity * 2 = xsanCommInitialRecvBufSize * 2 ^ (i + 1) := by
      rw [hcap, pow_succ]; ring
    have hle : c.recvBufCapacity * 2 ≤ recvBufCapacityLimit := by
      have : 2 ^ (i + 1) ≤ 2 ^ 11 := Nat.pow_le_pow_right (by norm_num) hi'
      rw [hdouble]
      unfold recvBufCapacityLimit xsanCommInitialRecvBufSize xsanProtocolMaxPayloadSize
        xsanMessageHeaderSize
      omega
    exact ⟨c.recvBufCapacity * 2, growRecvBuf_double c hfull hpos hle, ⟨i + 1, hi', hdouble⟩,
      by omega⟩
  · -- fewer than 24 bytes cannot fill 4120 · 2^i
    rw [if_neg hh] at hparked
    have : 1 ≤ 2 ^ i := Nat.one_le_two_pow
    unfold xsanMessageHeaderSize at hparked
    unfold xsanCommInitialRecvBufSize xsanMessageHeaderSize at hcap
    omega

/-- One pass of the outer loop on a chunk that continues the stream: the
buffer grows if it must, and the inner loop hands out the messages completed
by the chunk. -/
theorem recvChunk_stream {ms : List XsanMessage} (hms : ∀ m ∈ ms, m.Deliverable)
    {c : XsanConnectionCtx} (hkeep : ∀ m ∈ ms, Keeps specificHandlers destroys c m) (hc : RecvIdle c)
    {data : List UInt8}
    (hpre : pendingBytes o c ++ data <+: streamBytes o ms)
    (hroom : ∀ g, growRecvBuf c = some g → data.length ≤ g.recvBufCapacity - g.recvBuf.length) :
    ∃ j c', recvChunk o specificHandlers destroys c data =
        ((ms.take j).map (routed specificHandlers c), some c') ∧
      RecvIdle c' ∧ streamBytes o (ms.take j) ++ pendingBytes o c' = pendingBytes o c ++ data ∧
      c'.appMsgHandlerCb = c.appMsgHandlerCb := by
  have hpre₀ : pendingBytes o c <+: streamBytes o ms := (List.prefix_append _ _).trans hpre
  obtain ⟨cap, hg, hcap, hlt⟩ := growRecvBuf_idle hc (pending_payload_le hms hpre₀)
  have hfit := hroom _ hg
  simp only at hfit
  -- the data is appended to the buffer, keeping the held header
  have hheld : { c with recvBufCapacity := cap, recvBuf := c.recvBuf ++ data }.headerFullyReceived = true →
      0 < c.partialRecvHeader.payloadLength.toNat := by
    intro hh
    have hparked := hc.parked
    simp only [RecvParked, show c.headerFullyReceived = true from hh, if_true] at hparked
    omega
  obtain ⟨j, c', hrun, hd⟩ := drainsStream hms { c with recvBufCapacity := cap, recvBuf := c.recvBuf ++ data }
    (fun m hm => (keeps_congr specificHandlers destroys rfl m).mpr (hkeep m hm)) hheld
    (by rwa [pendingBytes_append])
  refine ⟨j, c', ?_, ⟨hd.parked, ?_, ?_, hd.useAfterFree.trans hc.live⟩, ?_, hd.handler⟩
  · rw [recvChunk_of_grow o specificHandlers destroys hc.live hg]
    exact hrun
  · obtain ⟨i, hi, hcapi⟩ := hcap
    exact ⟨i, hi, by rw [hd.capacity]; exact hcapi⟩
  · have := hd.buf_le
    rw [hd.capacity]
    simp only [List.length_append] at this ⊢
    omega
  · rw [hd.bytes, pendingBytes_append]

/-- The elimination form of `ChunksFit` for a chunk that is read. -/
theorem ChunksFit.cons_elim {c g : XsanConnectionCtx} {data : List UInt8}
    {rest : List (List UInt8)} (h : ChunksFit o specificHandlers destroys c (data :: rest))
    (hg : growRecvBuf c = some g) :
    data ≠ [] ∧ data.length ≤ g.recvBufCapacity - g.recvBuf.length ∧
      ∀ c', (recvChunk o specificHandlers destroys c data).2 = some c' →
        ChunksFit o specificHandlers destroys c' rest := by
  rw [ChunksFit, hg] at h
  obtain ⟨hne, hroom, hrest⟩ := h
  refine ⟨hne, hroom, fun c' hc' => ?_⟩
  rw [hc'] at hrest
  exact hrest

/-- A single chunk that fits the buffer. -/
theorem ChunksFit.single {c g : XsanConnectionCtx} {data : List UInt8}
    (hg : growRecvBuf c = some g) (hne : data ≠ [])
    (hroom : data.length ≤ g.recvBufCapacity - g.recvBuf.length) :
    ChunksFit o specificHandlers destroys c [data] := by
  rw [ChunksFit, hg]
  refine ⟨hne, hroom, ?_⟩
  split
  · trivial
  · rw [ChunksFit.eq_1]
    trivial

/-- The run lemma: from an idle connection, chunks that continue the stream
leave it idle, having handed out the first messages of the stream. -/
theorem recvChunks_stream (chunks : List (List UInt8)) :
    ∀ (c : XsanConnectionCtx) (ms : List XsanMessage), RecvIdle c → (∀ m ∈ ms, m.Deliverable) →
      (∀ m ∈ ms, Keeps specificHandlers destroys c m) →
      pendingBytes o c ++ chunks.flatten <+: streamBytes o ms →
      ChunksFit o specificHandlers destroys c chunks →
      ∃ j c', recvChunks o specificHandlers destroys c chunks =
          ((ms.take j).map (routed specificHandlers c), some c') ∧ RecvIdle c' ∧
        streamBytes o (ms.take j) ++ pendingBytes o c' = pendingBytes o c ++ chunks.flatten ∧
        c'.appMsgHandlerCb = c.appMsgHandlerCb := by
  induction chunks with
  | nil =>
    intro c ms hc _ _ _ _
    exact ⟨0, c, rfl, hc, by simp, rfl⟩
  | cons data rest ih =>
    intro c ms hc hms hkeep hpre hfit
    rw [List.flatten_cons, ← List.append_assoc] at hpre
    have hpre₁ : pendingBytes o c ++ data <+: streamBytes o ms := (List.prefix_append _ _).trans hpre
    have hroom : ∀ g, growRecvBuf c = some g → data.length ≤ g.recvBufCapacity - g.recvBuf.length :=
      fun g hg => (hfit.cons_elim hg).2.1
    obtain ⟨j, c₁, hstep, hc₁, hbytes₁, hcb₁⟩ := recvChunk_stream hms hkeep hc hpre₁ hroom
    -- the rest of the chunks continue the rest of the stream
    have hpre' : pendingBytes o c₁ ++ rest.flatten <+: streamBytes o (ms.drop j) := by
      rw [← List.prefix_append_right_inj (streamBytes o (ms.take j)), ← List.append_assoc, hbytes₁,
        ← streamBytes_append, List.take_append_drop]
      exact hpre
    have hfit' : ChunksFit o specificHandlers destroys c₁ rest := by
      obtain ⟨cap, hg, -, -⟩ := growRecvBuf_idle hc
        (pending_payload_le hms ((List.prefix_append _ _).trans hpre₁))
      exact (hfit.cons_elim hg).2.2 c₁ (by rw [hstep])
    obtain ⟨j', c', hrun, hc', hbytes', hcb'⟩ := ih c₁ (ms.drop j) hc₁
      (fun m hm => hms m (List.mem_of_mem_drop hm))
      (fun m hm => (keeps_congr specificHandlers destroys hcb₁ m).mpr (hkeep m (List.mem_of_mem_drop hm)))
      hpre' hfit'
    refine ⟨j + j', c', ?_, hc', ?_, hcb'.trans hcb₁⟩
    · rw [recvChunks_cons_open o specificHandlers destroys hstep, hrun, routed_congr specificHandlers hcb₁,
        List.take_add, List.map_append]
    · rw [List.take_add, streamBytes_append, List.append_assoc, hbytes', ← List.append_assoc, hbytes₁,
        List.flatten_cons, List.append_assoc]

/-- The bytes a parked connection holds are fewer than the wire form of the
message they begin. -/
theorem pendingBytes_lt_wire {c : XsanConnectionCtx} (hp : RecvParked c) {m : XsanMessage}
    {ms : List XsanMessage} (hm : m.Deliverable) (hpre : pendingBytes o c <+: streamBytes o (m :: ms)) :
    (pendingBytes o c).length < (xsanMessageWire o m).length := by
  rw [length_wire o hm]
  unfold RecvParked at hp
  cases hh : c.headerFullyReceived with
  | false =>
    rw [hh] at hp
    simp only [Bool.false_eq_true, if_false] at hp
    rw [pendingBytes_of_not_pending o hh]
    omega
  | true =>
    rw [hh] at hp
    simp only [if_true] at hp
    rw [(pending_header_eq hm hh hpre).1, hm.length] at hp
    rw [pendingBytes_of_pending o hh, List.length_append, length_serialize]
    omega

/-- After the first `j` messages of a stream, a parked connection holds fewer
bytes than the next message. -/
theorem next_message_incomplete {c' : XsanConnectionCtx} (hp : RecvParked c')
    {ms : List XsanMessage} (hms : ∀ m ∈ ms, m.Deliverable) {j : ℕ}
    (hpre : streamBytes o (ms.take j) ++ pendingBytes o c' <+: streamBytes o ms) :
    ∀ m ∈ (ms.drop j).head?, (pendingBytes o c').length < (xsanMessageWire o m).length := by
  intro m hm
  -- what the connection holds is a prefix of the rest of the stream
  have hrest : pendingBytes o c' <+: streamBytes o (ms.drop j) := by
    rw [← List.prefix_append_right_inj (streamBytes o (ms.take j)), ← streamBytes_append,
      List.take_append_drop]
    exact hpre
  obtain ⟨ms', hcons⟩ : ∃ ms', ms.drop j = m :: ms' := by
    cases hd : ms.drop j with
    | nil => rw [hd] at hm; simp at hm
    | cons m₀ ms' =>
      rw [hd, List.head?_cons, Option.mem_def, Option.some.injEq] at hm
      exact ⟨ms', by rw [hm]⟩
  have hm' : m.Deliverable := hms m (List.mem_of_mem_drop (by rw [hcons]; exact List.mem_cons_self))
  rw [hcons] at hrest
  exact pendingBytes_lt_wire hp hm' hrest

/-- Whatever prefix of a stream of deliverable messages has arrived, in
whatever chunks that fit the buffer, a new connection whose handlers keep the
messages they are given has handed out exactly the messages that arrived whole,
in order and each once, with their routes; it holds the bytes that follow them,
and those do not make the next message whole. -/
theorem recvChunks_stream_prefix (appMsgHandlerCb : Bool) (ms : List XsanMessage)
    (hms : ∀ m ∈ ms, m.Deliverable)
    (hkeep : ∀ m ∈ ms, Keeps specificHandlers destroys (createConnectionCtx appMsgHandlerCb) m)
    (chunks : List (List UInt8)) (hpre : chunks.flatten <+: streamBytes o ms)
    (hfit : ChunksFit o specificHandlers destroys (createConnectionCtx appMsgHandlerCb) chunks) :
    ∃ j c', recvChunks o specificHandlers destroys (createConnectionCtx appMsgHandlerCb) chunks =
        ((ms.take j).map (routed specificHandlers (createConnectionCtx appMsgHandlerCb)), some c') ∧
      streamBytes o (ms.take j) ++ pendingBytes o c' = chunks.flatten ∧
      ∀ m ∈ (ms.drop j).head?, (pendingBytes o c').length < (xsanMessageWire o m).length := by
  have hpb : pendingBytes o (createConnectionCtx appMsgHandlerCb) = [] := rfl
  obtain ⟨j, c', hrun, hc', hbytes, -⟩ := recvChunks_stream chunks _ ms
    (recvIdle_create appMsgHandlerCb) hms hkeep (by rwa [hpb, List.nil_append]) hfit
  rw [hpb, List.nil_append] at hbytes
  exact ⟨j, c', hrun, hbytes, next_message_incomplete hc'.parked hms (by rw [hbytes]; exact hpre)⟩

/-- A replica write request of three payload bytes. -/
def sampleMessage : XsanMessage := ⟨⟨xsanProtocolMagic, 600, 1, 3, 7, 0⟩, [1, 2, 3]⟩

theorem sampleMessage_deliverable : sampleMessage.Deliverable := ⟨rfl, rfl, by decide⟩

/-- The first ten bytes of the message's header have arrived, on a connection
whose generic handler keeps it. -/
theorem recvChunks_stream_prefix_partial_header :
    (∀ m ∈ [sampleMessage], m.Deliverable) ∧
      (∀ m ∈ [sampleMessage], Keeps (fun _ => false) (fun _ _ => false) (createConnectionCtx true) m) ∧
      [(xsanMessageWire .little sampleMessage).take 10].flatten <+:
        streamBytes .little [sampleMessage] ∧
      ChunksFit .little (fun _ => false) (fun _ _ => false) (createConnectionCtx true)
        [(xsanMessageWire .little sampleMessage).take 10] ∧
      ∃ j c', recvChunks .little (fun _ => false) (fun _ _ => false) (createConnectionCtx true)
          [(xsanMessageWire .little sampleMessage).take 10] =
          (([sampleMessage].take j).map (routed (fun _ => false) (createConnectionCtx true)), some c') ∧
        streamBytes .little ([sampleMessage].take j) ++ pendingBytes .little c' =
          [(xsanMessageWire .little sampleMessage).take 10].flatten ∧
        ∀ m ∈ ([sampleMessage].drop j).head?,
          (pendingBytes .little c').length < (xsanMessageWire .little m).length := by
  have hms : ∀ m ∈ [sampleMessage], m.Deliverable := by
    intro m hm
    rw [List.mem_singleton.mp hm]
    exact sampleMessage_deliverable
  have hkeep : ∀ m ∈ [sampleMessage],
      Keeps (fun _ => false) (fun _ _ => false) (createConnectionCtx true) m := by
    intro m hm
    rw [List.mem_singleton.mp hm]
    rfl
  have hpre : [(xsanMessageWire .little sampleMessage).take 10].flatten <+:
      streamBytes .little [sampleMessage] := by
    rw [List.flatten_singleton, streamBytes_cons, streamBytes_nil, List.append_nil]
    exact List.take_prefix 10 _
  have hfit : ChunksFit .little (fun _ => false) (fun _ _ => false) (createConnectionCtx true)
      [(xsanMessageWire .little sampleMessage).take 10] :=
    ChunksFit.single (growRecvBuf_of_lt _ (by decide)) (by decide)
      ((List.length_take_le 10 _).trans (by decide))
  exact ⟨hms, hkeep, hpre, hfit, recvChunks_stream_prefix true [sampleMessage] hms hkeep _ hpre hfit⟩

/-- A whole stream, in any chunks that fit, is handed out entirely: every
message in order, and the connection ends with an empty buffer and no header
held. -/
theorem recvChunks_stream_whole (appMsgHandlerCb : Bool) (ms : List XsanMessage)
    (hms : ∀ m ∈ ms, m.Deliverable)
    (hkeep : ∀ m ∈ ms, Keeps specificHandlers destroys (createConnectionCtx appMsgHandlerCb) m)
    (chunks : List (List UInt8)) (hflat : chunks.flatten = streamBytes o ms)
    (hfit : ChunksFit o specificHandlers destroys (createConnectionCtx appMsgHandlerCb) chunks) :
    ∃ c', recvChunks o specificHandlers destroys (createConnectionCtx appMsgHandlerCb) chunks =
        (ms.map (routed specificHandlers (createConnectionCtx appMsgHandlerCb)), some c') ∧
      c'.recvBuf = [] ∧ c'.headerFullyReceived = false := by
  have hpb : pendingBytes o (createConnectionCtx appMsgHandlerCb) = [] := rfl
  obtain ⟨j, c', hrun, hc', hbytes, -⟩ := recvChunks_stream chunks _ ms
    (recvIdle_create appMsgHandlerCb) hms hkeep (by rw [hpb, List.nil_append, hflat]) hfit
  rw [hpb, List.nil_append] at hbytes
  have hnext := next_message_incomplete hc'.parked hms (by rw [hbytes, hflat])
  have hsplit : streamBytes o ms = streamBytes o (ms.take j) ++ streamBytes o (ms.drop j) := by
    rw [← streamBytes_append, List.take_append_drop]
  rw [hflat, hsplit, List.append_cancel_left_eq] at hbytes
  -- the rest of the stream is what the connection holds, which holds no whole message
  have hdrop : ms.drop j = [] := by
    cases hd : ms.drop j with
    | nil => rfl
    | cons m ms' =>
      have hlt := hnext m (by rw [hd]; rfl)
      rw [hd, streamBytes_cons] at hbytes
      have := congrArg List.length hbytes
      rw [List.length_append] at this
      omega
  rw [hdrop, streamBytes_nil] at hbytes
  obtain ⟨hh, hbuf⟩ := pendingBytes_eq_nil o hbytes
  refine ⟨c', ?_, hbuf, hh⟩
  rw [hrun, List.take_of_length_le (List.drop_eq_nil_iff.mp hdrop)]

/-- A new connection that receives a deliverable message, and any bytes after
it, in one chunk, on a route that destroys the message: the message is the only
one handed out, and the loop then reads it after it is freed (lines 345–348). -/
theorem recvChunk_destroyed (appMsgHandlerCb : Bool) {m : XsanMessage} (hm : m.Deliverable)
    (rest : List UInt8) (hfree : ¬Keeps specificHandlers destroys (createConnectionCtx appMsgHandlerCb) m) :
    ∃ c', recvChunk o specificHandlers destroys (createConnectionCtx appMsgHandlerCb)
        (xsanMessageWire o m ++ rest) =
        ([routed specificHandlers (createConnectionCtx appMsgHandlerCb) m], some c') ∧
      c'.useAfterFree = true := by
  have hbytes : xsanMessageWire o m ++ rest =
      xsanProtocolHeaderSerialize o m.header ++ (m.payload ++ rest) := by
    rw [wire_of_deliverable o hm, List.append_assoc]
  have hhdr : headerOfBytes (xsanProtocolHeaderSerialize o m.header ++ (m.payload ++ rest)) = m.header := by
    rw [headerOfBytes_append _ _ (by rw [length_serialize]), headerOfBytes_serialize]
  have hle : xsanMessageHeaderSize ≤
      (xsanProtocolHeaderSerialize o m.header ++ (m.payload ++ rest)).length := by
    rw [List.length_append, length_serialize]
    omega
  have hdrop : (xsanProtocolHeaderSerialize o m.header ++ (m.payload ++ rest)).drop xsanMessageHeaderSize =
      m.payload ++ rest :=
    List.drop_left' (length_serialize o m.header)
  -- the message the loop builds from the buffer is `m`
  have hmsg : (⟨m.header, (m.payload ++ rest).take m.header.payloadLength.toNat⟩ : XsanMessage) = m := by
    rw [hm.length, List.take_left' rfl]
  have hfree' : destroyedByDispatch destroys
      (dispatchRoute specificHandlers (createConnectionCtx appMsgHandlerCb) m.header.type)
      ⟨m.header, (m.payload ++ rest).take m.header.payloadLength.toNat⟩ = true := by
    rw [hmsg]
    simpa [Keeps] using hfree
  rw [recvChunk_of_grow o specificHandlers destroys rfl
    (growRecvBuf_of_lt _ (show ([] : List UInt8).length < xsanCommInitialRecvBufSize by decide)), hbytes]
  dsimp only [createConnectionCtx]
  rw [List.nil_append, drain_header o specificHandlers destroys _ rfl hle (by rw [hhdr]; exact hm.valid),
    payloadHalf_destroyed o specificHandlers destroys _ (by dsimp only; rw [hdrop, hhdr, hm.length]; simp)
      (by dsimp only; rw [hdrop, hhdr]; exact hfree')]
  -- the context the loop ends in is the one it marked
  refine ⟨_, Prod.ext ?_ rfl, rfl⟩
  dsimp only
  rw [hdrop, hhdr, hmsg]
  rfl

end Receive

/-! ## The sender -/

/-- What `spdk_sock_writev` returned: `-1` with `errno` set, or the number of
bytes written. -/
inductive WritevResult where
  | failed (errno : ℤ)
  | wrote (n : ℕ)
  deriving DecidableEq, Repr

/-- The conditions `xsan_node_comm_send_msg` checks before writing
(lines 418–427), and what `spdk_sock_writev` does. -/
structure SendEnv where
  moduleInitialized : Bool
  /-- `sock` and `msg` are not `NULL`. -/
  sockAndMsg : Bool
  /-- `spdk_get_thread()` is not `NULL`. -/
  onSpdkThread : Bool
  /-- `spdk_sock_get_cb_arg(sock)` is a context whose `sock` is `sock`. -/
  connCtxFound : Bool
  writev : WritevResult
  deriving DecidableEq, Repr

/-- Every check before the write passes. -/
def SendEnv.Checks (env : SendEnv) : Prop :=
  env.moduleInitialized = true ∧ env.sockAndMsg = true ∧ env.onSpdkThread = true ∧
    env.connCtxFound = true

/-- `spdk_sock_writev` wrote all `total` bytes, or failed with `errno` set. -/
def WritevResult.Whole (total : ℕ) : WritevResult → Prop
  | .failed errno => errno ≠ 0
  | .wrote n => total ≤ n

/-- What one call does: the bytes it writes, the statuses it passes to
callbacks before returning, `current_send_cb` afterwards, and the code it
returns. -/
structure SendOutput (κ : Type) where
  written : List UInt8
  callbacks : List (κ × ℤ)
  currentSendCb : Option κ
  code : ℤ
  deriving DecidableEq, Repr

/-- A call of `xsan_node_comm_send_msg` on the connection. -/
structure SendCall (κ : Type) where
  env : SendEnv
  msg : XsanMessage
  sendCb : Option κ

section Send

variable (o : ByteOrder) {κ : Type}

/-- `xsan_node_comm_send_msg(sock, msg, send_cb, cb_arg)` on a connection whose
`current_send_cb` is `currentSendCb`. `XSAN_ERROR_INVALID_STATE` is
`XSAN_ERROR_GENERIC` (line 94); the header serialization (line 434) cannot
fail, both of its pointers being set. -/
def xsanNodeCommSendMsg (env : SendEnv) (currentSendCb : Option κ) (msg : XsanMessage)
    (sendCb : Option κ) : SendOutput κ :=
  if env.moduleInitialized = false then ⟨[], [], currentSendCb, xsanErrorGeneric⟩
  else if env.sockAndMsg = false then ⟨[], [], currentSendCb, xsanErrorInvalidParam⟩
  else if env.onSpdkThread = false then ⟨[], [], currentSendCb, xsanErrorThreadContext⟩
  else if env.connCtxFound = false then ⟨[], [], currentSendCb, xsanErrorInvalidParam⟩
  else if currentSendCb.isSome then ⟨[], [], currentSendCb, xsanErrorBusy⟩
  else
    let wire := xsanMessageWire o msg
    match env.writev with
    | .failed errno =>
      ⟨[], (sendCb.map fun cb => (cb, -errno)).toList, currentSendCb, xsanErrorFromErrno errno⟩
    | .wrote n =>
      -- a partial write stores the callback and reports success (lines 464–469)
      if n < wire.length then ⟨wire.take n, [], sendCb, xsanOk⟩
      else ⟨wire, (sendCb.map fun cb => (cb, 0)).toList, currentSendCb, xsanOk⟩

/-- Calls made one after another on a connection whose `current_send_cb` starts
as `currentSendCb` (`NULL` in a new context, which `_create_connection_ctx`
zeroes); the output of each. -/
def sendRun (currentSendCb : Option κ) : List (SendCall κ) → List (SendOutput κ)
  | [] => []
  | call :: calls =>
    let out := xsanNodeCommSendMsg o call.env currentSendCb call.msg call.sendCb
    out :: sendRun out.currentSendCb calls

/-- The messages of the calls that returned `XSAN_OK`, in order. -/
def sentMessages : List (SendCall κ) → List (SendOutput κ) → List XsanMessage
  | call :: calls, out :: outs =>
    if out.code = xsanOk then call.msg :: sentMessages calls outs else sentMessages calls outs
  | _, _ => []

theorem mem_sentMessages {calls : List (SendCall κ)} {outs : List (SendOutput κ)} {m : XsanMessage}
    (h : m ∈ sentMessages calls outs) : ∃ call ∈ calls, call.msg = m := by
  induction calls generalizing outs with
  | nil => simp [sentMessages] at h
  | cons call calls ih =>
    cases outs with
    | nil => simp [sentMessages] at h
    | cons out outs =>
      rw [sentMessages] at h
      split_ifs at h
      · rcases List.mem_cons.mp h with rfl | h
        · exact ⟨call, List.mem_cons_self, rfl⟩
        · obtain ⟨c, hc, hm⟩ := ih h
          exact ⟨c, List.mem_cons_of_mem _ hc, hm⟩
      · obtain ⟨c, hc, hm⟩ := ih h
        exact ⟨c, List.mem_cons_of_mem _ hc, hm⟩

/-- A stored callback makes every call fail before writing: an early check, or
`XSAN_ERROR_BUSY`. -/
theorem xsanNodeCommSendMsg_of_busy (env : SendEnv) (cb : κ) (msg : XsanMessage) (sendCb : Option κ) :
    let out := xsanNodeCommSendMsg o env (some cb) msg sendCb
    out.written = [] ∧ out.callbacks = [] ∧ out.currentSendCb = some cb ∧ out.code ≠ xsanOk := by
  unfold xsanNodeCommSendMsg
  simp only [Option.isSome_some, if_true]
  split_ifs <;> simp

/-- From an idle connection, a call whose write is whole either writes the
whole message and returns `XSAN_OK`, or writes nothing and returns an error;
it stores no callback. -/
theorem xsanNodeCommSendMsg_of_whole (env : SendEnv) (msg : XsanMessage) (sendCb : Option κ)
    (hw : env.writev.Whole (xsanMessageWire o msg).length) :
    let out := xsanNodeCommSendMsg o env none msg sendCb
    out.currentSendCb = none ∧
      ((out.code = xsanOk ∧ out.written = xsanMessageWire o msg) ∨
        (out.code ≠ xsanOk ∧ out.written = [])) := by
  unfold xsanNodeCommSendMsg
  simp only [Option.isSome_none, Bool.false_eq_true, if_false]
  split_ifs
  · simp
  · simp
  · simp
  · simp
  cases hv : env.writev with
  | failed errno =>
    rw [hv, WritevResult.Whole] at hw
    exact ⟨rfl, Or.inr ⟨xsanErrorFromErrno_ne_ok hw, rfl⟩⟩
  | wrote n =>
    rw [hv, WritevResult.Whole] at hw
    dsimp only
    rw [if_neg (by omega)]
    exact ⟨rfl, Or.inl ⟨rfl, rfl⟩⟩

/-- A partial write with every check passed reports success, writes a prefix
of the message, runs no callback and stores `send_cb`. -/
theorem xsanNodeCommSendMsg_of_partial {env : SendEnv} (hchecks : env.Checks) (msg : XsanMessage)
    (sendCb : Option κ) {n : ℕ} (hn : env.writev = .wrote n)
    (hpart : n < (xsanMessageWire o msg).length) :
    xsanNodeCommSendMsg o env none msg sendCb = ⟨(xsanMessageWire o msg).take n, [], sendCb, xsanOk⟩ := by
  obtain ⟨h1, h2, h3, h4⟩ := hchecks
  unfold xsanNodeCommSendMsg
  simp only [h1, h2, h3, h4, Option.isSome_none, Bool.true_eq_false, Bool.false_eq_true, if_false, hn]
  rw [if_pos hpart]

/-- Once a callback is stored, no call of a run writes a byte, runs a callback
or reports success, and the callback stays stored. -/
theorem sendRun_of_busy (cb : κ) (calls : List (SendCall κ)) :
    ∀ out ∈ sendRun o (some cb) calls,
      out.written = [] ∧ out.callbacks = [] ∧ out.currentSendCb = some cb ∧ out.code ≠ xsanOk := by
  induction calls with
  | nil => simp [sendRun]
  | cons call calls ih =>
    obtain ⟨hw, hc, hcur, hcode⟩ := xsanNodeCommSendMsg_of_busy o call.env cb call.msg call.sendCb
    intro out hout
    rw [sendRun, List.mem_cons] at hout
    rcases hout with rfl | hout
    · exact ⟨hw, hc, hcur, hcode⟩
    · rw [hcur] at hout
      exact ih out hout

/-- Along a run from an idle connection whose writes are all whole, the bytes
written are the wire forms of the messages whose send returned `XSAN_OK`. -/
theorem sendRun_written (calls : List (SendCall κ))
    (hwhole : ∀ call ∈ calls, call.env.writev.Whole (xsanMessageWire o call.msg).length) :
    ((sendRun o none calls).map SendOutput.written).flatten =
      streamBytes o (sentMessages calls (sendRun o none calls)) := by
  induction calls with
  | nil => rfl
  | cons call calls ih =>
    obtain ⟨hcur, hout⟩ := xsanNodeCommSendMsg_of_whole o call.env call.msg call.sendCb
      (hwhole call List.mem_cons_self)
    have ih' := ih fun c hc => hwhole c (List.mem_cons_of_mem _ hc)
    rw [sendRun, hcur, List.map_cons, List.flatten_cons, sentMessages, ih']
    rcases hout with ⟨hok, hw⟩ | ⟨hok, hw⟩
    · rw [if_pos hok, hw, streamBytes_cons]
    · rw [if_neg hok, hw, List.nil_append]

variable (specificHandlers : ℕ → Bool) (destroys : Dispatch → ℕ → Bool)

/-- Along any run of sends on a connection in which no write is partial and
every message is deliverable, a new connection at the other end whose handlers
keep the messages they are given, reading the bytes written cut into any chunks
that fit its buffer, hands out exactly the messages whose send returned
`XSAN_OK`, in order, each once, and is left with nothing pending. -/
theorem sendRun_delivers_sent (calls : List (SendCall κ))
    (hwhole : ∀ call ∈ calls, call.env.writev.Whole (xsanMessageWire o call.msg).length)
    (hmsg : ∀ call ∈ calls, call.msg.Deliverable) (appMsgHandlerCb : Bool)
    (hkeep : ∀ call ∈ calls,
      Keeps specificHandlers destroys (createConnectionCtx appMsgHandlerCb) call.msg)
    (chunks : List (List UInt8))
    (hflat : chunks.flatten = ((sendRun o none calls).map SendOutput.written).flatten)
    (hfit : ChunksFit o specificHandlers destroys (createConnectionCtx appMsgHandlerCb) chunks) :
    ∃ c', recvChunks o specificHandlers destroys (createConnectionCtx appMsgHandlerCb) chunks =
        ((sentMessages calls (sendRun o none calls)).map
          (routed specificHandlers (createConnectionCtx appMsgHandlerCb)), some c') ∧
      c'.recvBuf = [] ∧ c'.headerFullyReceived = false := by
  -- every message handed out is the message of one of the calls
  have hsent : ∀ m ∈ sentMessages calls (sendRun o none calls), m.Deliverable ∧
      Keeps specificHandlers destroys (createConnectionCtx appMsgHandlerCb) m := by
    intro m hm
    obtain ⟨call, hcall, rfl⟩ := mem_sentMessages hm
    exact ⟨hmsg call hcall, hkeep call hcall⟩
  exact recvChunks_stream_whole appMsgHandlerCb _ (fun m hm => (hsent m hm).1)
    (fun m hm => (hsent m hm).2) chunks (hflat.trans (sendRun_written o calls hwhole)) hfit

/-- A send that fails with `ECONNRESET`, then one that writes the whole
message, read back in one chunk: only the second message is handed out. -/
theorem sendRun_delivers_sent_after_reset :
    let calls : List (SendCall Unit) :=
      [⟨⟨true, true, true, true, .failed econnreset⟩, sampleMessage, some ()⟩,
        ⟨⟨true, true, true, true, .wrote 100⟩, sampleMessage, some ()⟩]
    (∀ call ∈ calls, call.env.writev.Whole (xsanMessageWire .little call.msg).length) ∧
      (∀ call ∈ calls, call.msg.Deliverable) ∧
      (∀ call ∈ calls,
        Keeps (fun _ => false) (fun _ _ => false) (createConnectionCtx true) call.msg) ∧
      [xsanMessageWire .little sampleMessage].flatten =
        ((sendRun .little none calls).map SendOutput.written).flatten ∧
      ChunksFit .little (fun _ => false) (fun _ _ => false) (createConnectionCtx true)
        [xsanMessageWire .little sampleMessage] ∧
      ∃ c', recvChunks .little (fun _ => false) (fun _ _ => false) (createConnectionCtx true)
          [xsanMessageWire .little sampleMessage] =
          ((sentMessages calls (sendRun .little none calls)).map
            (routed (fun _ => false) (createConnectionCtx true)), some c') ∧
        c'.recvBuf = [] ∧ c'.headerFullyReceived = false := by
  intro calls
  have hwhole : ∀ call ∈ calls, call.env.writev.Whole (xsanMessageWire .little call.msg).length := by
    intro call hcall
    simp only [calls, List.mem_cons, List.not_mem_nil, or_false] at hcall
    rcases hcall with rfl | rfl
    · exact (by decide : econnreset ≠ 0)
    · exact (by decide : (xsanMessageWire .little sampleMessage).length ≤ 100)
  have hmsg : ∀ call ∈ calls, call.msg.Deliverable := by
    intro call hcall
    simp only [calls, List.mem_cons, List.not_mem_nil, or_false] at hcall
    rcases hcall with rfl | rfl <;> exact sampleMessage_deliverable
  -- the connection's generic handler keeps both messages
  have hkeep : ∀ call ∈ calls,
      Keeps (fun _ => false) (fun _ _ => false) (createConnectionCtx true) call.msg := by
    intro call hcall
    simp only [calls, List.mem_cons, List.not_mem_nil, or_false] at hcall
    rcases hcall with rfl | rfl <;> rfl
  have hflat : [xsanMessageWire .little sampleMessage].flatten =
      ((sendRun .little none calls).map SendOutput.written).flatten := by decide
  have hfit : ChunksFit .little (fun _ => false) (fun _ _ => false) (createConnectionCtx true)
      [xsanMessageWire .little sampleMessage] :=
    ChunksFit.single (growRecvBuf_of_lt _ (by decide)) (by decide) (by decide)
  exact ⟨hwhole, hmsg, hkeep, hflat, hfit,
    sendRun_delivers_sent .little (fun _ => false) (fun _ _ => false) calls hwhole hmsg true hkeep _
      hflat hfit⟩

/-- A partial write on an idle connection with a callback returns `XSAN_OK`
without running it, and from then on no send on the connection writes a byte,
runs a callback (the stored one included) or returns `XSAN_OK`: the rest of the
message is never sent. -/
theorem sendRun_stuck_after_partial_write (call : SendCall κ) (calls : List (SendCall κ)) (cb : κ)
    (hchecks : call.env.Checks) (hcb : call.sendCb = some cb) (n : ℕ)
    (hn : call.env.writev = .wrote n) (hpart : n < (xsanMessageWire o call.msg).length) :
    sendRun o none (call :: calls) =
        ⟨(xsanMessageWire o call.msg).take n, [], some cb, xsanOk⟩ :: sendRun o (some cb) calls ∧
      ∀ out ∈ sendRun o (some cb) calls,
        out.written = [] ∧ out.callbacks = [] ∧ out.currentSendCb = some cb ∧ out.code ≠ xsanOk := by
  have hfirst := xsanNodeCommSendMsg_of_partial o hchecks call.msg call.sendCb hn hpart
  rw [hcb] at hfirst
  refine ⟨?_, sendRun_of_busy o cb calls⟩
  rw [sendRun, hcb, hfirst]

/-- A write of five bytes of the message, then a second call. -/
theorem sendRun_stuck_after_partial_write_five :
    let call : SendCall Unit := ⟨⟨true, true, true, true, .wrote 5⟩, sampleMessage, some ()⟩
    call.env.Checks ∧ call.sendCb = some () ∧ call.env.writev = .wrote 5 ∧
      5 < (xsanMessageWire .little call.msg).length ∧
      (sendRun .little none [call, call] =
          ⟨(xsanMessageWire .little call.msg).take 5, [], some (), xsanOk⟩ ::
            sendRun .little (some ()) [call] ∧
        ∀ out ∈ sendRun .little (some ()) [call],
          out.written = [] ∧ out.callbacks = [] ∧ out.currentSendCb = some () ∧ out.code ≠ xsanOk) := by
  intro call
  have hchecks : call.env.Checks := ⟨rfl, rfl, rfl, rfl⟩
  have hpart : 5 < (xsanMessageWire .little call.msg).length := by decide
  exact ⟨hchecks, rfl, rfl, hpart,
    sendRun_stuck_after_partial_write .little call [call] () hchecks rfl 5 rfl hpart⟩

end Send

end Xsan
