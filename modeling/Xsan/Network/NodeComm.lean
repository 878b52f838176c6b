import Xsan.Network.Protocol

/-!
# Receiving messages on a connection

A model of `_process_received_data_for_connection`
(`src/network/xsan_node_comm.c`, lines 281–370), the loop that turns the
bytes `spdk_sock_recv` returns into messages. The connection keeps a receive
buffer (`recv_buf`, of which the first `recv_buf_len` bytes are data), its
capacity, the header of the message being received and whether that header
is complete. Each pass of the outer `do … while` loop

1. doubles the capacity when the buffer is full, closing the connection when
   the new capacity would exceed `XSAN_PROTOCOL_MAX_PAYLOAD_SIZE +
   XSAN_MESSAGE_HEADER_SIZE + 4096` (lines 287–296);
2. appends what `spdk_sock_recv` returned (lines 298–304);
3. runs the inner `while (recv_buf_len > 0)` loop (lines 306–353), which
   alternately decodes a header (closing on a decoding error) and, once the
   whole payload is buffered, hands the message to a handler and shifts the
   buffer.

The recv results are the input of the model: a run is the list of chunks
`spdk_sock_recv` returned, each of at most the free space of the buffer.
Allocation (`XSAN_MALLOC`, `XSAN_REALLOC`) is taken to succeed. The buffer is
modelled by its data, so `recv_buf_len` is its length and `memmove` is
`List.drop`.

A handler takes the message and returns; `destroys` says whether it has called
`xsan_protocol_message_destroy` on the message by then, as `xsan_node_comm.h`
asks of every handler and as the handlers the node registers do. The loop then
reads `full_msg->header.payload_length` (lines 347–348) from the message, which
the discard branch (line 345) has always destroyed. After such a read the
model marks the connection `useAfterFree` and processes nothing more on it.

Results:
* `drain_partial_payload`: a buffer holding less than the pending payload is
  left as it is.
* `drain_complete_payload_destroyed`: a message whose route destroys it is
  the last the loop hands out, and the loop reads it after it is freed.
* `reassembly_closes_large_message`: a valid message whose payload is
  8 437 761 bytes, received in chunks that fill the buffer, closes the
  connection: the capacity doubles from 4120 up to 8 437 760 and the next
  doubling is above the cap.
-/

namespace Xsan

open Bytes

/-- `XSAN_COMM_INITIAL_RECV_BUF_SIZE` (line 24): a header and 4096 bytes. -/
def xsanCommInitialRecvBufSize : ℕ := xsanMessageHeaderSize + 4096

/-- The capacity above which the buffer is not grown (line 289). -/
def recvBufCapacityLimit : ℕ := xsanProtocolMaxPayloadSize + xsanMessageHeaderSize + 4096

/-- `XSAN_MSG_TYPE_MAX`, the sentinel after `XSAN_MSG_TYPE_REPLICA_READ_BLOCK_RESP = 603`. -/
def xsanMsgTypeMax : ℕ := 604

/-- `xsan_message_t`: a header and its payload bytes (`NULL` when empty). -/
structure XsanMessage where
  header : XsanMessageHeader
  payload : List UInt8
  deriving DecidableEq, Repr

/-- The parts of `xsan_connection_ctx_t` (lines 27–47) the receive path reads
and writes. `appMsgHandlerCb` records whether the connection's generic
handler is set; `useAfterFree` is not in the C structure and records that the
receive loop has read a message after it was destroyed. -/
structure XsanConnectionCtx where
  recvBuf : List UInt8
  recvBufCapacity : ℕ
  partialRecvHeader : XsanMessageHeader
  headerFullyReceived : Bool
  appMsgHandlerCb : Bool
  useAfterFree : Bool
  deriving DecidableEq, Repr

/-- The context `_create_connection_ctx` (lines 197–215) builds: zeroed, with
the initial capacity. -/
def createConnectionCtx (appMsgHandlerCb : Bool) : XsanConnectionCtx where
  recvBuf := []
  recvBufCapacity := xsanCommInitialRecvBufSize
  partialRecvHeader := ⟨0, 0, 0, 0, 0, 0⟩
  headerFullyReceived := false
  appMsgHandlerCb := appMsgHandlerCb
  useAfterFree := false

/-- Where a complete message goes (lines 336–346). -/
inductive Dispatch where
  | specific
  | generic
  | discarded
  deriving DecidableEq, Repr

/-- The handler choice of lines 337–346: the registered handler of the
message type when the type is in range and one is registered
(`specificHandlers`), else the connection's generic handler, else the
message is destroyed. -/
def dispatchRoute (specificHandlers : ℕ → Bool) (c : XsanConnectionCtx) (type : UInt16) :
    Dispatch :=
  if 0 < type.toNat ∧ type.toNat < xsanMsgTypeMax ∧ specificHandlers type.toNat = true then
    .specific
  else if c.appMsgHandlerCb then .generic
  else .discarded

/-- Whether the message is destroyed by the time line 347 reads it: the
discard branch destroys it (line 345), and a handler does when `destroys`
says so of its route and the message type. -/
def destroyedByDispatch (destroys : Dispatch → ℕ → Bool) (route : Dispatch) (msg : XsanMessage) :
    Bool :=
  route == .discarded || destroys route msg.header.type.toNat

section Receive

variable (o : ByteOrder) (specificHandlers : ℕ → Bool) (destroys : Dispatch → ℕ → Bool)

/-- The header half of an inner-loop pass (lines 307–319): `none` closes the
connection, `some (c, true)` goes on to the payload half, `some (c, false)`
breaks out of the loop. -/
def headerPhase (c : XsanConnectionCtx) : Option (XsanConnectionCtx × Bool) :=
  if c.headerFullyReceived then some (c, true)
  else if c.recvBuf.length ≥ xsanMessageHeaderSize then
    let r := xsanProtocolHeaderDeserialize o c.recvBuf c.partialRecvHeader
    if r.1 ≠ xsanOk then none
    else if r.2.magic ≠ xsanProtocolMagic then none
    else if r.2.payloadLength.toNat > xsanProtocolMaxPayloadSize then none
    else some ({ c with
      partialRecvHeader := r.2
      headerFullyReceived := true
      recvBuf := c.recvBuf.drop xsanMessageHeaderSize }, true)
  else some (c, false)

/-- Everything the header half can do without closing the connection. -/
theorem headerPhase_some {c c' : XsanConnectionCtx} {b : Bool}
    (h : headerPhase o c = some (c', b)) :
    (c.headerFullyReceived = true ∧ c' = c ∧ b = true) ∨
    (c.headerFullyReceived = false ∧ xsanMessageHeaderSize ≤ c.recvBuf.length ∧
      (xsanProtocolHeaderDeserialize o c.recvBuf c.partialRecvHeader).1 = xsanOk ∧
      c' = { c with
        partialRecvHeader := (xsanProtocolHeaderDeserialize o c.recvBuf c.partialRecvHeader).2
        headerFullyReceived := true
        recvBuf := c.recvBuf.drop xsanMessageHeaderSize } ∧ b = true) ∨
    (c.headerFullyReceived = false ∧ c.recvBuf.length < xsanMessageHeaderSize ∧ c' = c ∧
      b = false) := by
  unfold headerPhase at h
  by_cases h1 : c.headerFullyReceived = true
  · rw [if_pos h1] at h
    cases h
    exact Or.inl ⟨h1, rfl, rfl⟩
  rw [if_neg h1] at h
  by_cases h2 : c.recvBuf.length ≥ xsanMessageHeaderSize
  · rw [if_pos h2] at h
    dsimp only at h
    split_ifs at h with h3 h4 h5
    cases h
    exact Or.inr (Or.inl ⟨by simpa using h1, h2, by simpa using h3, rfl, rfl⟩)
  · rw [if_neg h2] at h
    cases h
    exact Or.inr (Or.inr ⟨by simpa using h1, by omega, rfl, rfl⟩)

theorem headerPhase_buf_le {c c' : XsanConnectionCtx} {b : Bool}
    (h : headerPhase o c = some (c', b)) :
    c'.recvBuf.length ≤ c.recvBuf.length ∧
      (c.headerFullyReceived = false → c'.headerFullyReceived = true →
        c'.recvBuf.length < c.recvBuf.length) ∧
      (b = true → c'.headerFullyReceived = true) := by
  rcases headerPhase_some o h with ⟨h1, rfl, rfl⟩ | ⟨_, h2, _, rfl, rfl⟩ | ⟨h1, _, rfl, rfl⟩
  · exact ⟨le_rfl, by simp [h1], fun _ => h1⟩
  · unfold xsanMessageHeaderSize at h2
    refine ⟨?_, fun _ _ => ?_, fun _ => rfl⟩ <;> simp only [List.length_drop, xsanMessageHeaderSize]
      <;> omega
  · exact ⟨le_rfl, by simp [h1], by simp⟩

/-- The inner `while (conn_ctx->recv_buf_len > 0)` loop (lines 306–353). It
returns the messages handed out, each with its route, and the context, or
`none` when the connection was closed. -/
def drainRecvBuf (c : XsanConnectionCtx) : List (Dispatch × XsanMessage) × Option XsanConnectionCtx :=
  if c.recvBuf.length = 0 then ([], some c)
  else
    match hph : headerPhase o c with
    | none => ([], none)
    | some (c', false) => ([], some c')
    | some (c', true) =>
      let len := c'.partialRecvHeader.payloadLength.toNat
      if c'.recvBuf.length ≥ len then
        let msg : XsanMessage := ⟨c'.partialRecvHeader, c'.recvBuf.take len⟩
        let route := dispatchRoute specificHandlers c' msg.header.type
        -- lines 347–348 read `full_msg->header.payload_length` after the dispatch
        if destroyedByDispatch destroys route msg then ([(route, msg)], some { c' with useAfterFree := true })
        else
          let c'' := { c' with recvBuf := c'.recvBuf.drop len, headerFullyReceived := false }
          let (out, r) := drainRecvBuf c''
          ((route, msg) :: out, r)
      else ([], some c')
termination_by 2 * c.recvBuf.length + (if c.headerFullyReceived then 1 else 0)
decreasing_by
  obtain ⟨h1, h2, h3⟩ := headerPhase_buf_le o hph
  have h3' := h3 rfl
  simp only [List.length_drop, if_false]
  -- a payload was consumed, and a header too unless one was pending
  by_cases hc : c.headerFullyReceived = true
  · simp only [hc, if_true]; omega
  · have := h2 (by simpa using hc) h3'
    simp only [hc]; omega

/-- The payload half of a pass (lines 321–352) on a context holding a header,
with the rest of the loop after it. -/
def payloadHalf (c : XsanConnectionCtx) : List (Dispatch × XsanMessage) × Option XsanConnectionCtx :=
  let len := c.partialRecvHeader.payloadLength.toNat
  if c.recvBuf.length ≥ len then
    let msg : XsanMessage := ⟨c.partialRecvHeader, c.recvBuf.take len⟩
    let route := dispatchRoute specificHandlers c msg.header.type
    if destroyedByDispatch destroys route msg then ([(route, msg)], some { c with useAfterFree := true })
    else
      let r := drainRecvBuf o specificHandlers destroys
        { c with recvBuf := c.recvBuf.drop len, headerFullyReceived := false }
      ((route, msg) :: r.1, r.2)
  else ([], some c)

/-- The capacity check at the top of each pass of the outer loop
(lines 287–296); `none` closes the connection. -/
def growRecvBuf (c : XsanConnectionCtx) : Option XsanConnectionCtx :=
  if c.recvBuf.length = c.recvBufCapacity then
    let newCapacity :=
      if c.recvBufCapacity > 0 then c.recvBufCapacity * 2 else xsanCommInitialRecvBufSize
    if newCapacity > recvBufCapacityLimit then none
    else some { c with recvBufCapacity := newCapacity }
  else some c

/-- One pass of the outer loop in which `spdk_sock_recv` returned the bytes
`data` (`nbytes > 0`). Nothing is modelled once the loop has read a freed
message. -/
def recvChunk (c : XsanConnectionCtx) (data : List UInt8) :
    List (Dispatch × XsanMessage) × Option XsanConnectionCtx :=
  if c.useAfterFree then ([], some c)
  else
    match growRecvBuf c with
    | none => ([], none)
    | some c => drainRecvBuf o specificHandlers destroys { c with recvBuf := c.recvBuf ++ data }

/-- The chunks of a run, received one after another; once the connection is
closed nothing more is processed. -/
def recvChunks (c : XsanConnectionCtx) :
    List (List UInt8) → List (Dispatch × XsanMessage) × Option XsanConnectionCtx
  | [] => ([], some c)
  | data :: rest =>
    match recvChunk o specificHandlers destroys c data with
    | (out, none) => (out, none)
    | (out, some c') =>
      let (out', r) := recvChunks c' rest
      (out ++ out', r)

/-- Every chunk fits in the free space of the buffer at the pass that reads
it, as `spdk_sock_recv(sock, recv_buf + recv_buf_len, capacity - len)`
guarantees, and is non-empty. -/
def ChunksFit (c : XsanConnectionCtx) : List (List UInt8) → Prop
  | [] => True
  | data :: rest =>
    match growRecvBuf c with
    | none => True
    | some g =>
      data ≠ [] ∧ data.length ≤ g.recvBufCapacity - g.recvBuf.length ∧
        match (recvChunk o specificHandlers destroys c data).2 with
        | none => True
        | some c' => ChunksFit c' rest

/-! ## One pass of the inner loop -/

/-- An empty buffer ends the inner loop at once. -/
theorem drain_empty (c : XsanConnectionCtx) (h : c.recvBuf = []) :
    drainRecvBuf o specificHandlers destroys c = ([], some c) := by
  rw [drainRecvBuf, if_pos (by simp [h])]

/-- A pass whose header half keeps going runs the payload half on the
context it leaves. -/
theorem drain_of_headerPhase {c c₁ : XsanConnectionCtx} (h0 : c.recvBuf ≠ [])
    (hph : headerPhase o c = some (c₁, true)) :
    drainRecvBuf o specificHandlers destroys c = payloadHalf o specificHandlers destroys c₁ := by
  rw [drainRecvBuf, if_neg (by simpa using h0)]
  split
  · simp_all
  · simp_all
  · rename_i c' heq
    rw [hph] at heq
    cases heq
    rfl

/-- A held header makes the header half a no-op. -/
theorem drain_of_held (c : XsanConnectionCtx) (hh : c.headerFullyReceived = true) (h0 : c.recvBuf ≠ []) :
    drainRecvBuf o specificHandlers destroys c = payloadHalf o specificHandlers destroys c :=
  drain_of_headerPhase o specificHandlers destroys h0 (by rw [headerPhase, if_pos hh])

/-- A partial payload: the loop breaks and nothing changes. -/
theorem payloadHalf_short (c : XsanConnectionCtx)
    (hlt : c.recvBuf.length < c.partialRecvHeader.payloadLength.toNat) :
    payloadHalf o specificHandlers destroys c = ([], some c) := by
  rw [payloadHalf, if_neg (by omega)]

/-- A whole payload whose message its route keeps: the message is handed out
and the loop goes on with the rest of the buffer. -/
theorem payloadHalf_kept (c : XsanConnectionCtx)
    (hle : c.partialRecvHeader.payloadLength.toNat ≤ c.recvBuf.length)
    (hkeep : destroyedByDispatch destroys (dispatchRoute specificHandlers c c.partialRecvHeader.type)
      ⟨c.partialRecvHeader, c.recvBuf.take c.partialRecvHeader.payloadLength.toNat⟩ = false) :
    payloadHalf o specificHandlers destroys c =
      let len := c.partialRecvHeader.payloadLength.toNat
      let r := drainRecvBuf o specificHandlers destroys
        { c with recvBuf := c.recvBuf.drop len, headerFullyReceived := false }
      ((dispatchRoute specificHandlers c c.partialRecvHeader.type,
        ⟨c.partialRecvHeader, c.recvBuf.take len⟩) :: r.1, r.2) := by
  rw [payloadHalf, if_pos hle]
  dsimp only
  rw [hkeep, if_neg (by decide)]

/-- A whole payload whose message its route destroys: the message is the last
one handed out, and the loop reads it after it is freed. -/
theorem payloadHalf_destroyed (c : XsanConnectionCtx)
    (hle : c.partialRecvHeader.payloadLength.toNat ≤ c.recvBuf.length)
    (hfree : destroyedByDispatch destroys (dispatchRoute specificHandlers c c.partialRecvHeader.type)
      ⟨c.partialRecvHeader, c.recvBuf.take c.partialRecvHeader.payloadLength.toNat⟩ = true) :
    payloadHalf o specificHandlers destroys c =
      ([(dispatchRoute specificHandlers c c.partialRecvHeader.type,
        ⟨c.partialRecvHeader, c.recvBuf.take c.partialRecvHeader.payloadLength.toNat⟩)],
        some { c with useAfterFree := true }) := by
  rw [payloadHalf, if_pos hle]
  dsimp only
  rw [hfree, if_pos rfl]

/-- The half of the loop body for a pending header with a partial payload
buffered: the loop breaks and nothing changes. -/
theorem drain_partial_payload (c : XsanConnectionCtx) (hh : c.headerFullyReceived = true)
    (hlt : c.recvBuf.length < c.partialRecvHeader.payloadLength.toNat) :
    drainRecvBuf o specificHandlers destroys c = ([], some c) := by
  by_cases h0 : c.recvBuf = []
  · exact drain_empty o specificHandlers destroys c h0
  rw [drain_of_held o specificHandlers destroys c hh h0, payloadHalf_short o specificHandlers destroys c hlt]

/-- No header pending and fewer than 24 bytes buffered: the loop breaks. -/
theorem drain_partial_header (c : XsanConnectionCtx) (hh : c.headerFullyReceived = false)
    (hlt : c.recvBuf.length < xsanMessageHeaderSize) :
    drainRecvBuf o specificHandlers destroys c = ([], some c) := by
  by_cases h0 : c.recvBuf.length = 0
  · rw [drainRecvBuf, if_pos h0]
  have hph : headerPhase o c = some (c, false) := by
    rw [headerPhase, if_neg (by simp [hh]), if_neg (by omega)]
  rw [drainRecvBuf, if_neg h0]
  split
  · simp_all
  · rename_i c' heq
    rw [hph] at heq
    cases heq
    rfl
  · simp_all

/-- No header pending and a valid header buffered: the header is consumed and
the payload half runs in the same pass. -/
theorem drain_header (c : XsanConnectionCtx) (hh : c.headerFullyReceived = false)
    (hle : xsanMessageHeaderSize ≤ c.recvBuf.length) (hv : (headerOfBytes c.recvBuf).Valid) :
    drainRecvBuf o specificHandlers destroys c =
      payloadHalf o specificHandlers destroys { c with
        partialRecvHeader := headerOfBytes c.recvBuf
        headerFullyReceived := true
        recvBuf := c.recvBuf.drop xsanMessageHeaderSize } := by
  have hok : (xsanProtocolHeaderDeserialize o c.recvBuf c.partialRecvHeader).1 = xsanOk :=
    (deserialize_ok_iff o _ hle _).mpr hv
  have hdec := deserialize_of_ok o _ hle _ hok
  have h0 : c.recvBuf ≠ [] := by
    intro h
    rw [h] at hle
    exact absurd hle (by decide)
  refine drain_of_headerPhase o specificHandlers destroys h0 ?_
  rw [headerPhase, if_neg (by simp [hh]), if_pos hle]
  dsimp only
  rw [hdec, if_neg (by simpa using hok), if_neg (by simpa using hv.1), if_neg (by simpa using hv.2)]

/-! ## The outer loop -/

theorem recvChunk_of_grow {c g : XsanConnectionCtx} (hc : c.useAfterFree = false)
    (hg : growRecvBuf c = some g) (data : List UInt8) :
    recvChunk o specificHandlers destroys c data =
      drainRecvBuf o specificHandlers destroys { g with recvBuf := g.recvBuf ++ data } := by
  rw [recvChunk, if_neg (by simp [hc]), hg]

theorem recvChunk_of_grow_none {c : XsanConnectionCtx} (hc : c.useAfterFree = false)
    (hg : growRecvBuf c = none) (data : List UInt8) :
    recvChunk o specificHandlers destroys c data = ([], none) := by
  rw [recvChunk, if_neg (by simp [hc]), hg]

theorem recvChunks_cons_closed {c : XsanConnectionCtx} {data : List UInt8}
    {rest : List (List UInt8)} {out : List (Dispatch × XsanMessage)}
    (h : recvChunk o specificHandlers destroys c data = (out, none)) :
    recvChunks o specificHandlers destroys c (data :: rest) = (out, none) := by
  rw [recvChunks, h]

theorem recvChunks_cons_open {c c' : XsanConnectionCtx} {data : List UInt8}
    {rest : List (List UInt8)} {out : List (Dispatch × XsanMessage)}
    (h : recvChunk o specificHandlers destroys c data = (out, some c')) :
    recvChunks o specificHandlers destroys c (data :: rest) =
      (out ++ (recvChunks o specificHandlers destroys c' rest).1,
        (recvChunks o specificHandlers destroys c' rest).2) := by
  rw [recvChunks, h]

theorem chunksFit_cons {c c' g : XsanConnectionCtx} {data : List UInt8}
    {rest : List (List UInt8)} {out : List (Dispatch × XsanMessage)}
    (hg : growRecvBuf c = some g) (hne : data ≠ [])
    (hfit : data.length ≤ g.recvBufCapacity - g.recvBuf.length)
    (h : recvChunk o specificHandlers destroys c data = (out, some c'))
    (hrest : ChunksFit o specificHandlers destroys c' rest) :
    ChunksFit o specificHandlers destroys c (data :: rest) := by
  rw [ChunksFit, hg]
  refine ⟨hne, hfit, ?_⟩
  rw [h]
  exact hrest

/-- A chunk that arrives when the buffer cannot grow is never read. -/
theorem chunksFit_cons_closed {c : XsanConnectionCtx} {data : List UInt8}
    {rest : List (List UInt8)} (hg : growRecvBuf c = none) :
    ChunksFit o specificHandlers destroys c (data :: rest) := by
  rw [ChunksFit, hg]
  trivial

-- Unfolding `ChunksFit` at a concrete context evaluates the length of its
-- buffer; from here on it is only used through the lemmas above.
attribute [irreducible] ChunksFit

/-! ## The capacity check -/

theorem growRecvBuf_of_lt (c : XsanConnectionCtx) (h : c.recvBuf.length < c.recvBufCapacity) :
    growRecvBuf c = some c := by
  rw [growRecvBuf, if_neg (by omega)]

theorem growRecvBuf_double (c : XsanConnectionCtx) (h : c.recvBuf.length = c.recvBufCapacity)
    (hpos : 0 < c.recvBufCapacity) (hle : c.recvBufCapacity * 2 ≤ recvBufCapacityLimit) :
    growRecvBuf c = some { c with recvBufCapacity := c.recvBufCapacity * 2 } := by
  rw [growRecvBuf, if_pos h]
  simp only [if_pos hpos, if_neg (show ¬c.recvBufCapacity * 2 > recvBufCapacityLimit by omega)]

theorem growRecvBuf_over (c : XsanConnectionCtx) (h : c.recvBuf.length = c.recvBufCapacity)
    (hpos : 0 < c.recvBufCapacity) (hgt : recvBufCapacityLimit < c.recvBufCapacity * 2) :
    growRecvBuf c = none := by
  rw [growRecvBuf, if_pos h]
  simp only [if_pos hpos, if_pos hgt]

/-! ## A message the buffer cannot hold -/

/-- A valid header whose payload, 8 437 761 bytes, is one byte more than the
largest capacity the buffer reaches, `4120 · 2¹¹ = 8 437 760`. -/
def largeHeader : XsanMessageHeader := ⟨xsanProtocolMagic, 1, 1, 8437761, 0, 0⟩

theorem largeHeader_valid : largeHeader.Valid := by decide

/-- A connection receiving the payload of `largeHeader`, with `n` (zero)
bytes of it buffered. -/
def payloadCtx (n cap : ℕ) : XsanConnectionCtx where
  recvBuf := List.replicate n 0
  recvBufCapacity := cap
  partialRecvHeader := largeHeader
  headerFullyReceived := true
  appMsgHandlerCb := true
  useAfterFree := false

@[simp] theorem recvBuf_payloadCtx (n cap : ℕ) : (payloadCtx n cap).recvBuf = List.replicate n 0 :=
  rfl

@[simp] theorem recvBufCapacity_payloadCtx (n cap : ℕ) : (payloadCtx n cap).recvBufCapacity = cap :=
  rfl

/-- The chunks of size `4120 · 2^i` for `i = j, …, j + m - 1`. -/
def doublingChunks (j m : ℕ) : List (List UInt8) :=
  (List.range' j m).map fun i => List.replicate (4120 * 2 ^ i) 0

/-- The wire bytes of `largeHeader` followed by its payload, cut so that
every chunk fills the buffer: the header and 4096 bytes, then 24 bytes, then
`4120 · 2^i` bytes for `i < 11`, then the last byte. -/
def largeChunks (o : ByteOrder) : List (List UInt8) :=
  (xsanProtocolHeaderSerialize o largeHeader ++ List.replicate 4096 0) :: List.replicate 24 0 ::
    (doublingChunks 0 11 ++ [[0]])

/-- A chunk of payload that does not complete the message is buffered, after
the capacity check. -/
theorem recvChunk_payloadCtx (n cap cap' k : ℕ)
    (hg : growRecvBuf (payloadCtx n cap) = some (payloadCtx n cap')) (hlt : n + k < 8437761) :
    recvChunk o specificHandlers destroys (payloadCtx n cap) (List.replicate k 0) =
      ([], some (payloadCtx (n + k) cap')) := by
  have hbuf : { payloadCtx n cap' with recvBuf := (payloadCtx n cap').recvBuf ++ List.replicate k 0 } =
      payloadCtx (n + k) cap' := by
    simp only [payloadCtx, List.replicate_append_replicate]
  rw [recvChunk_of_grow o specificHandlers destroys rfl hg, hbuf]
  exact drain_partial_payload o specificHandlers destroys _ rfl (by simpa [payloadCtx, largeHeader] using hlt)

theorem four_thousand_pow_le {i : ℕ} (hi : i ≤ 11) : 4120 * 2 ^ i ≤ 8437760 := by
  have : 2 ^ i ≤ 2 ^ 11 := Nat.pow_le_pow_right (by norm_num) hi
  omega

/-- Chunks that each fill the buffer double the capacity each time, up to
`4120 · 2¹¹`. -/
theorem recvChunks_doubling (j m : ℕ) (hjm : j + m ≤ 11) (rest : List (List UInt8)) :
    recvChunks o specificHandlers destroys (payloadCtx (4120 * 2 ^ j) (4120 * 2 ^ j))
        (doublingChunks j m ++ rest) =
      recvChunks o specificHandlers destroys (payloadCtx (4120 * 2 ^ (j + m)) (4120 * 2 ^ (j + m))) rest ∧
    (ChunksFit o specificHandlers destroys (payloadCtx (4120 * 2 ^ (j + m)) (4120 * 2 ^ (j + m))) rest →
      ChunksFit o specificHandlers destroys (payloadCtx (4120 * 2 ^ j) (4120 * 2 ^ j))
        (doublingChunks j m ++ rest)) := by
  induction m generalizing j with
  | zero => exact ⟨rfl, id⟩
  | succ m ih =>
    have hpow : 4120 * 2 ^ (j + 1) = 4120 * 2 ^ j * 2 := by rw [pow_succ]; ring
    have hle := four_thousand_pow_le (i := j + 1) (by omega)
    have hlim : 4120 * 2 ^ j * 2 ≤ recvBufCapacityLimit := by
      unfold recvBufCapacityLimit xsanProtocolMaxPayloadSize xsanMessageHeaderSize; omega
    have hg : growRecvBuf (payloadCtx (4120 * 2 ^ j) (4120 * 2 ^ j)) =
        some (payloadCtx (4120 * 2 ^ j) (4120 * 2 ^ (j + 1))) := by
      rw [growRecvBuf_double _ (List.length_replicate ..) (by show 0 < 4120 * 2 ^ j; positivity)
        hlim, hpow]
      rfl
    have hstep := recvChunk_payloadCtx o specificHandlers destroys _ _ _ (4120 * 2 ^ j) hg (by omega)
    have hsum : 4120 * 2 ^ j + 4120 * 2 ^ j = 4120 * 2 ^ (j + 1) := by omega
    rw [hsum] at hstep
    obtain ⟨ihr, ihf⟩ := ih (j + 1) (by omega)
    rw [show j + 1 + m = j + (m + 1) by omega] at ihr ihf
    have hcons : doublingChunks j (m + 1) ++ rest =
        List.replicate (4120 * 2 ^ j) 0 :: (doublingChunks (j + 1) m ++ rest) := by
      simp [doublingChunks, List.range'_succ]
    rw [hcons]
    refine ⟨?_, fun hfit => ?_⟩
    · rw [recvChunks_cons_open o specificHandlers destroys hstep, ihr, List.nil_append]
    · refine chunksFit_cons o specificHandlers destroys hg ?_ ?_ hstep (ihf hfit)
      · simp only [ne_eq, List.replicate_eq_nil_iff]; positivity
      · simp only [payloadCtx, List.length_replicate]; omega

theorem flatten_doublingChunks (j m : ℕ) :
    (doublingChunks j m).flatten = List.replicate (4120 * 2 ^ (j + m) - 4120 * 2 ^ j) 0 := by
  induction m generalizing j with
  | zero => simp [doublingChunks]
  | succ m ih =>
    have hcons : doublingChunks j (m + 1) =
        List.replicate (4120 * 2 ^ j) 0 :: doublingChunks (j + 1) m := by
      simp [doublingChunks, List.range'_succ]
    have hmono : 2 ^ (j + 1) ≤ 2 ^ (j + (m + 1)) := Nat.pow_le_pow_right (by norm_num) (by omega)
    have hpow : 2 ^ (j + 1) = 2 * 2 ^ j := by rw [pow_succ]; ring
    rw [hcons, List.flatten_cons, ih, List.replicate_append_replicate,
      show j + 1 + m = j + (m + 1) by omega]
    congr 1
    rw [hpow] at hmono ⊢
    omega

theorem length_largeFirstChunk :
    (xsanProtocolHeaderSerialize o largeHeader ++ List.replicate 4096 (0 : UInt8)).length =
      xsanCommInitialRecvBufSize := by
  rw [List.length_append, length_serialize, List.length_replicate]
  rfl

/-- The first chunk: the header is decoded and 4096 payload bytes wait. -/
theorem recvChunk_largeHeader :
    recvChunk o specificHandlers destroys (createConnectionCtx true)
        (xsanProtocolHeaderSerialize o largeHeader ++ List.replicate 4096 0) =
      ([], some (payloadCtx 4096 xsanCommInitialRecvBufSize)) := by
  have hhdr : headerOfBytes (xsanProtocolHeaderSerialize o largeHeader ++ List.replicate 4096 0) =
      largeHeader := by
    rw [headerOfBytes_append _ _ (by rw [length_serialize]), headerOfBytes_serialize]
  have hdrop : (xsanProtocolHeaderSerialize o largeHeader ++ List.replicate 4096 (0 : UInt8)).drop
      xsanMessageHeaderSize = List.replicate 4096 0 :=
    List.drop_left' (length_serialize o largeHeader)
  have hle : xsanMessageHeaderSize ≤
      (xsanProtocolHeaderSerialize o largeHeader ++ List.replicate 4096 (0 : UInt8)).length := by
    rw [length_largeFirstChunk]; unfold xsanCommInitialRecvBufSize; omega
  rw [recvChunk_of_grow o specificHandlers destroys rfl (growRecvBuf_of_lt _ (by decide))]
  dsimp only [createConnectionCtx]
  rw [List.nil_append, drain_header o specificHandlers destroys _ rfl hle (by rw [hhdr]; exact largeHeader_valid)]
  -- the 4096 buffered bytes are fewer than the 8 437 761 announced
  rw [payloadHalf_short o specificHandlers destroys _
    (by dsimp only; rw [hdrop, hhdr, List.length_replicate]; decide), hhdr, hdrop]
  rfl

/-- A message the protocol allows, sent as chunks that each fit the free space
of the buffer, is never delivered: the connection is closed when the buffer,
full at 8 437 760 bytes, would have to double past the cap. -/
theorem reassembly_closes_large_message (o : ByteOrder) (specificHandlers : ℕ → Bool)
    (destroys : Dispatch → ℕ → Bool) :
    largeHeader.Valid ∧
    (largeChunks o).flatten =
      xsanProtocolHeaderSerialize o largeHeader ++ List.replicate largeHeader.payloadLength.toNat 0 ∧
    ChunksFit o specificHandlers destroys (createConnectionCtx true) (largeChunks o) ∧
    recvChunks o specificHandlers destroys (createConnectionCtx true) (largeChunks o) = ([], none) := by
  have hfirst : (payloadCtx 4096 xsanCommInitialRecvBufSize).recvBuf.length <
      (payloadCtx 4096 xsanCommInitialRecvBufSize).recvBufCapacity := by
    rw [recvBuf_payloadCtx, recvBufCapacity_payloadCtx, List.length_replicate]
    decide
  have h2 := recvChunk_payloadCtx o specificHandlers destroys 4096 xsanCommInitialRecvBufSize
    xsanCommInitialRecvBufSize 24 (growRecvBuf_of_lt _ hfirst) (by norm_num)
  have hstart : payloadCtx (4096 + 24) xsanCommInitialRecvBufSize =
      payloadCtx (4120 * 2 ^ 0) (4120 * 2 ^ 0) := rfl
  rw [hstart] at h2
  obtain ⟨hrun, hfit⟩ := recvChunks_doubling o specificHandlers destroys 0 11 (by norm_num) [[0]]
  -- the buffer is full at `4120 · 2¹¹` and doubling it passes the cap
  have hover : growRecvBuf (payloadCtx (4120 * 2 ^ (0 + 11)) (4120 * 2 ^ (0 + 11))) = none := by
    refine growRecvBuf_over _ (List.length_replicate ..) (by show 0 < 4120 * 2 ^ (0 + 11); norm_num) ?_
    show xsanProtocolMaxPayloadSize + xsanMessageHeaderSize + 4096 < 4120 * 2 ^ (0 + 11) * 2
    norm_num [xsanProtocolMaxPayloadSize, xsanMessageHeaderSize]
  have hlast : recvChunk o specificHandlers destroys (payloadCtx (4120 * 2 ^ (0 + 11)) (4120 * 2 ^ (0 + 11)))
      [0] = ([], none) := by
    exact recvChunk_of_grow_none o specificHandlers destroys rfl hover [0]
  refine ⟨largeHeader_valid, ?_, ?_, ?_⟩
  · -- 4096 + 24 + (4120 · 2¹¹ − 4120) + 1 payload bytes
    rw [largeChunks, List.flatten_cons, List.flatten_cons, List.flatten_append, flatten_doublingChunks,
      List.flatten_cons, List.flatten_nil, List.append_nil, List.append_assoc,
      List.append_cancel_left_eq, ← List.replicate_succ', List.replicate_append_replicate,
      List.replicate_append_replicate]
    rfl
  · refine chunksFit_cons o specificHandlers destroys (growRecvBuf_of_lt _ (by decide))
      (List.ne_nil_of_length_pos (by rw [length_largeFirstChunk]; decide)) ?_
      (recvChunk_largeHeader o specificHandlers destroys) ?_
    · rw [length_largeFirstChunk]
      exact Nat.le_refl _
    have hne : List.replicate 24 (0 : UInt8) ≠ [] :=
      List.ne_nil_of_length_pos (by rw [List.length_replicate]; decide)
    have hroom : (List.replicate 24 (0 : UInt8)).length ≤
        (payloadCtx 4096 xsanCommInitialRecvBufSize).recvBufCapacity -
          (payloadCtx 4096 xsanCommInitialRecvBufSize).recvBuf.length := by
      rw [recvBuf_payloadCtx, recvBufCapacity_payloadCtx, List.length_replicate,
        List.length_replicate]
      decide
    exact chunksFit_cons o specificHandlers destroys (growRecvBuf_of_lt _ hfirst) hne hroom h2
      (hfit (chunksFit_cons_closed o specificHandlers destroys hover))
  · rw [largeChunks, recvChunks_cons_open o specificHandlers destroys (recvChunk_largeHeader o specificHandlers destroys),
      recvChunks_cons_open o specificHandlers destroys h2, hrun,
      recvChunks_cons_closed o specificHandlers destroys hlast]
    rfl

end Receive

end Xsan
