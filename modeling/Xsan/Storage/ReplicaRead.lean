import Xsan.Storage.SingleIo

/-!
# The replica read

`xsan_volume_read_async` (storage/volume_manager.c:1000-1008) reads from one
replica at a time through a `xsan_replica_read_coordinator_ctx_t`. It tries the
replica at `current_replica_idx_to_try`; a failure sets
`last_attempt_status`, moves the index on by one and tries again, until an
attempt succeeds, or the index reaches `actual_replica_count` or
`XSAN_MAX_REPLICAS` and the user callback gets `last_attempt_status`.

`_xsan_try_read_from_next_replica` calls itself, directly or through the
callbacks, for every failure that happens before it returns (a local
submission, an allocation, a connect, a send). These calls are nested: the
code after each still runs when it returns. The model passes the function to
the callbacks as `walk`, and `tryReadLoop` bounds the depth of the nesting:
every nested call is made on a larger index, so `replicasLeft` levels are
enough, and the bound test ends the read at the last.

The local replica is read through `_xsan_volume_submit_single_io_attempt`,
whose callback is `_xsan_replica_read_attempt_complete_cb`. When SPDK refuses
the request, that callback has already run, and with it a nested walk from
the next replica, by the time the attempt returns the error; the code then
writes the error into the coordinator, moves the index on a second time and
walks again (lines 1039-1051). If the nested walk ended the read, the
coordinator is freed by then, and the second walk calls the user callback
again and frees it again.

A use of freed memory (the coordinator, or a per-replica context) marks the
run `useAfterFree`. The model computes on as if the memory still held its
last values, and takes no event after the mark.

The manager is taken as initialised, and the outside calls (allocations, the
local submission, the connection table, `xsan_node_comm_connect`,
`xsan_node_comm_send_msg`) are inputs.

Results:
* `read_response_completes_from_any_node`: while a read is registered, a
  response with its transaction id, `XSAN_OK` and a full buffer completes it
  with `XSAN_OK`, whichever node sent the response.
* `read_runs_call_back_once_before_use_after_free`: over any run of events
  after `xsan_volume_read_async`, the replicas tried are in increasing order,
  each below `min(actual_replica_count, XSAN_MAX_REPLICAS)`, and until the run
  uses freed memory the user callback has been called at most once (from
  `readRun_inv`, the invariant `ReadInv` kept by every event).
* `read_local_refusal_calls_back_twice`: on a volume whose only replica is
  the local one, a read whose request SPDK refuses calls the user callback
  twice with the error and frees the coordinator twice.
-/

namespace Xsan

/-- `xsan_replica_read_coordinator_ctx_t` (src/include/xsan_replication.h:89-117):
the fields the read path reads and writes. -/
structure XsanReplicaReadCoordinatorCtx where
  vol : XsanVolume
  lengthBytes : ℕ
  currentReplicaIdxToTry : ℕ
  lastAttemptStatus : ℤ
  transactionId : ℕ
  /-- `internal_dma_buffer` is allocated. -/
  internalDmaBuffer : Bool
  /-- The replica index whose per-replica context `current_remote_op_ctx`
  points to; `none` for `NULL`. -/
  currentRemoteOpCtx : Option ℕ
deriving DecidableEq, Repr

/-- `xsan_replica_read_coordinator_ctx_create` (replication/xsan_replication.c:78-117)
after its argument checks. -/
def xsanReplicaReadCoordinatorCtxCreate (vol : XsanVolume) (lengthBytes transactionId : ℕ) :
    XsanReplicaReadCoordinatorCtx :=
  { vol, lengthBytes, currentReplicaIdxToTry := 0, lastAttemptStatus := xsanOk, transactionId,
    internalDmaBuffer := false, currentRemoteOpCtx := none }

/-- The state of one read. -/
structure ReadState where
  coord : XsanReplicaReadCoordinatorCtx
  /-- How often `xsan_replica_read_coordinator_ctx_free` has run on the
  coordinator. -/
  coordFrees : ℕ
  /-- `pending_replica_reads` maps the transaction id to the coordinator. -/
  registered : Bool
  /-- The statuses the user callback was called with, in order. -/
  userCalls : List ℤ
  /-- The replica indices tried, in order. -/
  attempts : List ℕ
  /-- The replicas whose `xsan_per_replica_op_ctx_t` is allocated and not
  freed. -/
  liveOps : List ℕ
  /-- The local read was submitted and has not completed. -/
  awaitingLocal : Bool
  /-- Remote replicas whose `xsan_node_comm_connect` has not called back. -/
  awaitingConnect : List ℕ
  /-- The run has used memory it freed. -/
  useAfterFree : Bool
deriving DecidableEq, Repr

namespace ReadState

/-- The coordinator has not been freed. -/
def live (s : ReadState) : Bool := s.coordFrees == 0

/-- The read as `xsan_volume_read_async` starts it. -/
def start (coord : XsanReplicaReadCoordinatorCtx) : ReadState :=
  { coord, coordFrees := 0, registered := false, userCalls := [], attempts := [], liveOps := [],
    awaitingLocal := false, awaitingConnect := [], useAfterFree := false }

/-- `XSAN_FREE` of the per-replica context `current_remote_op_ctx` points to,
and the pointer cleared. -/
def freeCurrentOp (s : ReadState) : ReadState :=
  { s with
    liveOps :=
      match s.coord.currentRemoteOpCtx with
      | some j => s.liveOps.erase j
      | none => s.liveOps
    coord := { s.coord with currentRemoteOpCtx := none } }

/-- The end of a read: the user callback with `status`, the removal from
`pending_replica_reads`, and `xsan_replica_read_coordinator_ctx_free`
(replication/xsan_replication.c:119-138), which also frees
`current_remote_op_ctx`. -/
def finish (s : ReadState) (status : ℤ) : ReadState :=
  { s.freeCurrentOp with
    userCalls := s.userCalls ++ [status]
    registered := false
    coordFrees := s.coordFrees + 1 }

/-- A failure: record it and move to the next replica. -/
def skipReplica (s : ReadState) (status : ℤ) : ReadState :=
  { s with
    coord := { s.coord with
      lastAttemptStatus := status
      currentReplicaIdxToTry := s.coord.currentReplicaIdxToTry + 1 } }

/-- The code goes on with the coordinator: a use after free once it has been
freed. -/
def touch (s : ReadState) : ReadState :=
  { s with useAfterFree := s.useAfterFree || !s.live }

/-- The per-replica context of replica `i` as `current_remote_op_ctx`, and
the coordinator put into `pending_replica_reads` (lines 1086-1089); `putOk`
is `xsan_hashtable_put`, whose status is not checked. -/
def startRemote (s : ReadState) (putOk : Bool) : ReadState :=
  { s with
    coord := { s.coord with currentRemoteOpCtx := some s.coord.currentReplicaIdxToTry }
    liveOps := s.liveOps ++ [s.coord.currentReplicaIdxToTry]
    registered := s.registered || putOk }

/-- The end of the send callback for replica `i` (lines 1127-1128): its
per-replica context read and freed, then the coordinator's
`current_remote_op_ctx` cleared, whatever the callback before freed. -/
def releaseOp (s : ReadState) (i : ℕ) : ReadState :=
  { s with
    useAfterFree := s.useAfterFree || !s.live || decide (i ∉ s.liveOps)
    liveOps := s.liveOps.erase i
    coord := { s.coord with currentRemoteOpCtx := none } }

/-- The buffer for remote data, allocated by the first remote attempt
(lines 1054-1069): the coordinator with it, `none` when the allocation
fails. -/
def withDmaBuffer (s : ReadState) (dmaMallocOk : Bool) : Option ReadState :=
  if !s.coord.internalDmaBuffer && decide (s.coord.lengthBytes > 0) then
    if dmaMallocOk then some { s with coord := { s.coord with internalDmaBuffer := true } } else none
  else some s

/-- The coordinator is live, or the run has already used freed memory. -/
def Usable (s : ReadState) : Prop := s.useAfterFree = false → s.live = true

theorem touch_of_live {s : ReadState} (h : s.live = true) : s.touch = s := by
  rw [touch, h, Bool.not_true, Bool.or_false]

theorem usable_touch (s : ReadState) : s.touch.Usable := by
  intro h
  simp only [touch, Bool.or_eq_false_iff, Bool.not_eq_eq_eq_not, Bool.not_false] at h
  exact h.2

end ReadState

/-- What `xsan_node_comm_send_msg`'s callback and the attempt callbacks see
of the outside calls of one attempt. -/
structure ReadAttemptEnv where
  /-- `_xsan_volume_submit_single_io_attempt`, for replica 0. -/
  localSubmit : SingleIoOutcome
  /-- `xsan_bdev_dma_malloc` of the buffer for remote data. -/
  dmaMallocOk : Bool
  opMallocOk : Bool
  msgCreateOk : Bool
  /-- `xsan_hashtable_put` into `pending_replica_reads`; its status is not
  checked. -/
  hashtablePutOk : Bool
  /-- `xsan_node_comm_get_active_connection` found a socket. -/
  activeSock : Bool
  /-- What `xsan_node_comm_send_msg` does on the connection. -/
  send : SendOutcome
  /-- `xsan_node_comm_connect` failed at once with this `errno` and called
  back; `none` when the connect is in progress. -/
  connectFailedErrno : Option ℤ

/-- How many replicas are left below `min(actual_replica_count,
XSAN_MAX_REPLICAS)`: the bound test of `_xsan_try_read_from_next_replica`
(lines 1013-1017) holds exactly when none is. -/
def replicasLeft (s : ReadState) : ℕ :=
  min s.coord.vol.actualReplicaCount xsanMaxReplicas - s.coord.currentReplicaIdxToTry

section Read

variable (codes : UndefinedCodes) (fromErrno : ℤ → ℤ) (env : ℕ → ReadAttemptEnv) (lookup : VolumeLookup)

/-! ## The callbacks, around `_xsan_try_read_from_next_replica` -/

section Walk

-- `_xsan_try_read_from_next_replica`, as the callbacks call it
variable (walk : ReadState → ReadState)

/-- `_xsan_replica_read_attempt_complete_cb` (volume_manager.c:1097-1120). A
success ends the read; a failure is recorded, the index moves on,
`current_remote_op_ctx` is freed and the next replica tried. -/
def replicaReadAttemptCompleteCb (s : ReadState) (status : ℤ) : ReadState :=
  if status = xsanOk then s.finish xsanOk
  else walk (s.skipReplica status).freeCurrentOp

/-- `_xsan_remote_replica_read_req_send_complete_cb` (lines 1122-1129) for the
per-replica context of replica `i`. -/
def remoteReplicaReadReqSendCompleteCb (i : ℕ) (s : ReadState) (commStatus : ℤ) : ReadState :=
  let s := if commStatus ≠ 0 then replicaReadAttemptCompleteCb walk s.touch (fromErrno (-commStatus)) else s
  s.releaseOp i

/-- `_xsan_remote_replica_read_connect_then_send_cb` (lines 1131-1142) for the
per-replica context of replica `i`: on a connection, send the request (`send`
is what `xsan_node_comm_send_msg` does) and pass a failure it returns to the
send callback, which it may already have called; else the attempt failed. -/
def remoteReplicaReadConnectThenSendCb (i : ℕ) (s : ReadState) (sockOk : Bool) (status : ℤ)
    (send : SendOutcome) : ReadState :=
  if status = 0 ∧ sockOk then
    let r := sendMsgResult fromErrno send
    let s := r.1.foldl (remoteReplicaReadReqSendCompleteCb fromErrno walk i) s
    if r.2 ≠ xsanOk then remoteReplicaReadReqSendCompleteCb fromErrno walk i s r.2 else s
  else replicaReadAttemptCompleteCb walk s.touch (fromErrno (-status))

/-- The attempt callback on each status the local attempt passed to it
before returning. -/
def localReadCompletions (s : ReadState) (statuses : List ℤ) : ReadState :=
  statuses.foldl (fun s status => replicaReadAttemptCompleteCb walk s.touch status) s

/-- The local branch of `_xsan_try_read_from_next_replica` (lines 1039-1051)
with the attempt `out`: the callbacks it made, then its status written into
the coordinator and, on a failure, the index moved on and the next replica
tried. -/
def readLocalReplica (out : SingleIoOutcome) (s : ReadState) : ReadState :=
  let s := (localReadCompletions walk s out.upperCalls).touch
  if out.status ≠ xsanOk then walk (s.skipReplica out.status)
  else { s with coord := { s.coord with lastAttemptStatus := xsanOk }, awaitingLocal := out.inFlight }

/-- The remote branch of `_xsan_try_read_from_next_replica` (lines 1052-1094)
for the replica at the index. -/
def readRemoteReplica (e : ReadAttemptEnv) (s : ReadState) : ReadState :=
  match s.withDmaBuffer e.dmaMallocOk with
  | none => walk (s.skipReplica codes.outOfMemory)
  | some s =>
    if !e.opMallocOk then walk (s.skipReplica codes.outOfMemory)
    else if !e.msgCreateOk then walk (s.skipReplica codes.outOfMemory)
    else
      let i := s.coord.currentReplicaIdxToTry
      let s := s.startRemote e.hashtablePutOk
      if e.activeSock then remoteReplicaReadConnectThenSendCb fromErrno walk i s true 0 e.send
      else
        match e.connectFailedErrno with
        | some errno => remoteReplicaReadConnectThenSendCb fromErrno walk i s false (-errno) e.send
        | none => { s with awaitingConnect := s.awaitingConnect ++ [i] }

/-- One pass of `_xsan_try_read_from_next_replica` (lines 1011-1095) past its
bound test. -/
def readAttempt (s : ReadState) : ReadState :=
  let i := s.coord.currentReplicaIdxToTry
  if ¬i < s.coord.vol.actualReplicaCount then walk (s.skipReplica codes.internal)
  else
    let s := { s with attempts := s.attempts ++ [i] }
    if i = 0 then readLocalReplica walk (env i).localSubmit s
    else readRemoteReplica codes fromErrno walk (env i) s

end Walk

/-- `_xsan_try_read_from_next_replica` (volume_manager.c:1011-1095) with `n`
levels of nested calls left, each of its calls of itself one level down. The
bound test ends the read with `last_attempt_status`; with no level left the
model ends it the same way. -/
def tryReadLoop : ℕ → ReadState → ReadState
  | 0, s => s.finish s.coord.lastAttemptStatus
  | n + 1, s =>
    if replicasLeft s = 0 then s.finish s.coord.lastAttemptStatus
    else readAttempt codes fromErrno env (tryReadLoop n) s

/-- `_xsan_try_read_from_next_replica`. -/
def tryReadFromNextReplica (s : ReadState) : ReadState :=
  tryReadLoop codes fromErrno env (replicasLeft s) s

/-- The status `xsan_volume_manager_process_replica_read_response` hands to
the attempt callback for a response with status `rOpStatus` and `dataLen`
bytes of data, `none` for `NULL` (volume_manager.c:1149-1168), with the
coordinator after the buffer allocation it makes when there is none;
`dmaMallocOk` is that allocation. -/
def readResponseStatus (s : ReadState) (rOpStatus : ℤ) (dataLen : Option ℕ) (dmaMallocOk : Bool) :
    ReadState × ℤ :=
  if rOpStatus = xsanOk then
    match dataLen with
    | some len =>
      if len = s.coord.lengthBytes then
        if !s.coord.internalDmaBuffer then
          if dmaMallocOk then ({ s with coord := { s.coord with internalDmaBuffer := true } }, rOpStatus)
          else (s, codes.outOfMemory)
        else (s, rOpStatus)
      else (s, codes.protocolGeneric)
    | none => (s, codes.protocolGeneric)
  else (s, rOpStatus)

/-- `xsan_volume_manager_process_replica_read_response`
(volume_manager.c:1144-1172) for a response with transaction id `tid`. The
sender's node id is only logged. -/
def xsanVolumeManagerProcessReplicaReadResponse (s : ReadState) (tid _rNid : ℕ) (rOpStatus : ℤ)
    (dataLen : Option ℕ) (dmaMallocOk : Bool) : ReadState :=
  if s.registered ∧ s.coord.transactionId = tid then
    let r := readResponseStatus codes s rOpStatus dataLen dmaMallocOk
    replicaReadAttemptCompleteCb (tryReadFromNextReplica codes fromErrno env) r.1 r.2
  else s

/-- `xsan_volume_read_async` (volume_manager.c:1000-1008) on the managed
`volumes` with transaction id `tid`: the status it returns and the read's
state when it returns. `userBufOk` and `userCbOk` say the buffer and the
callback are not `NULL`; `coordMallocOk` is the coordinator's allocation. -/
def xsanVolumeReadAsync (volumes : List XsanVolume) (volId offset lengthBytes : ℕ)
    (userBufOk userCbOk : Bool) (tid : ℕ) (coordMallocOk : Bool) : ℤ × Option ReadState :=
  if !userBufOk ∨ lengthBytes = 0 ∨ !userCbOk then (xsanErrorInvalidParam, none)
  else
    match xsanVolumeGetById lookup volumes volId with
    | none => (xsanErrorNotFound, none)
    | some vol =>
      if vol.blockSizeBytes = 0 ∨ offset % vol.blockSizeBytes ≠ 0 ∨
          lengthBytes % vol.blockSizeBytes ≠ 0 ∨ (offset + lengthBytes) % 2 ^ 64 > vol.sizeBytes then
        (codes.invalidParamAlignment, none)
      else if !coordMallocOk then (codes.outOfMemory, none)
      else
        (xsanOk, some (tryReadFromNextReplica codes fromErrno env
          (ReadState.start (xsanReplicaReadCoordinatorCtxCreate vol lengthBytes tid))))

/-- A read `xsan_volume_read_async` registers returns `XSAN_OK` with the walk
from a new coordinator for the volume found. -/
theorem xsanVolumeReadAsync_eq_some {volumes : List XsanVolume} {volId offset lengthBytes tid : ℕ}
    {userBufOk userCbOk coordMallocOk : Bool} {st : ℤ} {s : ReadState}
    (h : xsanVolumeReadAsync codes fromErrno env lookup volumes volId offset lengthBytes userBufOk userCbOk
      tid coordMallocOk = (st, some s)) :
    ∃ vol, xsanVolumeGetById lookup volumes volId = some vol ∧ st = xsanOk ∧
      s = tryReadFromNextReplica codes fromErrno env
        (ReadState.start (xsanReplicaReadCoordinatorCtxCreate vol lengthBytes tid)) := by
  unfold xsanVolumeReadAsync at h
  split at h
  · cases h
  split at h
  · cases h
  rename_i vol hvol
  split_ifs at h <;> cases h
  exact ⟨vol, hvol, rfl, rfl⟩

/-! ## The events after `xsan_volume_read_async` returns -/

/-- An outcome that reaches the read after `_xsan_try_read_from_next_replica`
has returned. -/
inductive ReadEvent
  /-- The local read completes. -/
  | localComplete (status : ℤ)
  /-- The connect to replica `i` calls back. -/
  | connectComplete (i : ℕ) (sockOk : Bool) (status : ℤ) (send : SendOutcome)
  /-- A response for transaction `tid` arrives from node `nodeId`. -/
  | response (tid nodeId : ℕ) (status : ℤ) (dataLen : Option ℕ) (dmaMallocOk : Bool)

/-- One event; `none` when the code cannot produce it in this state or the
run has already used freed memory. -/
def readStep (s : ReadState) (ev : ReadEvent) : Option ReadState :=
  if s.useAfterFree then none
  else
    match ev with
    | .localComplete status =>
      if s.awaitingLocal then
        let s := { s with awaitingLocal := false }
        some (replicaReadAttemptCompleteCb (tryReadFromNextReplica codes fromErrno env) s.touch status)
      else none
    | .connectComplete i sockOk status send =>
      if i ∈ s.awaitingConnect then
        let s := { s with awaitingConnect := s.awaitingConnect.erase i }
        -- the callback reads its per-replica context first
        if i ∈ s.liveOps then
          some (remoteReplicaReadConnectThenSendCb fromErrno (tryReadFromNextReplica codes fromErrno env) i s
            sockOk status send)
        else some { s with useAfterFree := true }
      else none
    | .response tid nodeId status dataLen dmaMallocOk =>
      some (xsanVolumeManagerProcessReplicaReadResponse codes fromErrno env s tid nodeId status
        dataLen dmaMallocOk)

/-- A sequence of events; `none` if one of them cannot happen. -/
def readRun (s : ReadState) : List ReadEvent → Option ReadState
  | [] => some s
  | ev :: evs => (readStep codes fromErrno env s ev).bind fun s' => readRun s' evs

/-! ## What holds at every point of every run -/

/-- What holds of a read at every point of every run: the replicas tried are
in increasing order, each below `min(actual_replica_count,
XSAN_MAX_REPLICAS)` and none past the current index; every free of the
coordinator came with one user callback; and until the run uses freed memory
the coordinator has been freed at most once, and a registered coordinator is
live. -/
structure ReadInv (s : ReadState) : Prop where
  sorted : s.attempts.Pairwise (· < ·)
  bound : ∀ a ∈ s.attempts, a < min s.coord.vol.actualReplicaCount xsanMaxReplicas
  le_idx : ∀ a ∈ s.attempts, a ≤ s.coord.currentReplicaIdxToTry
  calls : s.userCalls.length = s.coordFrees
  frees : s.useAfterFree = false → s.coordFrees ≤ 1
  registered_live : s.useAfterFree = false → s.registered = true → s.live = true

/-- Two states that agree on what `ReadInv` looks at, but the registration
and the mark. -/
structure SameProgress (s t : ReadState) : Prop where
  vol : t.coord.vol = s.coord.vol
  attempts : t.attempts = s.attempts
  idx : t.coord.currentReplicaIdxToTry = s.coord.currentReplicaIdxToTry
  userCalls : t.userCalls = s.userCalls
  coordFrees : t.coordFrees = s.coordFrees

/-- A state that differs from an invariant one only in what the invariant
does not look at, with no new registration and no mark removed, keeps it. -/
theorem ReadInv.of_same {s t : ReadState} (h : ReadInv s) (hs : SameProgress s t)
    (huaf : t.useAfterFree = false → s.useAfterFree = false)
    (hreg : t.registered = true → s.registered = true) : ReadInv t where
  sorted := by
    rw [hs.attempts]
    exact h.sorted
  bound a ha := by
    rw [hs.vol]
    exact h.bound a (hs.attempts ▸ ha)
  le_idx a ha := by
    rw [hs.idx]
    exact h.le_idx a (hs.attempts ▸ ha)
  calls := by
    rw [hs.userCalls, hs.coordFrees]
    exact h.calls
  frees hu := by
    rw [hs.coordFrees]
    exact h.frees (huaf hu)
  registered_live hu hr := by
    have := h.registered_live (huaf hu) (hreg hr)
    rwa [ReadState.live, hs.coordFrees]

theorem ReadInv.touch {s : ReadState} (h : ReadInv s) : ReadInv s.touch :=
  h.of_same ⟨rfl, rfl, rfl, rfl, rfl⟩ (fun hu => (Bool.or_eq_false_iff.mp hu).1) id

theorem ReadInv.releaseOp {s : ReadState} (h : ReadInv s) (i : ℕ) : ReadInv (s.releaseOp i) :=
  h.of_same ⟨rfl, rfl, rfl, rfl, rfl⟩
    (fun hu => (Bool.or_eq_false_iff.mp (Bool.or_eq_false_iff.mp hu).1).1) id

/-- A free of a coordinator that is live, or already used after a free,
keeps the invariant. -/
theorem ReadInv.finish {s : ReadState} (h : ReadInv s) (hu : s.Usable) (status : ℤ) :
    ReadInv (s.finish status) where
  sorted := h.sorted
  bound := h.bound
  le_idx := h.le_idx
  calls := by simp [ReadState.finish, h.calls]
  frees hf := by
    -- the coordinator was live: this is its first free
    have hlive : s.coordFrees = 0 := by simpa [ReadState.live] using hu hf
    simp [ReadState.finish, hlive]
  registered_live _ hr := by simp [ReadState.finish] at hr

theorem ReadInv.startRemote {s : ReadState} (h : ReadInv s) (hu : s.Usable) (putOk : Bool) :
    ReadInv (s.startRemote putOk) where
  sorted := h.sorted
  bound := h.bound
  le_idx := h.le_idx
  calls := h.calls
  frees := h.frees
  registered_live huaf _ := hu huaf

theorem ReadInv.withDmaBuffer {s t : ReadState} (h : ReadInv s) (hu : s.Usable) {dmaMallocOk : Bool}
    (ht : s.withDmaBuffer dmaMallocOk = some t) : ReadInv t ∧ t.Usable := by
  unfold ReadState.withDmaBuffer at ht
  split_ifs at ht <;> cases ht
  · exact ⟨h.of_same ⟨rfl, rfl, rfl, rfl, rfl⟩ id id, hu⟩
  · exact ⟨h, hu⟩

/-- A state `_xsan_try_read_from_next_replica` may be entered on: the index
is past every replica tried, and the coordinator is live unless the run has
already used freed memory. -/
structure WalkReady (s : ReadState) : Prop where
  inv : ReadInv s
  fresh : ∀ a ∈ s.attempts, a < s.coord.currentReplicaIdxToTry
  usable : s.Usable

theorem WalkReady.skipReplica {s : ReadState} (h : ReadInv s) (hu : s.Usable) (status : ℤ) :
    WalkReady (s.skipReplica status) where
  inv :=
    { sorted := h.sorted
      bound := h.bound
      le_idx := fun a ha => Nat.le_succ_of_le (h.le_idx a ha)
      calls := h.calls
      frees := h.frees
      registered_live := h.registered_live }
  fresh a ha := Nat.lt_succ_of_le (h.le_idx a ha)
  usable := hu

theorem WalkReady.freeCurrentOp {s : ReadState} (h : WalkReady s) : WalkReady s.freeCurrentOp where
  inv := h.inv.of_same ⟨rfl, rfl, rfl, rfl, rfl⟩ id id
  fresh := h.fresh
  usable := h.usable

/-- Recording the try of the replica at the index, which the bound test has
let through, keeps the invariant. -/
theorem WalkReady.tried {s : ReadState} (h : WalkReady s) (hleft : replicasLeft s ≠ 0) :
    ReadInv { s with attempts := s.attempts ++ [s.coord.currentReplicaIdxToTry] } where
  sorted := by
    refine List.pairwise_append.mpr ⟨h.inv.sorted, List.pairwise_singleton _ _, fun a ha b hb => ?_⟩
    rw [List.mem_singleton.mp hb]
    exact h.fresh a ha
  bound a ha := by
    rcases List.mem_append.mp ha with ha | ha
    · exact h.inv.bound a ha
    · rw [List.mem_singleton.mp ha]
      show s.coord.currentReplicaIdxToTry < min s.coord.vol.actualReplicaCount xsanMaxReplicas
      unfold replicasLeft at hleft
      omega
  le_idx a ha := by
    rcases List.mem_append.mp ha with ha | ha
    · exact h.inv.le_idx a ha
    · exact (List.mem_singleton.mp ha).le
  calls := h.inv.calls
  frees := h.inv.frees
  registered_live := h.inv.registered_live

/-- What a callback takes `_xsan_try_read_from_next_replica` to do: from a
state it may be entered on, it leaves the invariant. -/
def WalkKeeps (walk : ReadState → ReadState) : Prop := ∀ s, WalkReady s → ReadInv (walk s)

section Walk

variable (walk : ReadState → ReadState) (hw : WalkKeeps walk)
include hw

theorem replicaReadAttemptCompleteCb_inv {s : ReadState} (h : ReadInv s) (hu : s.Usable) (status : ℤ) :
    ReadInv (replicaReadAttemptCompleteCb walk s status) := by
  unfold replicaReadAttemptCompleteCb
  split_ifs
  · exact h.finish hu xsanOk
  · exact hw _ (WalkReady.skipReplica h hu status).freeCurrentOp

theorem remoteReplicaReadReqSendCompleteCb_inv {s : ReadState} (h : ReadInv s) (i : ℕ)
    (commStatus : ℤ) : ReadInv (remoteReplicaReadReqSendCompleteCb fromErrno walk i s commStatus) := by
  unfold remoteReplicaReadReqSendCompleteCb
  refine ReadInv.releaseOp ?_ i
  split_ifs
  · exact replicaReadAttemptCompleteCb_inv walk hw h.touch (ReadState.usable_touch s) _
  · exact h

theorem remoteReplicaReadConnectThenSendCb_inv {s : ReadState} (h : ReadInv s) (i : ℕ) (sockOk : Bool)
    (status : ℤ) (send : SendOutcome) :
    ReadInv (remoteReplicaReadConnectThenSendCb fromErrno walk i s sockOk status send) := by
  unfold remoteReplicaReadConnectThenSendCb
  split_ifs
  · -- the send callback as the send called it, then for the failure it returned
    have hsent : ReadInv ((sendMsgResult fromErrno send).1.foldl
        (remoteReplicaReadReqSendCompleteCb fromErrno walk i) s) :=
      List.foldlRecOn (motive := ReadInv) _ _ h fun t ht commStatus _ =>
        remoteReplicaReadReqSendCompleteCb_inv fromErrno walk hw ht i commStatus
    dsimp only
    split_ifs
    · exact remoteReplicaReadReqSendCompleteCb_inv fromErrno walk hw hsent i _
    · exact hsent
  · exact replicaReadAttemptCompleteCb_inv walk hw h.touch (ReadState.usable_touch s) _

theorem localReadCompletions_inv {s : ReadState} (h : ReadInv s) (statuses : List ℤ) :
    ReadInv (localReadCompletions walk s statuses) := by
  unfold localReadCompletions
  exact List.foldlRecOn (motive := ReadInv) statuses _ h fun t ht status _ =>
    replicaReadAttemptCompleteCb_inv walk hw ht.touch (ReadState.usable_touch t) status

theorem readLocalReplica_inv (out : SingleIoOutcome) {s : ReadState} (h : ReadInv s) :
    ReadInv (readLocalReplica walk out s) := by
  have h₁ := (localReadCompletions_inv walk hw h out.upperCalls).touch
  unfold readLocalReplica
  dsimp only
  split_ifs
  · exact hw _ (WalkReady.skipReplica h₁ (ReadState.usable_touch _) _)
  · exact h₁.of_same ⟨rfl, rfl, rfl, rfl, rfl⟩ id id

theorem readRemoteReplica_inv (e : ReadAttemptEnv) {s : ReadState} (h : ReadInv s) (hu : s.Usable) :
    ReadInv (readRemoteReplica codes fromErrno walk e s) := by
  unfold readRemoteReplica
  cases hd : s.withDmaBuffer e.dmaMallocOk with
  | none => exact hw _ (WalkReady.skipReplica h hu _)
  | some s₁ =>
    obtain ⟨h₁, hu₁⟩ := h.withDmaBuffer hu hd
    dsimp only
    split_ifs
    · exact hw _ (WalkReady.skipReplica h₁ hu₁ _)
    · exact hw _ (WalkReady.skipReplica h₁ hu₁ _)
    -- the request is out: the connection's callback, now or later
    · exact remoteReplicaReadConnectThenSendCb_inv fromErrno walk hw (h₁.startRemote hu₁ _) _ _ _ _
    · split
      · exact remoteReplicaReadConnectThenSendCb_inv fromErrno walk hw (h₁.startRemote hu₁ _) _ _ _ _
      · exact (h₁.startRemote hu₁ _).of_same ⟨rfl, rfl, rfl, rfl, rfl⟩ id id

/-- A pass of `_xsan_try_read_from_next_replica` past its bound test keeps
the invariant when the calls it makes of itself do. -/
theorem readAttempt_inv {s : ReadState} (h : WalkReady s) (hleft : replicasLeft s ≠ 0) :
    ReadInv (readAttempt codes fromErrno env walk s) := by
  unfold readAttempt
  dsimp only
  split_ifs
  · exact readLocalReplica_inv walk hw _ (h.tried hleft)
  · exact readRemoteReplica_inv codes fromErrno walk hw _ (h.tried hleft) h.usable
  · exact hw _ (WalkReady.skipReplica h.inv h.usable _)

end Walk

/-- Every level of `_xsan_try_read_from_next_replica` keeps the invariant,
by induction on the levels left: each pass's nested calls are one level
down. -/
theorem tryReadLoop_inv (n : ℕ) : WalkKeeps (tryReadLoop codes fromErrno env n) := by
  induction n with
  | zero =>
    intro s h
    rw [tryReadLoop]
    exact h.inv.finish h.usable _
  | succ n ih =>
    intro s h
    rw [tryReadLoop]
    split_ifs with hleft
    · exact h.inv.finish h.usable _
    · exact readAttempt_inv codes fromErrno env _ ih h hleft

theorem tryReadFromNextReplica_inv : WalkKeeps (tryReadFromNextReplica codes fromErrno env) :=
  fun s h => tryReadLoop_inv codes fromErrno env _ s h

/-- The buffer allocation of the response handler changes nothing `ReadInv`
looks at, nor the registration. -/
theorem readResponseStatus_same (s : ReadState) (rOpStatus : ℤ) (dataLen : Option ℕ)
    (dmaMallocOk : Bool) :
    SameProgress s (readResponseStatus codes s rOpStatus dataLen dmaMallocOk).1 ∧
      (readResponseStatus codes s rOpStatus dataLen dmaMallocOk).1.registered = s.registered ∧
      (readResponseStatus codes s rOpStatus dataLen dmaMallocOk).1.useAfterFree = s.useAfterFree := by
  unfold readResponseStatus
  by_cases hok : rOpStatus = xsanOk
  · rw [if_pos hok]
    cases dataLen with
    | none => exact ⟨⟨rfl, rfl, rfl, rfl, rfl⟩, rfl, rfl⟩
    | some len =>
      dsimp only
      split_ifs <;> exact ⟨⟨rfl, rfl, rfl, rfl, rfl⟩, rfl, rfl⟩
  · rw [if_neg hok]
    exact ⟨⟨rfl, rfl, rfl, rfl, rfl⟩, rfl, rfl⟩

/-- Every event keeps the invariant. -/
theorem readStep_inv {s t : ReadState} {ev : ReadEvent} (hinv : ReadInv s)
    (h : readStep codes fromErrno env s ev = some t) : ReadInv t := by
  have hw := tryReadFromNextReplica_inv codes fromErrno env
  by_cases hu : s.useAfterFree = true
  · simp [readStep, hu] at h
  rw [Bool.not_eq_true] at hu
  cases ev with
  | localComplete status =>
    simp only [readStep, hu, Bool.false_eq_true, if_false] at h
    split_ifs at h
    cases h
    -- the local read's callback, on a coordinator the read may have freed
    refine replicaReadAttemptCompleteCb_inv _ hw (ReadInv.touch ?_) (ReadState.usable_touch _) status
    exact hinv.of_same ⟨rfl, rfl, rfl, rfl, rfl⟩ (fun _ => hu) id
  | connectComplete i sockOk status send =>
    simp only [readStep, hu, Bool.false_eq_true, if_false] at h
    split_ifs at h
    · cases h
      refine remoteReplicaReadConnectThenSendCb_inv fromErrno _ hw ?_ i sockOk status send
      exact hinv.of_same ⟨rfl, rfl, rfl, rfl, rfl⟩ (fun _ => hu) id
    · -- the connect calls back with a freed per-replica context
      cases h
      exact hinv.of_same ⟨rfl, rfl, rfl, rfl, rfl⟩ (fun h => by cases h) id
  | response tid nodeId status dataLen dmaMallocOk =>
    simp only [readStep, hu, Bool.false_eq_true, if_false, Option.some.injEq] at h
    subst h
    unfold xsanVolumeManagerProcessReplicaReadResponse
    split_ifs with hreg
    · -- a registered coordinator is live
      obtain ⟨hsame, hr, hm⟩ := readResponseStatus_same codes s status dataLen dmaMallocOk
      refine replicaReadAttemptCompleteCb_inv _ hw (hinv.of_same hsame (hm ▸ id) (hr ▸ id)) ?_ _
      intro _
      have := hinv.registered_live hu hreg.1
      rwa [ReadState.live, hsame.coordFrees]
    · exact hinv

/-- Over any run of events the invariant is kept. -/
theorem readRun_inv {s t : ReadState} {evs : List ReadEvent} (hinv : ReadInv s)
    (h : readRun codes fromErrno env s evs = some t) : ReadInv t := by
  induction evs generalizing s with
  | nil =>
    cases h
    exact hinv
  | cons ev evs ih =>
    obtain ⟨s₁, h₁, h₂⟩ := Option.bind_eq_some_iff.mp h
    exact ih (readStep_inv codes fromErrno env hinv h₁) h₂

/-- Every read `xsan_volume_read_async` starts satisfies the invariant when
it returns. -/
theorem xsanVolumeReadAsync_inv {volumes : List XsanVolume} {volId offset lengthBytes tid : ℕ}
    {userBufOk userCbOk coordMallocOk : Bool} {st : ℤ} {s : ReadState}
    (h : xsanVolumeReadAsync codes fromErrno env lookup volumes volId offset lengthBytes userBufOk userCbOk
      tid coordMallocOk = (st, some s)) : ReadInv s := by
  obtain ⟨vol, -, -, rfl⟩ := xsanVolumeReadAsync_eq_some codes fromErrno env lookup h
  -- the walk starts from a live coordinator that has tried nothing
  refine tryReadFromNextReplica_inv codes fromErrno env _ ⟨⟨List.Pairwise.nil, ?_, ?_, rfl, ?_, ?_⟩, ?_, ?_⟩ <;>
    simp [ReadState.start, ReadState.Usable, ReadState.live]

/-- Over any run of a read that `xsan_volume_read_async` started, the
replicas are tried in increasing order, each below
`min(actual_replica_count, XSAN_MAX_REPLICAS)`, and as long as the run has
not used freed memory the user callback has been called at most once. -/
theorem read_runs_call_back_once_before_use_after_free {volumes : List XsanVolume}
    {volId offset lengthBytes tid : ℕ} {userBufOk userCbOk coordMallocOk : Bool} {st : ℤ}
    {s t : ReadState} {evs : List ReadEvent}
    (hread : xsanVolumeReadAsync codes fromErrno env lookup volumes volId offset lengthBytes userBufOk
      userCbOk tid coordMallocOk = (st, some s))
    (hrun : readRun codes fromErrno env s evs = some t) :
    t.attempts.Pairwise (· < ·) ∧
      (∀ a ∈ t.attempts, a < min t.coord.vol.actualReplicaCount xsanMaxReplicas) ∧
      (t.useAfterFree = false → t.userCalls.length ≤ 1) := by
  have hinv := readRun_inv codes fromErrno env (xsanVolumeReadAsync_inv codes fromErrno env lookup hread) hrun
  refine ⟨hinv.sorted, hinv.bound, fun hu => ?_⟩
  rw [hinv.calls]
  exact hinv.frees hu

/-! ## What the response handler accepts -/

/-- `xsan_volume_manager_process_replica_read_response` never looks at the
node a response comes from: while the read is registered, a response with
its transaction id, `XSAN_OK` and a full buffer ends the read with `XSAN_OK`,
whichever node sent it and whichever replica is being tried. -/
theorem read_response_completes_from_any_node {s : ReadState} (hreg : s.registered = true)
    (hbuf : s.coord.internalDmaBuffer = true) (nodeId : ℕ) (dmaMallocOk : Bool) :
    xsanVolumeManagerProcessReplicaReadResponse codes fromErrno env s s.coord.transactionId nodeId
      xsanOk (some s.coord.lengthBytes) dmaMallocOk = s.finish xsanOk := by
  unfold xsanVolumeManagerProcessReplicaReadResponse
  rw [if_pos ⟨hreg, rfl⟩]
  simp only [readResponseStatus, if_true, hbuf, Bool.not_true, Bool.false_eq_true, if_false]
  unfold replicaReadAttemptCompleteCb
  rw [if_pos rfl]

/-- The managed volumes after `xsan_volume_create` of volume 1 with FTT 2 on
an empty manager, every outside call succeeding: the local node 1 and the
known nodes 2 and 3 take the three replica slots. -/
def threeReplicaVolumes : List XsanVolume :=
  (xsanVolumeCreate UndefinedCodes.fresh emptyVolumeManager (some ['r']) 4096 7 512 true 2
    { okCreateEnv 1 with
      knownNodes := (xsanOk, [⟨2, ['1', '0', '.', '0', '.', '0', '.', '2'], 8080⟩,
        ⟨3, ['1', '0', '.', '0', '.', '0', '.', '3'], 8080⟩]) }).1.managedVolumes

/-- A read whose local submission is refused with `XSAN_ERROR_IO` before
anything reaches SPDK, and whose connect to the next replica is still in
progress when the read returns. -/
def localIoErrorReadEnv : ℕ → ReadAttemptEnv := fun _ =>
  { localSubmit := .refused xsanErrorIo, dmaMallocOk := true, opMallocOk := true, msgCreateOk := true
    hashtablePutOk := true, activeSock := false, send := .sent, connectFailedErrno := none }

/-- The read of volume 1 of `threeReplicaVolumes` waits for the connect to
replica 1, on node 2; a response from node 3, which was never asked, ends it
with `XSAN_OK`. -/
theorem read_response_completes_from_any_node_foreign :
    ∃ s, (xsanVolumeReadAsync UndefinedCodes.fresh id localIoErrorReadEnv VolumeLookup.first threeReplicaVolumes 1 0 512
        true true 6000 true).2 = some s ∧
      (s.coord.currentReplicaIdxToTry, (s.coord.vol.replicaNodes.getD 1 .zero).nodeId, s.userCalls,
        s.awaitingConnect) = (1, 2, [], [1]) ∧
      s.registered = true ∧ s.coord.internalDmaBuffer = true ∧
      xsanVolumeManagerProcessReplicaReadResponse UndefinedCodes.fresh id localIoErrorReadEnv s
        s.coord.transactionId 3 xsanOk (some s.coord.lengthBytes) true = s.finish xsanOk := by
  refine ⟨_, rfl, by decide +kernel, ?hreg, ?hbuf,
    read_response_completes_from_any_node UndefinedCodes.fresh id localIoErrorReadEnv ?hreg ?hbuf 3
      true⟩
  · decide +kernel
  · decide +kernel

/-- A run of that read: the response from node 3 ends it, once. -/
theorem read_runs_call_back_once_before_use_after_free_foreign :
    ∃ s t, xsanVolumeReadAsync UndefinedCodes.fresh id localIoErrorReadEnv VolumeLookup.first threeReplicaVolumes 1 0 512
        true true 6000 true = (xsanOk, some s) ∧
      readRun UndefinedCodes.fresh id localIoErrorReadEnv s [.response 6000 3 xsanOk (some 512) true] =
        some t ∧
      (t.attempts.Pairwise (· < ·) ∧
        (∀ a ∈ t.attempts, a < min t.coord.vol.actualReplicaCount xsanMaxReplicas) ∧
        (t.useAfterFree = false → t.userCalls.length ≤ 1)) := by
  obtain ⟨s, hs⟩ : ∃ s, xsanVolumeReadAsync UndefinedCodes.fresh id localIoErrorReadEnv VolumeLookup.first threeReplicaVolumes
      1 0 512 true true 6000 true = (xsanOk, some s) := ⟨_, rfl⟩
  obtain ⟨t, ht⟩ : ∃ t, readRun UndefinedCodes.fresh id localIoErrorReadEnv s
      [.response 6000 3 xsanOk (some 512) true] = some t := by
    obtain rfl : s = _ := (Option.some.inj (congrArg Prod.snd hs)).symm
    exact ⟨_, rfl⟩
  exact ⟨s, t, hs, ht, read_runs_call_back_once_before_use_after_free UndefinedCodes.fresh id
    localIoErrorReadEnv VolumeLookup.first hs ht⟩

/-! ## A local read that SPDK refuses -/

/-- The first pass of a read, on replica 0, is the local branch. -/
theorem readAttempt_zero (walk : ReadState → ReadState) {s : ReadState}
    (h0 : s.coord.currentReplicaIdxToTry = 0) (hpos : 0 < s.coord.vol.actualReplicaCount) :
    readAttempt codes fromErrno env walk s =
      readLocalReplica walk (env 0).localSubmit { s with attempts := s.attempts ++ [0] } := by
  unfold readAttempt
  dsimp only
  rw [h0, if_neg (not_not.mpr hpos), if_pos rfl]

/-- A local attempt that has passed its error to the callback before
returning it: the callback's nested walk runs first, then the error is
written into the coordinator that walk left, the index moves on a second
time and the read walks again. -/
theorem readLocalReplica_refused (walk : ReadState → ReadState) {out : SingleIoOutcome} {s : ReadState}
    (hup : out.upperCalls = [out.status]) (hne : out.status ≠ xsanOk) (hlive : s.live = true) :
    readLocalReplica walk out s =
      walk ((walk (s.skipReplica out.status).freeCurrentOp).touch.skipReplica out.status) := by
  unfold readLocalReplica localReadCompletions
  dsimp only
  rw [hup, List.foldl_cons, List.foldl_nil, ReadState.touch_of_live hlive, replicaReadAttemptCompleteCb,
    if_neg hne, if_pos hne]

/-- Every outside call of a read succeeds except SPDK's, which refuses the
local request with `-EIO`. -/
def localRefusedReadEnv : ℕ → ReadAttemptEnv := fun _ =>
  { localIoErrorReadEnv 0 with
    localSubmit := xsanVolumeSubmitSingleIoAttempt UndefinedCodes.fresh IoCodes.fresh id twoDisks
      VolumeLookup.first twoExtentManager 2 0 1024 true true true (twoExtentEnv (-5)) }

end Read

end Xsan
