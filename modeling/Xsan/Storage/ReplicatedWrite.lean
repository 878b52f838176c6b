import Xsan.Storage.SingleIo

/-!
# The replicated write

`xsan_volume_write_async` (storage/volume_manager.c:1174-1361) sends a write
to every replica of a volume and counts the outcomes in an
`xsan_replicated_io_ctx_t`: the local write's completion, and for each remote
replica the connect, the send and the replica's response. The callbacks that
count also write the replica states of the volume.

The model's state is the managed volumes, the context, whether the context is
still registered under its transaction id, and what is still in flight (the
local write, and the remote replicas whose connect has not completed). The
outside calls are inputs. Two functions the path calls are not defined in the
tree and are parameters: `_xsan_check_replicated_write_completion`, taken to
report completion and possibly unregister the context, touching nothing else
(`CompletionCheck`), and `xsan_error_from_errno`.

Results:
* `writeStep_states`, `writeRun_states`, `xsanVolumeWriteAsync_states`: no
  callback and no step of a write ever writes a volume's own state, only the
  states of its replicas.
* `xsanVolumeWriteAsync_eq_some`: what a write that registers its context
  returns, the loop's state or the fallback's.
* `volume_state_stale_after_local_write_failure`: after one failed local
  write a volume is `ONLINE` with no replica online, and admits writes.
* `write_fallback_counts_twice`: when no replica is writable the loop counts a
  failure per replica and the fallback then counts `total_replicas_targeted`
  more. `remoteReplicaConnectThenSendCb_writev_failed` and
  `processReplicaWriteResponse_counts` are the two other ways one replica
  counts more than once.
-/

namespace Xsan

/-- `xsan_replicated_io_ctx_t` (src/include/xsan_replication.h:21-50): the
fields the write path reads and writes. -/
structure XsanReplicatedIoCtx where
  volumeId : ℕ
  totalReplicasTargeted : ℕ
  successfulWrites : ℕ
  failedWrites : ℕ
  finalStatus : ℤ
  transactionId : ℕ
deriving DecidableEq, Repr

/-- `xsan_replicated_io_ctx_create` (replication/xsan_replication_common.c:14-83)
after its argument checks; `none` for `NULL`. `total_replicas_targeted` is
`FTT + 1` in `uint32_t`, capped by the replica count and by
`XSAN_MAX_REPLICAS`. -/
def xsanReplicatedIoCtxCreate (mallocOk : Bool) (vol : XsanVolume) (lengthBytes transactionId : ℕ) :
    Option XsanReplicatedIoCtx :=
  if lengthBytes = 0 then none
  else if vol.actualReplicaCount = 0 ∧ vol.ftt > 0 then none
  else if !mallocOk then none
  else
    let total := (vol.ftt + 1) % 2 ^ 32
    let total := if total > vol.actualReplicaCount then vol.actualReplicaCount else total
    let total := if total > xsanMaxReplicas then xsanMaxReplicas else total
    if total = 0 ∧ lengthBytes > 0 then none
    else
      some { volumeId := vol.id, totalReplicasTargeted := total, successfulWrites := 0,
             failedWrites := 0, finalStatus := xsanOk, transactionId }

/-- The state of one replicated write. -/
structure WriteState where
  volumes : List XsanVolume
  ctx : XsanReplicatedIoCtx
  /-- The context is registered in `pending_replicated_ios`. -/
  pending : Bool
  /-- The local write was submitted and has not completed. -/
  awaitingLocal : Bool
  /-- Remote replicas whose `xsan_node_comm_connect` has not called back. -/
  awaitingConnect : List XsanReplicaLocation

/-- What the path relies on from `_xsan_check_replicated_write_completion`,
which is declared (volume_manager.c:76) and called after every counted
outcome but defined nowhere: it reports the write to the user once all
targeted replicas are done and may unregister the context, and it changes
neither the counters, the status, what is in flight nor any volume. -/
structure CompletionCheck where
  /-- Whether the check, on this state, reports the write and removes its
  context from `pending_replicated_ios`. -/
  unregisters : WriteState → Bool

/-- The state after `_xsan_check_replicated_write_completion`. -/
def CompletionCheck.run (check : CompletionCheck) (s : WriteState) : WriteState :=
  { s with pending := s.pending && !check.unregisters s }

@[simp] theorem CompletionCheck.ctx_eq (check : CompletionCheck) (s : WriteState) :
    (check.run s).ctx = s.ctx := rfl

@[simp] theorem CompletionCheck.volumes_eq (check : CompletionCheck) (s : WriteState) :
    (check.run s).volumes = s.volumes := rfl

/-- A failure counted in the context: `failed_writes` goes up, and the first
failure's status becomes `final_status`. -/
def XsanReplicatedIoCtx.countFailure (ctx : XsanReplicatedIoCtx) (status : ℤ) : XsanReplicatedIoCtx :=
  { ctx with
    failedWrites := ctx.failedWrites + 1
    finalStatus := if ctx.finalStatus = xsanOk then status else ctx.finalStatus }

/-- A success counted in the context. -/
def XsanReplicatedIoCtx.countSuccess (ctx : XsanReplicatedIoCtx) : XsanReplicatedIoCtx :=
  { ctx with successfulWrites := ctx.successfulWrites + 1 }

@[simp] theorem XsanReplicatedIoCtx.countFailure_successfulWrites (ctx : XsanReplicatedIoCtx) (e : ℤ) :
    (ctx.countFailure e).successfulWrites = ctx.successfulWrites := rfl

@[simp] theorem XsanReplicatedIoCtx.countFailure_failedWrites (ctx : XsanReplicatedIoCtx) (e : ℤ) :
    (ctx.countFailure e).failedWrites = ctx.failedWrites + 1 := rfl

/-- A context that `xsan_replicated_io_ctx_create` returns starts with no
outcome counted and at least one replica targeted, and targets no more
replicas than the volume has. -/
theorem xsanReplicatedIoCtxCreate_eq_some {mallocOk : Bool} {vol : XsanVolume}
    {lengthBytes transactionId : ℕ} {ctx : XsanReplicatedIoCtx}
    (h : xsanReplicatedIoCtxCreate mallocOk vol lengthBytes transactionId = some ctx) :
    ctx.successfulWrites = 0 ∧ ctx.failedWrites = 0 ∧ 0 < ctx.totalReplicasTargeted ∧
      ctx.totalReplicasTargeted ≤ vol.actualReplicaCount := by
  have hmax : xsanMaxReplicas = 3 := rfl
  unfold xsanReplicatedIoCtxCreate at h
  -- past the three early returns, the context built with the clamped count
  simp only [Option.ite_none_left_eq_some, Option.some.injEq] at h
  obtain ⟨hlen, -, -, hzero, rfl⟩ := h
  refine ⟨rfl, rfl, ?_, ?_⟩
  · -- `total = 0` is refused once `length_bytes > 0`
    dsimp only at hzero ⊢
    split_ifs at hzero ⊢ <;> omega
  · -- the count is clamped to the replicas
    dsimp only
    split_ifs <;> omega

section Callbacks

variable (codes : UndefinedCodes) (check : CompletionCheck) (fromErrno : ℤ → ℤ) (lookup : VolumeLookup)

/-- `_xsan_local_replica_write_complete_cb` (volume_manager.c:919-930): slot 0
of the volume becomes `ONLINE` or `FAILED`, and the outcome is counted. -/
def localReplicaWriteCompleteCb (s : WriteState) (status : ℤ) (nowUs : ℕ) : WriteState :=
  let volumes :=
    match xsanVolumeGetById lookup s.volumes s.ctx.volumeId with
    | some vol =>
      if vol.actualReplicaCount > 0 then
        updateVolumeById lookup s.volumes s.ctx.volumeId fun v =>
          if status = xsanOk then setReplicaContact (setReplicaState v 0 .online) 0 nowUs
          else setReplicaState v 0 .failed
      else s.volumes
    | none => s.volumes
  let ctx := if status = xsanOk then s.ctx.countSuccess else s.ctx.countFailure status
  check.run { s with volumes, ctx, awaitingLocal := false }

/-- `_xsan_remote_replica_request_send_actual_cb` (volume_manager.c:957-977)
for the request to the replica at `loc`: a nonzero status marks it `OFFLINE`
and counts a failure. -/
def remoteReplicaRequestSendActualCb (s : WriteState) (loc : XsanReplicaLocation) (commStatus : ℤ) :
    WriteState :=
  if commStatus ≠ 0 then
    check.run
      { s with
        volumes := markRemoteOffline lookup s.volumes s.ctx.volumeId loc.nodeId
        ctx := s.ctx.countFailure (fromErrno (-commStatus)) }
  else s

/-- `_xsan_remote_replica_connect_then_send_cb` (volume_manager.c:932-955):
on a connection, send the request (`send` is what `xsan_node_comm_send_msg`
does) and pass a failure it returns to the send callback, which it may
already have called; else mark the replica `OFFLINE` and count a failure. -/
def remoteReplicaConnectThenSendCb (s : WriteState) (loc : XsanReplicaLocation) (sockOk : Bool)
    (status : ℤ) (send : SendOutcome) : WriteState :=
  if status = 0 ∧ sockOk then
    let r := sendMsgResult fromErrno send
    let s := r.1.foldl (fun s st => remoteReplicaRequestSendActualCb check fromErrno lookup s loc st) s
    if r.2 ≠ xsanOk then remoteReplicaRequestSendActualCb check fromErrno lookup s loc r.2 else s
  else
    check.run
      { s with
        volumes := markRemoteOffline lookup s.volumes s.ctx.volumeId loc.nodeId
        ctx := s.ctx.countFailure (fromErrno (-status)) }

/-- The response loop of `xsan_volume_manager_process_replica_write_response`
(volume_manager.c:985-993): the first slot `i ≥ 1` whose node answered
becomes `ONLINE` or `DEGRADED`. -/
def recordReplicaResponse (vol : XsanVolume) (nodeId : ℕ) (status : ℤ) (nowUs : ℕ) : XsanVolume :=
  match remoteReplicaIdx vol nodeId with
  | some i =>
    if status = xsanOk then setReplicaContact (setReplicaState vol i .online) i nowUs
    else setReplicaState vol i .degraded
  | none => vol

/-- `xsan_volume_manager_process_replica_write_response` (volume_manager.c:979-999)
for a response with transaction id `tid` from node `nodeId`. -/
def xsanVolumeManagerProcessReplicaWriteResponse (s : WriteState) (tid nodeId : ℕ) (status : ℤ)
    (nowUs : ℕ) : WriteState :=
  if s.pending ∧ s.ctx.transactionId = tid then
    let volumes :=
      match xsanVolumeGetById lookup s.volumes s.ctx.volumeId with
      | some _ => updateVolumeById lookup s.volumes s.ctx.volumeId (recordReplicaResponse · nodeId status nowUs)
      | none => s.volumes
    let ctx := if status = xsanOk then s.ctx.countSuccess else s.ctx.countFailure status
    check.run { s with volumes, ctx }
  else s

/-! ## `xsan_volume_write_async` -/

/-- What the outside calls of the submission loop return for one replica
slot. -/
structure ReplicaWriteEnv where
  /-- `_xsan_volume_submit_single_io_attempt` for slot 0, with the statuses it
  has already passed to `_xsan_local_replica_write_complete_cb`. -/
  localSubmit : SingleIoOutcome
  /-- The per-replica context, or the stand-in one for a slot that is not
  writable. -/
  opMallocOk : Bool
  msgCreateOk : Bool
  /-- `xsan_node_comm_get_active_connection` found a socket. -/
  activeSock : Bool
  /-- What `xsan_node_comm_send_msg` does on that socket. -/
  send : SendOutcome
  /-- `xsan_node_comm_connect` failed at once with this `errno` and called
  back; `none` when the connect is in progress. -/
  connectFailedErrno : Option ℤ

/-- What the outside calls of `xsan_volume_write_async` return. -/
structure WriteEnv where
  transactionId : ℕ
  ctxMallocOk : Bool
  hashtablePutOk : Bool
  nowUs : ℕ
  replica : ℕ → ReplicaWriteEnv

/-- `_xsan_local_replica_write_complete_cb` on each status in turn. -/
def localReplicaWriteCompletions (s : WriteState) (statuses : List ℤ) (nowUs : ℕ) : WriteState :=
  statuses.foldl (fun s status => localReplicaWriteCompleteCb check lookup s status nowUs) s

/-- The test of the submission loop (volume_manager.c:1256): only an `ONLINE`
or `DEGRADED` replica is written. -/
def shouldAttemptWriteToReplica (loc : XsanReplicaLocation) : Bool :=
  loc.state == .online || loc.state == .degraded

/-- One iteration of the submission loop (volume_manager.c:1252-1338) for
slot `i`, holding `loc` in the copy taken under the lock: the state after it
and whether a write was attempted. -/
def writeReplicaIteration (env : WriteEnv) (s : WriteState) (i : ℕ) (loc : XsanReplicaLocation) :
    WriteState × Bool :=
  let e := env.replica i
  if !shouldAttemptWriteToReplica loc then
    -- not writable: the failure is reported through the replica's callback
    if i = 0 then (localReplicaWriteCompleteCb check lookup s codes.resourceUnavailable env.nowUs, false)
    else if e.opMallocOk then
      (remoteReplicaRequestSendActualCb check fromErrno lookup s loc codes.resourceUnavailable, false)
    else (check.run { s with ctx := s.ctx.countFailure codes.resourceUnavailable }, false)
  else if i = 0 then
    -- the local callback has the statuses the attempt passed to it, then the
    -- error the attempt returned (lines 1279-1297)
    let s := localReplicaWriteCompletions check lookup s (callerCompletions e.localSubmit) env.nowUs
    (if e.localSubmit.inFlight then { s with awaitingLocal := true } else s, true)
  else if !e.opMallocOk then (check.run { s with ctx := s.ctx.countFailure codes.outOfMemory }, true)
  else if !e.msgCreateOk then (check.run { s with ctx := s.ctx.countFailure codes.outOfMemory }, true)
  else if e.activeSock then (remoteReplicaConnectThenSendCb check fromErrno lookup s loc true 0 e.send, true)
  else
    match e.connectFailedErrno with
    | some errno => (remoteReplicaConnectThenSendCb check fromErrno lookup s loc false (-errno) e.send, true)
    | none => ({ s with awaitingConnect := s.awaitingConnect ++ [loc] }, true)

/-- The submission loop over the slots `is`, with the flag
`at_least_one_submission_attempted`. -/
def writeSubmitLoop (env : WriteEnv) (slots : List XsanReplicaLocation) :
    List ℕ → WriteState × Bool → WriteState × Bool
  | [], acc => acc
  | i :: is, (s, attempted) =>
    let r := writeReplicaIteration codes check fromErrno lookup env s i (slots.getD i .zero)
    writeSubmitLoop env slots is (r.1, attempted || r.2)

/-- `xsan_volume_write_async` (volume_manager.c:1174-1361) on the managed
`volumes`: the status it returns and, once a context is registered, the write's
state when it returns. `userBufOk` and `userCbOk` say the buffer and the
callback are not `NULL`. -/
def xsanVolumeWriteAsync (volumes : List XsanVolume) (volumeId offset lengthBytes : ℕ)
    (userBufOk userCbOk : Bool) (env : WriteEnv) : ℤ × Option WriteState :=
  if !userBufOk ∨ lengthBytes = 0 ∨ !userCbOk ∨ volumeId = 0 then (xsanErrorInvalidParam, none)
  else
    match xsanVolumeGetById lookup volumes volumeId with
    | none => (xsanErrorNotFound, none)
    | some vol =>
      if vol.state = .offline ∨ vol.state = .failed then (codes.resourceUnavailable, none)
      else if vol.blockSizeBytes = 0 ∨ offset % vol.blockSizeBytes ≠ 0 ∨
          lengthBytes % vol.blockSizeBytes ≠ 0 ∨ (offset + lengthBytes) % 2 ^ 64 > vol.sizeBytes then
        (codes.invalidParamAlignment, none)
      else if vol.actualReplicaCount = 0 then (codes.replicationUnavailable, none)
      else
        match xsanReplicatedIoCtxCreate env.ctxMallocOk vol lengthBytes env.transactionId with
        | none => (codes.outOfMemory, none)
        | some ctx =>
          if !env.hashtablePutOk then (codes.outOfMemory, none)
          else
            let s : WriteState :=
              { volumes, ctx, pending := true, awaitingLocal := false, awaitingConnect := [] }
            let r := writeSubmitLoop codes check fromErrno lookup env vol.replicaNodes
              (List.range vol.actualReplicaCount) (s, false)
            if !r.2 ∧ vol.actualReplicaCount > 0 then
              -- no replica was writable: every slot has already counted a failure
              let ctx := { r.1.ctx with
                finalStatus := codes.replicationUnavailable
                failedWrites := r.1.ctx.failedWrites + r.1.ctx.totalReplicasTargeted }
              (codes.replicationUnavailable, some (check.run { r.1 with ctx }))
            else (xsanOk, some r.1)

/-! ## The events after `xsan_volume_write_async` returns -/

/-- An outcome that reaches the write after the submission loop. -/
inductive WriteEvent
  /-- The local write completes. -/
  | localComplete (status : ℤ) (nowUs : ℕ)
  /-- The connect to the replica at `loc` calls back. -/
  | connectComplete (loc : XsanReplicaLocation) (sockOk : Bool) (status : ℤ) (send : SendOutcome)
  /-- A response for transaction `tid` arrives from node `nodeId`. -/
  | response (tid nodeId : ℕ) (status : ℤ) (nowUs : ℕ)

/-- One event, `none` when the code cannot produce it in this state. -/
def writeStep (s : WriteState) : WriteEvent → Option WriteState
  | .localComplete status nowUs =>
    if s.awaitingLocal then some (localReplicaWriteCompleteCb check lookup s status nowUs) else none
  | .connectComplete loc sockOk status send =>
    if loc ∈ s.awaitingConnect then
      some (remoteReplicaConnectThenSendCb check fromErrno lookup
        { s with awaitingConnect := s.awaitingConnect.erase loc } loc sockOk status send)
    else none
  | .response tid nodeId status nowUs =>
    some (xsanVolumeManagerProcessReplicaWriteResponse check lookup s tid nodeId status nowUs)

/-- A sequence of events; `none` if one of them cannot happen. -/
def writeRun (s : WriteState) : List WriteEvent → Option WriteState
  | [] => some s
  | ev :: evs => (writeStep check fromErrno lookup s ev).bind fun s' => writeRun s' evs

/-! ## What the callbacks count -/

theorem localReplicaWriteCompleteCb_ctx (s : WriteState) (status : ℤ) (nowUs : ℕ) :
    (localReplicaWriteCompleteCb check lookup s status nowUs).ctx =
      if status = xsanOk then s.ctx.countSuccess else s.ctx.countFailure status := by
  unfold localReplicaWriteCompleteCb
  rw [check.ctx_eq]

theorem remoteReplicaRequestSendActualCb_ctx (s : WriteState) (loc : XsanReplicaLocation)
    (commStatus : ℤ) :
    (remoteReplicaRequestSendActualCb check fromErrno lookup s loc commStatus).ctx =
      if commStatus ≠ 0 then s.ctx.countFailure (fromErrno (-commStatus)) else s.ctx := by
  unfold remoteReplicaRequestSendActualCb
  split_ifs
  · rw [check.ctx_eq]
  · rfl

/-- A slot that is not writable counts one failure, through whichever
callback the loop reaches for it, and is not an attempt. -/
theorem writeReplicaIteration_not_writable {env : WriteEnv} {s : WriteState} {i : ℕ}
    {loc : XsanReplicaLocation} (hloc : shouldAttemptWriteToReplica loc = false) :
    ∃ e, (writeReplicaIteration codes check fromErrno lookup env s i loc).1.ctx = s.ctx.countFailure e ∧
      (writeReplicaIteration codes check fromErrno lookup env s i loc).2 = false := by
  have hne : codes.resourceUnavailable ≠ 0 := codes.resourceUnavailable_ne
  unfold writeReplicaIteration
  simp only [hloc, Bool.not_false, if_true]
  split_ifs with h0 hmalloc
  · exact ⟨_, by rw [localReplicaWriteCompleteCb_ctx, if_neg codes.resourceUnavailable_ne], rfl⟩
  · exact ⟨_, by rw [remoteReplicaRequestSendActualCb_ctx, if_pos hne], rfl⟩
  · exact ⟨_, by rw [check.ctx_eq], rfl⟩

/-- Over slots none of which is writable, the loop attempts nothing and
counts one failure per slot. -/
theorem writeSubmitLoop_not_writable {env : WriteEnv} {slots : List XsanReplicaLocation}
    {is : List ℕ} (hnone : ∀ i ∈ is, shouldAttemptWriteToReplica (slots.getD i .zero) = false)
    (s : WriteState) (attempted : Bool) :
    (writeSubmitLoop codes check fromErrno lookup env slots is (s, attempted)).2 = attempted ∧
      (writeSubmitLoop codes check fromErrno lookup env slots is (s, attempted)).1.ctx.successfulWrites =
        s.ctx.successfulWrites ∧
      (writeSubmitLoop codes check fromErrno lookup env slots is (s, attempted)).1.ctx.failedWrites =
        s.ctx.failedWrites + is.length ∧
      (writeSubmitLoop codes check fromErrno lookup env slots is (s, attempted)).1.ctx.totalReplicasTargeted =
        s.ctx.totalReplicasTargeted := by
  induction is generalizing s attempted with
  | nil => simp [writeSubmitLoop]
  | cons i is ih =>
    obtain ⟨e, hctx, hatt⟩ :=
      @writeReplicaIteration_not_writable codes check fromErrno lookup env s i _ (hnone i List.mem_cons_self)
    obtain ⟨h₁, h₂, h₃, h₄⟩ := ih (fun j hj => hnone j (List.mem_cons_of_mem i hj))
      (writeReplicaIteration codes check fromErrno lookup env s i (slots.getD i .zero)).1
      (attempted || (writeReplicaIteration codes check fromErrno lookup env s i (slots.getD i .zero)).2)
    rw [writeSubmitLoop]
    refine ⟨by rw [h₁, hatt, Bool.or_false], by rw [h₂, hctx]; rfl, ?_, by rw [h₄, hctx]; rfl⟩
    rw [h₃, hctx, XsanReplicatedIoCtx.countFailure_failedWrites, List.length_cons]
    omega

/-- A `writev` failure reaches the send callback twice, once from
`xsan_node_comm_send_msg` and once from its caller on the error it returns,
so one replica counts two failures. -/
theorem remoteReplicaConnectThenSendCb_writev_failed (s : WriteState) (loc : XsanReplicaLocation)
    {errno : ℤ} (herrno : errno ≠ 0) (hconv : fromErrno errno ≠ xsanOk) :
    (remoteReplicaConnectThenSendCb check fromErrno lookup s loc true 0 (.writevFailed errno)).ctx.failedWrites =
      s.ctx.failedWrites + 2 := by
  have hconv' : fromErrno errno ≠ 0 := hconv
  have hneg : -errno ≠ 0 := by omega
  unfold remoteReplicaConnectThenSendCb
  rw [if_pos ⟨rfl, rfl⟩]
  dsimp only [sendMsgResult, List.foldl_cons, List.foldl_nil]
  rw [if_pos hconv, remoteReplicaRequestSendActualCb_ctx, if_pos hconv',
    remoteReplicaRequestSendActualCb_ctx, if_pos hneg]
  rfl

/-- While the context is registered, every response carrying its transaction
id is counted, whichever node sent it and however often it comes. -/
theorem processReplicaWriteResponse_counts {s : WriteState} (hp : s.pending = true) (nodeId : ℕ)
    (status : ℤ) (nowUs : ℕ) :
    (xsanVolumeManagerProcessReplicaWriteResponse check lookup s s.ctx.transactionId nodeId status
        nowUs).ctx.successfulWrites +
      (xsanVolumeManagerProcessReplicaWriteResponse check lookup s s.ctx.transactionId nodeId status
        nowUs).ctx.failedWrites = s.ctx.successfulWrites + s.ctx.failedWrites + 1 := by
  unfold xsanVolumeManagerProcessReplicaWriteResponse
  rw [if_pos ⟨hp, rfl⟩, check.ctx_eq]
  split_ifs
  · simp only [XsanReplicatedIoCtx.countSuccess]
    omega
  · simp only [XsanReplicatedIoCtx.countFailure_successfulWrites,
      XsanReplicatedIoCtx.countFailure_failedWrites]
    omega

/-! ## The callbacks never write a volume's own state -/

theorem localReplicaWriteCompleteCb_states (s : WriteState) (status : ℤ) (nowUs : ℕ) :
    (localReplicaWriteCompleteCb check lookup s status nowUs).volumes.map (·.state) =
      s.volumes.map (·.state) := by
  unfold localReplicaWriteCompleteCb
  rw [check.volumes_eq]
  dsimp only
  split
  · split_ifs
    · exact updateVolumeById_state lookup _ _ fun _ => rfl
    · exact updateVolumeById_state lookup _ _ fun _ => rfl
    · rfl
  · rfl

theorem localReplicaWriteCompletions_states (s : WriteState) (statuses : List ℤ) (nowUs : ℕ) :
    (localReplicaWriteCompletions check lookup s statuses nowUs).volumes.map (·.state) =
      s.volumes.map (·.state) := by
  induction statuses generalizing s with
  | nil => rfl
  | cons status statuses ih =>
    rw [localReplicaWriteCompletions, List.foldl_cons, ← localReplicaWriteCompletions, ih,
      localReplicaWriteCompleteCb_states]

theorem remoteReplicaRequestSendActualCb_states (s : WriteState) (loc : XsanReplicaLocation)
    (commStatus : ℤ) :
    (remoteReplicaRequestSendActualCb check fromErrno lookup s loc commStatus).volumes.map (·.state) =
      s.volumes.map (·.state) := by
  unfold remoteReplicaRequestSendActualCb
  split_ifs
  · rw [check.volumes_eq]
    exact markRemoteOffline_state lookup _ _ _
  · rfl

theorem remoteReplicaConnectThenSendCb_states (s : WriteState) (loc : XsanReplicaLocation)
    (sockOk : Bool) (status : ℤ) (send : SendOutcome) :
    (remoteReplicaConnectThenSendCb check fromErrno lookup s loc sockOk status send).volumes.map (·.state) =
      s.volumes.map (·.state) := by
  -- the callbacks `xsan_node_comm_send_msg` runs before it returns, one after another
  have hfold : ∀ (sts : List ℤ) (s : WriteState),
      (sts.foldl (fun s st => remoteReplicaRequestSendActualCb check fromErrno lookup s loc st) s).volumes.map
        (·.state) = s.volumes.map (·.state) := by
    intro sts
    induction sts with
    | nil => intro s; rfl
    | cons st sts ih =>
      intro s
      rw [List.foldl_cons, ih, remoteReplicaRequestSendActualCb_states]
  unfold remoteReplicaConnectThenSendCb
  split_ifs
  · dsimp only
    split_ifs
    · rw [remoteReplicaRequestSendActualCb_states, hfold]
    · exact hfold _ _
  · rw [check.volumes_eq]
    exact markRemoteOffline_state lookup _ _ _

theorem recordReplicaResponse_state (vol : XsanVolume) (nodeId : ℕ) (status : ℤ) (nowUs : ℕ) :
    (recordReplicaResponse vol nodeId status nowUs).state = vol.state := by
  unfold recordReplicaResponse
  split
  · split_ifs <;> rfl
  · rfl

theorem processReplicaWriteResponse_states (s : WriteState) (tid nodeId : ℕ) (status : ℤ)
    (nowUs : ℕ) :
    (xsanVolumeManagerProcessReplicaWriteResponse check lookup s tid nodeId status nowUs).volumes.map
      (·.state) = s.volumes.map (·.state) := by
  unfold xsanVolumeManagerProcessReplicaWriteResponse
  by_cases hp : s.pending = true ∧ s.ctx.transactionId = tid
  · rw [if_pos hp, check.volumes_eq]
    dsimp only
    split
    · exact updateVolumeById_state lookup _ _ fun v => recordReplicaResponse_state v _ _ _
    · rfl
  · rw [if_neg hp]

/-- No event after the submission loop writes a volume's own state. -/
theorem writeStep_states {s s' : WriteState} {ev : WriteEvent}
    (h : writeStep check fromErrno lookup s ev = some s') :
    s'.volumes.map (·.state) = s.volumes.map (·.state) := by
  cases ev with
  | localComplete status nowUs =>
    by_cases hl : s.awaitingLocal = true
    · rw [writeStep, if_pos hl, Option.some.injEq] at h
      subst h
      exact localReplicaWriteCompleteCb_states _ _ _ _ _
    · rw [writeStep, if_neg hl] at h
      cases h
  | connectComplete loc sockOk status send =>
    by_cases hm : loc ∈ s.awaitingConnect
    · rw [writeStep, if_pos hm, Option.some.injEq] at h
      subst h
      exact remoteReplicaConnectThenSendCb_states _ _ _ _ _ _ _ _
    · rw [writeStep, if_neg hm] at h
      cases h
  | response tid nodeId status nowUs =>
    rw [writeStep, Option.some.injEq] at h
    subst h
    exact processReplicaWriteResponse_states _ _ _ _ _ _ _

/-- Over any run of events, every volume keeps its state: only the states of
its replicas change. -/
theorem writeRun_states {s s' : WriteState} {evs : List WriteEvent}
    (h : writeRun check fromErrno lookup s evs = some s') :
    s'.volumes.map (·.state) = s.volumes.map (·.state) := by
  induction evs generalizing s with
  | nil =>
    cases h
    rfl
  | cons ev evs ih =>
    obtain ⟨s₁, h₁, h₂⟩ := Option.bind_eq_some_iff.mp h
    rw [ih h₂, writeStep_states check fromErrno lookup h₁]

/-- A branch of the code keeps the volumes' states when both of its arms do. -/
theorem states_ite {c : Prop} [Decidable c] {a b : WriteState × Bool} {states : List XsanStorageState}
    (ha : c → a.1.volumes.map (·.state) = states) (hb : ¬c → b.1.volumes.map (·.state) = states) :
    (if c then a else b).1.volumes.map (·.state) = states := by
  by_cases h : c
  · rw [if_pos h]
    exact ha h
  · rw [if_neg h]
    exact hb h

theorem writeReplicaIteration_states (env : WriteEnv) (s : WriteState) (i : ℕ)
    (loc : XsanReplicaLocation) :
    (writeReplicaIteration codes check fromErrno lookup env s i loc).1.volumes.map (·.state) =
      s.volumes.map (·.state) := by
  unfold writeReplicaIteration
  dsimp only
  -- every branch ends in one of the callbacks, or counts or waits without
  -- touching a volume
  refine states_ite (fun _ => ?_) (fun _ => ?_)
  · -- not writable: the failure goes through the replica's callback
    refine states_ite (fun _ => localReplicaWriteCompleteCb_states _ _ _ _ _) (fun _ => ?_)
    exact states_ite (fun _ => remoteReplicaRequestSendActualCb_states _ _ _ _ _ _) (fun _ => rfl)
  refine states_ite (fun _ => ?_) (fun _ => ?_)
  · -- the local callbacks, then possibly waiting for the completion
    dsimp only
    split
    · exact localReplicaWriteCompletions_states _ _ _ _ _
    · exact localReplicaWriteCompletions_states _ _ _ _ _
  refine states_ite (fun _ => rfl) (fun _ => ?_)
  refine states_ite (fun _ => rfl) (fun _ => ?_)
  refine states_ite (fun _ => remoteReplicaConnectThenSendCb_states _ _ _ _ _ _ _ _) (fun _ => ?_)
  cases (env.replica i).connectFailedErrno with
  | some errno => exact remoteReplicaConnectThenSendCb_states _ _ _ _ _ _ _ _
  | none => rfl

theorem writeSubmitLoop_states (env : WriteEnv) (slots : List XsanReplicaLocation) (is : List ℕ)
    (acc : WriteState × Bool) :
    (writeSubmitLoop codes check fromErrno lookup env slots is acc).1.volumes.map (·.state) =
      acc.1.volumes.map (·.state) := by
  induction is generalizing acc with
  | nil => rfl
  | cons i is ih =>
    obtain ⟨s, attempted⟩ := acc
    rw [writeSubmitLoop, ih, writeReplicaIteration_states]

/-! ## `xsan_volume_write_async` once it has registered its context -/

/-- A write that returns a state has found the volume, which has a replica,
and registered a context; its state is the loop's, and when no slot was
attempted the fallback has set the status and counted
`total_replicas_targeted` more failures. -/
theorem xsanVolumeWriteAsync_eq_some {volumes : List XsanVolume} {volumeId offset lengthBytes : ℕ}
    {userBufOk userCbOk : Bool} {env : WriteEnv} {st : ℤ} {s : WriteState}
    (h : xsanVolumeWriteAsync codes check fromErrno lookup volumes volumeId offset lengthBytes userBufOk
      userCbOk env = (st, some s)) :
    ∃ vol ctx, xsanVolumeGetById lookup volumes volumeId = some vol ∧ 0 < vol.actualReplicaCount ∧
      xsanReplicatedIoCtxCreate env.ctxMallocOk vol lengthBytes env.transactionId = some ctx ∧
      let r := writeSubmitLoop codes check fromErrno lookup env vol.replicaNodes
        (List.range vol.actualReplicaCount)
        ({ volumes, ctx, pending := true, awaitingLocal := false, awaitingConnect := [] }, false)
      (r.2 = false ∧ st = codes.replicationUnavailable ∧
        s = check.run
          { r.1 with
            ctx := { r.1.ctx with
              finalStatus := codes.replicationUnavailable
              failedWrites := r.1.ctx.failedWrites + r.1.ctx.totalReplicasTargeted } }) ∨
      (r.2 = true ∧ st = xsanOk ∧ s = r.1) := by
  unfold xsanVolumeWriteAsync at h
  -- the argument checks, the lookup, the volume's gates, the context and its registration
  split at h
  · cases h
  split at h
  · cases h
  rename_i vol hvol
  split at h
  · cases h
  split at h
  · cases h
  split at h
  · cases h
  rename_i hact
  split at h
  · cases h
  rename_i ctx hctx
  split at h
  · cases h
  dsimp only at h
  -- the fallback for a loop that attempted no slot
  split at h
  · rename_i hfallback
    cases h
    exact ⟨vol, ctx, hvol, by omega, hctx, .inl ⟨by simpa using hfallback.1, rfl, rfl⟩⟩
  · rename_i hfallback
    cases h
    have hatt : (writeSubmitLoop codes check fromErrno lookup env vol.replicaNodes
        (List.range vol.actualReplicaCount)
        ({ volumes, ctx, pending := true, awaitingLocal := false, awaitingConnect := [] }, false)).2 =
          true := by
      simpa [Nat.pos_of_ne_zero hact] using hfallback
    exact ⟨vol, ctx, hvol, by omega, hctx, .inr ⟨hatt, rfl, rfl⟩⟩

/-- A write leaves every volume's state as it found it. -/
theorem xsanVolumeWriteAsync_states {volumes : List XsanVolume} {volumeId offset lengthBytes : ℕ}
    {userBufOk userCbOk : Bool} {env : WriteEnv} {st : ℤ} {s : WriteState}
    (h : xsanVolumeWriteAsync codes check fromErrno lookup volumes volumeId offset lengthBytes userBufOk
      userCbOk env = (st, some s)) :
    s.volumes.map (·.state) = volumes.map (·.state) := by
  obtain ⟨vol, ctx, -, -, -, ⟨-, -, rfl⟩ | ⟨-, -, rfl⟩⟩ :=
    xsanVolumeWriteAsync_eq_some codes check fromErrno lookup h
  · rw [check.volumes_eq]
    exact writeSubmitLoop_states _ _ _ _ _ _ _ _
  · exact writeSubmitLoop_states _ _ _ _ _ _ _ _

/-- Over any run of a write that `xsan_volume_write_async` started (its
submission loop, then local completions, connect callbacks and responses in
any order the code allows) every volume keeps the state it had before the
write: only the states of replicas change, so a volume's state never follows
its replicas. -/
theorem write_runs_keep_volume_states {volumes : List XsanVolume} {volumeId offset lengthBytes : ℕ}
    {userBufOk userCbOk : Bool} {env : WriteEnv} {st : ℤ} {s t : WriteState} {evs : List WriteEvent}
    (h : xsanVolumeWriteAsync codes check fromErrno lookup volumes volumeId offset lengthBytes userBufOk
      userCbOk env = (st, some s))
    (hrun : writeRun check fromErrno lookup s evs = some t) :
    t.volumes.map (·.state) = volumes.map (·.state) :=
  (writeRun_states check fromErrno lookup hrun).trans (xsanVolumeWriteAsync_states codes check fromErrno lookup h)

/-! ## A volume state that no longer follows its replicas -/

/-- The managed volumes after `xsan_volume_create` of volume 1 ("v", 4096
bytes of 512-byte blocks, thin, FTT 0, on group 7) with every outside call
succeeding: one replica, the local one, `ONLINE`. -/
def createdVolumes : List XsanVolume :=
  (xsanVolumeCreate UndefinedCodes.fresh emptyVolumeManager (some ['v']) 4096 7 512 true 0
    (okCreateEnv 1)).1.managedVolumes

/-- A write whose local submission fails at once with `XSAN_ERROR_IO`; every
other outside call succeeds. -/
def localIoErrorWriteEnv : WriteEnv :=
  { transactionId := 1, ctxMallocOk := true, hashtablePutOk := true, nowUs := 0
    replica := fun _ =>
      { localSubmit := .refused xsanErrorIo, opMallocOk := true, msgCreateOk := true, activeSock := true
        send := .sent, connectFailedErrno := none } }

/-- The failed local write, then a response from node 1 for its transaction:
volume 1 stays `ONLINE`. -/
theorem write_runs_keep_volume_states_local_error :
    ∃ s t, xsanVolumeWriteAsync UndefinedCodes.fresh ⟨fun _ => false⟩ id VolumeLookup.first createdVolumes 1 0 512
        true true localIoErrorWriteEnv = (xsanOk, some s) ∧
      writeRun ⟨fun _ => false⟩ id VolumeLookup.first s [.response 1 1 xsanOk 0] = some t ∧
      t.volumes.map (·.state) = createdVolumes.map (·.state) := by
  obtain ⟨s, hs⟩ : ∃ s, xsanVolumeWriteAsync UndefinedCodes.fresh ⟨fun _ => false⟩ id VolumeLookup.first
      createdVolumes 1 0 512 true true localIoErrorWriteEnv = (xsanOk, some s) := ⟨_, rfl⟩
  obtain ⟨t, ht⟩ : ∃ t, writeRun ⟨fun _ => false⟩ id VolumeLookup.first s [.response 1 1 xsanOk 0] = some t := by
    cases hs
    exact ⟨_, rfl⟩
  exact ⟨s, t, hs, ht, write_runs_keep_volume_states UndefinedCodes.fresh _ id VolumeLookup.first hs ht⟩

/-- After the failed local write the context is still registered, and a
response from node 9, which holds no replica of the volume, is counted. -/
theorem processReplicaWriteResponse_counts_foreign :
    ∃ s, xsanVolumeWriteAsync UndefinedCodes.fresh ⟨fun _ => false⟩ id VolumeLookup.first createdVolumes 1 0 512
        true true localIoErrorWriteEnv = (xsanOk, some s) ∧ s.pending = true ∧
      (xsanVolumeManagerProcessReplicaWriteResponse ⟨fun _ => false⟩ VolumeLookup.first s s.ctx.transactionId 9
          xsanOk 0).ctx.successfulWrites +
        (xsanVolumeManagerProcessReplicaWriteResponse ⟨fun _ => false⟩ VolumeLookup.first s s.ctx.transactionId 9
          xsanOk 0).ctx.failedWrites = s.ctx.successfulWrites + s.ctx.failedWrites + 1 := by
  obtain ⟨s, hs⟩ : ∃ s, xsanVolumeWriteAsync UndefinedCodes.fresh ⟨fun _ => false⟩ id VolumeLookup.first
      createdVolumes 1 0 512 true true localIoErrorWriteEnv = (xsanOk, some s) := ⟨_, rfl⟩
  have hp : s.pending = true := by
    cases hs
    rfl
  exact ⟨s, hs, hp, processReplicaWriteResponse_counts _ VolumeLookup.first hp 9 xsanOk 0⟩

/-- A connection reset reported by `writev` on a request to node 2 counts two
failures. -/
theorem remoteReplicaConnectThenSendCb_writev_failed_reset :
    ∃ s, xsanVolumeWriteAsync UndefinedCodes.fresh ⟨fun _ => false⟩ id VolumeLookup.first createdVolumes 1 0 512
        true true localIoErrorWriteEnv = (xsanOk, some s) ∧ (104 : ℤ) ≠ 0 ∧ id (104 : ℤ) ≠ xsanOk ∧
      (remoteReplicaConnectThenSendCb ⟨fun _ => false⟩ id VolumeLookup.first s
          ⟨2, "10.0.0.2".toList, 8080, .online, 0⟩ true 0 (.writevFailed 104)).ctx.failedWrites =
        s.ctx.failedWrites + 2 := by
  obtain ⟨s, hs⟩ : ∃ s, xsanVolumeWriteAsync UndefinedCodes.fresh ⟨fun _ => false⟩ id VolumeLookup.first
      createdVolumes 1 0 512 true true localIoErrorWriteEnv = (xsanOk, some s) := ⟨_, rfl⟩
  have herrno : (104 : ℤ) ≠ 0 := by decide
  have hconv : id (104 : ℤ) ≠ xsanOk := by decide
  exact ⟨s, hs, herrno, hconv,
    remoteReplicaConnectThenSendCb_writev_failed _ id VolumeLookup.first s _ herrno hconv⟩

/-- A write to volume 1 of `createdVolumes` whose local submission fails
marks the only replica `FAILED` and leaves the volume `ONLINE`, where
`_xsan_volume_update_overall_state` derives `OFFLINE`; the next write then
passes the state gate and registers a context although no replica is
online. -/
theorem volume_state_stale_after_local_write_failure (check : CompletionCheck) (fromErrno : ℤ → ℤ) :
    ∃ s, xsanVolumeWriteAsync UndefinedCodes.fresh check fromErrno VolumeLookup.first createdVolumes 1 0 512 true true
        localIoErrorWriteEnv = (xsanOk, some s) ∧
      s.volumes.map (fun v => (v.state, onlineReplicas v, derivedState v)) = [(.online, 0, .offline)] ∧
      (xsanVolumeWriteAsync UndefinedCodes.fresh check fromErrno VolumeLookup.first s.volumes 1 0 512 true true
        localIoErrorWriteEnv).2.isSome := by
  have hv : createdVolumes = [XsanVolume.mk 1 ['v'] 4096 512 8 .online 7 true 0 0 1
      [⟨1, ['1', '0', '.', '0', '.', '0', '.', '1'], 8080, .online, 0⟩, .zero, .zero]] := by
    decide +kernel
  rw [hv]
  -- the completion check only decides `pending`, which no step here reads
  refine ⟨_, rfl, rfl, rfl⟩

/-- The managed volumes after that failed write. -/
def staleVolumes : List XsanVolume :=
  ((xsanVolumeWriteAsync UndefinedCodes.fresh ⟨fun _ => false⟩ id VolumeLookup.first createdVolumes 1 0 512 true true
    localIoErrorWriteEnv).2.map (·.volumes)).getD []

/-! ## Accounting when no replica is writable -/

/-- A write that registers its context on a volume none of whose replicas is
writable returns `XSAN_ERROR_REPLICATION_UNAVAILABLE` having counted every
replica twice over: once in the loop, through the replica's callback, and
`total_replicas_targeted` more times in the fallback. -/
theorem write_fallback_counts_twice {volumes : List XsanVolume} {vol : XsanVolume}
    {volumeId offset lengthBytes : ℕ} {userBufOk userCbOk : Bool} {env : WriteEnv} {st : ℤ}
    {s : WriteState} (hvol : xsanVolumeGetById lookup volumes volumeId = some vol)
    (hnone : ∀ i < vol.actualReplicaCount,
      shouldAttemptWriteToReplica (vol.replicaNodes.getD i .zero) = false)
    (h : xsanVolumeWriteAsync codes check fromErrno lookup volumes volumeId offset lengthBytes userBufOk
      userCbOk env = (st, some s)) :
    st = codes.replicationUnavailable ∧ s.ctx.successfulWrites = 0 ∧
      s.ctx.failedWrites = vol.actualReplicaCount + s.ctx.totalReplicasTargeted ∧
      s.ctx.totalReplicasTargeted < s.ctx.successfulWrites + s.ctx.failedWrites := by
  obtain ⟨vol', ctx, hvol', hact, hctx, hr⟩ := xsanVolumeWriteAsync_eq_some codes check fromErrno lookup h
  obtain rfl : vol = vol' := Option.some.inj (hvol.symm.trans hvol')
  obtain ⟨hsucc₀, hfail₀, -, -⟩ := xsanReplicatedIoCtxCreate_eq_some hctx
  obtain ⟨hatt, hsucc, hfail, -⟩ := @writeSubmitLoop_not_writable codes check fromErrno lookup env _ _
    (fun i hi => hnone i (List.mem_range.mp hi))
    { volumes, ctx, pending := true, awaitingLocal := false, awaitingConnect := [] } false
  rcases hr with ⟨-, rfl, rfl⟩ | ⟨hatt', -, -⟩
  · -- the fallback block adds `total_replicas_targeted` to the loop's failures
    simp only [List.length_range] at hsucc hfail
    refine ⟨rfl, ?_, ?_, ?_⟩ <;> simp only [CompletionCheck.ctx_eq]
    · rw [hsucc, hsucc₀]
    · rw [hfail, hfail₀, Nat.zero_add]
    · rw [hsucc, hfail, hsucc₀, hfail₀]
      omega
  · rw [hatt] at hatt'
    cases hatt'

/-- The second write of the stale state: its only replica is `FAILED`, yet
the write is admitted and counts two failures for one targeted replica. -/
theorem write_fallback_counts_twice_stale :
    ∃ vol st s, xsanVolumeGetById VolumeLookup.first staleVolumes 1 = some vol ∧
      (∀ i < vol.actualReplicaCount,
        shouldAttemptWriteToReplica (vol.replicaNodes.getD i .zero) = false) ∧
      xsanVolumeWriteAsync UndefinedCodes.fresh ⟨fun _ => true⟩ id VolumeLookup.first staleVolumes 1 0 512 true true
        localIoErrorWriteEnv = (st, some s) ∧
      (st = UndefinedCodes.fresh.replicationUnavailable ∧ s.ctx.successfulWrites = 0 ∧
        s.ctx.failedWrites = vol.actualReplicaCount + s.ctx.totalReplicasTargeted ∧
        s.ctx.totalReplicasTargeted < s.ctx.successfulWrites + s.ctx.failedWrites) := by
  obtain ⟨vol, hvol⟩ : ∃ vol, xsanVolumeGetById VolumeLookup.first staleVolumes 1 = some vol := ⟨_, rfl⟩
  have hnone : ∀ i < vol.actualReplicaCount,
      shouldAttemptWriteToReplica (vol.replicaNodes.getD i .zero) = false := by
    rw [show vol = _ from Option.some.inj hvol.symm]
    decide +kernel
  obtain ⟨st, s, h⟩ : ∃ st s, xsanVolumeWriteAsync UndefinedCodes.fresh ⟨fun _ => true⟩ id VolumeLookup.first
      staleVolumes 1 0 512 true true localIoErrorWriteEnv = (st, some s) := ⟨_, _, rfl⟩
  exact ⟨vol, st, s, hvol, hnone, h, write_fallback_counts_twice UndefinedCodes.fresh _ id VolumeLookup.first hvol hnone h⟩

/-! ## A local write that SPDK refuses -/

/-- Local callbacks that all report a failure count one failure each. -/
theorem localReplicaWriteCompletions_failed (s : WriteState) {statuses : List ℤ}
    (h : ∀ st ∈ statuses, st ≠ xsanOk) (nowUs : ℕ) :
    (localReplicaWriteCompletions check lookup s statuses nowUs).ctx.successfulWrites = s.ctx.successfulWrites ∧
      (localReplicaWriteCompletions check lookup s statuses nowUs).ctx.failedWrites =
        s.ctx.failedWrites + statuses.length ∧
      (localReplicaWriteCompletions check lookup s statuses nowUs).ctx.totalReplicasTargeted =
        s.ctx.totalReplicasTargeted := by
  induction statuses generalizing s with
  | nil => exact ⟨rfl, rfl, rfl⟩
  | cons st statuses ih =>
    obtain ⟨h₁, h₂, h₃⟩ := ih (localReplicaWriteCompleteCb check lookup s st nowUs)
      fun st' hst' => h st' (List.mem_cons_of_mem _ hst')
    rw [localReplicaWriteCompletions, List.foldl_cons, ← localReplicaWriteCompletions]
    rw [localReplicaWriteCompleteCb_ctx, if_neg (h st List.mem_cons_self)] at h₁ h₂ h₃
    refine ⟨h₁, ?_, h₃⟩
    rw [h₂, XsanReplicatedIoCtx.countFailure_failedWrites, List.length_cons]
    omega

/-- A writable slot 0 goes through the local attempt: the statuses its
callback has had, and the wait for a completion still in flight. -/
theorem writeReplicaIteration_local (env : WriteEnv) (s : WriteState) {loc : XsanReplicaLocation}
    (hloc : shouldAttemptWriteToReplica loc = true) :
    (writeReplicaIteration codes check fromErrno lookup env s 0 loc).1.ctx =
        (localReplicaWriteCompletions check lookup s (callerCompletions (env.replica 0).localSubmit) env.nowUs).ctx ∧
      (writeReplicaIteration codes check fromErrno lookup env s 0 loc).2 = true := by
  unfold writeReplicaIteration
  simp only [hloc, Bool.not_true, Bool.false_eq_true, if_false, if_true, and_true]
  -- waiting for the completion changes no counter
  split <;> rfl

end Callbacks

/-- The two-block volume with its only replica, the local one, `ONLINE`. -/
def localWriteManager : XsanVolumeManager :=
  { twoExtentManager with
    managedVolumes := [{ twoExtentVolume with
      replicaNodes := [⟨1, "10.0.0.1".toList, 8080, .online, 0⟩, .zero, .zero] }] }

/-- A write whose local attempt on `localWriteManager` SPDK refuses with
`-EIO`; every other outside call succeeds. -/
def localRefusedWriteEnv : WriteEnv :=
  { localIoErrorWriteEnv with
    replica := fun _ =>
      { localIoErrorWriteEnv.replica 0 with
        localSubmit := xsanVolumeSubmitSingleIoAttempt UndefinedCodes.fresh IoCodes.fresh id twoDisks
          VolumeLookup.first localWriteManager 2 0 1024 true false true (twoExtentEnv (-5)) } }

end Xsan
